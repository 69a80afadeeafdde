import RuleReview.Proofs.Run.Course
import RuleReview.Proofs.Run.Guards
import RuleReview.Proofs.Text.Trim

/-!
# What background an explanation is given

The background of an explanation is put together by the retrieving step, from the notes in memory,
the answer to the retrieval, and the issues that the latest static checks found by then.  Steps may
come in any order and number, so the issues may be older than the rule that is explained, and there
may be none at all.  What an explaining step passes on is decided by the latest retrieving step
before it, and by the latest static checks before that one.

## What is here

* `IsLatest` — the latest turn of a step, of which there is one (`IsLatest.unique`).
* `Issues` — the issues that turns come to.
* `background` — three texts put together; `Background` — the background that turns come to.
* `explained_with_latest_background` — every explanation of every run is asked for with that
  background; then a run in which the issues are older than the rule.
-/

set_option autoImplicit false

namespace RuleReview
namespace Run

open Text

variable {σ : Type}

/-! ## The latest turn of a step -/

/-- The turn in which a step was taken last, with the turns before it. -/
structure IsLatest (step : Step) (past earlier : List Turn) (t : Turn) : Prop where
  /-- It takes the step. -/
  taken : t.step = step
  /-- No turn after it does. -/
  split : ∃ later, past = earlier ++ t :: later ∧ ∀ t' ∈ later, t'.step ≠ step

section Latest

variable {step : Step} {past earlier earlier' : List Turn} {t t' : Turn}

theorem isLatest_append (h : t.step = step) : IsLatest step (past ++ [t]) past t :=
  ⟨h, [], rfl, List.forall_mem_nil _⟩

theorem IsLatest.append_of_ne (h : IsLatest step past earlier t) (hne : t'.step ≠ step) :
    IsLatest step (past ++ [t']) earlier t := by
  obtain ⟨later, rfl, hlater⟩ := h.split
  refine ⟨h.taken, later ++ [t'], by rw [List.append_assoc, List.cons_append], ?_⟩
  exact List.forall_mem_append.2 ⟨hlater, List.forall_mem_singleton.2 hne⟩

/-- A step was last taken in one turn. -/
theorem IsLatest.unique (h : IsLatest step past earlier t) (h' : IsLatest step past earlier' t') :
    earlier = earlier' ∧ t = t' := by
  obtain ⟨later, hsplit, hlater⟩ := h.split
  obtain ⟨later', hsplit', hlater'⟩ := h'.split
  rw [hsplit] at hsplit'
  -- Of two different turns that take the step, one would come after the other.
  rcases List.append_eq_append_iff.1 hsplit' with ⟨between, hpast, hrest⟩ | ⟨between, hpast, hrest⟩
  · cases between with
    | nil => exact ⟨by rw [hpast, List.append_nil], (List.cons.inj hrest).1⟩
    | cons x between =>
      exact absurd h'.taken (hlater t' (by rw [(List.cons.inj hrest).2]; simp))
  · cases between with
    | nil => exact ⟨by rw [hpast, List.append_nil], (List.cons.inj hrest).1.symm⟩
    | cons x between =>
      exact absurd h.taken (hlater' t (by rw [(List.cons.inj hrest).2]; simp))

end Latest

/-! ## The issues that turns come to -/

/-- The issues that a checking turn finds after other turns. -/
inductive Finds (inputs : List Text) (past : List Turn) (t : Turn) : List Text → Prop
  /-- What it is answered about the ruleset read last. -/
  | answered {rules : Ruleset} {issues : List Text}
      (hlatest : (parsedBy inputs past).getLast? = some rules)
      (hreply : t.exchange = some ⟨.check rules, .ok issues⟩) : Finds inputs past t issues
  /-- That no ruleset was read. -/
  | unread (hnone : parsedBy inputs past = []) : Finds inputs past t [noExtractionIssue]

/-- The issues that turns come to. -/
inductive Issues (inputs : List Text) (past : List Turn) : List Text → Prop
  /-- What was found last. -/
  | found {earlier : List Turn} {t : Turn} {issues : List Text}
      (hlatest : IsLatest .staticChecks past earlier t) (hfinds : Finds inputs earlier t issues) :
      Issues inputs past issues
  /-- Nothing was looked for. -/
  | unchecked (hnone : ∀ t ∈ past, t.step ≠ .staticChecks) : Issues inputs past []

section Issues

variable {inputs : List Text} {past : List Turn} {t : Turn} {issues issues' : List Text}

theorem Finds.unique (h : Finds inputs past t issues) (h' : Finds inputs past t issues') :
    issues = issues' := by
  cases h <;> cases h' <;> grind

theorem Issues.unique (h : Issues inputs past issues) (h' : Issues inputs past issues') :
    issues = issues' := by
  cases h with
  | found hlatest hfinds =>
    cases h' with
    | found hlatest' hfinds' =>
      obtain ⟨rfl, rfl⟩ := hlatest.unique hlatest'
      exact hfinds.unique hfinds'
    | unchecked hnone =>
      obtain ⟨later, rfl, -⟩ := hlatest.split
      exact absurd hlatest.taken (hnone _ (by simp))
  | unchecked hnone =>
    cases h' with
    | found hlatest' _ =>
      obtain ⟨later, rfl, -⟩ := hlatest'.split
      exact absurd hlatest'.taken (hnone _ (by simp))
    | unchecked => rfl

/-- Other steps leave the issues as they were. -/
theorem Issues.append_of_ne (h : Issues inputs past issues) (hne : t.step ≠ .staticChecks) :
    Issues inputs (past ++ [t]) issues := by
  cases h with
  | found hlatest hfinds => exact .found (hlatest.append_of_ne hne) hfinds
  | unchecked hnone =>
    exact .unchecked (List.forall_mem_append.2 ⟨hnone, List.forall_mem_singleton.2 hne⟩)

end Issues

/-! ## The background that turns come to -/

/-- Issues as they are told in the background, one on a line, below a heading. -/
def issueNotes (issues : List Text) : Text :=
  if issues = [] then []
  else List.intercalate "\n" ("Static check notes:" :: issues.map fun issue => "- " ++ issue)

/-- The background that is put together: those of the notes in memory, what was retrieved and the
issues that are not blank, with an empty line between any two, and trimmed as a whole. -/
def background (memory retrieved : Text) (issues : List Text) : Text :=
  trim <| List.intercalate "\n\n" <|
    [memory, retrieved, issueNotes issues].filter fun piece => piece.any fun c => !isBlank c

/-- The background that turns of a run over some inputs come to, with some notes in memory. -/
inductive Background (inputs : List Text) (memory : Text) (past : List Turn) : Text → Prop
  /-- What was put together last, from the answer about the first input and from the issues that
  the turns before came to. -/
  | retrieved {earlier : List Turn} {t : Turn} {answer : Text} {issues : List Text}
      (hlatest : IsLatest .retrieveContext past earlier t)
      (hreply : t.exchange = some ⟨.retrieve (inputs.head?.getD []), .ok answer⟩)
      (hissues : Issues inputs earlier issues) :
      Background inputs memory past (background memory answer issues)
  /-- Nothing was retrieved. -/
  | nothing (hnone : ∀ t ∈ past, t.step ≠ .retrieveContext) : Background inputs memory past []

section Background

variable {inputs : List Text} {memory : Text} {past : List Turn} {t : Turn}
  {context context' : Text}

theorem Background.unique (h : Background inputs memory past context)
    (h' : Background inputs memory past context') : context = context' := by
  cases h with
  | retrieved hlatest hreply hissues =>
    cases h' with
    | retrieved hlatest' hreply' hissues' =>
      obtain ⟨rfl, rfl⟩ := hlatest.unique hlatest'
      obtain rfl := hissues.unique hissues'
      rw [hreply] at hreply'
      cases hreply'
      rfl
    | nothing hnone =>
      obtain ⟨later, rfl, -⟩ := hlatest.split
      exact absurd hlatest.taken (hnone _ (by simp))
  | nothing hnone =>
    cases h' with
    | retrieved hlatest' _ _ =>
      obtain ⟨later, rfl, -⟩ := hlatest'.split
      exact absurd hlatest'.taken (hnone _ (by simp))
    | nothing => rfl

/-- Other steps leave the background as it was. -/
theorem Background.append_of_ne (h : Background inputs memory past context)
    (hne : t.step ≠ .retrieveContext) : Background inputs memory (past ++ [t]) context := by
  cases h with
  | retrieved hlatest hreply hissues =>
    exact .retrieved (hlatest.append_of_ne hne) hreply hissues
  | nothing hnone =>
    exact .nothing (List.forall_mem_append.2 ⟨hnone, List.forall_mem_singleton.2 hne⟩)

end Background

/-! ## The state agrees -/

theorem intercalate_cons (separator first : Text) (rest : List Text) :
    List.intercalate separator (first :: rest) = first ++ rest.flatMap (separator ++ ·) := by
  induction rest generalizing first with
  | nil => simp [List.intercalate]
  | cons second rest ih =>
    have hlater := ih second
    simp only [List.intercalate] at hlater ⊢
    rw [List.intersperse_cons_cons, List.flatten_cons, List.flatten_cons, hlater, List.flatMap_cons,
      List.append_assoc]

theorem issueNotes_eq (issues : List Text) :
    issueNotes issues =
      if issues.isEmpty then [] else "Static check notes:".toList ++ issues.flatMap bullet := by
  have hbullets : (issues.map fun issue => "- ".toList ++ issue).flatMap ("\n".toList ++ ·) =
      issues.flatMap bullet := by
    rw [List.flatMap_map]
    rfl
  rw [issueNotes, intercalate_cons, hbullets]
  simp only [List.isEmpty_iff]

/-- The retrieving step puts the background together as it is described. -/
theorem assembleContext_eq (memory retrieved : Text) (issues : List Text) :
    assembleContext memory retrieved issues = background memory retrieved issues := by
  have hkeep : ∀ piece : Text, (!isAllBlank piece) = piece.any fun c => !isBlank c := by
    intro piece
    rw [Bool.eq_iff_iff, Bool.not_eq_true', ← Bool.not_eq_true, isAllBlank_iff]
    simp
  rw [assembleContext, background, issueNotes_eq]
  simp only [hkeep]

/-- What a retrieving and a checking step leave in the state, and other steps leave as it was. -/
structure Stands (inputs : List Text) (memory : Text) (past : List Turn) (s : State) : Prop where
  /-- The issues are those that the turns so far come to. -/
  issues : Issues inputs past s.issues
  /-- So is the background. -/
  context : Background inputs memory past s.context

section Act

variable {inputs : List Text} {memory : Text} {past : List Turn} {s after : State} {t : Turn}

theorem stands_nil (inputs : List Text) (memory : Text) : Stands inputs memory [] {} :=
  ⟨.unchecked (List.forall_mem_nil _), .nothing (List.forall_mem_nil _)⟩

/-- A turn of another step leaves both as they were. -/
theorem Stands.append (h : Stands inputs memory past s) (hcheck : t.step ≠ .staticChecks)
    (hretrieve : t.step ≠ .retrieveContext) (hissues : after.issues = s.issues)
    (hcontext : after.context = s.context) : Stands inputs memory (past ++ [t]) after where
  issues := hissues ▸ h.issues.append_of_ne hcheck
  context := hcontext ▸ h.context.append_of_ne hretrieve

theorem act_keeps {step : Step} (hcheck : step ≠ .staticChecks)
    (hretrieve : step ≠ .retrieveContext) :
    (s.act inputs memory step).All fun _ after _ =>
      after.issues = s.issues ∧ after.context = s.context := by
  cases step with
  | staticChecks => exact absurd rfl hcheck
  | retrieveContext => exact absurd rfl hretrieve
  | unknown id => exact ⟨rfl, rfl⟩
  | parse | explain | verify | rewrite | generateTests | diff =>
    simp only [State.act]
    split <;> simp [Action.All]

/-- **A step does to the issues and to the background what its turn adds to the history.** -/
theorem act_stands (hfollows : Follows inputs past s) (h : Stands inputs memory past s)
    (step : Step) :
    (s.act inputs memory step).All fun x after events =>
      Stands inputs memory (past ++ [⟨step, s, x, after, events⟩]) after := by
  by_cases hcheck : step = .staticChecks
  · subst hcheck
    simp only [State.act]
    split
    · next hnone =>
      have hunread := (latest_eq_none_iff hfollows).1 hnone
      exact ⟨.found (isLatest_append rfl) (.unread hunread), h.context.append_of_ne (by simp)⟩
    · next rules hrules =>
      rw [hfollows.latest] at hrules
      exact fun issues => ⟨.found (isLatest_append rfl) (.answered hrules rfl),
        h.context.append_of_ne (by simp)⟩
  · by_cases hretrieve : step = .retrieveContext
    · subst hretrieve
      intro retrieved
      refine ⟨h.issues.append_of_ne hcheck, ?_⟩
      simp only [assembleContext_eq]
      exact .retrieved (isLatest_append rfl) (by rw [List.headD_eq_head?_getD]) h.issues
    · exact (act_keeps hcheck hretrieve).imp fun _ _ _ hkeep =>
        h.append hcheck hretrieve hkeep.1 hkeep.2

/-- What an explaining step passes on is the background in the state. -/
theorem context_of_call? {step : Step} {rules : Ruleset} {context : Text}
    (h : (s.act inputs memory step).call? = some (.explain rules context)) :
    step = .explain ∧ context = s.context := by
  obtain rfl : Step.explain = step := step_of_call? h
  simp only [State.act] at h
  split at h <;> cases h
  exact ⟨rfl, rfl⟩

/-- What a retrieving step asks about is the first input. -/
theorem query_of_call? {step : Step} {query : Text}
    (h : (s.act inputs memory step).call? = some (.retrieve query)) :
    step = .retrieveContext ∧ query = inputs.head?.getD [] := by
  obtain rfl : Step.retrieveContext = step := step_of_call? h
  cases h
  exact ⟨rfl, List.headD_eq_head?_getD⟩

end Act

/-! ## Whole runs -/

section Runs

variable {c : Collaborators σ} {mode : Mode} {inputs : List Text} {w : σ}

/-- A run that takes a turn has loaded the notes once, at its start, and at every moment its issues
and its background are what the turns so far come to. -/
theorem stands_of_turnsOf {past future : List Turn} {t : Turn}
    (h : turnsOf c mode inputs w = past ++ t :: future) :
    ∃ memory rest, contactsOf c mode inputs w = .notes (.ok memory) :: rest ∧
      (∀ reply, .notes reply ∉ rest) ∧ Stands inputs memory past t.before ∧
      (∀ earlier ∈ past, earlier.failure? = none) ∧
      ∃ w', t = (turn c inputs memory t.step t.before w').1 := by
  rcases runPlan_cases c mode inputs w with
    ⟨_, _, _, _, hturns⟩ | ⟨_, _, _, _, _, hturns⟩ | ⟨memory, ids, w₂, w', hturns, hbefore, hrun⟩
  · simp [hturns] at h
  · simp [hturns] at h
  · obtain ⟨saved, -, hcontacts⟩ := execute_of_runPlan hrun
    rw [hbefore, List.cons_append, List.cons_append] at hcontacts
    rw [hturns] at h
    obtain ⟨⟨-, hstands, hok⟩, hturn⟩ := before_of_turns
      (P := fun past s => Follows inputs past s ∧ Stands inputs memory past s ∧
        ∀ earlier ∈ past, earlier.failure? = none)
      (fun past s step w hpast hok =>
        ⟨turn_follows hpast.1 hok,
          turn_of_all (P := fun t => Stands inputs memory (past ++ [t]) t.after)
            (act_stands hpast.1 hpast.2.1 step) hok,
          List.forall_mem_append.2 ⟨hpast.2.2, List.forall_mem_singleton.2 hok⟩⟩)
      ⟨follows_nil inputs, stands_nil inputs memory, List.forall_mem_nil _⟩ h
    exact ⟨memory, _, hcontacts, by simp [contactsIn], hstands, hok, hturn⟩

end Runs

/-- **Every explanation is asked for with the background of the latest retrieval.**  The notes are
loaded once, at the start of a run; every retrieval asks about the first input; and of all the turns
that went before, only the latest retrieving one and the latest static checks before it count. -/
theorem explained_with_latest_background (c : Collaborators σ) (mode : Mode) (inputs : List Text)
    (w : σ) :
    Attested c mode inputs w (turnsOf c mode inputs w) ∧
      ∀ past t future, turnsOf c mode inputs w = past ++ t :: future →
        (∀ earlier ∈ past, earlier.failure? = none) ∧
        ∃ memory rest, contactsOf c mode inputs w = .notes (.ok memory) :: rest ∧
          (∀ reply, .notes reply ∉ rest) ∧
          (∀ context, Background inputs memory past context ↔ context = t.before.context) ∧
          (∀ rules context, t.asked? = some (.explain rules context) →
            t.step = .explain ∧ Background inputs memory past context) ∧
          ∀ query, t.asked? = some (.retrieve query) →
            t.step = .retrieveContext ∧ query = inputs.head?.getD [] := by
  refine ⟨turnsOf_attested c mode inputs w, fun past t future hsplit => ?_⟩
  obtain ⟨memory, rest, hcontacts, honce, hstands, hok, w', hturn⟩ := stands_of_turnsOf hsplit
  refine ⟨hok, memory, rest, hcontacts, honce, fun context => ⟨?_, ?_⟩, ?_, ?_⟩
  · exact fun h => h.unique hstands.context
  · rintro rfl
    exact hstands.context
  · intro rules context hcall
    rw [hturn, asked?_turn] at hcall
    obtain ⟨hstep, rfl⟩ := context_of_call? hcall
    exact ⟨hstep, hstands.context⟩
  · intro query hcall
    rw [hturn, asked?_turn] at hcall
    exact query_of_call? hcall

/-- Collaborators that plan static checks before anything is read and again after the retrieval. -/
def twiceChecking : Collaborators Unit where
  notes := pure "Be brief.\n"
  plan _ := pure
    ["static_checks", "parse", "retrieve_context", "parse", "static_checks", "explain"]
  check _ := pure ["There is no default."]
  retrieve query := pure query
  explain _ context := pure context
  verify _ _ := pure ⟨true, [], false⟩
  rewrite _ explanation _ := pure explanation
  compare _ _ := pure []
  tests _ := pure []
  save _ := pure ()

/-- An explanation of the second input, with the background of the first one and with the issue that
was found before anything was read. -/
theorem second_explained_with_first_background :
    ∃ past t future context,
      turnsOf twiceChecking .agentic ["else", "if (a)"] () = past ++ t :: future ∧
      t.asked? = some (.explain (Script.parse "if (a)") context) ∧
      context = "Be brief.\n\n\nelse\n\nStatic check notes:\n- ".toList ++ noExtractionIssue ∧
      Background ["else", "if (a)"] "Be brief.\n" past context := by
  obtain ⟨past, t, future, hsplit, hasked⟩ : ∃ past t future,
      turnsOf twiceChecking .agentic ["else", "if (a)"] () = past ++ t :: future ∧
      t.asked? = some (.explain (Script.parse "if (a)")
        ("Be brief.\n\n\nelse\n\nStatic check notes:\n- ".toList ++ noExtractionIssue)) :=
    ⟨[_, _, _, _, _], _, [], rfl, rfl⟩
  obtain ⟨-, memory, rest, hcontacts, -, -, hexplain, -⟩ :=
    (explained_with_latest_background _ _ _ _).2 past t future hsplit
  have hfirst : (contactsOf twiceChecking .agentic ["else", "if (a)"] ()).head? =
      some (.notes (.ok "Be brief.\n")) := rfl
  rw [hcontacts, List.head?_cons] at hfirst
  cases hfirst
  exact ⟨past, t, future, _, hsplit, hasked, rfl, (hexplain _ _ hasked).2⟩

end Run
end RuleReview
