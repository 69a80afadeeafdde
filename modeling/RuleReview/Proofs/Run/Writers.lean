import RuleReview.Proofs.Run.Inputs

/-!
# Whose text a run returns

Four kinds of steps write the text that a run returns, each over what was written before: an
explanation, a comparison, test cases, and a rewrite if it is asked for.  Whether a rewrite is asked
for depends on the verdicts and the texts before it.  The run returns what was written last, and a
fixed text if that is empty or if nothing was written.

## What is here

* `Writes` — which text a turn writes after others; `SlotTurn` — what that does to the state.
* `Returned` — the text that turns come to, of which there is one (`Returned.unique`).
* `output_of_last_writer` — a run in which nothing fails returns that text; then a run that returns
  a rewrite.
-/

set_option autoImplicit false

namespace RuleReview
namespace Run

variable {σ : Type}

/-! ## Writing -/

/-- The text that a turn writes for the run to return, after other turns. -/
inductive Writes (inputs : List Text) (past : List Turn) (t : Turn) : Text → Prop
  /-- The explanation of the ruleset read last. -/
  | explained {rules : Ruleset} {context text : Text} (hstep : t.step = .explain)
      (hlatest : (parsedBy inputs past).getLast? = some rules)
      (hreply : t.exchange = some ⟨.explain rules context, .ok text⟩) : Writes inputs past t text
  /-- That there is nothing to explain. -/
  | unexplained (hstep : t.step = .explain) (hnone : parsedBy inputs past = []) :
      Writes inputs past t fallbackExplanation
  /-- The comparison of the first two rulesets. -/
  | compared {before after : Ruleset} {rest : List Ruleset} {text : Text} (hstep : t.step = .diff)
      (hread : parsedBy inputs past = before :: after :: rest)
      (hreply : t.exchange = some ⟨.compare before after, .ok text⟩) : Writes inputs past t text
  /-- That there are not two to compare. -/
  | uncompared (hstep : t.step = .diff) (hfew : (parsedBy inputs past).length < 2) :
      Writes inputs past t diffUnavailable
  /-- The test cases for the ruleset read last. -/
  | tested {rules : Ruleset} {cases : List TestCase} (hstep : t.step = .generateTests)
      (hlatest : (parsedBy inputs past).getLast? = some rules)
      (hreply : t.exchange = some ⟨.tests rules, .ok cases⟩) :
      Writes inputs past t (TestCase.render cases)
  /-- The one test case that says there is nothing to test. -/
  | untested (hstep : t.step = .generateTests) (hnone : parsedBy inputs past = []) :
      Writes inputs past t (TestCase.render [errorCase])
  /-- Another text for one that the latest verdict found wanting. -/
  | rewritten {rules : Ruleset} {verdict : Verdict} {text : Text} (hstep : t.step = .rewrite)
      (hlatest : (parsedBy inputs past).getLast? = some rules)
      (hverdict : verdictOf past = some verdict) (hfailed : verdict.ok = false)
      (htext : explanationOf past ≠ [])
      (hreply : t.exchange = some ⟨.rewrite rules (explanationOf past) verdict.missing, .ok text⟩) :
      Writes inputs past t text

/-- That there is a text, that the latest verdict found it wanting, and that a ruleset was read. -/
def Rewritable (inputs : List Text) (past : List Turn) : Prop :=
  (∃ verdict, verdictOf past = some verdict ∧ verdict.ok = false) ∧
    parsedBy inputs past ≠ [] ∧ explanationOf past ≠ []

/-- What a turn does to the text that the run would return. -/
structure SlotTurn (inputs : List Text) (past : List Turn) (t : Turn) : Prop where
  /-- A turn writes if it is one of three steps, or a rewriting step with something to rewrite. -/
  writes_iff : (∃ text, Writes inputs past t text) ↔
    t.step = .explain ∨ t.step = .diff ∨ t.step = .generateTests ∨
      t.step = .rewrite ∧ Rewritable inputs past
  /-- What it writes takes the place of what was written before. -/
  written : ∀ text, Writes inputs past t text → t.after.explanation = text
  /-- If it writes nothing, the text stays as it was. -/
  kept : (∀ text, ¬ Writes inputs past t text) → t.after.explanation = t.before.explanation

/-- That none of some turns, taken after others, writes. -/
def NoneWrites (inputs : List Text) (past later : List Turn) : Prop :=
  ∀ between t rest, later = between ++ t :: rest → ∀ text, ¬ Writes inputs (past ++ between) t text

/-- The text that turns come to. -/
inductive Returned (inputs : List Text) (ts : List Turn) : Text → Prop
  /-- What was written last. -/
  | written {past later : List Turn} {t : Turn} {text : Text} (hsplit : ts = past ++ t :: later)
      (hwrites : Writes inputs past t text) (hlast : NoneWrites inputs (past ++ [t]) later)
      (hne : text ≠ []) : Returned inputs ts text
  /-- What was written last is empty. -/
  | emptied {past later : List Turn} {t : Turn} (hsplit : ts = past ++ t :: later)
      (hwrites : Writes inputs past t []) (hlast : NoneWrites inputs (past ++ [t]) later) :
      Returned inputs ts noOutput
  /-- Nothing was written. -/
  | unwritten (hnone : NoneWrites inputs [] ts) : Returned inputs ts noOutput

/-! ## There is one last text -/

section Unique

variable {inputs : List Text} {past later past' later' ts : List Turn} {t t' : Turn}
  {text text' : Text}

/-- A turn writes one text. -/
theorem Writes.unique (h : Writes inputs past t text) (h' : Writes inputs past t text') :
    text = text' := by
  -- The step, whether there is a ruleset for it, and the answer tell the ways of writing apart.
  cases h <;> cases h' <;> grind

/-- No turn writes after one after which none writes. -/
theorem NoneWrites.length_le (hnone : NoneWrites inputs (past ++ [t]) later)
    (hwrites : Writes inputs past' t' text) (hsplit : past ++ t :: later = past' ++ t' :: later') :
    past'.length ≤ past.length := by
  have hsame : (past ++ [t]) ++ later = past' ++ t' :: later' := by
    rw [List.append_assoc, List.singleton_append, hsplit]
  rcases List.append_eq_append_iff.1 hsame with ⟨between, hpast, hlater⟩ | ⟨between, hpast, hlater⟩
  · rw [hpast] at hwrites
    exact absurd hwrites (hnone between t' later' hlater text)
  · cases between with
    | nil =>
      rw [List.append_nil] at hpast
      rw [← hpast, ← List.append_nil (past ++ [t])] at hwrites
      exact absurd hwrites (hnone [] t' later' hlater.symm text)
    | cons x between =>
      have hlength := congrArg List.length hpast
      simp only [List.length_append, List.length_cons, List.length_nil] at hlength
      omega

/-- The last turn that writes writes one text. -/
theorem Writes.unique_of_last (hsplit : past ++ t :: later = past' ++ t' :: later')
    (hwrites : Writes inputs past t text) (hlast : NoneWrites inputs (past ++ [t]) later)
    (hwrites' : Writes inputs past' t' text')
    (hlast' : NoneWrites inputs (past' ++ [t']) later') : text = text' := by
  have hlength : past.length = past'.length :=
    Nat.le_antisymm (hlast'.length_le hwrites hsplit.symm) (hlast.length_le hwrites' hsplit)
  obtain ⟨rfl, hrest⟩ := List.append_inj hsplit hlength
  obtain ⟨rfl, -⟩ := List.cons.inj hrest
  exact hwrites.unique hwrites'

/-- Turns come to one text. -/
theorem Returned.unique (h : Returned inputs ts text) (h' : Returned inputs ts text') :
    text = text' := by
  cases h with
  | written hsplit hwrites hlast hne =>
    cases h' with
    | written hsplit' hwrites' hlast' =>
      exact hwrites.unique_of_last (hsplit.symm.trans hsplit') hlast hwrites' hlast'
    | emptied hsplit' hwrites' hlast' =>
      exact absurd (hwrites.unique_of_last (hsplit.symm.trans hsplit') hlast hwrites' hlast') hne
    | unwritten hnone => exact absurd hwrites (hnone _ _ _ hsplit _)
  | emptied hsplit hwrites hlast =>
    cases h' with
    | written hsplit' hwrites' hlast' hne =>
      exact absurd (hwrites'.unique_of_last (hsplit'.symm.trans hsplit) hlast' hwrites hlast) hne
    | emptied => rfl
    | unwritten => rfl
  | unwritten hnone =>
    cases h' with
    | written hsplit' hwrites' => exact absurd hwrites' (hnone _ _ _ hsplit' _)
    | emptied => rfl
    | unwritten => rfl

end Unique

/-! ## What the steps write -/

section Turns

variable {c : Collaborators σ} {inputs : List Text} {memory : Text} {past : List Turn} {s : State}
  {step : Step} {w : σ}

/-- What a completed step is answered, or says of itself, is what it writes. -/
theorem act_writes (h : Follows inputs past s) (memory : Text) (step : Step) :
    (s.act inputs memory step).All fun x after events =>
      ∀ text, Turn.text? ⟨step, s, x, after, events⟩ = some text →
        Writes inputs past ⟨step, s, x, after, events⟩ text := by
  cases step with
  | parse =>
    simp only [State.act]
    split <;> exact fun text htext => by cases htext
  | staticChecks =>
    simp only [State.act]
    split
    · exact fun text htext => by cases htext
    · exact fun reply text htext => by cases htext
  | retrieveContext => exact fun reply text htext => by cases htext
  | explain =>
    simp only [State.act]
    split
    · next hnone =>
      intro text htext
      obtain rfl := Option.some.inj htext
      exact .unexplained rfl ((latest_eq_none_iff h).1 hnone)
    · next rules hrules =>
      intro reply text htext
      obtain rfl := Option.some.inj htext
      exact .explained rfl (h.latest ▸ hrules) rfl
  | verify =>
    simp only [State.act]
    split
    · exact fun reply text htext => by cases htext
    · exact fun text htext => by cases htext
  | rewrite =>
    simp only [State.act]
    split
    · next missing needed rules hverdict hrules hfilled =>
      intro reply text htext
      obtain rfl := Option.some.inj htext
      have hne : explanationOf past ≠ [] := by
        rw [← h.explanation]
        simpa using hfilled
      exact .rewritten rfl (h.latest ▸ hrules) (h.verdict ▸ hverdict) rfl hne
        (by rw [← h.explanation])
    · exact fun text htext => by cases htext
  | generateTests =>
    simp only [State.act]
    split
    · next hnone =>
      intro text htext
      obtain rfl := Option.some.inj htext
      exact .untested rfl ((latest_eq_none_iff h).1 hnone)
    · next rules hrules =>
      intro reply text htext
      obtain rfl := Option.some.inj htext
      exact .tested rfl (h.latest ▸ hrules) rfl
  | diff =>
    rcases act_diff_cases h memory with ⟨before, after, rest, hread, hact⟩ | ⟨hfew, hact⟩
    · rw [hact]
      intro reply text htext
      obtain rfl := Option.some.inj htext
      exact .compared rfl hread rfl
    · rw [hact]
      intro text htext
      obtain rfl := Option.some.inj htext
      exact .uncompared rfl (by rwa [length_parsedBy])
  | unknown id => exact fun text htext => by cases htext

/-- Three steps write however they go on, and a rewriting step if it asks. -/
theorem act_isSome_text? (inputs : List Text) (memory : Text) (s : State) (step : Step) :
    (s.act inputs memory step).All fun x after events =>
      ((Turn.text? ⟨step, s, x, after, events⟩).isSome ↔
        step = .explain ∨ step = .diff ∨ step = .generateTests ∨
          step = .rewrite ∧ (Turn.asked? ⟨step, s, x, after, events⟩).isSome) := by
  cases step with
  | retrieveContext => exact fun reply => by simp [Turn.text?]
  | unknown id => simp [State.act, Action.All, Turn.text?]
  | parse | staticChecks | explain | verify | rewrite | generateTests | diff =>
    simp only [State.act]
    split <;> simp [Action.All, Turn.text?, Turn.asked?]

/-- A step asks for nothing if what it could ask for was not read. -/
theorem exchange_eq_none (h : Follows inputs past s)
    (hunread : ∀ call : Call, call.step = (turn c inputs memory step s w).1.step →
      ¬ call.IsAbout inputs (cursor inputs past)) :
    (turn c inputs memory step s w).1.exchange = none := by
  cases hexchange : (turn c inputs memory step s w).1.exchange with
  | none => rfl
  | some x =>
    have hasked : (turn c inputs memory step s w).1.asked? = some x.call := by
      rw [Turn.asked?, hexchange, Option.map_some]
    rw [asked?_turn] at hasked
    have hstep : x.call.step = (turn c inputs memory step s w).1.step := by
      rw [turn_step, step_of_call? hasked]
    exact absurd (isAbout_of_call? h hasked) (hunread x.call hstep)

/-- As long as nothing was read, there is nothing to ask for but background. -/
theorem Call.IsAbout.step_eq {call : Call} (h : call.IsAbout inputs 0) :
    call.step = .retrieveContext := by
  cases call with
  | retrieve query => rfl
  | compare before after => exact absurd h.1 (Nat.not_succ_le_zero 1)
  | check | explain | verify | rewrite | tests => exact absurd h.1 (Nat.lt_irrefl 0)

/-- What a turn of a run writes is what it was answered, or says of itself. -/
theorem text?_of_writes {text : Text} (h : Follows inputs past s)
    (hwrites : Writes inputs past (turn c inputs memory step s w).1 text) :
    (turn c inputs memory step s w).1.text? = some text := by
  have halone : parsedBy inputs past = [] →
      (turn c inputs memory step s w).1.step ≠ .retrieveContext →
      (turn c inputs memory step s w).1.exchange = none := by
    intro hnone hstep
    have hzero : cursor inputs past = 0 := by rw [← length_parsedBy, hnone, List.length_nil]
    refine exchange_eq_none h fun call hcall habout => ?_
    rw [hzero] at habout
    exact hstep (hcall.symm.trans habout.step_eq)
  cases hwrites with
  | explained hstep _ hreply => simp only [Turn.text?, hstep, hreply]
  | compared hstep _ hreply => simp only [Turn.text?, hstep, hreply]
  | tested hstep _ hreply => simp only [Turn.text?, hstep, hreply]
  | rewritten hstep _ _ _ _ hreply => simp only [Turn.text?, hstep, hreply]
  | unexplained hstep hnone =>
    have hsilent := halone hnone (by rw [hstep]; simp)
    simp only [Turn.text?, hstep, hsilent]
  | untested hstep hnone =>
    have hsilent := halone hnone (by rw [hstep]; simp)
    simp only [Turn.text?, hstep, hsilent]
  | uncompared hstep hfew =>
    have hsilent : (turn c inputs memory step s w).1.exchange = none := by
      refine exchange_eq_none h fun call hcall habout => ?_
      cases call <;> cases hcall.trans hstep
      rw [length_parsedBy] at hfew
      exact absurd habout.1 (Nat.not_le.2 hfew)
    simp only [Turn.text?, hstep, hsilent]

theorem writes_iff_text? {text : Text} (h : Follows inputs past s)
    (hok : (turn c inputs memory step s w).1.failure? = none) :
    Writes inputs past (turn c inputs memory step s w).1 text ↔
      (turn c inputs memory step s w).1.text? = some text :=
  ⟨text?_of_writes h, turn_of_all
    (P := fun t => ∀ text, t.text? = some text → Writes inputs past t text)
    (act_writes h memory step) hok text⟩

/-- **What a completed turn does to the text.** -/
theorem slotTurn_of_follows (h : Follows inputs past s)
    (hok : (turn c inputs memory step s w).1.failure? = none) :
    SlotTurn inputs past (turn c inputs memory step s w).1 := by
  have hafter := (turn_follows h hok).explanation
  rw [explanationOf_append, ← h.explanation] at hafter
  refine ⟨?_, fun text hwrites => ?_, fun hnone => ?_⟩
  · have hsome := turn_of_all (P := fun t => (t.text?.isSome ↔ t.step = .explain ∨ t.step = .diff ∨
      t.step = .generateTests ∨ t.step = .rewrite ∧ t.asked?.isSome))
      (act_isSome_text? inputs memory s step) hok
    have hguard : (turn c inputs memory step s w).1.step = .rewrite →
        ((turn c inputs memory step s w).1.asked?.isSome ↔ Rewritable inputs past) := by
      rw [turn_step]
      rintro rfl
      exact (turn_rewrite h memory w).asks_iff
    rw [← and_congr_right hguard, ← hsome, Option.isSome_iff_exists]
    exact exists_congr fun text => writes_iff_text? h hok
  · rw [hafter, (writes_iff_text? h hok).1 hwrites, Option.getD_some]
  · cases htext : (turn c inputs memory step s w).1.text? with
    | none => rw [hafter, htext, Option.getD_none, turn_before]
    | some text => exact absurd ((writes_iff_text? h hok).2 htext) (hnone text)

end Turns

/-! ## Runs in which nothing fails -/

/-- The failure of what was asked for. -/
def Contact.failure? : Contact → Option Failure
  | .notes (.error e) => some e
  | .plan _ (.error e) => some e
  | .step x => x.failure?
  | .save _ (.error e) => some e
  | _ => none

section Unfailing

variable {c : Collaborators σ} {mode : Mode} {inputs : List Text} {w : σ}

/-- A turn whose contacts did not fail did not fail. -/
theorem failure?_of_contactsIn {ts : List Turn}
    (h : ∀ contact ∈ contactsIn ts, contact.failure? = none) : ∀ t ∈ ts, t.failure? = none := by
  intro t ht
  rw [Turn.failure?]
  cases hexchange : t.exchange with
  | none => rfl
  | some x =>
    have hmem : Contact.step x ∈ contactsIn ts :=
      List.mem_map_of_mem (List.mem_filterMap.2 ⟨t, ht, hexchange⟩)
    exact h _ hmem

/-- **A run in which nothing fails takes every step of its plan**, and returns the text in the state
that its turns come to. -/
theorem run_of_unfailing (hok : ∀ contact ∈ contactsOf c mode inputs w, contact.failure? = none) :
    ∃ ids last, .plan mode (.ok ids) ∈ contactsOf c mode inputs w ∧
      (turnsOf c mode inputs w).map (·.step) = ids.map Step.ofId ∧
      (∀ t ∈ turnsOf c mode inputs w, t.failure? = none) ∧
      Follows inputs (turnsOf c mode inputs w) last ∧
      (execute c mode inputs w).1.result = .ok last.output ∧
      (execute c mode inputs w).1.trace.output = some last.output := by
  rcases runPlan_cases c mode inputs w with
    ⟨e, w', hrun, hbefore, -⟩ | ⟨memory, e, w', hrun, hbefore, -⟩ |
    ⟨memory, ids, w₂, w', hturns, hbefore, hrun⟩ <;>
    obtain ⟨saved, houtcome, hcontacts⟩ := execute_of_runPlan hrun <;>
    rw [hbefore] at hcontacts
  · have hfail := hok (.notes (.error e)) (by simp [hcontacts])
    cases hfail
  · have hfail := hok (.plan mode (.error e)) (by simp [hcontacts])
    cases hfail
  · have hunfailed : ∀ t ∈ turnsOf c mode inputs w, t.failure? = none :=
      failure?_of_contactsIn fun contact hmem => hok contact (by simp [hcontacts, hmem])
    rcases turns_cases c inputs memory (ids.map Step.ofId) {} w₂ with
      ⟨last, hlast, hsteps, -⟩ | ⟨done, t, e, hts, -, -, -, ht, -⟩
    · have hfollows := follows_of_outcomeOf hlast
      rw [← hturns] at hlast hsteps hfollows
      refine ⟨ids, last, by simp [hcontacts], hsteps, hunfailed, hfollows, ?_, ?_⟩
      · rw [houtcome, hlast]
        cases saved with
        | ok => rfl
        | error e =>
          have hfail := hok _ (hcontacts ▸ List.mem_append_right _ (List.mem_singleton_self _))
          cases hfail
      · rw [houtcome, hlast]
        rfl
    · have hdone := hunfailed t (by simp [hturns, hts])
      rw [ht] at hdone
      cases hdone

/-- The last value of a function on a list comes of an element after which there is none. -/
theorem exists_of_getLast?_filterMap {α β : Type} {f : α → Option β} {l : List α} {y : β}
    (h : (l.filterMap f).getLast? = some y) :
    ∃ front x rest, l = front ++ x :: rest ∧ f x = some y ∧ ∀ x' ∈ rest, f x' = none := by
  rw [List.getLast?_filterMap] at h
  obtain ⟨front, x, rest, hsplit, hx, hnone⟩ := List.findSome?_eq_some_iff.1 h
  refine ⟨rest.reverse, x, front.reverse, ?_, hx, ?_⟩
  · rw [← List.reverse_reverse l, hsplit]
    simp
  · intro x' hmem
    exact hnone x' (List.mem_reverse.1 hmem)

/-- Turns of a run that wrote nothing are none that write. -/
theorem noneWrites_of_text? {past later : List Turn}
    (h : turnsOf c mode inputs w = past ++ later) (hnone : ∀ t ∈ later, t.text? = none) :
    NoneWrites inputs past later := by
  intro between t rest hsplit text hwrites
  rw [hsplit, ← List.append_assoc] at h
  obtain ⟨hfollows, memory, w', hturn⟩ := follows_of_turnsOf h
  have hsilent : t.text? = none := hnone t (by simp [hsplit])
  rw [hturn] at hwrites hsilent
  rw [text?_of_writes hfollows hwrites] at hsilent
  cases hsilent

/-- What a run returns in which nothing fails. -/
theorem returned_of_follows {last : State}
    (hunfailed : ∀ t ∈ turnsOf c mode inputs w, t.failure? = none)
    (hfollows : Follows inputs (turnsOf c mode inputs w) last) :
    Returned inputs (turnsOf c mode inputs w) last.output := by
  rw [output_of_follows hfollows, explanationOf]
  cases hlast : ((turnsOf c mode inputs w).filterMap Turn.text?).getLast? with
  | none =>
    rw [List.getLast?_eq_none_iff, List.filterMap_eq_nil_iff] at hlast
    exact .unwritten (noneWrites_of_text? (List.nil_append _).symm hlast)
  | some text =>
    obtain ⟨past, t, later, hsplit, htext, hafter⟩ := exists_of_getLast?_filterMap hlast
    obtain ⟨hbefore, memory, w', hturn⟩ := follows_of_turnsOf hsplit
    have hok : t.failure? = none := hunfailed t (by simp [hsplit])
    have hwrites : Writes inputs past t text := by
      rw [hturn] at hok htext ⊢
      exact (writes_iff_text? hbefore hok).2 htext
    have hnone : NoneWrites inputs (past ++ [t]) later :=
      noneWrites_of_text? (by rw [hsplit, List.append_assoc, List.singleton_append]) hafter
    rw [Option.getD_some]
    split
    · next hempty =>
      subst hempty
      exact .emptied hsplit hwrites hnone
    · next hne => exact .written hsplit hwrites hnone hne

end Unfailing

/-- **A run in which nothing fails returns what was written last.**  It takes every step of its
plan, and each of them either writes or leaves the text as it was. -/
theorem output_of_last_writer (c : Collaborators σ) (mode : Mode) (inputs : List Text) (w : σ)
    (hok : ∀ contact ∈ contactsOf c mode inputs w, contact.failure? = none) :
    Attested c mode inputs w (turnsOf c mode inputs w) ∧
      (∃ ids, .plan mode (.ok ids) ∈ contactsOf c mode inputs w ∧
        (turnsOf c mode inputs w).map (·.step) = ids.map Step.ofId) ∧
      (∀ past t future, turnsOf c mode inputs w = past ++ t :: future → SlotTurn inputs past t) ∧
      ∃ output, (∀ text, Returned inputs (turnsOf c mode inputs w) text ↔ text = output) ∧
        (execute c mode inputs w).1.result = .ok output ∧
        (execute c mode inputs w).1.trace.output = some output := by
  obtain ⟨ids, last, hplan, hsteps, hunfailed, hfollows, hresult, htrace⟩ := run_of_unfailing hok
  have hslots : ∀ past t future, turnsOf c mode inputs w = past ++ t :: future →
      SlotTurn inputs past t := by
    intro past t future hsplit
    obtain ⟨hbefore, memory, w', hturn⟩ := follows_of_turnsOf hsplit
    have htook : t.failure? = none := hunfailed t (by simp [hsplit])
    rw [hturn] at htook ⊢
    exact slotTurn_of_follows hbefore htook
  have hreturned := returned_of_follows hunfailed hfollows
  refine ⟨turnsOf_attested c mode inputs w, ⟨ids, hplan, hsteps⟩, hslots, last.output,
    fun text => ⟨fun h => h.unique hreturned, ?_⟩, hresult, htrace⟩
  rintro rfl
  exact hreturned

/-- A run that returns a rewrite. -/
theorem rewrite_returned :
    (∀ contact ∈ contactsOf hardToPlease .explain ["else"] (), contact.failure? = none) ∧
      Returned ["else"] (turnsOf hardToPlease .explain ["else"] ()) "the default" ∧
      (execute hardToPlease .explain ["else"] ()).1.result = .ok "the default" := by
  have hok : ∀ contact ∈ contactsOf hardToPlease .explain ["else"] (), contact.failure? = none := by
    decide +kernel
  obtain ⟨-, -, -, output, hreturned, hresult, -⟩ :=
    output_of_last_writer hardToPlease .explain ["else"] () hok
  have hdefault : (execute hardToPlease .explain ["else"] ()).1.result = .ok "the default" := rfl
  obtain rfl : output = "the default" := Except.ok.inj (hresult.symm.trans hdefault)
  exact ⟨hok, (hreturned _).2 rfl, hdefault⟩

end Run
end RuleReview
