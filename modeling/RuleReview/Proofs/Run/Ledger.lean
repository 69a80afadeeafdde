import RuleReview.Proofs.Run.Contacts

/-!
# What the history of a run determines

The state that the steps of a run share can be read off the steps taken so far.  For each part of it
this file looks back through the turns, without regard to states: how many inputs were read, what
the latest verdict is, which text was written last.  `act_follows` says that what a step does to the
state is what its turn adds to the look back, and `follows_of_turnsOf` that the two agree at every
moment of every run.

## What is here

* `parsedBy`, `verdictOf`, `explanationOf` — what the turns so far come to.
* `Follows` — a state that agrees with them; `act_follows`, `follows_of_turnsOf`.
* `before_of_turnsOf` — how a statement about every moment of a run is reduced to its turns.
* `Follows.isSome_verdictOf` — there is a verdict as soon as a verifying step was taken.
-/

set_option autoImplicit false

namespace RuleReview
namespace Run

variable {σ : Type}

/-! ## Looking back -/

/-- The rulesets read so far: those of the first inputs, one for each reading step while there is an
input left. -/
def parsedBy (inputs : List Text) (past : List Turn) : List Ruleset :=
  (inputs.take (past.countP (·.step = .parse))).map Script.parse

namespace Turn

/-- The verdict that a verifying step came to.  Without a request there was nothing to verify. -/
def verdict? (t : Turn) : Option Verdict :=
  match t.step, t.exchange with
  | .verify, none => some ⟨false, [nothingToVerify], true⟩
  | .verify, some ⟨.verify _ _, .ok verdict⟩ => some verdict
  | _, _ => none

/-- The text that a step wrote for the run to return: what it was answered, or, for three of the
four steps that write, a fixed text when it had nothing to ask about. -/
def text? (t : Turn) : Option Text :=
  match t.step, t.exchange with
  | .explain, none => some fallbackExplanation
  | .explain, some ⟨.explain _ _, .ok text⟩ => some text
  | .rewrite, some ⟨.rewrite _ _ _, .ok text⟩ => some text
  | .generateTests, none => some (TestCase.render [errorCase])
  | .generateTests, some ⟨.tests _, .ok cases⟩ => some (TestCase.render cases)
  | .diff, none => some diffUnavailable
  | .diff, some ⟨.compare _ _, .ok text⟩ => some text
  | _, _ => none

end Turn

/-- The verdict of the latest verifying step. -/
def verdictOf (past : List Turn) : Option Verdict := (past.filterMap Turn.verdict?).getLast?

/-- The text that was written last. -/
def explanationOf (past : List Turn) : Text := (past.filterMap Turn.text?).getLast?.getD []

theorem verdictOf_append (past : List Turn) (t : Turn) :
    verdictOf (past ++ [t]) = t.verdict?.or (verdictOf past) := by
  cases h : t.verdict? <;> simp [verdictOf, h]

theorem explanationOf_append (past : List Turn) (t : Turn) :
    explanationOf (past ++ [t]) = t.text?.getD (explanationOf past) := by
  cases h : t.text? <;> simp [explanationOf, h]

theorem parsedBy_append_of_ne {inputs : List Text} {past : List Turn} {t : Turn}
    (h : t.step ≠ .parse) : parsedBy inputs (past ++ [t]) = parsedBy inputs past := by
  simp [parsedBy, h]

/-- The input after those read so far is found by counting reading steps. -/
theorem getElem?_length_parsedBy (inputs : List Text) (past : List Turn) :
    inputs[(parsedBy inputs past).length]? = inputs[past.countP (·.step = .parse)]? := by
  rw [parsedBy, List.length_map, List.length_take]
  rcases Nat.le_total (past.countP (·.step = .parse)) inputs.length with hle | hle
  · rw [Nat.min_eq_left hle]
  · rw [Nat.min_eq_right hle, List.getElem?_eq_none (Nat.le_refl _), List.getElem?_eq_none hle]

/-- A reading step reads the input after those read so far, if there is one. -/
theorem parsedBy_append_of_eq {inputs : List Text} {past : List Turn} {t : Turn}
    (h : t.step = .parse) :
    parsedBy inputs (past ++ [t]) =
      parsedBy inputs past ++
        (inputs[(parsedBy inputs past).length]?.map Script.parse).toList := by
  have hcount : (past ++ [t]).countP (·.step = .parse) = past.countP (·.step = .parse) + 1 := by
    simp [h]
  rw [getElem?_length_parsedBy, parsedBy, parsedBy, hcount, List.take_add_one, List.map_append]
  cases inputs[past.countP (·.step = .parse)]? <;> rfl

/-! ## The state agrees -/

/-- A state that is what the turns so far come to. -/
structure Follows (inputs : List Text) (past : List Turn) (s : State) : Prop where
  /-- Its rulesets are those read so far. -/
  rulesets : s.rulesets = parsedBy inputs past
  /-- The next input to read is the one after them. -/
  next : s.next = s.rulesets.length
  /-- Its text is the one written last. -/
  explanation : s.explanation = explanationOf past
  /-- Its verdict is the latest one. -/
  verdict : s.verdict = verdictOf past
  /-- No verifying step was left without a verdict. -/
  verified : ∀ t ∈ past, t.step = .verify → t.verdict? ≠ none

/-- Only verifying steps come to a verdict. -/
theorem step_of_verdict? {t : Turn} {verdict : Verdict} (h : t.verdict? = some verdict) :
    t.step = .verify := by
  unfold Turn.verdict? at h
  split at h
  · assumption
  · assumption
  · cases h

/-- The latest verdict is that of a step taken before. -/
theorem exists_of_verdictOf {past : List Turn} {verdict : Verdict}
    (h : verdictOf past = some verdict) :
    ∃ t ∈ past, t.step = .verify ∧ t.verdict? = some verdict := by
  obtain ⟨t, ht, hverdict⟩ := List.mem_filterMap.1 (List.mem_of_getLast? h)
  exact ⟨t, ht, step_of_verdict? hverdict, hverdict⟩

theorem Follows.isSome_verdictOf {inputs : List Text} {past : List Turn} {s : State}
    (h : Follows inputs past s) : (verdictOf past).isSome ↔ ∃ t ∈ past, t.step = .verify := by
  constructor
  · intro hsome
    obtain ⟨verdict, hverdict⟩ := Option.isSome_iff_exists.1 hsome
    obtain ⟨t, ht, hstep, _⟩ := exists_of_verdictOf hverdict
    exact ⟨t, ht, hstep⟩
  · rintro ⟨t, ht, hstep⟩
    obtain ⟨verdict, hverdict⟩ := Option.ne_none_iff_exists'.1 (h.verified t ht hstep)
    have hmem : verdict ∈ past.filterMap Turn.verdict? := List.mem_filterMap.2 ⟨t, ht, hverdict⟩
    rw [verdictOf, Option.isSome_iff_ne_none, ne_eq, List.getLast?_eq_none_iff]
    exact List.ne_nil_of_mem hmem

theorem follows_nil (inputs : List Text) : Follows inputs [] {} :=
  ⟨by simp [parsedBy], rfl, rfl, rfl, List.forall_mem_nil _⟩

/-- A turn that reads no input is followed when the state takes over its text and its verdict. -/
theorem Follows.append {inputs : List Text} {past : List Turn} {s after : State} {t : Turn}
    (h : Follows inputs past s) (hstep : t.step ≠ .parse) (hrulesets : after.rulesets = s.rulesets)
    (hnext : after.next = s.next) (htext : after.explanation = t.text?.getD s.explanation)
    (hverdict : after.verdict = t.verdict?.or s.verdict)
    (hverified : t.step = .verify → t.verdict? ≠ none) :
    Follows inputs (past ++ [t]) after where
  rulesets := by rw [hrulesets, h.rulesets, parsedBy_append_of_ne hstep]
  next := by rw [hnext, h.next, hrulesets]
  explanation := by rw [htext, h.explanation, explanationOf_append]
  verdict := by rw [hverdict, h.verdict, verdictOf_append]
  verified := List.forall_mem_append.2 ⟨h.verified, List.forall_mem_singleton.2 hverified⟩

/-- **What a step does to the state is what its turn adds to the history.** -/
theorem act_follows {inputs : List Text} {past : List Turn} {s : State}
    (h : Follows inputs past s) (memory : Text) (step : Step) :
    (s.act inputs memory step).All fun x after events =>
      Follows inputs (past ++ [⟨step, s, x, after, events⟩]) after := by
  cases step with
  | parse =>
    have hread : ∀ after : State,
        after.rulesets = s.rulesets ++ (inputs[s.next]?.map Script.parse).toList →
        after.next = after.rulesets.length → after.explanation = s.explanation →
        after.verdict = s.verdict → ∀ events,
        Follows inputs (past ++ [⟨.parse, s, none, after, events⟩]) after := by
      intro after hr hn he hv events
      refine ⟨?_, hn, ?_, ?_, ?_⟩
      · rw [parsedBy_append_of_eq rfl, hr, h.next, h.rulesets]
      · rw [explanationOf_append, he, h.explanation]; rfl
      · rw [verdictOf_append, hv, h.verdict]; rfl
      · exact List.forall_mem_append.2 ⟨h.verified, List.forall_mem_singleton.2 (by simp)⟩
    simp only [State.act]
    split
    · next hnone => exact hread s (by simp [hnone]) h.next rfl rfl _
    · next text hsome =>
      exact hread { s with rulesets := s.rulesets ++ [Script.parse text], next := s.next + 1 }
        (by simp [hsome]) (by simp [h.next]) rfl rfl _
  | staticChecks =>
    simp only [State.act]
    split
    · exact h.append (by simp) rfl rfl rfl rfl (by simp)
    · exact fun reply => h.append (by simp) rfl rfl rfl rfl (by simp)
  | retrieveContext => exact fun reply => h.append (by simp) rfl rfl rfl rfl (by simp)
  | explain =>
    simp only [State.act]
    split
    · exact h.append (by simp) rfl rfl rfl rfl (by simp)
    · exact fun reply => h.append (by simp) rfl rfl rfl rfl (by simp)
  | verify =>
    simp only [State.act]
    split
    · exact fun reply => h.append (by simp) rfl rfl rfl rfl (by simp [Turn.verdict?])
    · exact h.append (by simp) rfl rfl rfl rfl (by simp [Turn.verdict?])
  | rewrite =>
    simp only [State.act]
    split
    · exact fun reply => h.append (by simp) rfl rfl rfl rfl (by simp)
    · exact h.append (by simp) rfl rfl rfl rfl (by simp)
  | generateTests =>
    simp only [State.act]
    split
    · exact h.append (by simp) rfl rfl rfl rfl (by simp)
    · exact fun reply => h.append (by simp) rfl rfl rfl rfl (by simp)
  | diff =>
    simp only [State.act]
    split
    · exact fun reply => h.append (by simp) rfl rfl rfl rfl (by simp)
    · exact h.append (by simp) rfl rfl rfl rfl (by simp)
  | unknown id => exact h.append (by simp) rfl rfl rfl rfl (by simp)

theorem turn_follows {c : Collaborators σ} {inputs : List Text} {memory : Text} {past : List Turn}
    {s : State} {step : Step} {w : σ} (h : Follows inputs past s)
    (hok : (turn c inputs memory step s w).1.failure? = none) :
    Follows inputs (past ++ [(turn c inputs memory step s w).1])
      (turn c inputs memory step s w).1.after :=
  turn_of_all (P := fun t => Follows inputs (past ++ [t]) t.after) (act_follows h memory step) hok

/-- A run whose steps are all completed ends in a state that is what its turns come to. -/
theorem follows_of_outcomeOf {c : Collaborators σ} {inputs : List Text} {memory : Text}
    {steps : List Step} {last : State} {w : σ}
    (h : outcomeOf {} (turns c inputs memory steps {} w).1 = .ok last) :
    Follows inputs (turns c inputs memory steps {} w).1 last := by
  have hrun := after_of_turns (P := Follows inputs)
    (fun _ _ _ _ hpast hok => turn_follows hpast hok) (follows_nil inputs) h
  rwa [List.nil_append] at hrun

/-- What holds at the start of a run and is preserved by every completed turn holds before each turn
of a run. -/
theorem before_of_turnsOf {c : Collaborators σ} {mode : Mode} {inputs : List Text} {w : σ}
    {P : List Turn → State → Prop} (hstart : P [] {})
    (hturn : ∀ memory past s step w, P past s →
      (turn c inputs memory step s w).1.failure? = none →
      P (past ++ [(turn c inputs memory step s w).1]) (turn c inputs memory step s w).1.after)
    {past future : List Turn} {t : Turn} (h : turnsOf c mode inputs w = past ++ t :: future) :
    P past t.before ∧ ∃ memory w', t = (turn c inputs memory t.step t.before w').1 := by
  unfold turnsOf at h
  split at h
  · simp at h
  · next memory w₁ _ =>
    split at h
    · simp at h
    · next ids w₂ _ =>
      have hrun := before_of_turns (hturn memory) hstart h
      exact ⟨hrun.1, memory, hrun.2⟩

/-- **At every moment of a run the state is what the turns so far come to**, and the next turn is
taken in that state. -/
theorem follows_of_turnsOf {c : Collaborators σ} {mode : Mode} {inputs : List Text} {w : σ}
    {past future : List Turn} {t : Turn} (h : turnsOf c mode inputs w = past ++ t :: future) :
    Follows inputs past t.before ∧
      ∃ memory w', t = (turn c inputs memory t.step t.before w').1 :=
  before_of_turnsOf (follows_nil inputs) (fun _ _ _ _ _ hpast hok => turn_follows hpast hok) h

end Run
end RuleReview
