import Mathlib.Data.List.Basic
import RuleReview.Run.Execute

/-!
# The history of a run

`Run.runSteps` keeps what a run needs: a state, the events and an outcome.  A statement about a
whole run also needs to say which step asked what, and what was known by then.  This file keeps all
of it.

## What is here

* `Turn` — one step as it was taken, with its request and the answer; `turns`, the turns of a run.
* `runSteps_eq_turns` — the run as it is carried out, told from its turns.
* `turns_cases` — either all steps are taken, or the last turn failed.
* `before_of_turns`, `after_of_turns` — what every completed turn preserves holds before each turn
  of a run, and after a run that did not fail.
* `Action.All`, `turn_of_all` — how a statement about every completed turn is reduced to the steps.
-/

set_option autoImplicit false

namespace RuleReview
namespace Run

variable {σ : Type}

/-! ## Turns -/

/-- A request of a step, and what came of it. -/
structure Exchange where
  /-- The request. -/
  call : Call
  /-- The answer, or the failure. -/
  reply : Except Failure call.Reply

/-- The failure of a request that was not answered. -/
def Exchange.failure? (x : Exchange) : Option Failure :=
  match x.reply with
  | .error e => some e
  | .ok _ => none

/-- One step as it was taken. -/
structure Turn where
  /-- The step. -/
  step : Step
  /-- The state it was taken in. -/
  before : State
  /-- The request it made, if it made one. -/
  exchange : Option Exchange
  /-- The state it left. -/
  after : State
  /-- The events it recorded. -/
  events : List Event

namespace Turn

/-- Why the step was not completed: its request failed. -/
def failure? (t : Turn) : Option Failure := t.exchange.bind Exchange.failure?

/-- What the step requested, whether it was answered or not. -/
def asked? (t : Turn) : Option Call := t.exchange.map (·.call)

end Turn

/-- Take one step. -/
def turn (c : Collaborators σ) (inputs : List Text) (memory : Text) (step : Step) (s : State)
    (w : σ) : Turn × σ :=
  match s.act inputs memory step with
  | .done after events => (⟨step, s, none, after, events⟩, w)
  | .ask call resume =>
    match (c.answer call).from w with
    | (.error e, w) => (⟨step, s, some ⟨call, .error e⟩, s, []⟩, w)
    | (.ok reply, w) =>
      (⟨step, s, some ⟨call, .ok reply⟩, (resume reply).1, (resume reply).2⟩, w)

/-- Take steps one after the other until one fails. -/
def turns (c : Collaborators σ) (inputs : List Text) (memory : Text) :
    List Step → State → σ → List Turn × σ
  | [], _, w => ([], w)
  | step :: rest, s, w =>
    let (t, w) := turn c inputs memory step s w
    match t.failure? with
    | some _ => ([t], w)
    | none =>
      let (later, w) := turns c inputs memory rest t.after w
      (t :: later, w)

/-- What turns come to: the state that the last of them left, or its failure. -/
def outcomeOf : State → List Turn → Except Failure State
  | s, [] => .ok s
  | _, t :: rest =>
    match t.failure? with
    | some e => .error e
    | none => outcomeOf t.after rest

section Turns

variable (c : Collaborators σ) (inputs : List Text) (memory : Text)

/-- A run is told from its turns. -/
theorem runSteps_eq_turns (steps : List Step) (s : State) (w : σ) :
    runSteps c inputs memory steps s w =
      (outcomeOf s (turns c inputs memory steps s w).1,
        (turns c inputs memory steps s w).1.flatMap (·.events),
        (turns c inputs memory steps s w).2) := by
  induction steps generalizing s w with
  | nil => rfl
  | cons step rest ih =>
    rw [runSteps, turns, turn]
    cases s.act inputs memory step with
    | done after events =>
      simp [ih, Turn.failure?, outcomeOf]
    | ask call resume =>
      simp only
      cases (c.answer call).from w with
      | mk reply w =>
        cases reply with
        | error e => simp [Turn.failure?, Exchange.failure?, outcomeOf]
        | ok reply => simp [ih, Turn.failure?, Exchange.failure?, outcomeOf]

/-- A turn that failed recorded nothing. -/
theorem events_of_failed {step : Step} {s : State} {w : σ} {e : Failure}
    (h : (turn c inputs memory step s w).1.failure? = some e) :
    (turn c inputs memory step s w).1.events = [] := by
  unfold turn at h ⊢
  split at h
  · cases h
  · split at h
    · rfl
    · cases h

/-- A turn that failed left the state as it was. -/
theorem after_of_failed {step : Step} {s : State} {w : σ} {e : Failure}
    (h : (turn c inputs memory step s w).1.failure? = some e) :
    (turn c inputs memory step s w).1.after = s := by
  unfold turn at h ⊢
  split at h
  · cases h
  · split at h
    · rfl
    · cases h

@[simp] theorem turn_step (step : Step) (s : State) (w : σ) :
    (turn c inputs memory step s w).1.step = step := by
  unfold turn; split <;> [rfl; (split <;> rfl)]

@[simp] theorem turn_before (step : Step) (s : State) (w : σ) :
    (turn c inputs memory step s w).1.before = s := by
  unfold turn; split <;> [rfl; (split <;> rfl)]

/-- Either every step is completed, or the run ends with the first turn that failed. -/
theorem turns_cases (steps : List Step) (s : State) (w : σ) :
    (∃ last, outcomeOf s (turns c inputs memory steps s w).1 = .ok last ∧
        (turns c inputs memory steps s w).1.map (·.step) = steps ∧
        ∀ t ∈ (turns c inputs memory steps s w).1, t.failure? = none) ∨
      ∃ done t e, (turns c inputs memory steps s w).1 = done ++ [t] ∧
        outcomeOf s (turns c inputs memory steps s w).1 = .error e ∧
        (done ++ [t]).map (·.step) <+: steps ∧ (∀ t ∈ done, t.failure? = none) ∧
        t.failure? = some e ∧ t.events = [] := by
  induction steps generalizing s w with
  | nil => exact .inl ⟨s, rfl, rfl, by simp [turns]⟩
  | cons step rest ih =>
    rw [turns]
    cases hfail : (turn c inputs memory step s w).1.failure? with
    | some e =>
      refine .inr ⟨[], (turn c inputs memory step s w).1, e, ?_, ?_, ?_, ?_, hfail,
        events_of_failed c inputs memory hfail⟩
      · simp [hfail]
      · simp [hfail, outcomeOf]
      · simp
      · simp
    | none =>
      simp only [hfail, outcomeOf]
      rcases ih (turn c inputs memory step s w).1.after (turn c inputs memory step s w).2 with
        ⟨last, hlast, hsteps, hok⟩ | ⟨done, t, e, hts, he, hsteps, hok, ht, hsilent⟩
      · exact .inl ⟨last, hlast, by simp [hsteps], by simpa [hfail] using hok⟩
      · refine .inr ⟨(turn c inputs memory step s w).1 :: done, t, e, ?_, he, ?_, ?_, ht, hsilent⟩
        · rw [hts, List.cons_append]
        · simpa using hsteps
        · simpa [hfail] using hok

/-- Steps are taken in their order, and none is left out before the last one taken. -/
theorem steps_turns (steps : List Step) (s : State) (w : σ) :
    (turns c inputs memory steps s w).1.map (·.step) <+: steps := by
  rcases turns_cases c inputs memory steps s w with ⟨_, _, hall, _⟩ | ⟨done, t, _, hts, _, hsome, _⟩
  · exact hall.symm ▸ List.prefix_rfl
  · rwa [hts]

variable {c inputs memory}

/-- **What every completed turn preserves holds of the history before each turn.**  `P past s`
relates the turns so far to the state they left. -/
theorem before_of_turns {P : List Turn → State → Prop}
    (hturn : ∀ past s step w, P past s → (turn c inputs memory step s w).1.failure? = none →
      P (past ++ [(turn c inputs memory step s w).1]) (turn c inputs memory step s w).1.after)
    {steps : List Step} {s : State} {w : σ} {early past future : List Turn} {t : Turn}
    (hstart : P early s) (h : (turns c inputs memory steps s w).1 = past ++ t :: future) :
    P (early ++ past) t.before ∧ ∃ w', t = (turn c inputs memory t.step t.before w').1 := by
  induction steps generalizing s w early past with
  | nil => simp [turns] at h
  | cons step rest ih =>
    cases past with
    | nil =>
      have hfirst : t = (turn c inputs memory step s w).1 := by
        rw [turns] at h
        cases hfail : (turn c inputs memory step s w).1.failure? <;> simp only [hfail] at h <;>
          exact (List.cons.inj h).1.symm
      rw [hfirst, List.append_nil, turn_before, turn_step]
      exact ⟨hstart, w, rfl⟩
    | cons p past =>
      rw [turns] at h
      cases hfail : (turn c inputs memory step s w).1.failure? with
      | some e => simp [hfail] at h
      | none =>
        simp only [hfail] at h
        obtain ⟨rfl, hlater⟩ := List.cons.inj h
        have hnext := ih (hturn early s step w hstart hfail) hlater
        rwa [List.append_assoc] at hnext

/-- **What every completed turn preserves holds of the history of a run that did not fail.** -/
theorem after_of_turns {P : List Turn → State → Prop}
    (hturn : ∀ past s step w, P past s → (turn c inputs memory step s w).1.failure? = none →
      P (past ++ [(turn c inputs memory step s w).1]) (turn c inputs memory step s w).1.after)
    {steps : List Step} {s last : State} {w : σ} {early : List Turn} (hstart : P early s)
    (h : outcomeOf s (turns c inputs memory steps s w).1 = .ok last) :
    P (early ++ (turns c inputs memory steps s w).1) last := by
  induction steps generalizing s w early with
  | nil =>
    obtain rfl : s = last := Except.ok.inj h
    rwa [turns, List.append_nil]
  | cons step rest ih =>
    rw [turns] at h ⊢
    cases hfail : (turn c inputs memory step s w).1.failure? with
    | some e => simp [hfail, outcomeOf] at h
    | none =>
      simp only [hfail, outcomeOf] at h ⊢
      have hnext := ih (hturn early s step w hstart hfail) h
      rwa [List.append_assoc] at hnext

end Turns

/-! ## From what a step does to its turn -/

/-- The request that a step makes. -/
def Action.call? : Action → Option Call
  | .done _ _ => none
  | .ask call _ => some call

/-- Whether a condition holds however a step goes on that no failure cuts short. -/
def Action.All (P : Option Exchange → State → List Event → Prop) : Action → Prop
  | .done after events => P none after events
  | .ask call resume => ∀ reply, P (some ⟨call, .ok reply⟩) (resume reply).1 (resume reply).2

theorem Action.All.imp {P Q : Option Exchange → State → List Event → Prop} {a : Action}
    (ha : a.All P) (h : ∀ x after events, P x after events → Q x after events) : a.All Q := by
  cases a with
  | done after events => exact h _ _ _ ha
  | ask call resume => exact fun reply => h _ _ _ (ha reply)

section Act

variable {c : Collaborators σ} {inputs : List Text} {memory : Text} {step : Step} {s : State}

theorem asked?_turn (w : σ) :
    (turn c inputs memory step s w).1.asked? = (s.act inputs memory step).call? := by
  unfold turn
  cases s.act inputs memory step with
  | done after events => rfl
  | ask call resume => simp only; split <;> rfl

/-- What holds however a step goes on holds of each turn in which it is completed. -/
theorem turn_of_all {P : Turn → Prop} {w : σ}
    (h : (s.act inputs memory step).All fun x after events => P ⟨step, s, x, after, events⟩)
    (hok : (turn c inputs memory step s w).1.failure? = none) :
    P (turn c inputs memory step s w).1 := by
  unfold turn at hok ⊢
  cases hact : s.act inputs memory step with
  | done after events => rwa [hact] at h
  | ask call resume =>
    rw [hact] at h hok
    simp only at hok ⊢
    split at hok
    · cases hok
    · exact h _

end Act

end Run
end RuleReview
