import RuleReview.Proofs.Run.History

/-!
# Stretches of a run

What a fixed sequence of steps comes to is put together from what shorter ones come to, down to
single steps.  The state and the collaborators that one stretch leaves are those that the next one
starts from; the first step that fails ends the run, and what would have followed does not matter.

## What is here

* `Completes` — steps that are completed, with their turns and what they leave.
* `Completes.map_step` — the steps that were taken are those that were to be taken.
* `Completes.of_done`, `Completes.of_ask` — single steps; `Completes.append` — one stretch after
  another.
* `Completes.turns_of_failed` — a stretch and then a step that fails.
-/

set_option autoImplicit false

namespace RuleReview
namespace Run

variable {σ : Type} {c : Collaborators σ} {inputs : List Text} {memory : Text}

/-- Steps that are all completed: their turns, and the state and the collaborators they leave. -/
structure Completes (c : Collaborators σ) (inputs : List Text) (memory : Text) (steps : List Step)
    (s : State) (w : σ) (ts : List Turn) (last : State) (w' : σ) : Prop where
  /-- The turns that are taken. -/
  turns_eq : turns c inputs memory steps s w = (ts, w')
  /-- None of them fails. -/
  outcome : outcomeOf s ts = .ok last

namespace Completes

variable {steps rest : List Step} {step : Step} {s mid last : State} {w w₁ w₂ : σ}
  {ts later : List Turn}

/-- Every step is taken, in the order of the steps. -/
theorem map_step (h : Completes c inputs memory steps s w ts last w₁) :
    ts.map (·.step) = steps := by
  obtain ⟨hturns, houtcome⟩ := h
  have hts : (turns c inputs memory steps s w).1 = ts := congrArg Prod.fst hturns
  rcases turns_cases c inputs memory steps s w with
    ⟨_, _, hsteps, _⟩ | ⟨_, _, e, _, he, _⟩
  · rwa [hts] at hsteps
  · rw [hts, houtcome] at he
    cases he

/-- A step that asks for nothing. -/
theorem of_done {after : State} {events : List Event}
    (hact : s.act inputs memory step = .done after events) :
    Completes c inputs memory [step] s w [⟨step, s, none, after, events⟩] after w := by
  have hturn : turn c inputs memory step s w = (⟨step, s, none, after, events⟩, w) := by
    rw [turn, hact]
  exact ⟨by rw [turns, hturn]; rfl, rfl⟩

/-- A step whose request is answered. -/
theorem of_ask {call : Call} {resume : call.Reply → State × List Event} {reply : call.Reply}
    (hact : s.act inputs memory step = .ask call resume)
    (hreply : (c.answer call).from w = (.ok reply, w₁)) :
    Completes c inputs memory [step] s w
      [⟨step, s, some ⟨call, .ok reply⟩, (resume reply).1, (resume reply).2⟩]
      (resume reply).1 w₁ := by
  have hturn : turn c inputs memory step s w =
      (⟨step, s, some ⟨call, .ok reply⟩, (resume reply).1, (resume reply).2⟩, w₁) := by
    rw [turn, hact]
    simp only [hreply]
  exact ⟨by rw [turns, hturn]; rfl, rfl⟩

/-- The turns after a stretch that is completed. -/
theorem turns_append (h : Completes c inputs memory steps s w ts mid w₁) (rest : List Step) :
    turns c inputs memory (steps ++ rest) s w =
        (ts ++ (turns c inputs memory rest mid w₁).1, (turns c inputs memory rest mid w₁).2) ∧
      ∀ later, outcomeOf s (ts ++ later) = outcomeOf mid later := by
  obtain ⟨hturns, houtcome⟩ := h
  induction steps generalizing s w ts with
  | nil =>
    obtain ⟨rfl, rfl⟩ := Prod.mk.inj hturns
    obtain rfl : s = mid := Except.ok.inj houtcome
    exact ⟨rfl, fun _ => rfl⟩
  | cons step steps ih =>
    rw [turns] at hturns
    rw [List.cons_append, turns]
    cases hfail : (turn c inputs memory step s w).1.failure? with
    | some e =>
      simp only [hfail] at hturns
      obtain ⟨rfl, rfl⟩ := Prod.mk.inj hturns
      simp [outcomeOf, hfail] at houtcome
    | none =>
      simp only [hfail] at hturns ⊢
      obtain ⟨rfl, rfl⟩ := Prod.mk.inj hturns
      simp only [outcomeOf, hfail] at houtcome
      obtain ⟨hlater, houtcome'⟩ := ih rfl houtcome
      refine ⟨by rw [hlater]; rfl, fun later => ?_⟩
      simp only [List.cons_append, outcomeOf, hfail, houtcome']

/-- One stretch after another. -/
theorem append (h : Completes c inputs memory steps s w ts mid w₁)
    (hrest : Completes c inputs memory rest mid w₁ later last w₂) :
    Completes c inputs memory (steps ++ rest) s w (ts ++ later) last w₂ := by
  obtain ⟨hturns, houtcome⟩ := h.turns_append rest
  refine ⟨?_, ?_⟩
  · rw [hturns, hrest.turns_eq]
  · rw [houtcome, hrest.outcome]

/-- A stretch after which a step fails: the run ends with its turn. -/
theorem turns_of_failed (h : Completes c inputs memory steps s w ts mid w₁) {call : Call}
    {resume : call.Reply → State × List Event} {e : Failure}
    (hact : mid.act inputs memory step = .ask call resume)
    (hfailed : (c.answer call).from w₁ = (.error e, w₂)) (rest : List Step) :
    turns c inputs memory (steps ++ step :: rest) s w =
        (ts ++ [⟨step, mid, some ⟨call, .error e⟩, mid, []⟩], w₂) ∧
      outcomeOf s (ts ++ [⟨step, mid, some ⟨call, .error e⟩, mid, []⟩]) = .error e := by
  obtain ⟨hturns, houtcome⟩ := h.turns_append (step :: rest)
  have hturn : turn c inputs memory step mid w₁ =
      (⟨step, mid, some ⟨call, .error e⟩, mid, []⟩, w₂) := by
    rw [turn, hact]
    simp only [hfailed]
  refine ⟨?_, ?_⟩
  · rw [hturns, turns, hturn]
    rfl
  · rw [houtcome]
    rfl

end Completes

end Run
end RuleReview
