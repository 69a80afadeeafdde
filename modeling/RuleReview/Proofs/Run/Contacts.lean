import RuleReview.Proofs.Run.History

/-!
# What a run asks for

A run is carried out with collaborators of any kind.  To say which of them it asks, and in which
order, it is carried out with collaborators that keep a list of what they are asked and answer as
before.

## What is here

* `Contact` — a request with its answer; `Collaborators.recorded` — collaborators that keep a list
  of contacts.
* `execute_recorded` — the list makes no difference to a run.
* `turnsOf` — the turns of a run; `contactsOf` — all its contacts.
* `runPlan_cases` — how a run begins, and `execute_of_runPlan` — how it ends.
* `Attested`, `turnsOf_attested` — the turns of a run are what it asks for and what its trace tells.
-/

set_option autoImplicit false

namespace RuleReview
namespace Run

variable {σ : Type}

/-- Something that a run asked for, and what came of it. -/
inductive Contact where
  /-- The notes in memory. -/
  | notes (reply : Except Failure Text)
  /-- A plan. -/
  | plan (mode : Mode) (reply : Except Failure (List Text))
  /-- What a step requests. -/
  | step (exchange : Exchange)
  /-- That the trace be kept. -/
  | save (trace : Trace) (reply : Except Failure Unit)

/-- The request of a step. -/
def Contact.exchange? : Contact → Option Exchange
  | step x => some x
  | _ => none

/-- An effect that is added to a list of contacts once its outcome is known. -/
def noting {α : Type} (note : Except Failure α → Contact) (e : Effect σ α) :
    Effect (σ × List Contact) α :=
  Effect.ofTransition fun (w, log) =>
    let (reply, w) := e.from w
    (reply, (w, log ++ [note reply]))

/-- The same collaborators, keeping a list of what they are asked. -/
def Collaborators.recorded (c : Collaborators σ) : Collaborators (σ × List Contact) where
  notes := noting .notes c.notes
  plan mode := noting (.plan mode) (c.plan mode)
  check rules := noting (fun reply => .step ⟨.check rules, reply⟩) (c.check rules)
  retrieve query := noting (fun reply => .step ⟨.retrieve query, reply⟩) (c.retrieve query)
  explain rules context :=
    noting (fun reply => .step ⟨.explain rules context, reply⟩) (c.explain rules context)
  verify rules explanation :=
    noting (fun reply => .step ⟨.verify rules explanation, reply⟩) (c.verify rules explanation)
  rewrite rules explanation missing :=
    noting (fun reply => .step ⟨.rewrite rules explanation missing, reply⟩)
      (c.rewrite rules explanation missing)
  compare before after :=
    noting (fun reply => .step ⟨.compare before after, reply⟩) (c.compare before after)
  tests rules := noting (fun reply => .step ⟨.tests rules, reply⟩) (c.tests rules)
  save trace := noting (.save trace) (c.save trace)

theorem from_noting {α : Type} (note : Except Failure α → Contact) (e : Effect σ α) (w : σ)
    (log : List Contact) :
    (noting note e).from (w, log) = ((e.from w).1, ((e.from w).2, log ++ [note (e.from w).1])) :=
  rfl

theorem answer_recorded (c : Collaborators σ) (call : Call) :
    c.recorded.answer call = noting (fun reply => .step ⟨call, reply⟩) (c.answer call) := by
  cases call <;> rfl

/-- The contacts of turns. -/
def contactsIn (ts : List Turn) : List Contact := (ts.filterMap (·.exchange)).map .step

theorem contactsIn_append (ts later : List Turn) :
    contactsIn (ts ++ later) = contactsIn ts ++ contactsIn later := by
  simp [contactsIn]

section Recorded

variable (c : Collaborators σ) (inputs : List Text) (memory : Text)

theorem turn_recorded (step : Step) (s : State) (w : σ) (log : List Contact) :
    turn c.recorded inputs memory step s (w, log) =
      ((turn c inputs memory step s w).1,
        ((turn c inputs memory step s w).2,
          log ++ contactsIn [(turn c inputs memory step s w).1])) := by
  unfold turn
  cases s.act inputs memory step with
  | done after events => simp [contactsIn]
  | ask call resume =>
    simp only [answer_recorded, from_noting]
    cases (c.answer call).from w with
    | mk reply w => cases reply <;> rfl

theorem turns_recorded (steps : List Step) (s : State) (w : σ) (log : List Contact) :
    turns c.recorded inputs memory steps s (w, log) =
      ((turns c inputs memory steps s w).1,
        ((turns c inputs memory steps s w).2,
          log ++ contactsIn (turns c inputs memory steps s w).1)) := by
  induction steps generalizing s w log with
  | nil => simp [turns, contactsIn]
  | cons step rest ih =>
    rw [turns, turns, turn_recorded]
    cases hfail : (turn c inputs memory step s w).1.failure? with
    | some e => simp [hfail]
    | none =>
      simp only [hfail, ih, List.append_assoc, ← contactsIn_append, List.singleton_append]

end Recorded

/-! ## Whole runs -/

section Execute

variable (c : Collaborators σ) (mode : Mode) (inputs : List Text) (w : σ)

/-- The turns of a run; there are none if no plan was fixed. -/
def turnsOf : List Turn :=
  match c.notes.from w with
  | (.error _, _) => []
  | (.ok memory, w) =>
    match (c.plan mode).from w with
    | (.error _, _) => []
    | (.ok ids, w) => (turns c inputs memory (ids.map Step.ofId) {} w).1

/-- Everything that a run asks for, in its order. -/
def contactsOf : List Contact := (execute c.recorded mode inputs (w, [])).2.2

variable {c mode inputs w}

theorem runPlan_of_notes_error {e : Failure} {w₁ : σ} (hnotes : c.notes.from w = (.error e, w₁)) :
    runPlan c mode inputs w = (.error e, [.started mode inputs.length], w₁) := by
  rw [runPlan, hnotes]

theorem runPlan_of_plan_error {memory : Text} {e : Failure} {w₁ w₂ : σ}
    (hnotes : c.notes.from w = (.ok memory, w₁))
    (hplan : (c.plan mode).from w₁ = (.error e, w₂)) :
    runPlan c mode inputs w = (.error e, [.started mode inputs.length], w₂) := by
  rw [runPlan, hnotes]
  simp only [hplan]

theorem runPlan_of_plan {memory : Text} {ids : List Text} {w₁ w₂ : σ}
    (hnotes : c.notes.from w = (.ok memory, w₁))
    (hplan : (c.plan mode).from w₁ = (.ok ids, w₂)) :
    runPlan c mode inputs w =
      ((outcomeOf {} (turns c inputs memory (ids.map Step.ofId) {} w₂).1).map State.output,
        .started mode inputs.length :: .planned ids ::
          (turns c inputs memory (ids.map Step.ofId) {} w₂).1.flatMap (·.events),
        (turns c inputs memory (ids.map Step.ofId) {} w₂).2) := by
  rw [runPlan, hnotes]
  simp only [hplan, runSteps_eq_turns]

variable (c mode inputs w)

/-- What a run asks for before it keeps its trace. -/
def planContacts : List Contact :=
  match c.notes.from w with
  | (.error e, _) => [.notes (.error e)]
  | (.ok memory, w) =>
    match (c.plan mode).from w with
    | (.error e, _) => [.notes (.ok memory), .plan mode (.error e)]
    | (.ok ids, w) =>
      .notes (.ok memory) :: .plan mode (.ok ids) ::
        contactsIn (turns c inputs memory (ids.map Step.ofId) {} w).1

theorem runPlan_recorded :
    runPlan c.recorded mode inputs (w, []) =
      ((runPlan c mode inputs w).1, (runPlan c mode inputs w).2.1,
        ((runPlan c mode inputs w).2.2, planContacts c mode inputs w)) := by
  have hnotes := from_noting .notes c.notes w []
  unfold planContacts
  cases hn : c.notes.from w with
  | mk memory? w₁ =>
    rw [hn] at hnotes
    cases memory? with
    | error e =>
      rw [runPlan_of_notes_error hn, runPlan_of_notes_error (c := c.recorded) hnotes]
      rfl
    | ok memory =>
      have hplan := from_noting (.plan mode) (c.plan mode) w₁ [.notes (.ok memory)]
      cases hp : (c.plan mode).from w₁ with
      | mk ids? w₂ =>
        rw [hp] at hplan
        cases ids? with
        | error e =>
          rw [runPlan_of_plan_error hn hp, runPlan_of_plan_error (c := c.recorded) hnotes hplan]
          simp only [hp]
          rfl
        | ok ids =>
          rw [runPlan_of_plan hn hp, runPlan_of_plan (c := c.recorded) hnotes hplan,
            turns_recorded]
          simp only [hp]
          rfl

/-- **Keeping a list of contacts makes no difference to a run.** -/
theorem execute_recorded :
    execute c.recorded mode inputs (w, []) =
      ((execute c mode inputs w).1, ((execute c mode inputs w).2, contactsOf c mode inputs w)) := by
  rw [contactsOf, execute, execute, runPlan_recorded]
  rfl

/-- **The three ways in which a run begins.**  The notes cannot be loaded, no plan is made, or the
steps of the plan are taken. -/
theorem runPlan_cases :
    (∃ e w', runPlan c mode inputs w = (.error e, [.started mode inputs.length], w') ∧
        planContacts c mode inputs w = [.notes (.error e)] ∧ turnsOf c mode inputs w = []) ∨
      (∃ memory e w', runPlan c mode inputs w = (.error e, [.started mode inputs.length], w') ∧
        planContacts c mode inputs w = [.notes (.ok memory), .plan mode (.error e)] ∧
        turnsOf c mode inputs w = []) ∨
      ∃ memory ids w₂ w',
        turnsOf c mode inputs w = (turns c inputs memory (ids.map Step.ofId) {} w₂).1 ∧
        planContacts c mode inputs w =
          .notes (.ok memory) :: .plan mode (.ok ids) :: contactsIn (turnsOf c mode inputs w) ∧
        runPlan c mode inputs w =
          ((outcomeOf {} (turnsOf c mode inputs w)).map State.output,
            .started mode inputs.length :: .planned ids ::
              (turnsOf c mode inputs w).flatMap (·.events), w') := by
  cases hnotes : c.notes.from w with
  | mk memory? w₁ =>
    cases memory? with
    | error e =>
      refine .inl ⟨e, w₁, runPlan_of_notes_error hnotes, ?_, ?_⟩
      · simp only [planContacts, hnotes]
      · simp only [turnsOf, hnotes]
    | ok memory =>
      cases hplan : (c.plan mode).from w₁ with
      | mk ids? w₂ =>
        cases ids? with
        | error e =>
          refine .inr (.inl ⟨memory, e, w₂, runPlan_of_plan_error hnotes hplan, ?_, ?_⟩)
          · simp only [planContacts, hnotes, hplan]
          · simp only [turnsOf, hnotes, hplan]
        | ok ids =>
          have hturns : turnsOf c mode inputs w =
              (turns c inputs memory (ids.map Step.ofId) {} w₂).1 := by
            simp only [turnsOf, hnotes, hplan]
          refine .inr (.inr ⟨memory, ids, w₂,
            (turns c inputs memory (ids.map Step.ofId) {} w₂).2, hturns, ?_, ?_⟩)
          · rw [hturns]
            simp only [planContacts, hnotes, hplan]
          · rw [runPlan_of_plan hnotes hplan, hturns]

variable {c mode inputs w}

theorem outcome_of_runPlan {outcome : Except Failure Text} {events : List Event} {w' : σ}
    (h : runPlan c mode inputs w = (outcome, events, w')) :
    (execute c mode inputs w).1 =
      ⟨resultOf outcome ((c.save (traceOf events outcome)).from w').1,
        traceOf events outcome⟩ := by
  rw [execute, h]

theorem contactsOf_of_runPlan {outcome : Except Failure Text} {events : List Event} {w' : σ}
    (h : runPlan c mode inputs w = (outcome, events, w')) :
    contactsOf c mode inputs w = planContacts c mode inputs w ++
      [.save (traceOf events outcome) ((c.save (traceOf events outcome)).from w').1] := by
  rw [contactsOf, execute, runPlan_recorded, h]
  rfl

/-- How a run ends once its events and its outcome are known: after everything else it asks once
that the trace be kept, and returns. -/
theorem execute_of_runPlan {outcome : Except Failure Text} {events : List Event} {w' : σ}
    (h : runPlan c mode inputs w = (outcome, events, w')) :
    ∃ saved, (execute c mode inputs w).1 = ⟨resultOf outcome saved, traceOf events outcome⟩ ∧
      contactsOf c mode inputs w =
        planContacts c mode inputs w ++ [.save (traceOf events outcome) saved] :=
  ⟨_, outcome_of_runPlan h, contactsOf_of_runPlan h⟩

/-! ## The turns of a run are attested -/

/-- The events of turns, as they stand in a trace. -/
def told (ts : List Turn) : List TraceEvent := (ts.flatMap (·.events)).map Event.entry

/-- The end of a run adds one event to its trace. -/
theorem events_traceOf (events : List Event) (outcome : Except Failure Text) :
    ∃ closing, (traceOf events outcome).events = events.map Event.entry ++ [closing] := by
  cases outcome with
  | error e => exact ⟨(Event.failed e.message).entry, by simp [traceOf]⟩
  | ok output => exact ⟨_, rfl⟩

variable (c mode inputs w)

/-- That turns are what a run did: what they request is what the collaborators are asked, what they
tell is what stands in the trace, and they take the steps of the plan in its order. -/
structure Attested (ts : List Turn) : Prop where
  /-- Keeping a list of contacts makes no difference. -/
  recorded : execute c.recorded mode inputs (w, []) =
    ((execute c mode inputs w).1, ((execute c mode inputs w).2, contactsOf c mode inputs w))
  /-- What was asked for by steps, in its order. -/
  requests : (contactsOf c mode inputs w).filterMap Contact.exchange? = ts.filterMap (·.exchange)
  /-- What was told by steps, without a gap. -/
  events : told ts <:+: (execute c mode inputs w).1.trace.events
  /-- The steps that were taken. -/
  steps : ∀ ids, .plan mode (.ok ids) ∈ contactsOf c mode inputs w →
    ts.map (·.step) <+: ids.map Step.ofId

theorem exchanges_contactsIn (ts : List Turn) :
    (contactsIn ts).filterMap Contact.exchange? = ts.filterMap (·.exchange) := by
  rw [contactsIn, List.filterMap_map]
  exact List.filterMap_some

/-- **The turns of a run are attested** by what it asks for and by its trace. -/
theorem turnsOf_attested : Attested c mode inputs w (turnsOf c mode inputs w) := by
  have hrecorded := execute_recorded c mode inputs w
  rcases runPlan_cases c mode inputs w with
    ⟨e, w', hrun, hbefore, hturns⟩ | ⟨memory, e, w', hrun, hbefore, hturns⟩ |
    ⟨memory, ids, w₂, w', hturns, hbefore, hrun⟩ <;>
    obtain ⟨saved, houtcome, hcontacts⟩ := execute_of_runPlan hrun <;>
    rw [hbefore] at hcontacts
  · rw [hturns]
    refine ⟨hrecorded, ?_, List.nil_infix, fun ids _ => List.nil_prefix⟩
    simp [hcontacts, Contact.exchange?]
  · rw [hturns]
    refine ⟨hrecorded, ?_, List.nil_infix, fun ids _ => List.nil_prefix⟩
    simp [hcontacts, Contact.exchange?]
  · refine ⟨hrecorded, ?_, ?_, fun ids' hids => ?_⟩
    · rw [hcontacts, List.filterMap_append]
      change (contactsIn _).filterMap Contact.exchange? ++ [] = _
      rw [List.append_nil, exchanges_contactsIn]
    · obtain ⟨closing, hclosing⟩ := events_traceOf
        (.started mode inputs.length :: .planned ids ::
          (turnsOf c mode inputs w).flatMap (·.events))
        ((outcomeOf {} (turnsOf c mode inputs w)).map State.output)
      rw [houtcome, hclosing]
      exact ⟨[(Event.started mode inputs.length).entry, (Event.planned ids).entry], [closing], rfl⟩
    · have hsame : ids' = ids := by
        simpa [hcontacts, contactsIn] using hids
      rw [hsame, hturns]
      exact steps_turns c inputs memory _ _ _

variable {c mode inputs w}

/-- What a step is known to have requested was requested in one of the turns. -/
theorem exists_turn_of_contact {x : Exchange} (h : .step x ∈ contactsOf c mode inputs w) :
    ∃ t ∈ turnsOf c mode inputs w, t.exchange = some x := by
  have hrequest : x ∈ (contactsOf c mode inputs w).filterMap Contact.exchange? :=
    List.mem_filterMap.2 ⟨_, h, rfl⟩
  rw [(turnsOf_attested c mode inputs w).requests] at hrequest
  exact List.mem_filterMap.1 hrequest

end Execute
end Run
end RuleReview
