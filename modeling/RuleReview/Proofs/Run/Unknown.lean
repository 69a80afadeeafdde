import RuleReview.Proofs.Run.Course
import RuleReview.Proofs.Run.Guards

/-!
# Steps that are not known

A plan may hold identifiers that name no step; a model that is asked for a plan can write anything.
A run tells of such a step and goes on.  This file compares a run with the run of the same plan from
which these identifiers are deleted: each asks for the same, in the same order, and both come to the
same end, also when some request fails on the way.

A store of traces is handed the trace, in which the two runs differ.  That what comes of keeping it
does not depend on the difference is therefore a condition here (`SavesBlindly`).  All other
collaborators can do as they like, and may remember what they were asked before.

## What is here

* `Collaborators.withoutUnknown` — the same collaborators, but nothing unknown is planned.
* `Trace.bare`, `Contact.bare` — a trace and a contact with nothing said about unknown steps.
* `turns_filter_isKnown` — without the unknown steps, the other turns are as they were.
* `Inert`, `unknown_steps_inert` — the comparison of the two runs.
-/

set_option autoImplicit false

namespace RuleReview

/-! ## What is said about unknown steps -/

/-- Whether an event tells of a step that is not known. -/
def TraceEvent.isUnknown (e : TraceEvent) : Bool := e.step = "unknown_step"

/-- An event without the list of the steps that were planned. -/
def TraceEvent.withoutSteps (e : TraceEvent) : TraceEvent :=
  if e.step = "plan" then ⟨e.step, Json.emptyObject⟩ else e

/-- A trace in which nothing is said about steps that are not known. -/
def Trace.bare (t : Trace) : Trace :=
  ⟨(t.events.filter (!·.isUnknown)).map TraceEvent.withoutSteps, t.output⟩

namespace Run

variable {σ : Type}

/-- The event that tells of a step that is not known. -/
def unknownEvent (id : Text) : TraceEvent := ⟨"unknown_step", .object [("step", .string id)]⟩

/-- Whether an identifier names a step. -/
def isKnownId (id : Text) : Bool := Step.vocabulary.any (·.id = id)

theorem isKnown_ofId (id : Text) : (Step.ofId id).isKnown = isKnownId id := by
  have hvocabulary : ∀ s ∈ Step.vocabulary, s.isKnown = true := by decide
  rw [Step.ofId, isKnownId]
  cases h : Step.vocabulary.find? (·.id = id) with
  | none => exact (List.any_eq_false.2 (List.find?_eq_none.1 h)).symm
  | some s =>
    have hmem := List.mem_of_find?_eq_some h
    exact (hvocabulary s hmem).trans (List.any_eq_true.2 ⟨s, hmem, List.find?_some h⟩).symm

/-- The same collaborators, except that no step is planned that is not known. -/
def Collaborators.withoutUnknown (c : Collaborators σ) : Collaborators σ :=
  { c with
    plan := fun mode => Effect.ofTransition fun w =>
      let (ids, w) := (c.plan mode).from w
      (ids.map (List.filter isKnownId), w) }

/-- A contact in which nothing is said about steps that are not known. -/
def Contact.bare : Contact → Contact
  | .plan mode reply => .plan mode (reply.map (List.filter isKnownId))
  | .save trace reply => .save trace.bare reply
  | contact => contact

theorem answer_withoutUnknown (c : Collaborators σ) (call : Call) :
    c.withoutUnknown.answer call = c.answer call := by
  cases call <;> rfl

/-! ## The turns of a plan without unknown steps -/

section Turns

variable (c : Collaborators σ) (inputs : List Text) (memory : Text)

theorem turn_withoutUnknown (step : Step) (s : State) (w : σ) :
    turn c.withoutUnknown inputs memory step s w = turn c inputs memory step s w := by
  unfold turn
  cases s.act inputs memory step with
  | done after events => rfl
  | ask call resume => simp only [answer_withoutUnknown]

theorem turns_withoutUnknown (steps : List Step) (s : State) (w : σ) :
    turns c.withoutUnknown inputs memory steps s w = turns c inputs memory steps s w := by
  induction steps generalizing s w with
  | nil => rfl
  | cons step rest ih => simp only [turns, turn_withoutUnknown, ih]

theorem turn_unknown (id : Text) (s : State) (w : σ) :
    turn c inputs memory (.unknown id) s w = (⟨.unknown id, s, none, s, [.unknownStep id]⟩, w) :=
  rfl

/-- **Without the unknown steps, the other turns are as they were**, and so is what they come to. -/
theorem turns_filter_isKnown (steps : List Step) (s : State) (w : σ) :
    turns c inputs memory (steps.filter (·.isKnown)) s w =
        ((turns c inputs memory steps s w).1.filter (·.step.isKnown),
          (turns c inputs memory steps s w).2) ∧
      outcomeOf s ((turns c inputs memory steps s w).1.filter (·.step.isKnown)) =
        outcomeOf s (turns c inputs memory steps s w).1 := by
  induction steps generalizing s w with
  | nil => exact ⟨rfl, rfl⟩
  | cons step rest ih =>
    cases hknown : step.isKnown with
    | false =>
      obtain ⟨id, rfl⟩ : ∃ id, step = .unknown id := by
        cases step <;> first | exact ⟨_, rfl⟩ | cases hknown
      have hrest := ih s w
      simp only [turns, turn_unknown]
      simpa [Step.isKnown, Turn.failure?, outcomeOf] using hrest
    | true =>
      have hrest := ih (turn c inputs memory step s w).1.after (turn c inputs memory step s w).2
      rw [List.filter_cons_of_pos hknown, turns, turns]
      cases hfail : (turn c inputs memory step s w).1.failure? with
      | some e => simp [hfail, hknown]
      | none =>
        simp [hfail, hknown, outcomeOf, hrest]

end Turns

/-! ## What the turns tell -/

theorem flatMap_filter {α β : Type} (p : α → Bool) (f : α → List β) (l : List α) :
    (l.filter p).flatMap f = l.flatMap fun a => if p a then f a else [] := by
  induction l with
  | nil => rfl
  | cons a rest ih => cases h : p a <;> simp [h, ih]

/-- An event that tells of an unknown step, or of another. -/
theorem isUnknown_entry (e : Event) : e.entry.isUnknown = !(e.step?.all (·.isKnown)) := by
  cases e <;> rfl

section Told

variable {c : Collaborators σ} {mode : Mode} {inputs : List Text} {w : σ}

/-- Each event of a turn tells of its step. -/
theorem step?_of_mem_events {t : Turn} (ht : t ∈ turnsOf c mode inputs w) {e : Event}
    (he : e ∈ t.events) : e.step? = some t.step := by
  obtain ⟨past, future, hsplit⟩ := List.append_of_mem ht
  cases hfail : t.failure? with
  | some fault =>
    obtain ⟨-, memory, w', hturn⟩ := follows_of_turnsOf hsplit
    rw [hturn] at hfail he
    rw [events_of_failed c inputs memory hfail] at he
    cases he
  | none =>
    cases tells_of_turnsOf hsplit hfail with
    | once _ hevents hstep =>
      rw [hevents, List.mem_singleton] at he
      rwa [he]
    | twice hstep _ hevents =>
      rw [hevents] at he
      rw [hstep]
      rcases List.mem_pair.1 he with rfl | rfl <;> rfl

/-- An unknown step asks for nothing and is told of. -/
theorem turn_of_unknown {t : Turn} (ht : t ∈ turnsOf c mode inputs w)
    (h : t.step.isKnown = false) :
    t.exchange = none ∧ t.events = [.unknownStep t.step.id] := by
  obtain ⟨past, future, hsplit⟩ := List.append_of_mem ht
  obtain ⟨-, memory, w', hturn⟩ := follows_of_turnsOf hsplit
  obtain ⟨id, hid⟩ : ∃ id, t.step = .unknown id := by
    cases hstep : t.step with
    | unknown id => exact ⟨id, rfl⟩
    | _ => rw [hstep] at h; cases h
  rw [hid, turn_unknown] at hturn
  rw [hid, hturn]
  exact ⟨rfl, rfl⟩

/-- The events that a turn tells of unknown steps: its own, if its step is not known. -/
theorem filter_isUnknown_events {t : Turn} (ht : t ∈ turnsOf c mode inputs w) :
    t.events.filter (·.entry.isUnknown) =
      if t.step.isKnown then [] else [.unknownStep t.step.id] := by
  cases hknown : t.step.isKnown with
  | true =>
    refine List.filter_eq_nil_iff.2 fun e he => ?_
    rw [isUnknown_entry, step?_of_mem_events ht he]
    simp [hknown]
  | false =>
    rw [(turn_of_unknown ht hknown).2]
    rfl

theorem filter_not_isUnknown_events {t : Turn} (ht : t ∈ turnsOf c mode inputs w) :
    t.events.filter (!·.entry.isUnknown) = if t.step.isKnown then t.events else [] := by
  cases hknown : t.step.isKnown with
  | true =>
    refine List.filter_eq_self.2 fun e he => ?_
    rw [isUnknown_entry, step?_of_mem_events ht he]
    simp [hknown]
  | false =>
    rw [(turn_of_unknown ht hknown).2]
    rfl

/-- The steps of a run go by their identifiers. -/
theorem isKnownId_step {t : Turn} (ht : t ∈ turnsOf c mode inputs w) :
    isKnownId t.step.id = t.step.isKnown := by
  rcases runPlan_cases c mode inputs w with
    ⟨e, w', -, -, hturns⟩ | ⟨memory, e, w', -, -, hturns⟩ | ⟨memory, ids, w₂, w', hturns, -, -⟩
  · rw [hturns] at ht
    cases ht
  · rw [hturns] at ht
    cases ht
  · rw [hturns] at ht
    have hplanned : t.step ∈ ids.map Step.ofId :=
      (steps_turns c inputs memory _ _ _).subset (List.mem_map_of_mem ht)
    obtain ⟨id, -, hid⟩ := List.mem_map.1 hplanned
    rw [← hid, Step.id_ofId, isKnown_ofId]

variable (c mode inputs w)

/-- The identifiers of the steps that a run takes, the last of which may fail. -/
def executedIds : List Text := (turnsOf c mode inputs w).map (·.step.id)

theorem filter_isUnknown_flatMap_events :
    ((turnsOf c mode inputs w).flatMap (·.events)).filter (·.entry.isUnknown) =
      ((executedIds c mode inputs w).filter (!isKnownId ·)).map Event.unknownStep := by
  rw [executedIds, List.filter_map, List.map_map, List.filter_flatMap, List.map_eq_flatMap,
    flatMap_filter]
  refine List.flatMap_congr fun t ht => ?_
  rw [filter_isUnknown_events ht, Function.comp_apply, isKnownId_step ht]
  cases t.step.isKnown <;> rfl

theorem flatMap_events_filter_isKnown :
    ((turnsOf c mode inputs w).filter (·.step.isKnown)).flatMap (·.events) =
      ((turnsOf c mode inputs w).flatMap (·.events)).filter (!·.entry.isUnknown) := by
  rw [List.filter_flatMap, flatMap_filter]
  exact List.flatMap_congr fun t ht => (filter_not_isUnknown_events ht).symm

theorem contactsIn_filter_isKnown :
    contactsIn ((turnsOf c mode inputs w).filter (·.step.isKnown)) =
      contactsIn (turnsOf c mode inputs w) := by
  rw [contactsIn, contactsIn, List.filterMap_filter]
  refine congrArg _ (List.filterMap_congr fun t ht => ?_)
  cases hknown : t.step.isKnown with
  | true => rfl
  | false => exact (turn_of_unknown ht hknown).1.symm

end Told

/-! ## The two runs -/

section Runs

/-- What is made of events does not depend on unknown steps, if the events do not. -/
theorem bare_traceOf {events events' : List Event}
    (h : (events'.filter (!·.entry.isUnknown)).map (·.entry.withoutSteps) =
      (events.filter (!·.entry.isUnknown)).map (·.entry.withoutSteps))
    (outcome : Except Failure Text) :
    (traceOf events' outcome).bare = (traceOf events outcome).bare := by
  have hentries : ((events'.map Event.entry).filter (!·.isUnknown)).map TraceEvent.withoutSteps =
      ((events.map Event.entry).filter (!·.isUnknown)).map TraceEvent.withoutSteps := by
    rw [List.filter_map, List.map_map, List.filter_map, List.map_map]
    exact h
  cases outcome with
  | error e =>
    simp only [traceOf, Trace.bare, List.map_append, List.filter_append, hentries]
  | ok output =>
    simp only [traceOf, Trace.finish, Trace.log, Trace.bare, List.map_append, List.filter_append,
      hentries]

variable (c : Collaborators σ) (mode : Mode) (inputs : List Text) (w : σ)

theorem runPlan_withoutUnknown :
    ∃ outcome events events' w',
      runPlan c mode inputs w = (outcome, events, w') ∧
      runPlan c.withoutUnknown mode inputs w = (outcome, events', w') ∧
      (traceOf events' outcome).bare = (traceOf events outcome).bare ∧
      (planContacts c.withoutUnknown mode inputs w).map Contact.bare =
        (planContacts c mode inputs w).map Contact.bare ∧
      turnsOf c.withoutUnknown mode inputs w =
        (turnsOf c mode inputs w).filter (·.step.isKnown) := by
  cases hnotes : c.notes.from w with
  | mk memory? w₁ =>
    have hnotes' : c.withoutUnknown.notes.from w = (memory?, w₁) := hnotes
    cases memory? with
    | error e =>
      refine ⟨_, _, _, _, runPlan_of_notes_error hnotes, runPlan_of_notes_error hnotes', rfl,
        ?_, ?_⟩
      · simp only [planContacts, hnotes, hnotes']
      · simp only [turnsOf, hnotes, hnotes', List.filter_nil]
    | ok memory =>
      cases hplan : (c.plan mode).from w₁ with
      | mk ids? w₂ =>
        have hplan' : (c.withoutUnknown.plan mode).from w₁ =
            (ids?.map (List.filter isKnownId), w₂) := by
          change (((c.plan mode).from w₁).1.map _, ((c.plan mode).from w₁).2) = _
          rw [hplan]
        cases ids? with
        | error e =>
          refine ⟨_, _, _, _, runPlan_of_plan_error hnotes hplan,
            runPlan_of_plan_error hnotes' hplan', rfl, ?_, ?_⟩
          · simp only [planContacts, hnotes, hnotes', hplan, hplan', Except.map]
          · simp only [turnsOf, hnotes, hnotes', hplan, hplan', Except.map, List.filter_nil]
        | ok ids =>
          have hids : (ids.filter isKnownId).map Step.ofId =
              (ids.map Step.ofId).filter (·.isKnown) := by
            rw [List.filter_map]
            exact congrArg _ (List.filter_congr fun id _ => (isKnown_ofId id).symm)
          have hturns : turnsOf c mode inputs w =
              (turns c inputs memory (ids.map Step.ofId) {} w₂).1 := by
            simp only [turnsOf, hnotes, hplan]
          obtain ⟨hfilter, houtcome⟩ :=
            turns_filter_isKnown c inputs memory (ids.map Step.ofId) {} w₂
          have hrun : runPlan c mode inputs w = _ := runPlan_of_plan hnotes hplan
          have hrun' : runPlan c.withoutUnknown mode inputs w = _ := runPlan_of_plan hnotes' hplan'
          rw [hids, turns_withoutUnknown, hfilter, houtcome, ← hturns] at hrun'
          rw [← hturns] at hrun
          refine ⟨_, _, _, _, hrun, hrun', bare_traceOf ?_ _, ?_, ?_⟩
          · simp only [flatMap_events_filter_isKnown]
            rw [List.filter_cons_of_pos rfl, List.filter_cons_of_pos rfl,
              List.filter_cons_of_pos rfl, List.filter_cons_of_pos rfl, List.filter_filter]
            simp only [Bool.and_self]
            rfl
          · simp only [planContacts, hnotes, hnotes', hplan, hplan', Except.map, hids,
              turns_withoutUnknown, hfilter, ← hturns, contactsIn_filter_isKnown]
            simp only [List.map_cons, Contact.bare, Except.map, List.filter_filter, Bool.and_self]
          · simp only [turnsOf, hnotes, hnotes', hplan, hplan', Except.map, hids,
              turns_withoutUnknown, hfilter]

/-- What of the trace of a run is about unknown steps: those it took, in their order. -/
theorem filter_isUnknown_execute :
    (execute c mode inputs w).1.trace.events.filter (·.isUnknown) =
      ((executedIds c mode inputs w).filter (!isKnownId ·)).map unknownEvent := by
  have htraced (events : List Event) (outcome : Except Failure Text) :
      (traceOf events outcome).events.filter (·.isUnknown) =
        (events.filter (·.entry.isUnknown)).map Event.entry := by
    have hclosing (e : TraceEvent) (h : e.isUnknown = false) :
        (events.map Event.entry ++ [e]).filter (·.isUnknown) =
          (events.filter (·.entry.isUnknown)).map Event.entry := by
      rw [List.filter_append, List.filter_cons_of_neg (by simp [h]), List.filter_nil,
        List.append_nil, List.filter_map]
      rfl
    cases outcome with
    | error e =>
      rw [traceOf, List.map_append]
      exact hclosing (Event.failed e.message).entry rfl
    | ok output => exact hclosing (finishEvent output) rfl
  have htold := congrArg (List.map Event.entry) (filter_isUnknown_flatMap_events c mode inputs w)
  rw [List.map_map] at htold
  rcases runPlan_cases c mode inputs w with
    ⟨e, w', hrun, -, hturns⟩ | ⟨memory, e, w', hrun, -, hturns⟩ |
    ⟨memory, ids, w₂, w', -, -, hrun⟩ <;>
    rw [outcome_of_runPlan hrun, htraced]
  · rw [executedIds, hturns]
    rfl
  · rw [executedIds, hturns]
    rfl
  · exact htold

/-- The identifiers that are taken are those of the plan, up to the end or to a failure. -/
theorem executedIds_prefix {ids : List Text}
    (h : .plan mode (.ok ids) ∈ contactsOf c mode inputs w) :
    executedIds c mode inputs w <+: ids ∧
      ((execute c mode inputs w).1.trace.output.isSome → executedIds c mode inputs w = ids) := by
  have hid (ids : List Text) : (ids.map Step.ofId).map Step.id = ids := by
    rw [List.map_map]
    exact List.map_id'' Step.id_ofId ids
  have hexecuted : executedIds c mode inputs w =
      ((turnsOf c mode inputs w).map (·.step)).map Step.id := by
    rw [executedIds, List.map_map]
    rfl
  rcases runPlan_cases c mode inputs w with
    ⟨e, w', hrun, hbefore, -⟩ | ⟨memory, e, w', hrun, hbefore, -⟩ |
    ⟨memory, ids', w₂, w', hturns, hbefore, hrun⟩ <;>
    rw [contactsOf_of_runPlan hrun, hbefore] at h
  · simp at h
  · simp at h
  · obtain rfl : ids = ids' := by simpa [contactsIn] using h
    rw [hexecuted, outcome_of_runPlan hrun, hturns]
    refine ⟨?_, fun hsome => ?_⟩
    · have hprefix := (steps_turns c inputs memory (ids.map Step.ofId) {} w₂).map Step.id
      rwa [hid] at hprefix
    · rcases turns_cases c inputs memory (ids.map Step.ofId) {} w₂ with
        ⟨last, -, hsteps, -⟩ | ⟨done, t, e, -, he, -⟩
      · rw [hsteps, hid]
      · rw [he] at hsome
        cases hsome

/-- Whether keeping a trace comes to the same whatever it says about unknown steps. -/
def Collaborators.SavesBlindly (c : Collaborators σ) : Prop :=
  ∀ (trace trace' : Trace) (w : σ), trace.bare = trace'.bare →
    ((c.save trace).from w).1 = ((c.save trace').from w).1

/-- That a run and the run without the unknown steps differ in nothing but these. -/
structure Inert : Prop where
  /-- Both return the same output, or fail with the same failure. -/
  result : (execute c.withoutUnknown mode inputs w).1.result = (execute c mode inputs w).1.result
  /-- Both ask for the same, in the same order, and are answered the same. -/
  contacts : (contactsOf c.withoutUnknown mode inputs w).map Contact.bare =
    (contactsOf c mode inputs w).map Contact.bare
  /-- Both record the same output, and the same events besides those of unknown steps. -/
  trace : (execute c.withoutUnknown mode inputs w).1.trace.bare =
    (execute c mode inputs w).1.trace.bare
  /-- Those events are one for each unknown step that is taken. -/
  unknown : (execute c mode inputs w).1.trace.events.filter (·.isUnknown) =
    ((executedIds c mode inputs w).filter (!isKnownId ·)).map unknownEvent
  /-- There are none without the unknown steps. -/
  clean : (execute c.withoutUnknown mode inputs w).1.trace.events.filter (·.isUnknown) = []
  /-- The steps that are taken are those of the plan, up to its end or to a failure. -/
  executed : ∀ ids, .plan mode (.ok ids) ∈ contactsOf c mode inputs w →
    executedIds c mode inputs w <+: ids ∧
      ((execute c mode inputs w).1.trace.output.isSome → executedIds c mode inputs w = ids)

/-- **Steps that are not known are inert.** -/
theorem unknown_steps_inert (hsave : c.SavesBlindly) : Inert c mode inputs w := by
  obtain ⟨outcome, events, events', w', hrun, hrun', htrace, hcontacts, hturns⟩ :=
    runPlan_withoutUnknown c mode inputs w
  have hsaved := hsave _ _ w' htrace
  refine
    { result := ?result, contacts := ?contacts, trace := ?trace
      unknown := filter_isUnknown_execute c mode inputs w
      clean := ?clean
      executed := fun ids => executedIds_prefix c mode inputs w }
  case result =>
    rw [outcome_of_runPlan hrun, outcome_of_runPlan hrun']
    exact congrArg (resultOf outcome) hsaved
  case contacts =>
    rw [contactsOf_of_runPlan hrun, contactsOf_of_runPlan hrun', List.map_append, List.map_append,
      hcontacts]
    simp only [List.map_cons, List.map_nil, Contact.bare, htrace]
    exact congrArg (fun saved => _ ++ [Contact.save _ saved]) hsaved
  case trace =>
    rw [outcome_of_runPlan hrun, outcome_of_runPlan hrun']
    exact htrace
  case clean =>
    rw [filter_isUnknown_execute, List.map_eq_nil_iff, List.filter_eq_nil_iff, executedIds]
    simp only [List.forall_mem_map, hturns, List.mem_filter]
    intro t ⟨ht, hknown⟩
    simp [isKnownId_step ht, hknown]

/-- A plan with two identifiers that name no step, one of them the name of a step in capitals. -/
theorem summarize_inert :
    let c : Collaborators Unit :=
      { hardToPlease with plan := fun _ => pure ["parse", "summarize", "explain", "Verify"] }
    c.SavesBlindly ∧ Inert c .agentic ["else"] () ∧
      (execute c .agentic ["else"] ()).1.trace.events.filter (·.isUnknown) =
        [unknownEvent "summarize", unknownEvent "Verify"] := by
  intro c
  have hsave : c.SavesBlindly := fun _ _ _ _ => rfl
  have hinert := unknown_steps_inert c .agentic ["else"] () hsave
  refine ⟨hsave, hinert, ?_⟩
  have hids : .plan .agentic (.ok ["parse", "summarize", "explain", "Verify"]) ∈
      contactsOf c .agentic ["else"] () :=
    List.mem_cons_of_mem _ List.mem_cons_self
  rw [hinert.unknown, (hinert.executed _ hids).2 rfl]
  rfl

end Runs

end Run
end RuleReview
