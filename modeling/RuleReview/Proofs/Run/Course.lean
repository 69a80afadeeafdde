import RuleReview.Proofs.Run.Ledger

/-!
# The course of a run

Whatever its plan and its collaborators do, a run goes one of four ways: the notes cannot be loaded,
no plan is made, a step fails, or all steps are completed.  `Course` spells out for each of them
what is asked for, in which order, what stands in the trace and what is returned.  `execute_course`
says that every run is one of these.

## What is here

* `Event.step?`, `Tells` — which events a completed step records.
* `Course` — the four ways, and `execute_course`.
-/

set_option autoImplicit false

namespace RuleReview
namespace Run

variable {σ : Type}

/-! ## The events of a completed step -/

/-- The step that an event tells of; the ends of a run are no steps. -/
def Event.step? : Event → Option Step
  | .started _ _ | .planned _ | .failed _ => none
  | .parsed _ _ _ | .parseSkipped _ => some .parse
  | .checked _ => some .staticChecks
  | .contextRetrieved _ => some .retrieveContext
  | .explained _ | .explainFellBack => some .explain
  | .verified _ => some .verify
  | .rewritten _ | .rewriteSkipped _ => some .rewrite
  | .testsFellBack | .testsGenerated _ => some .generateTests
  | .compared _ | .compareFellBack _ => some .diff
  | .unknownStep id => some (.unknown id)

/-- What a completed turn records after others: one event that tells of its step, and two when test
cases were wanted before any rule was read. -/
inductive Tells (inputs : List Text) (past : List Turn) (t : Turn) : Prop
  | once {event : Event} (h : ¬ (t.step = .generateTests ∧ parsedBy inputs past = []))
      (hevents : t.events = [event]) (hstep : event.step? = some t.step)
  | twice (hstep : t.step = .generateTests) (hnone : parsedBy inputs past = [])
      (hevents : t.events = [.testsFellBack, .testsGenerated 1])

/-- Turns that were all completed, and of which each told its events. -/
def Completed (inputs : List Text) (done : List Turn) : Prop :=
  ∀ past t future, done = past ++ t :: future → t.failure? = none ∧ Tells inputs past t

theorem latest_eq_none_iff {inputs : List Text} {past : List Turn} {s : State}
    (h : Follows inputs past s) : s.latest = none ↔ parsedBy inputs past = [] := by
  rw [State.latest, List.getLast?_eq_none_iff, h.rulesets]

/-- A step other than the generation of test cases tells its one event. -/
theorem Tells.of_event {inputs : List Text} {past : List Turn} {t : Turn} {event : Event}
    (h : t.step ≠ .generateTests) (hevents : t.events = [event])
    (hstep : event.step? = some t.step) : Tells inputs past t :=
  .once (fun hboth => h hboth.1) hevents hstep

theorem act_tells {inputs : List Text} {past : List Turn} {s : State} (h : Follows inputs past s)
    (memory : Text) (step : Step) :
    (s.act inputs memory step).All fun x after events =>
      Tells inputs past ⟨step, s, x, after, events⟩ := by
  cases step with
  | parse =>
    simp only [State.act]
    split
    · exact .of_event (by simp) rfl rfl
    · exact .of_event (by simp) rfl rfl
  | staticChecks =>
    simp only [State.act]
    split
    · exact .of_event (by simp) rfl rfl
    · exact fun reply => .of_event (by simp) rfl rfl
  | retrieveContext => exact fun reply => .of_event (by simp) rfl rfl
  | explain =>
    simp only [State.act]
    split
    · exact .of_event (by simp) rfl rfl
    · exact fun reply => .of_event (by simp) rfl rfl
  | verify =>
    simp only [State.act]
    split
    · exact fun reply => .of_event (by simp) rfl rfl
    · exact .of_event (by simp) rfl rfl
  | rewrite =>
    simp only [State.act]
    split
    · exact fun reply => .of_event (by simp) rfl rfl
    · exact .of_event (by simp) rfl rfl
  | generateTests =>
    simp only [State.act]
    split
    · next hnone => exact .twice rfl ((latest_eq_none_iff h).1 hnone) rfl
    · next rules hsome =>
      have hsomeone : ¬ parsedBy inputs past = [] := by
        rw [← latest_eq_none_iff h, hsome]
        simp
      exact fun reply => .once (fun hboth => hsomeone hboth.2) rfl rfl
  | diff =>
    simp only [State.act]
    split
    · exact fun reply => .of_event (by simp) rfl rfl
    · exact .of_event (by simp) rfl rfl
  | unknown id => exact .of_event (by simp) rfl rfl

/-- A completed turn of a run tells its events. -/
theorem tells_of_turnsOf {c : Collaborators σ} {mode : Mode} {inputs : List Text} {w : σ}
    {past future : List Turn} {t : Turn} (h : turnsOf c mode inputs w = past ++ t :: future)
    (hok : t.failure? = none) : Tells inputs past t := by
  obtain ⟨hfollows, memory, w', hturn⟩ := follows_of_turnsOf h
  rw [hturn] at hok ⊢
  exact turn_of_all (P := Tells inputs past) (act_tells hfollows memory t.step) hok

/-! ## The four ways of a run -/

/-- The first event of a run. -/
def startEvent (mode : Mode) (inputs : List Text) : TraceEvent :=
  ⟨"start", .object [("inputs", .nat inputs.length), ("mode", .string mode.name)]⟩

/-- The event of a plan, with its identifiers as they were planned. -/
def planEvent (ids : List Text) : TraceEvent := ⟨"plan", .object [("steps", .texts ids)]⟩

/-- The last event of a run that failed. -/
def errorEvent (e : Failure) : TraceEvent := ⟨"error", .object [("message", .string e.message)]⟩

/-- The last event of a run that did not fail. -/
def finishEvent (output : Text) : TraceEvent :=
  ⟨"finish", .object [("output_chars", .nat output.length)]⟩

/-- The ways of a run: its turns, what it asks for, and what it comes to.  The trace is kept once,
at the end, and what comes of that matters only to a run that did not fail. -/
inductive Course (mode : Mode) (inputs : List Text) : List Turn → List Contact → Outcome → Prop
  /-- The notes cannot be loaded.  No plan is asked for. -/
  | withoutNotes {e : Failure} {trace : Trace} {saved : Except Failure Unit}
      (htrace : trace = ⟨[startEvent mode inputs, errorEvent e], none⟩) :
      Course mode inputs [] [.notes (.error e), .save trace saved] ⟨.error e, trace⟩
  /-- No plan is made. -/
  | withoutPlan {memory : Text} {e : Failure} {trace : Trace} {saved : Except Failure Unit}
      (htrace : trace = ⟨[startEvent mode inputs, errorEvent e], none⟩) :
      Course mode inputs [] [.notes (.ok memory), .plan mode (.error e), .save trace saved]
        ⟨.error e, trace⟩
  /-- A step fails.  It records nothing, and nothing is done after it. -/
  | broken {memory : Text} {ids : List Text} {done : List Turn} {last : Turn} {e : Failure}
      {trace : Trace} {saved : Except Failure Unit}
      (hsteps : (done ++ [last]).map (·.step) <+: ids.map Step.ofId)
      (hdone : Completed inputs done) (hlast : last.failure? = some e) (hsilent : last.events = [])
      (htrace : trace =
        ⟨startEvent mode inputs :: planEvent ids :: (told done ++ [errorEvent e]), none⟩) :
      Course mode inputs (done ++ [last])
        (.notes (.ok memory) :: .plan mode (.ok ids) ::
          (contactsIn (done ++ [last]) ++ [.save trace saved]))
        ⟨.error e, trace⟩
  /-- All steps are completed, and there is an output: the text that was written last, or a fixed
  one in place of an empty text. -/
  | finished {memory : Text} {ids : List Text} {done : List Turn} {output : Text} {trace : Trace}
      {saved : Except Failure Unit} (hsteps : done.map (·.step) = ids.map Step.ofId)
      (hdone : Completed inputs done) (hne : output ≠ [])
      (houtput : output = if explanationOf done = [] then noOutput else explanationOf done)
      (htrace : trace =
        ⟨startEvent mode inputs :: planEvent ids :: (told done ++ [finishEvent output]),
          some output⟩) :
      Course mode inputs done
        (.notes (.ok memory) :: .plan mode (.ok ids) ::
          (contactsIn done ++ [.save trace saved]))
        ⟨saved.map fun _ => output, trace⟩

theorem output_ne_nil (s : State) : s.output ≠ [] := by
  rw [State.output]
  split
  · decide
  · next h => simpa using h

theorem output_of_follows {inputs : List Text} {done : List Turn} {last : State}
    (h : Follows inputs done last) :
    last.output = if explanationOf done = [] then noOutput else explanationOf done := by
  rw [State.output, h.explanation]
  simp only [List.isEmpty_iff]

theorem resultOf_ok (output : Text) (saved : Except Failure Unit) :
    resultOf (.ok output) saved = saved.map fun _ => output := by
  cases saved <;> rfl

/-- A run that returns an output has come to it before its trace is kept. -/
theorem eq_ok_of_resultOf {plan : Except Failure Text} {saved : Except Failure Unit} {output : Text}
    (h : resultOf plan saved = .ok output) : plan = .ok output := by
  cases plan with
  | error e => cases h
  | ok text =>
    cases saved with
    | error e => cases h
    | ok _ => exact h

/-- The turns of a run were completed, as long as none of them failed. -/
theorem completed_of_turnsOf {c : Collaborators σ} {mode : Mode} {inputs : List Text} {w : σ}
    {done rest : List Turn} (h : turnsOf c mode inputs w = done ++ rest)
    (hok : ∀ t ∈ done, t.failure? = none) : Completed inputs done := by
  intro past t future hsplit
  have ht : t.failure? = none := hok t (by simp [hsplit])
  have hwhole : turnsOf c mode inputs w = past ++ t :: (future ++ rest) := by
    rw [h, hsplit, List.append_assoc, List.cons_append]
  exact ⟨ht, tells_of_turnsOf hwhole ht⟩

/-- **Every run takes one of the four ways**, and keeping a list of what it asks for changes nothing
about it. -/
theorem execute_course (c : Collaborators σ) (mode : Mode) (inputs : List Text) (w : σ) :
    execute c.recorded mode inputs (w, []) =
        ((execute c mode inputs w).1, ((execute c mode inputs w).2, contactsOf c mode inputs w)) ∧
      Course mode inputs (turnsOf c mode inputs w) (contactsOf c mode inputs w)
        (execute c mode inputs w).1 := by
  refine ⟨execute_recorded c mode inputs w, ?_⟩
  rcases runPlan_cases c mode inputs w with
    ⟨e, w', hrun, hbefore, hturns⟩ | ⟨memory, e, w', hrun, hbefore, hturns⟩ |
    ⟨memory, ids, w₂, w', hturns, hbefore, hrun⟩ <;>
    obtain ⟨saved, houtcome, hcontacts⟩ := execute_of_runPlan hrun <;>
    rw [houtcome, hcontacts, hbefore]
  · rw [hturns]
    exact .withoutNotes rfl
  · rw [hturns]
    exact .withoutPlan rfl
  · rcases turns_cases c inputs memory (ids.map Step.ofId) {} w₂ with
      ⟨last, hlast, hsteps, hok⟩ | ⟨done, t, e, hts, he, hsteps, hok, ht, hsilent⟩
    · have hfollows := follows_of_outcomeOf hlast
      rw [← hturns] at hlast hsteps hok hfollows
      have hdone := completed_of_turnsOf (List.append_nil _).symm hok
      rw [hlast, Except.map, resultOf_ok]
      exact .finished hsteps hdone (output_ne_nil last) (output_of_follows hfollows) rfl
    · rw [← hturns] at hts he
      have hdone := completed_of_turnsOf hts hok
      have htold : (done ++ [t]).flatMap (·.events) = done.flatMap (·.events) := by
        rw [List.flatMap_append, List.flatMap_singleton, hsilent, List.append_nil]
      rw [he, hts, htold]
      refine .broken hsteps hdone ht hsilent ?_
      simp only [Except.map, traceOf, told, List.map_append]
      rfl

end Run
end RuleReview
