import RuleReview.Run.Collaborators
import RuleReview.Run.Event
import RuleReview.Script.Parse

/-!
# Running a plan

A run fixes its plan first and then takes its steps one after the other.  A step whose precondition
does not hold takes a fixed fallback; only a collaborator that fails ends the run early.

Each step makes at most one request.  What it does is therefore a value, an `Action`: either it is
done at once, or it names the request and says how it goes on with the answer.  Steps in any order
and number are then carried out in one and the same way (`runSteps`).

## What is here

* `State` — what the steps share.
* `Action`, `State.act` — what a step does.
* `runSteps`, `runPlan`, `execute` — taking steps, carrying out a plan, and the whole run with its
  trace.
-/

set_option autoImplicit false

namespace RuleReview
namespace Run

open Text

/-! ## Fixed texts -/

/-- The explanation when there is no rule to explain. -/
def fallbackExplanation : Text :=
  "Could not parse any rule branches from the provided rule script."

/-- The comparison when there are fewer than two rules. -/
def diffUnavailable : Text := "Diff requires two parsed rules, but fewer were available."

/-- The output when no step produced any. -/
def noOutput : Text := "No output was produced. Check the plan and earlier steps."

/-- The one issue when there is no rule to check. -/
def noExtractionIssue : Text := "static_checks: no extraction available (parse not run yet)."

/-- What is missing when there is nothing to verify. -/
def nothingToVerify : Text := "verify: missing extraction or explanation"

/-- The test case when there is no rule to test. -/
def errorCase : TestCase where
  name := "error"
  input := Json.emptyObject
  expected := Json.emptyObject
  note := some "No extraction available"

/-! ## What the steps share -/

/-- The state of a run. -/
structure State where
  /-- The inputs read so far, in their order. -/
  rulesets : List Ruleset := []
  /-- Where the next input to read stands. -/
  next : Nat := 0
  /-- The text that the run would return now; several steps write it. -/
  explanation : Text := []
  /-- The latest verdict. -/
  verdict : Option Verdict := none
  /-- The issues of the latest static checks. -/
  issues : List Text := []
  /-- The background of the latest retrieval. -/
  context : Text := []

/-- The rule that was read last. -/
def State.latest (s : State) : Option Ruleset := s.rulesets.getLast?

/-- The text that a run returns. -/
def State.output (s : State) : Text := if s.explanation.isEmpty then noOutput else s.explanation

/-- The background for an explanation: of the notes in memory, what was retrieved, and the issues,
those that are not blank, with blank lines between them. -/
def assembleContext (memory retrieved : Text) (issues : List Text) : Text :=
  let notes : Text :=
    if issues.isEmpty then [] else "Static check notes:" ++ issues.flatMap bullet
  trim (List.intercalate "\n\n" ([memory, retrieved, notes].filter (!isAllBlank ·)))

/-! ## What a step does -/

/-- What a step does: it is done, or it makes a request and goes on with the answer.  Either way it
leaves a state and records events. -/
inductive Action where
  /-- The step is done. -/
  | done (state : State) (events : List Event)
  /-- The step makes a request. -/
  | ask (call : Call) (resume : call.Reply → State × List Event)

/-- What a step does in a state of a run over `inputs`, with the notes in `memory`. -/
def State.act (inputs : List Text) (memory : Text) (s : State) : Step → Action
  | .parse =>
    match inputs[s.next]? with
    | none => .done s [.parseSkipped s.next]
    | some text =>
      let rules := Script.parse text
      .done { s with rulesets := s.rulesets ++ [rules], next := s.next + 1 }
        [.parsed s.next rules.branches.length rules.outputs]
  | .staticChecks =>
    match s.latest with
    | none => .done { s with issues := [noExtractionIssue] } [.checked [noExtractionIssue]]
    | some rules => .ask (.check rules) fun issues => ({ s with issues }, [.checked issues])
  | .retrieveContext =>
    .ask (.retrieve (inputs.headD [])) fun retrieved =>
      let context := assembleContext memory retrieved s.issues
      ({ s with context }, [.contextRetrieved context.length])
  | .explain =>
    match s.latest with
    | none => .done { s with explanation := fallbackExplanation } [.explainFellBack]
    | some rules =>
      .ask (.explain rules s.context) fun text =>
        ({ s with explanation := text }, [.explained text.length])
  | .verify =>
    match s.latest, s.explanation.isEmpty with
    | some rules, false =>
      .ask (.verify rules s.explanation) fun verdict =>
        ({ s with verdict := some verdict }, [.verified verdict])
    | _, _ =>
      let verdict : Verdict := ⟨false, [nothingToVerify], true⟩
      .done { s with verdict := some verdict } [.verified verdict]
  | .rewrite =>
    match s.verdict, s.latest, s.explanation.isEmpty with
    | some ⟨false, missing, _⟩, some rules, false =>
      .ask (.rewrite rules s.explanation missing) fun text =>
        ({ s with explanation := text }, [.rewritten text.length])
    | _, _, _ => .done s [.rewriteSkipped (s.verdict.map (·.ok))]
  | .generateTests =>
    match s.latest with
    | none =>
      .done { s with explanation := TestCase.render [errorCase] }
        [.testsFellBack, .testsGenerated 1]
    | some rules =>
      .ask (.tests rules) fun cases =>
        ({ s with explanation := TestCase.render cases }, [.testsGenerated cases.length])
  | .diff =>
    match s.rulesets with
    | before :: after :: _ =>
      .ask (.compare before after) fun text =>
        ({ s with explanation := text }, [.compared text.length])
    | _ =>
      .done { s with explanation := diffUnavailable } [.compareFellBack s.rulesets.length]
  | .unknown id => .done s [.unknownStep id]

/-! ## Carrying out a plan -/

variable {σ : Type}

/-- Take steps one after the other until one fails: the outcome, the events in their order, and the
state that the collaborators are left in. -/
def runSteps (c : Collaborators σ) (inputs : List Text) (memory : Text) :
    List Step → State → σ → Except Failure State × List Event × σ
  | [], s, w => (.ok s, [], w)
  | step :: rest, s, w =>
    match s.act inputs memory step with
    | .done s events =>
      let (outcome, later, w) := runSteps c inputs memory rest s w
      (outcome, events ++ later, w)
    | .ask call resume =>
      match (c.answer call).from w with
      | (.error e, w) => (.error e, [], w)
      | (.ok reply, w) =>
        let (outcome, later, w) := runSteps c inputs memory rest (resume reply).1 w
        (outcome, (resume reply).2 ++ later, w)

/-- Load the notes, fix the plan, and take its steps. -/
def runPlan (c : Collaborators σ) (mode : Mode) (inputs : List Text) (w : σ) :
    Except Failure Text × List Event × σ :=
  let start := Event.started mode inputs.length
  match c.notes.from w with
  | (.error e, w) => (.error e, [start], w)
  | (.ok memory, w) =>
    match (c.plan mode).from w with
    | (.error e, w) => (.error e, [start], w)
    | (.ok ids, w) =>
      let (outcome, events, w) := runSteps c inputs memory (ids.map Step.ofId) {} w
      (outcome.map State.output, start :: .planned ids :: events, w)

/-- The trace of a run from its events and its outcome. -/
def traceOf (events : List Event) : Except Failure Text → Trace
  | .ok output => Trace.finish ⟨events.map Event.entry, none⟩ output
  | .error e => ⟨(events ++ [Event.failed e.message]).map Event.entry, none⟩

/-- What a run returns: the failure of the plan, or else that of keeping the trace, or else the
output. -/
def resultOf : (plan : Except Failure Text) → (saved : Except Failure Unit) → Except Failure Text
  | .error e, _ => .error e
  | .ok _, .error e => .error e
  | .ok output, .ok () => .ok output

/-- A finished run. -/
structure Outcome where
  /-- The output, or why there is none. -/
  result : Except Failure Text
  /-- What the run did. -/
  trace : Trace

/-- Run a mode over inputs.  The trace is kept at the end, whatever happened. -/
def execute (c : Collaborators σ) (mode : Mode) (inputs : List Text) (w : σ) : Outcome × σ :=
  let (outcome, events, w) := runPlan c mode inputs w
  let trace := traceOf events outcome
  let (saved, w) := (c.save trace).from w
  (⟨resultOf outcome saved, trace⟩, w)

end Run
end RuleReview
