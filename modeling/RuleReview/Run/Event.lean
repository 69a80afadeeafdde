import RuleReview.Plan
import RuleReview.Trace
import RuleReview.Verdict

/-!
# The events of a run

Each step of a run records what it did, or which fallback it took.  An event is told in a trace by a
name and a payload, an object with sorted keys.

## What is here

* `Run.Event`, `Event.name`, `Event.payload`, `Event.entry`.
-/

set_option autoImplicit false

namespace RuleReview
namespace Run

/-- Something that happened in a run. -/
inductive Event where
  /-- The run began. -/
  | started (mode : Mode) (inputs : Nat)
  /-- The plan was fixed. -/
  | planned (steps : List Text)
  /-- An input was read. -/
  | parsed (index branches : Nat) (outputs : NameSet)
  /-- There was no input left to read. -/
  | parseSkipped (index : Nat)
  /-- The static checks were run. -/
  | checked (issues : List Text)
  /-- Background was assembled. -/
  | contextRetrieved (chars : Nat)
  /-- The rule was explained. -/
  | explained (chars : Nat)
  /-- There was no rule to explain. -/
  | explainFellBack
  /-- The explanation was checked. -/
  | verified (verdict : Verdict)
  /-- The explanation was rewritten. -/
  | rewritten (chars : Nat)
  /-- There was no reason to rewrite; the latest verdict is told. -/
  | rewriteSkipped (ok : Option Bool)
  /-- There was no rule to test. -/
  | testsFellBack
  /-- Test cases were generated. -/
  | testsGenerated (count : Nat)
  /-- Two rules were compared. -/
  | compared (chars : Nat)
  /-- There were fewer than two rules to compare. -/
  | compareFellBack (got : Nat)
  /-- A step was not known. -/
  | unknownStep (id : Text)
  /-- The run failed. -/
  | failed (message : Text)

namespace Event

/-- The name of an event. -/
def name : Event → Text
  | started _ _ => "start"
  | planned _ => "plan"
  | parsed _ _ _ => "parse"
  | parseSkipped _ => "parse_skipped"
  | checked _ => "static_checks"
  | contextRetrieved _ => "retrieve_context"
  | explained _ => "explain"
  | explainFellBack => "explain_fallback"
  | verified _ => "verify"
  | rewritten _ => "rewrite"
  | rewriteSkipped _ => "rewrite_skipped"
  | testsFellBack => "generate_tests_fallback"
  | testsGenerated _ => "generate_tests"
  | compared _ => "diff"
  | compareFellBack _ => "diff_fallback"
  | unknownStep _ => "unknown_step"
  | failed _ => "error"

/-- The fields of an event. -/
def fields : Event → List (Text × Json)
  | started mode inputs => [("inputs", .nat inputs), ("mode", .string mode.name)]
  | planned steps => [("steps", .texts steps)]
  | parsed index branches outputs =>
    [("branches", .nat branches), ("index", .nat index), ("outputs", .texts outputs.names)]
  | parseSkipped index => [("idx", .nat index), ("reason", .string "no unconsumed input")]
  | checked issues => [("issues", .texts issues)]
  | contextRetrieved chars => [("context_chars", .nat chars)]
  | explained chars | rewritten chars | compared chars => [("explanation_chars", .nat chars)]
  | explainFellBack | testsFellBack => [("reason", .string "no parsed rule")]
  | verified v =>
    [("missing", .texts v.missing), ("ok", .bool v.ok), ("rewrite_needed", .bool v.rewriteNeeded)]
  | rewriteSkipped ok => [("ok", Json.nullable .bool ok)]
  | testsGenerated count => [("count", .nat count)]
  | compareFellBack got =>
    [("got", .nat got), ("reason", .string "fewer than two parsed rules")]
  | unknownStep id => [("step", .string id)]
  | failed message => [("message", .string message)]

/-- An event as it stands in a trace. -/
def entry (e : Event) : TraceEvent := ⟨e.name, .object e.fields⟩

end Event
end Run
end RuleReview
