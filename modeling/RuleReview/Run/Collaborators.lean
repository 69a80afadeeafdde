import RuleReview.Script.Ruleset
import RuleReview.TestCase
import RuleReview.Trace
import RuleReview.Plan
import RuleReview.Verdict

/-!
# Collaborators

A run plans, checks, retrieves and writes nothing by itself.  It asks its collaborators, any of
which may fail.  What a collaborator answers may depend on all that was asked before; the state in
which that is kept is of no concern to the run.

## What is here

* `Run.Collaborators` — one effect for each thing that can be asked.
* `Run.Call` and `Call.Reply` — a request as a value, and the type of its answer.
* `Collaborators.answer` — the effect that a request asks for.
-/

set_option autoImplicit false

namespace RuleReview
namespace Run

/-- Everything a run needs besides its mode and its inputs. -/
structure Collaborators (σ : Type) where
  /-- The formatted notes about the user and the domain. -/
  notes : Effect σ Text
  /-- The identifiers of the steps to take. -/
  plan : Mode → Effect σ (List Text)
  /-- The issues that static checks find in a rule. -/
  check : Ruleset → Effect σ (List Text)
  /-- Background for a query. -/
  retrieve : Text → Effect σ Text
  /-- An explanation of a rule, given background. -/
  explain : Ruleset → Text → Effect σ Text
  /-- A verdict on an explanation of a rule. -/
  verify : Ruleset → Text → Effect σ Verdict
  /-- Another explanation, given what is missing in the first. -/
  rewrite : Ruleset → Text → List Text → Effect σ Text
  /-- What changed from one rule to another. -/
  compare : Ruleset → Ruleset → Effect σ Text
  /-- Test cases for a rule. -/
  tests : Ruleset → Effect σ (List TestCase)
  /-- Keep the trace of the run. -/
  save : Trace → Effect σ Unit

/-- A request of a step to a collaborator. -/
inductive Call where
  /-- Ask for issues. -/
  | check (rules : Ruleset)
  /-- Ask for background. -/
  | retrieve (query : Text)
  /-- Ask for an explanation. -/
  | explain (rules : Ruleset) (context : Text)
  /-- Ask for a verdict. -/
  | verify (rules : Ruleset) (explanation : Text)
  /-- Ask for another explanation. -/
  | rewrite (rules : Ruleset) (explanation : Text) (missing : List Text)
  /-- Ask for a comparison. -/
  | compare (before after : Ruleset)
  /-- Ask for test cases. -/
  | tests (rules : Ruleset)

/-- What a request is answered with. -/
@[reducible]
def Call.Reply : Call → Type
  | .check _ => List Text
  | .retrieve _ => Text
  | .explain _ _ => Text
  | .verify _ _ => Verdict
  | .rewrite _ _ _ => Text
  | .compare _ _ => Text
  | .tests _ => List TestCase

/-- The effect that a request asks for. -/
def Collaborators.answer {σ : Type} (c : Collaborators σ) : (call : Call) → Effect σ call.Reply
  | .check rules => c.check rules
  | .retrieve query => c.retrieve query
  | .explain rules context => c.explain rules context
  | .verify rules explanation => c.verify rules explanation
  | .rewrite rules explanation missing => c.rewrite rules explanation missing
  | .compare before after => c.compare before after
  | .tests rules => c.tests rules

end Run
end RuleReview
