import RuleReview.Failure
import RuleReview.Model.Prompt
import RuleReview.Model.Reply
import RuleReview.TestCase
import RuleReview.Verdict

/-!
# The model analyst

The roles of a run as they are played by a language model: each asks the model once and makes sense
of the reply.  Texts are trimmed.  A verdict and a list of test cases must be there as JSON, or the
role fails.  A plan never fails on account of the reply: what is no list of identifiers gives way to
the fixed plan.

## What is here

* `Generator` — a model: a reply for each prompt.
* `Model.explain`, `rewrite`, `verify`, `compare`, `tests` and `plan`.
-/

set_option autoImplicit false

namespace RuleReview

open Text

/-- A language model, with the state that its replies depend on. -/
abbrev Generator (σ : Type) := Prompt → Effect σ Text

namespace Model

variable {σ : Type}

/-- An explanation of a rule. -/
def explain (model : Generator σ) (rs : Ruleset) (context : Text) : Effect σ Text := do
  return trim (← model (Prompt.explain rs context))

/-- Another explanation. -/
def rewrite (model : Generator σ) (rs : Ruleset) (explanation : Text) (missing : List Text) :
    Effect σ Text := do
  return trim (← model (Prompt.rewrite rs explanation missing))

/-- A comparison of two rules. -/
def compare (model : Generator σ) (before after : Ruleset) : Effect σ Text := do
  return trim (← model (Prompt.compare before after))

/-- Read the JSON that was found in a reply to a role. -/
def readReply {α : Type} (role : ReplyRole) (found : Option Text)
    (parse : Text → Except Json.Fault α) (reply : Text) : Except Failure α :=
  match found with
  | none => .error (.malformed role (.noJson (Reply.excerpt (trim reply))))
  | some json =>
    match parse json with
    | .error fault => .error (.malformed role (.unreadable fault.message (Reply.excerpt json)))
    | .ok a => .ok a

/-- The verdict in a reply. -/
def readVerdict (reply : Text) : Except Failure Verdict :=
  readReply .verify (Reply.object? reply) Verdict.parse? reply

/-- The test cases in a reply. -/
def readTests (reply : Text) : Except Failure (List TestCase) :=
  readReply .tests (Reply.array? reply) TestCase.parseList? reply

/-- A verdict on an explanation. -/
def verify (model : Generator σ) (rs : Ruleset) (explanation : Text) : Effect σ Verdict := do
  let reply ← model (Prompt.verify rs explanation)
  Effect.ofExcept (readVerdict reply)

/-- Test cases for a rule. -/
def tests (model : Generator σ) (rs : Ruleset) : Effect σ (List TestCase) := do
  let reply ← model (Prompt.tests rs)
  Effect.ofExcept (readTests reply)

/-- The identifiers in a reply: an array of at least one string. -/
def readPlan? (reply : Text) : Option (List Text) :=
  match Reply.array? reply with
  | none => none
  | some json =>
    match (do (← Json.tree? json).toList? Json.Tree.toText? : Except Json.Fault (List Text)) with
    | .ok (id :: ids) => some (id :: ids)
    | _ => none

/-- A plan.  The model is asked in the agentic mode only. -/
def plan (model : Generator σ) (mode : Mode) : Effect σ (List Text) := do
  if mode = .agentic then
    let reply ← model (Prompt.plan mode)
    return (readPlan? reply).getD mode.defaultPlan
  else
    return mode.defaultPlan

end Model
end RuleReview
