import RuleReview.Text.Blank
import RuleReview.Text.Case

/-!
# Modes, steps and plans

A mode is what the caller wants of a run; a plan is the sequence of steps that the run takes.  Steps
are named by identifiers.  An identifier that names no step is kept as it is, and the run notes it
and goes on.

## What is here

* `Mode`, `Mode.ofText` — reading a mode, without regard to case and outer blanks.
* `Step`, `Step.ofId`, `Step.id` — steps and their identifiers; `Step.id_ofId`.
* `Mode.defaultSteps` — the fixed plan of each mode.
-/

set_option autoImplicit false

namespace RuleReview

open Text

/-! ## Modes -/

/-- What the caller wants of a run. -/
inductive Mode where
  /-- An explanation. -/
  | explain
  /-- An explanation that was checked, and rewritten if it was found wanting. -/
  | verify
  /-- Test cases. -/
  | tests
  /-- A comparison of two rules. -/
  | diff
  /-- Whatever the planner plans. -/
  | agentic
  deriving DecidableEq

namespace Mode

/-- The word for a mode. -/
def name : Mode → Text
  | explain => "explain"
  | verify => "verify"
  | tests => "tests"
  | diff => "diff"
  | agentic => "agentic"

/-- The modes. -/
def all : List Mode := [explain, verify, tests, diff, agentic]

/-- A word that names no mode, in small letters. -/
structure Unknown where
  /-- The word. -/
  word : Text

/-- The complaint about a word that names no mode. -/
def Unknown.message (u : Unknown) : Text :=
  "unknown mode " ++ quoted u.word ++ " (expected explain, verify, tests, diff, or agentic)"

/-- The mode that a text names. -/
def ofText (t : Text) : Except Unknown Mode :=
  let word := lower (trim t)
  match all.find? (·.name = word) with
  | some mode => .ok mode
  | none => .error ⟨word⟩

end Mode

/-! ## Steps -/

/-- One step of a plan. -/
inductive Step where
  /-- Read the next input. -/
  | parse
  /-- Run the static checks on the latest rule. -/
  | staticChecks
  /-- Assemble background for the explanation. -/
  | retrieveContext
  /-- Explain the latest rule. -/
  | explain
  /-- Check the explanation. -/
  | verify
  /-- Rewrite an explanation that was found wanting. -/
  | rewrite
  /-- Generate test cases for the latest rule. -/
  | generateTests
  /-- Compare the first two rules. -/
  | diff
  /-- An identifier that names no step. -/
  | unknown (id : Text)
  deriving DecidableEq

namespace Step

/-- The identifier of a step. -/
def id : Step → Text
  | parse => "parse"
  | staticChecks => "static_checks"
  | retrieveContext => "retrieve_context"
  | explain => "explain"
  | verify => "verify"
  | rewrite => "rewrite"
  | generateTests => "generate_tests"
  | diff => "diff"
  | unknown t => t

/-- The steps that a run knows how to take. -/
def vocabulary : List Step :=
  [parse, staticChecks, retrieveContext, explain, verify, rewrite, generateTests, diff]

/-- The step that an identifier names. -/
def ofId (t : Text) : Step := (vocabulary.find? (·.id = t)).getD (unknown t)

/-- Whether a run knows how to take the step. -/
def isKnown : Step → Bool
  | unknown _ => false
  | _ => true

/-- A step keeps the identifier it was named by. -/
theorem id_ofId (t : Text) : (ofId t).id = t := by
  unfold ofId
  cases h : vocabulary.find? (·.id = t) with
  | none => rfl
  | some s => simpa using List.find?_some h

end Step

/-- The fixed sequence of steps of each mode. -/
def Mode.defaultSteps : Mode → List Step
  | explain => [.parse, .staticChecks, .retrieveContext, .explain]
  | verify | agentic =>
    [.parse, .staticChecks, .retrieveContext, .explain, .verify, .rewrite]
  | tests => [.parse, .staticChecks, .generateTests]
  | diff => [.parse, .parse, .diff]

/-- The identifiers of the fixed steps of a mode. -/
def Mode.defaultPlan (mode : Mode) : List Text := mode.defaultSteps.map Step.id

end RuleReview
