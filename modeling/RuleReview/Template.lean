import RuleReview.Delta
import RuleReview.TestCase
import RuleReview.Text.Case
import RuleReview.Verdict

/-!
# The template analyst

Explanations, verdicts, revisions, comparisons and test cases that are written from the ruleset
alone, by fixed templates.  They need no model, and the same rule always gives the same text.

The checker asks of an explanation only that it mentions every output, every condition and, if there
is an `else` arm, the word "otherwise"; the revision appends what it is told is missing.

## What is here

* `Template.explain`, `verify`, `rewrite`, `compare` and `testCases`.
-/

set_option autoImplicit false

namespace RuleReview
namespace Template

open Text

/-! ## Explanations -/

/-- A branch in words. -/
def describe (b : Branch) : Text :=
  let lead : Text :=
    match b.condition with
    | .default => "Otherwise"
    | .expr [] => "If (no condition given)"
    | .expr t => "If " ++ t
  let effect : Text :=
    if b.actions.isEmpty then "no assignments are made."
    else List.intercalate "; " b.actions ++ "."
  lead ++ ": " ++ effect

/-- The opening sentence of an explanation. -/
def summary (rs : Ruleset) : Text :=
  let count := decimal rs.branches.length
  if rs.outputs.isEmpty then
    "Summary: This rule checks " ++ count ++ " condition(s) but assigns no outputs."
  else
    "Summary: This rule sets " ++ List.intercalate ", " rs.outputs.names ++ " based on " ++ count ++
      " branch(es)."

/-- An explanation of a rule: a summary, then a line for each branch. -/
def explain (rs : Ruleset) : Text :=
  summary rs ++ "\n" ++ (rs.branches.map describe).flatMap bullet

/-! ## Verdicts -/

/-- What is said of an output that an explanation does not mention. -/
def outputItem (output : Text) : Text := "output " ++ quoted output

/-- What is said of a condition that an explanation does not mention. -/
def conditionItem (condition : Text) : Text := "condition " ++ quoted condition

/-- What is said of an `else` arm that an explanation does not mention. -/
def otherwiseItem : Text := "Otherwise (DEFAULT) branch"

/-- The conditions that an explanation has to mention: those of the branches that give one. -/
def statedConditions (rs : Ruleset) : List Text :=
  rs.branches.filterMap fun b =>
    match b.condition with
    | .default => none
    | .expr t => if t.isEmpty then none else some t

/-- What an explanation does not mention, each thing once. -/
def unmentioned (rs : Ruleset) (explanation : Text) : List Text :=
  let outputs := (rs.outputs.names.filter (!occursIn · explanation)).map outputItem
  let conditions := ((statedConditions rs).filter (!occursIn · explanation)).map conditionItem
  let arms :=
    if rs.hasDefault && !occursIn "otherwise" (lower explanation) then [otherwiseItem] else []
  outputs ++ withoutRepeats conditions ++ arms

/-- The verdict on an explanation: it is accepted if it leaves nothing unmentioned. -/
def verify (rs : Ruleset) (explanation : Text) : Verdict :=
  let missing := unmentioned rs explanation
  ⟨missing.isEmpty, missing, !missing.isEmpty⟩

/-! ## Revisions -/

/-- An explanation with what it left out appended; unchanged if nothing was left out. -/
def rewrite (explanation : Text) (missing : List Text) : Text :=
  if missing.isEmpty then explanation
  else
    trimEnd explanation ++ "\n\nAlso covers:" ++ missing.flatMap bullet

/-! ## Comparisons -/

/-- What changed from one rule to another. -/
def compare (before after : Ruleset) : Text :=
  "Comparing rule A to rule B:\n\n" ++ trimEnd (Delta.between before after).render

/-! ## Test cases -/

/-- The value of the right-hand side of an assignment: the JSON value that it writes, or else its
text. -/
def literal (rhs : Text) : Json :=
  match Json.parse? rhs with
  | .ok v => v
  | .error _ => .string rhs

/-- What a branch assigns, the last assignment of a name counting.  An assignment to nothing is
passed over. -/
def expectations (actions : List Text) : Keyed Json :=
  Keyed.ofList (actions.filterMap fun action =>
    match assignedTo? action, assignedValue? action with
    | some target, some value => if target.isEmpty then none else some (target, literal value)
    | _, _ => none)

/-- The test case of the branch at a position. -/
def branchCase (position : Nat) (b : Branch) : TestCase where
  name := "branch_" ++ decimal position ++ (if b.condition.isDefault then "_default" else "")
  input := .object [("condition", .string b.condition.text)]
  expected := .object (expectations b.actions)
  note :=
    some (if b.condition.isDefault then
      "Choose inputs that match none of the earlier conditions."
    else
      "Choose inputs that satisfy this condition and none before it.")

/-- A test case for each branch, in the order of the branches. -/
def testCases (rs : Ruleset) : List TestCase :=
  rs.branches.zipIdx.map fun p => branchCase (p.2 + 1) p.1

end Template
end RuleReview
