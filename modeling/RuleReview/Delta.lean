import RuleReview.Script.Ruleset

/-!
# Structural differences

Two rulesets are compared branch by branch.  Branches are matched by the text of their conditions,
and each condition stands for the first branch that has it; the order of the branches plays no part.
The names are compared as sets.

## What is here

* `Delta` — what one ruleset has that another has not, in both directions.
* `Delta.between` — the differences from one ruleset to another.
* `Delta.render` — the differences as text, a line for each.
-/

set_option autoImplicit false

namespace RuleReview

/-- A branch that both rulesets have, with different actions. -/
structure BranchChange where
  /-- The condition of the branch, as it is shown. -/
  condition : Text
  /-- The new actions that the old branch does not have. -/
  addedActions : List Text
  /-- The old actions that the new branch does not have. -/
  removedActions : List Text
  deriving DecidableEq

/-- The differences from one ruleset to another. -/
structure Delta where
  /-- The conditions of the branches that are new. -/
  addedBranches : List Text
  /-- The conditions of the branches that are gone. -/
  removedBranches : List Text
  /-- The branches whose actions differ. -/
  changedBranches : List BranchChange
  /-- The identifiers that are new. -/
  addedVariables : NameSet
  /-- The identifiers that are gone. -/
  removedVariables : NameSet
  /-- The outputs that are new. -/
  addedOutputs : NameSet
  /-- The outputs that are gone. -/
  removedOutputs : NameSet
  deriving DecidableEq

/-- The first branch whose condition is shown by the given text. -/
def Ruleset.find? (rs : Ruleset) (condition : Text) : Option Branch :=
  rs.branches.find? (·.condition.text = condition)

/-- The branches that stand for their conditions: of those with one condition, the first. -/
def firstBranches : (seen : List Text) → List Branch → List Branch
  | _, [] => []
  | seen, b :: rest =>
    if seen.contains b.condition.text then firstBranches seen rest
    else b :: firstBranches (b.condition.text :: seen) rest

/-- A list without later repetitions. -/
def withoutRepeats : List Text → List Text
  | [] => []
  | t :: rest => t :: (withoutRepeats rest).filter (· ≠ t)

namespace Delta

/-- How a branch differs from the branch of another ruleset that has its condition. -/
def change? (before : Ruleset) (b : Branch) : Option BranchChange :=
  match before.find? b.condition.text with
  | none => none
  | some old =>
    if old.actions = b.actions then none
    else
      some
        { condition := b.condition.text
          addedActions := b.actions.filter (!old.actions.contains ·)
          removedActions := old.actions.filter (!b.actions.contains ·) }

/-- The differences from `before` to `after`. -/
def between (before after : Ruleset) : Delta :=
  let standing := firstBranches [] after.branches
  { addedBranches :=
      (standing.filter fun b => (before.find? b.condition.text).isNone).map (·.condition.text)
    removedBranches := withoutRepeats (before.conditions.filter fun c => (after.find? c).isNone)
    changedBranches := standing.filterMap (change? before)
    addedVariables := after.mentions.minus before.mentions
    removedVariables := before.mentions.minus after.mentions
    addedOutputs := after.outputs.minus before.outputs
    removedOutputs := before.outputs.minus after.outputs }

/-- Whether there are no differences. -/
def isEmpty (d : Delta) : Bool :=
  d.addedBranches.isEmpty && d.removedBranches.isEmpty && d.changedBranches.isEmpty &&
    d.addedVariables.isEmpty && d.removedVariables.isEmpty && d.addedOutputs.isEmpty &&
    d.removedOutputs.isEmpty

/-! ## Differences as text -/

/-- The lines of a changed branch. -/
def changeLines (c : BranchChange) : List Text :=
  ("~ branch [" ++ c.condition ++ "]") :: c.addedActions.map (fun (a : Text) => "    + " ++ a) ++
    c.removedActions.map (fun (a : Text) => "    - " ++ a)

/-- The line of a set of names, if there are any. -/
def nameLines (label : Text) (names : NameSet) : List Text :=
  if names.isEmpty then [] else [label ++ ": " ++ List.intercalate ", " names.names]

/-- The lines that tell the differences. -/
def lines (d : Delta) : List Text :=
  if d.isEmpty then ["No structural differences."]
  else
    d.addedBranches.map (fun (c : Text) => "+ branch [" ++ c ++ "]") ++
      d.removedBranches.map (fun (c : Text) => "- branch [" ++ c ++ "]") ++
      d.changedBranches.flatMap changeLines ++
      nameLines "+ variables" d.addedVariables ++ nameLines "- variables" d.removedVariables ++
      nameLines "+ outputs" d.addedOutputs ++ nameLines "- outputs" d.removedOutputs

/-- The differences as text, each line ended by a newline. -/
def render (d : Delta) : Text := d.lines.flatMap (fun (line : Text) => line ++ "\n")

end Delta
end RuleReview
