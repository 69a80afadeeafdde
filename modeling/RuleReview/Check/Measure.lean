import RuleReview.Script.Ruleset

/-!
# What the checks measure

Four checks look at a ruleset, each at one thing: whether its branches do anything, where its `else`
arms are, whether its conditions are there and differ, and which branches assign which outputs.
Branches are counted from one.

## What is here

* `Skeleton`, `Defaults`, `Conditions` and `Coverage` — what each check finds.
* `Skeleton.of` and so on — the checks.
-/

set_option autoImplicit false

namespace RuleReview
namespace Check

/-- The branches with their positions, counted from one. -/
def numbered (branches : List Branch) : List (Nat × Branch) :=
  branches.zipIdx.map fun p => (p.2 + 1, p.1)

/-! ## Branches that do nothing -/

/-- How many branches there are, and which of them assign nothing. -/
structure Skeleton where
  /-- The number of branches. -/
  branchCount : Nat
  /-- The positions of the branches without actions. -/
  emptyBranches : List Nat
  deriving DecidableEq

/-- Look for branches that do nothing. -/
def Skeleton.of (rs : Ruleset) : Skeleton where
  branchCount := rs.branches.length
  emptyBranches := ((numbered rs.branches).filter (·.2.actions.isEmpty)).map (·.1)

/-! ## Else arms -/

/-- Where the `else` arms are, and which branches come too late to be taken. -/
structure Defaults where
  /-- The positions of the `else` arms. -/
  defaultPositions : List Nat
  /-- The positions of the other branches that follow an `else` arm. -/
  unreachableBranches : List Nat
  deriving DecidableEq

/-- Look for `else` arms and what they shadow. -/
def Defaults.of (rs : Ruleset) : Defaults where
  defaultPositions := ((numbered rs.branches).filter (·.2.condition.isDefault)).map (·.1)
  unreachableBranches :=
    (((numbered rs.branches).dropWhile (!·.2.condition.isDefault)).filter
      (!·.2.condition.isDefault)).map (·.1)

/-! ## Conditions -/

/-- A branch whose condition an earlier branch has already. -/
structure Shadowed where
  /-- The position of the branch. -/
  branch : Nat
  /-- The position of the first branch with the condition. -/
  firstSeen : Nat
  /-- The condition. -/
  condition : Text
  deriving DecidableEq

/-- Conditions that are missing and conditions that are repeated. -/
structure Conditions where
  /-- The positions of the branches with an empty condition. -/
  emptyConditions : List Nat
  /-- The branches that repeat a condition. -/
  shadowed : List Shadowed
  deriving DecidableEq

/-- The branches that repeat a condition, where `seen` holds the conditions met so far with the
positions where they were met first. -/
def shadowedFrom : (seen : List (Text × Nat)) → List (Nat × Branch) → List Shadowed
  | _, [] => []
  | seen, (i, b) :: rest =>
    match b.condition with
    | .default => shadowedFrom seen rest
    | .expr t =>
      if t.isEmpty then shadowedFrom seen rest
      else
        match seen.lookup t with
        | some first => ⟨i, first, t⟩ :: shadowedFrom seen rest
        | none => shadowedFrom ((t, i) :: seen) rest

/-- Look at the conditions. -/
def Conditions.of (rs : Ruleset) : Conditions where
  emptyConditions := ((numbered rs.branches).filter (·.2.condition = .expr [])).map (·.1)
  shadowed := shadowedFrom [] (numbered rs.branches)

/-! ## Outputs -/

/-- Which branches assign an output. -/
structure OutputCoverage where
  /-- The positions of the branches that assign it. -/
  assignedIn : List Nat
  /-- The positions of the other branches. -/
  missingIn : List Nat
  deriving DecidableEq

/-- Which branches assign which outputs. -/
structure Coverage where
  /-- The outputs, in their order. -/
  outputs : Keyed OutputCoverage
  /-- Whether every branch assigns every output. -/
  fullyCovered : Bool

/-- Which branches assign one output. -/
def OutputCoverage.of (rs : Ruleset) (output : Text) : OutputCoverage where
  assignedIn := ((numbered rs.branches).filter (·.2.assigned.contains output)).map (·.1)
  missingIn := ((numbered rs.branches).filter (!·.2.assigned.contains output)).map (·.1)

/-- Look at the outputs. -/
def Coverage.of (rs : Ruleset) : Coverage :=
  let outputs := rs.outputs.names.map fun o => (o, OutputCoverage.of rs o)
  ⟨outputs, outputs.all (·.2.missingIn.isEmpty)⟩

end Check
end RuleReview
