import RuleReview.Check.Measure

/-!
# Findings

What the checks measure is reported as findings: warnings about what looks like a mistake, and
remarks about what a reader should know.  Any selection of the checks can be run; the findings come
in the order of the checks, whatever the order of the selection.

One finding depends on two checks: that there is no `else` arm is not said of a script of which the
first check says that there are no branches at all.

## What is here

* `CheckId` — the checks; `Severity` and `Finding`.
* `Report` and `Report.findings`.
* `analyzeSelected`, `analyze` — the reports of a ruleset.
-/

set_option autoImplicit false

namespace RuleReview
namespace Check

open Text

/-- One of the checks. -/
inductive CheckId where
  /-- Branches that do nothing. -/
  | c1
  /-- `else` arms. -/
  | c2
  /-- Conditions. -/
  | c3
  /-- Outputs. -/
  | c4
  deriving DecidableEq

/-- The name that a check is selected by. -/
def CheckId.name : CheckId → Text
  | c1 => "c1"
  | c2 => "c2"
  | c3 => "c3"
  | c4 => "c4"

/-- The checks, in the order they are run in. -/
def allChecks : List CheckId := [.c1, .c2, .c3, .c4]

/-- How much a finding matters. -/
inductive Severity where
  /-- Worth knowing. -/
  | info
  /-- Probably a mistake. -/
  | warning
  deriving DecidableEq

/-- The word for a severity. -/
def Severity.name : Severity → Text
  | info => "info"
  | warning => "warning"

/-- Something worth reporting. -/
structure Finding where
  /-- The check that found it. -/
  check : CheckId
  /-- How much it matters. -/
  severity : Severity
  /-- What was found. -/
  message : Text
  /-- The position of the branch it is about, if it is about one. -/
  branch : Option Nat
  deriving DecidableEq

/-- A finding as a line of text. -/
def Finding.issue (f : Finding) : Text := "[" ++ f.severity.name ++ "] " ++ f.message

/-- Positions, separated by commas. -/
def positions (ps : List Nat) : Text := List.intercalate ", " (ps.map decimal)

/-! ## The findings of each check -/

/-- A warning about one branch. -/
def warnBranch (check : CheckId) (p : Nat) (rest : Text) : Finding :=
  ⟨check, .warning, "Branch " ++ decimal p ++ rest, some p⟩

/-- What is to be said about branches that do nothing. -/
def Skeleton.findings (s : Skeleton) : List Finding :=
  (if s.branchCount = 0 then
    [⟨.c1, .warning, "No branches were extracted from the rule script", none⟩]
  else []) ++
    s.emptyBranches.map fun p => warnBranch .c1 p " has no assignment actions"

/-- What is to be said about `else` arms; their absence only if there are branches, or if these were
not counted. -/
def Defaults.findings (skeleton : Option Skeleton) (d : Defaults) : List Finding :=
  (if d.defaultPositions.isEmpty && skeleton.all (0 < ·.branchCount) then
    [⟨.c2, .info, "No DEFAULT branch: inputs matching no condition assign nothing", none⟩]
  else []) ++
    (if 1 < d.defaultPositions.length then
      [⟨.c2, .warning, decimal d.defaultPositions.length ++ " DEFAULT branches found (branches " ++
        positions d.defaultPositions ++ ")", none⟩]
    else []) ++
    d.unreachableBranches.map fun p =>
      warnBranch .c2 p " follows a DEFAULT branch and is unreachable"

/-- What is to be said about conditions. -/
def Conditions.findings (c : Conditions) : List Finding :=
  c.emptyConditions.map (fun p => warnBranch .c3 p " has an empty condition") ++
    c.shadowed.map fun s =>
      warnBranch .c3 s.branch
        (" repeats the condition of branch " ++ decimal s.firstSeen ++ " (" ++ s.condition ++
          ") and is shadowed")

/-- What is to be said about outputs. -/
def Coverage.findings (c : Coverage) : List Finding :=
  (c.outputs.filter (!·.2.missingIn.isEmpty)).map fun (output, coverage) =>
    ⟨.c4, .info, "Output " ++ quoted output ++ " is not assigned in branch(es) " ++
      positions coverage.missingIn, none⟩

/-! ## Reports -/

/-- What the selected checks measured. -/
structure Report where
  /-- The first check, if it was run. -/
  skeleton : Option Skeleton
  /-- The second check, if it was run. -/
  defaults : Option Defaults
  /-- The third check, if it was run. -/
  conditions : Option Conditions
  /-- The fourth check, if it was run. -/
  coverage : Option Coverage

namespace Report

/-- The checks that were run. -/
def checksRun (r : Report) : List CheckId :=
  (r.skeleton.map fun _ => CheckId.c1).toList ++ (r.defaults.map fun _ => CheckId.c2).toList ++
    (r.conditions.map fun _ => CheckId.c3).toList ++ (r.coverage.map fun _ => CheckId.c4).toList

/-- The findings, in the order of the checks. -/
def findings (r : Report) : List Finding :=
  (r.skeleton.map Skeleton.findings).getD [] ++
    (r.defaults.map (Defaults.findings r.skeleton)).getD [] ++
    (r.conditions.map Conditions.findings).getD [] ++
    (r.coverage.map Coverage.findings).getD []

/-- The findings as lines of text. -/
def issues (r : Report) : List Text := r.findings.map Finding.issue

/-- Whether anything looks like a mistake. -/
def hasWarnings (r : Report) : Bool := r.findings.any (·.severity = .warning)

end Report

/-- Run the checks whose names are given.  Other names are ignored. -/
def analyzeSelected (rs : Ruleset) (names : List Text) : Report where
  skeleton := if names.contains CheckId.c1.name then some (Skeleton.of rs) else none
  defaults := if names.contains CheckId.c2.name then some (Defaults.of rs) else none
  conditions := if names.contains CheckId.c3.name then some (Conditions.of rs) else none
  coverage := if names.contains CheckId.c4.name then some (Coverage.of rs) else none

/-- Run all checks. -/
def analyze (rs : Ruleset) : Report := analyzeSelected rs (allChecks.map CheckId.name)

end Check
end RuleReview
