import Mathlib.Data.List.Basic
import RuleReview.Check.Report

/-!
# Selections of checks

A selection of the checks reports what all of them would report of it, in the same order.  It does
not matter how the selection is written down: names may be repeated, and names of no check are
passed over.

There is one exception.  That there is no `else` arm is not said of a ruleset of which the first
check has said that it has no branches.  If the first check is not selected it says nothing, and
the second one speaks up.

## What is here

* `findingsOf` — what a single check reports, given whether branches are counted, so that a report
  is that of its checks one after the other (`findings_analyzeSelected`).
* `check_of_mem_findingsOf`, `mem_findings_analyze_iff` — a check reports in its own name.
* `findingsOf_of_branches_ne_nil`, `findingsOf_of_no_branches` — what depends on the counting.
* `analyzeSelected_eq_filter` — a selection of checks against all of them.
-/

set_option autoImplicit false

namespace RuleReview
namespace Check

/-- That no branch is an `else` arm. -/
def noElseArm : Finding where
  check := .c2
  severity := .info
  message := "No DEFAULT branch: inputs matching no condition assign nothing"
  branch := none

/-- That there are no branches. -/
def noBranches : Finding where
  check := .c1
  severity := .warning
  message := "No branches were extracted from the rule script"
  branch := none

/-! ## What each check reports -/

/-- What a check reports of a ruleset, if the branches are counted by the first check or not. -/
def findingsOf (rs : Ruleset) (counted : Bool) : CheckId → List Finding
  | .c1 => (Skeleton.of rs).findings
  | .c2 => (Defaults.of rs).findings (if counted then some (Skeleton.of rs) else none)
  | .c3 => (Conditions.of rs).findings
  | .c4 => (Coverage.of rs).findings

section Reports

variable {rs : Ruleset}

/-- A check reports in its own name. -/
theorem check_of_mem_findingsOf {counted : Bool} {check : CheckId} {f : Finding}
    (h : f ∈ findingsOf rs counted check) : f.check = check := by
  cases check with
  | c1 =>
    rw [findingsOf, Skeleton.findings, List.mem_append, List.mem_ite_nil_right, List.mem_singleton,
      List.mem_map] at h
    rcases h with ⟨-, rfl⟩ | ⟨p, -, rfl⟩ <;> rfl
  | c2 =>
    rw [findingsOf, Defaults.findings, List.mem_append, List.mem_append, List.mem_ite_nil_right,
      List.mem_ite_nil_right, List.mem_singleton, List.mem_singleton, List.mem_map] at h
    rcases h with (⟨-, rfl⟩ | ⟨-, rfl⟩) | ⟨p, -, rfl⟩ <;> rfl
  | c3 =>
    rw [findingsOf, Conditions.findings, List.mem_append, List.mem_map, List.mem_map] at h
    rcases h with ⟨p, -, rfl⟩ | ⟨s, -, rfl⟩ <;> rfl
  | c4 =>
    obtain ⟨entry, -, rfl⟩ := List.mem_map.1 h
    rfl

/-- The selected checks are those that are run, in their order. -/
theorem checksRun_analyzeSelected (names : List Text) :
    (analyzeSelected rs names).checksRun = allChecks.filter (names.contains ·.name) := by
  simp only [analyzeSelected, Report.checksRun, allChecks, List.filter_cons, List.filter_nil]
  cases names.contains CheckId.c1.name <;> cases names.contains CheckId.c2.name <;>
    cases names.contains CheckId.c3.name <;> cases names.contains CheckId.c4.name <;> rfl

/-- The findings are those of the selected checks, one check after the other. -/
theorem findings_analyzeSelected (names : List Text) :
    (analyzeSelected rs names).findings = allChecks.flatMap fun check =>
      if names.contains check.name then findingsOf rs (names.contains CheckId.c1.name) check
      else [] := by
  simp only [analyzeSelected, Report.findings, allChecks, List.flatMap_cons, List.flatMap_nil,
    List.append_nil, List.append_assoc]
  cases names.contains CheckId.c1.name <;> cases names.contains CheckId.c2.name <;>
    cases names.contains CheckId.c3.name <;> cases names.contains CheckId.c4.name <;> rfl

theorem findings_analyze : (analyze rs).findings = allChecks.flatMap (findingsOf rs true) := by
  have hall : ∀ check ∈ allChecks, (allChecks.map CheckId.name).contains check.name = true := by
    decide
  rw [analyze, findings_analyzeSelected]
  refine List.flatMap_congr fun check hcheck => ?_
  rw [if_pos (hall check hcheck)]
  rfl

/-- What all checks report in the name of one is what that one reports. -/
theorem mem_findings_analyze_iff {f : Finding} {check : CheckId} (h : f.check = check) :
    f ∈ (analyze rs).findings ↔ f ∈ findingsOf rs true check := by
  rw [findings_analyze, List.mem_flatMap]
  constructor
  · rintro ⟨other, -, hf⟩
    rwa [← h, check_of_mem_findingsOf hf]
  · exact fun hf => ⟨check, by cases check <;> decide, hf⟩

/-- A check has nothing to report exactly if no finding is in its name. -/
theorem findingsOf_eq_nil_iff (check : CheckId) :
    findingsOf rs true check = [] ↔ ∀ f ∈ (analyze rs).findings, f.check ≠ check := by
  rw [List.eq_nil_iff_forall_not_mem]
  constructor
  · intro hnone f hf hcheck
    exact hnone f ((mem_findings_analyze_iff hcheck).1 hf)
  · intro hnone f hf
    have hcheck := check_of_mem_findingsOf hf
    exact hnone f ((mem_findings_analyze_iff hcheck).2 hf) hcheck

/-- The findings of all checks whose check is selected. -/
theorem filter_findings_analyze (names : List Text) :
    (analyze rs).findings.filter (names.contains ·.check.name) = allChecks.flatMap fun check =>
      if names.contains check.name then findingsOf rs true check else [] := by
  rw [findings_analyze, List.filter_flatMap]
  refine List.flatMap_congr fun check _ => ?_
  split
  · next hselected =>
    exact List.filter_eq_self.2 fun f hf => (check_of_mem_findingsOf hf).symm ▸ hselected
  · next hother =>
    exact List.filter_eq_nil_iff.2 fun f hf => (check_of_mem_findingsOf hf).symm ▸ hother

/-- If there are branches, it does not matter whether they are counted. -/
theorem findingsOf_of_branches_ne_nil (h : rs.branches ≠ []) (counted : Bool) (check : CheckId) :
    findingsOf rs counted check = findingsOf rs true check := by
  have hcount : (Skeleton.of rs).branchCount ≠ 0 := by
    rw [Skeleton.of, ne_eq, List.length_eq_zero_iff]
    exact h
  cases check with
  | c2 =>
    cases counted with
    | true => rfl
    | false =>
      have hall : (some (Skeleton.of rs)).all (0 < ·.branchCount) = true := by
        simpa using Nat.pos_of_ne_zero hcount
      simp only [findingsOf, Defaults.findings, if_true, hall]
      rfl
  | c1 | c3 | c4 => rfl

/-- If there are none, at most one thing is said. -/
theorem findingsOf_of_no_branches (h : rs.branches = []) (counted : Bool) (check : CheckId) :
    findingsOf rs counted check =
      match check with
      | .c1 => [noBranches]
      | .c2 => if counted then [] else [noElseArm]
      | .c3 | .c4 => [] := by
  obtain ⟨branches, mentions, outputs⟩ := rs
  obtain rfl : branches = [] := h
  cases check with
  | c1 => rfl
  | c2 => cases counted <;> rfl
  | c3 => rfl
  | c4 =>
    have hnone : (Coverage.of ⟨[], mentions, outputs⟩).outputs.filter
        (!·.2.missingIn.isEmpty) = [] := by
      rw [Coverage.of, List.filter_eq_nil_iff, List.forall_mem_map]
      exact fun _ _ => by simp [OutputCoverage.of, numbered]
    rw [findingsOf, Coverage.findings, hnone, List.map_nil]

end Reports

/-- **A selection of the checks reports what all checks report in their names, in the same order.**
Only if there are no branches, and the check that would say so is not selected, the second check
reports one thing more. -/
theorem analyzeSelected_eq_filter (rs : Ruleset) (names : List Text) :
    (analyzeSelected rs names).checksRun = allChecks.filter (names.contains ·.name) ∧
    (analyzeSelected rs names).findings =
      (analyze rs).findings.filter (names.contains ·.check.name) ++
        if rs.branches = [] ∧ CheckId.c2.name ∈ names ∧ CheckId.c1.name ∉ names then [noElseArm]
        else [] := by
  refine ⟨checksRun_analyzeSelected names, ?_⟩
  rw [findings_analyzeSelected, filter_findings_analyze]
  by_cases hcorner : rs.branches = [] ∧ CheckId.c1.name ∉ names
  · obtain ⟨hnone, hfirst⟩ := hcorner
    -- only the first two checks have something to say, and the first is not selected
    have hsaid := findingsOf_of_no_branches hnone
    simp [hsaid, hfirst, hnone, allChecks]
  · have hsame : ∀ check, findingsOf rs (names.contains CheckId.c1.name) check =
        findingsOf rs true check := by
      intro check
      by_cases hfirst : CheckId.c1.name ∈ names
      · rw [List.contains_iff_mem.2 hfirst]
      · exact findingsOf_of_branches_ne_nil (fun hnone => hcorner ⟨hnone, hfirst⟩) _ check
    rw [if_neg fun h => hcorner ⟨h.1, h.2.2⟩, List.append_nil]
    simp only [hsame]

-- How often and in which order checks are named does not matter.
example : (analyzeSelected ⟨[], .empty, .empty⟩ ["c3", "c2", "c0", "c2"]).findings =
    [noElseArm] := rfl

end Check
end RuleReview
