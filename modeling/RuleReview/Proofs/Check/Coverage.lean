import RuleReview.Proofs.Check.Positions
import RuleReview.Proofs.Check.Selected
import RuleReview.Proofs.Script.Outputs

/-!
# What the coverage of a script tells

The last check takes the outputs of a ruleset as they are and looks up, for each, which branches
assign it.  A ruleset could name outputs that no branch assigns, but that of a script does not:
the scan takes the outputs from the lines of the bodies, and what it keeps of a line assigns to the
same name (`Script.mem_outputs_parse_iff`).  So every output of a script is assigned somewhere, and
its coverage parts the branches into those that assign it and those that do not.

## What is here

* `OutputCoverage.Parts` — a coverage that parts the branches; `parts_of` — as every one does.
* `fullyCovered_iff` — full coverage is that the last check has nothing to report.
* `Accounted`, `accounted_parse` — the coverage of a script.
-/

set_option autoImplicit false

namespace RuleReview
namespace Check

/-! ## The coverage of one output -/

/-- The branches of a ruleset, by their positions, in two parts: those that assign a name and those
that do not. -/
structure OutputCoverage.Parts (c : OutputCoverage) (rs : Ruleset) (name : Text) : Prop where
  /-- A position is in the first part if the branch there assigns the name. -/
  assigned_iff : ∀ p, p ∈ c.assignedIn ↔
    ∃ i b, p = i + 1 ∧ rs.branches[i]? = some b ∧ name ∈ b.assigned
  /-- The first part is in increasing order. -/
  assigned_increasing : c.assignedIn.Pairwise (· < ·)
  /-- So is the second. -/
  missing_increasing : c.missingIn.Pairwise (· < ·)
  /-- No position is in both. -/
  disjoint : ∀ p ∈ c.assignedIn, p ∉ c.missingIn
  /-- Every position is in one of them. -/
  together : ∀ p, p ∈ c.assignedIn ∨ p ∈ c.missingIn ↔ 1 ≤ p ∧ p ≤ rs.branches.length

section Rulesets

variable (rs : Ruleset)

/-- Whatever name is looked up, the branches are parted. -/
theorem OutputCoverage.parts_of (name : Text) : (OutputCoverage.of rs name).Parts rs name := by
  let assigns (b : Branch) : Bool := b.assigned.contains name
  have hassigned : (OutputCoverage.of rs name).assignedIn = positionsOf assigns rs.branches := rfl
  have hmissing : (OutputCoverage.of rs name).missingIn = positionsOf (!assigns ·) rs.branches :=
    rfl
  refine
    { assigned_iff := fun p => ?assigned
      assigned_increasing := ?assigned_increasing
      missing_increasing := ?missing_increasing
      disjoint := fun p => ?disjoint
      together := fun p => ?together }
  all_goals simp only [hassigned, hmissing]
  case assigned => simp only [mem_positionsOf_iff, assigns, List.contains_iff_mem]
  case assigned_increasing => exact pairwise_positionsOf assigns rs.branches
  case missing_increasing => exact pairwise_positionsOf (!assigns ·) rs.branches
  case disjoint => exact not_mem_positionsOf_not
  case together => exact mem_positionsOf_or_iff assigns p

/-- Some branch is listed as assigning a name exactly if one assigns it. -/
theorem OutputCoverage.assignedIn_ne_nil_iff (name : Text) :
    (OutputCoverage.of rs name).assignedIn ≠ [] ↔ ∃ b ∈ rs.branches, name ∈ b.assigned := by
  have hnone : (OutputCoverage.of rs name).assignedIn = [] ↔ _ :=
    positionsOf_eq_nil_iff (·.assigned.contains name)
  rw [ne_eq, hnone]
  simp

/-! ## All outputs -/

/-- There is one entry for each output, in their order. -/
theorem Coverage.map_fst_outputs : (Coverage.of rs).outputs.map (·.1) = rs.outputs.names := by
  rw [Coverage.of, List.map_map]
  exact List.map_id _

theorem Coverage.mem_outputs_iff {entry : Text × OutputCoverage} :
    entry ∈ (Coverage.of rs).outputs ↔
      entry.1 ∈ rs.outputs ∧ entry.2 = OutputCoverage.of rs entry.1 := by
  obtain ⟨name, c⟩ := entry
  rw [Coverage.of, List.mem_map]
  constructor
  · rintro ⟨name, hname, ⟨⟩⟩
    exact ⟨hname, rfl⟩
  · rintro ⟨hname, hcoverage⟩
    exact ⟨name, hname, congrArg (name, ·) hcoverage.symm⟩

/-- **The outputs are fully covered exactly if the last check has nothing to report.** -/
theorem fullyCovered_iff :
    (Coverage.of rs).fullyCovered = true ↔ ∀ f ∈ (analyze rs).findings, f.check ≠ .c4 := by
  have hfully : (Coverage.of rs).fullyCovered =
      (Coverage.of rs).outputs.all (·.2.missingIn.isEmpty) := rfl
  rw [← findingsOf_eq_nil_iff, findingsOf, Coverage.findings, List.map_eq_nil_iff,
    List.filter_eq_nil_iff, hfully, List.all_eq_true]
  simp only [Bool.not_eq_true', Bool.not_eq_false]

end Rulesets

/-! ## The coverage of a script -/

/-- A ruleset of which every output is accounted for by its coverage. -/
structure Accounted (rs : Ruleset) : Prop where
  /-- The outputs are what the branches assign. -/
  outputs_iff : ∀ name, name ∈ rs.outputs ↔ ∃ b ∈ rs.branches, name ∈ b.assigned
  /-- Each output has one entry, in the order of the outputs. -/
  listed : (Coverage.of rs).outputs.map (·.1) = rs.outputs.names
  /-- Each output is assigned in some branch. -/
  assigned : ∀ entry ∈ (Coverage.of rs).outputs, entry.2.assignedIn ≠ []
  /-- The entry of an output parts the branches. -/
  parts : ∀ entry ∈ (Coverage.of rs).outputs, entry.2.Parts rs entry.1
  /-- All are fully covered exactly if the last check has nothing to report. -/
  fully_iff : (Coverage.of rs).fullyCovered = true ↔
    ∀ f ∈ (analyze rs).findings, f.check ≠ .c4

/-- **The outputs of a script are what its branches assign, and the coverage accounts for them**:
each is assigned somewhere, and its entry parts the branches by whether they assign it. -/
theorem accounted_parse (text : Text) : Accounted (Script.parse text) where
  outputs_iff := Script.mem_outputs_parse_iff text
  listed := Coverage.map_fst_outputs _
  assigned entry hentry := by
    obtain ⟨houtput, hcoverage⟩ := (Coverage.mem_outputs_iff _).1 hentry
    rw [hcoverage, OutputCoverage.assignedIn_ne_nil_iff]
    exact (Script.mem_outputs_parse_iff text entry.1).1 houtput
  parts entry hentry := by
    obtain ⟨-, hcoverage⟩ := (Coverage.mem_outputs_iff _).1 hentry
    rw [hcoverage]
    exact OutputCoverage.parts_of _ entry.1
  fully_iff := fullyCovered_iff _

-- What is assigned to may be empty, and a comparison counts as an assignment.
example : (Coverage.of (Script.parse "if (a) \x7b\nx = 1;;\n= 5\n\x7d else \x7b\nx >= 2")).outputs =
    [([], ⟨[1], [2]⟩), ("x", ⟨[1], [2]⟩), ("x >", ⟨[2], [1]⟩)] := by decide +kernel

end Check
end RuleReview
