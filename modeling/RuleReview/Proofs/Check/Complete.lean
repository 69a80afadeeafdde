import RuleReview.Check.Report
import RuleReview.Proofs.Check.Positions
import RuleReview.Proofs.Script.Outputs

/-!
# Scripts with nothing to report

Each of the four checks looks at one thing, and one of them keeps silent about what another has
said already.  Together they come to one demand: that the script is a complete chain, of which every
arm can be taken and assigns what all others assign.

## What is here

* `Complete` — what makes a ruleset a complete chain.
* `Skeleton.findings_eq_nil_iff`, `Defaults.findings_eq_nil_iff` and so on — when each check has
  nothing to report.
* `findings_eq_nil_iff_complete` — a script has no findings exactly if it is a complete chain.

Only the last check speaks of the outputs of a ruleset, which a ruleset could name at will.  Those
of a script are what its branches assign (`mem_outputs_parse_iff`), so that the check compares the
branches with each other.
-/

set_option autoImplicit false

namespace RuleReview
namespace Check

/-! ## Complete chains -/

/-- The conditions that branches give, of which some may be empty. -/
def guards (branches : List Branch) : List Text :=
  branches.filterMap fun b =>
    match b.condition with
    | .expr guard => some guard
    | .default => none

/-- A chain whose arms can all be taken, of which one is taken in any case, and which assign the
same names. -/
structure Complete (rs : Ruleset) : Prop where
  /-- There is an `else` arm, it is the last arm, and there is no other. -/
  closed : ∃ front last, rs.branches = front ++ [last] ∧ last.condition = .default ∧
    ∀ b ∈ front, b.condition ≠ .default
  /-- Every arm does something. -/
  active : ∀ b ∈ rs.branches, b.actions ≠ []
  /-- Every other arm gives a condition. -/
  stated : [] ∉ guards rs.branches
  /-- No condition is given twice. -/
  distinct : (guards rs.branches).Nodup
  /-- All arms assign the same names. -/
  alike : ∀ a ∈ rs.branches, ∀ b ∈ rs.branches, ∀ name, name ∈ a.assigned ↔ name ∈ b.assigned

/-! ## Each check by itself -/

section Checks

variable (rs : Ruleset)

theorem Skeleton.findings_eq_nil_iff :
    (Skeleton.of rs).findings = [] ↔ rs.branches ≠ [] ∧ ∀ b ∈ rs.branches, b.actions ≠ [] := by
  have hempty : (Skeleton.of rs).emptyBranches = [] ↔ ∀ b ∈ rs.branches, b.actions ≠ [] :=
    (positionsOf_eq_nil_iff (·.actions.isEmpty)).trans (by simp)
  rw [Skeleton.findings, List.append_eq_nil_iff, List.map_eq_nil_iff, hempty]
  simp [Skeleton.of]

/-- What follows the first element of a kind is of that kind exactly if the list is one of others
and then one of that kind. -/
theorem filter_dropWhile_eq_nil_iff {α : Type} (kind : α → Bool) (l : List α) :
    (l.dropWhile (!kind ·)).filter (!kind ·) = [] ∧ l.countP kind = 1 ↔
      ∃ front last, l = front ++ [last] ∧ kind last = true ∧ ∀ x ∈ front, kind x = false := by
  constructor
  · rintro ⟨hrest, hone⟩
    have hfront : ∀ x ∈ l.takeWhile (!kind ·), kind x = false := fun x hx => by
      simpa using List.mem_takeWhile_imp hx
    have hlater : ∀ x ∈ l.dropWhile (!kind ·), kind x = true := by
      simpa [List.filter_eq_nil_iff] using hrest
    have hsplit := List.takeWhile_append_dropWhile (p := (!kind ·)) (l := l)
    have hcount : (l.dropWhile (!kind ·)).length = 1 := by
      rw [← hsplit, List.countP_append, List.countP_eq_zero.2 (by simpa using hfront),
        List.countP_eq_length.2 hlater, Nat.zero_add] at hone
      exact hone
    obtain ⟨last, hlast⟩ := List.length_eq_one_iff.1 hcount
    rw [hlast] at hsplit hlater
    exact ⟨_, last, hsplit.symm, hlater last (List.mem_singleton_self last), hfront⟩
  · rintro ⟨front, last, rfl, hlast, hfront⟩
    have hdrop : (front ++ [last]).dropWhile (!kind ·) = [last] := by
      rw [List.dropWhile_append_of_pos (by simpa using hfront), List.dropWhile_cons_of_neg]
      simp [hlast]
    rw [hdrop, List.countP_append, List.countP_eq_zero.2 (by simpa using hfront)]
    simp [hlast]

theorem Defaults.findings_eq_nil_iff (hne : rs.branches ≠ []) :
    (Defaults.of rs).findings (some (Skeleton.of rs)) = [] ↔
      ∃ front last, rs.branches = front ++ [last] ∧ last.condition = .default ∧
        ∀ b ∈ front, b.condition ≠ .default := by
  have hcount : (Defaults.of rs).defaultPositions.length =
      rs.branches.countP (·.condition.isDefault) :=
    length_positionsOf (·.condition.isDefault)
  have hlate : (Defaults.of rs).unreachableBranches = [] ↔
      (rs.branches.dropWhile (!·.condition.isDefault)).filter (!·.condition.isDefault) = [] := by
    conv_rhs => rw [← map_snd_numbered rs.branches]
    rw [List.dropWhile_map, List.filter_map, List.map_eq_nil_iff]
    exact List.map_eq_nil_iff
  have hkind := filter_dropWhile_eq_nil_iff (·.condition.isDefault) rs.branches
  simp only [Condition.isDefault_iff, Bool.eq_false_iff, ne_eq] at hkind
  rw [← hkind, ← hlate, ← hcount, Defaults.findings, List.append_eq_nil_iff,
    List.append_eq_nil_iff, List.map_eq_nil_iff]
  have hbranches : (some (Skeleton.of rs)).all (0 < ·.branchCount) = true := by
    simpa [Skeleton.of, List.length_pos_iff] using hne
  simp only [hbranches, Bool.and_true, List.isEmpty_iff_length_eq_zero, ite_eq_right_iff,
    List.cons_ne_nil, imp_false]
  have hone (n : Nat) : (¬ n = 0 ∧ ¬ 1 < n) ↔ n = 1 := by omega
  rw [hone, and_comm]

theorem mem_guards_iff {branches : List Branch} {guard : Text} :
    guard ∈ guards branches ↔ ∃ b ∈ branches, b.condition = .expr guard := by
  rw [guards, List.mem_filterMap]
  refine exists_congr fun b => and_congr_right fun _ => ?_
  cases b.condition <;> simp

theorem guards_cons_default {b : Branch} (h : b.condition = .default) (rest : List Branch) :
    guards (b :: rest) = guards rest := by
  rw [guards, List.filterMap_cons, h, guards]

theorem guards_cons_expr {b : Branch} {t : Text} (h : b.condition = .expr t)
    (rest : List Branch) : guards (b :: rest) = t :: guards rest := by
  rw [guards, List.filterMap_cons, h, guards]

/-- No condition is repeated exactly if those that are given differ from each other and from those
that were met before. -/
theorem shadowedFrom_eq_nil_iff (seen : List (Text × Nat)) (l : List (Nat × Branch)) :
    shadowedFrom seen l = [] ↔
      ((guards (l.map (·.2))).filter (!·.isEmpty)).Nodup ∧
        ∀ guard ∈ (guards (l.map (·.2))).filter (!·.isEmpty), seen.lookup guard = none := by
  fun_induction shadowedFrom seen l with
  | case1 => simp [guards]
  | case2 seen i b rest hdefault ih => rw [ih, List.map_cons, guards_cons_default hdefault]
  | case3 seen i b rest t hexpr hempty ih =>
    rw [ih, List.map_cons, guards_cons_expr hexpr, List.filter_cons_of_neg (by simpa using hempty)]
  | case4 seen i b rest t hexpr hgiven first hmet ih =>
    rw [List.map_cons, guards_cons_expr hexpr, List.filter_cons_of_pos (by simpa using hgiven)]
    refine iff_of_false (List.cons_ne_nil _ _) fun ⟨_, hnew⟩ => ?_
    rw [hnew t List.mem_cons_self] at hmet
    cases hmet
  | case5 seen i b rest t hexpr hgiven hnew ih =>
    rw [ih, List.map_cons, guards_cons_expr hexpr,
      List.filter_cons_of_pos (by simpa using hgiven), List.nodup_cons, List.forall_mem_cons]
    generalize (guards (rest.map (·.2))).filter (!·.isEmpty) = later
    have hlookup (guard : Text) : ((t, i) :: seen).lookup guard = none ↔
        guard ≠ t ∧ seen.lookup guard = none := by
      rw [List.lookup_cons]
      cases h : guard == t <;> simp_all
    simp only [hlookup]
    grind

theorem Conditions.findings_eq_nil_iff :
    (Conditions.of rs).findings = [] ↔
      [] ∉ guards rs.branches ∧ (guards rs.branches).Nodup := by
  have hempty : (Conditions.of rs).emptyConditions = [] ↔ [] ∉ guards rs.branches := by
    rw [mem_guards_iff]
    exact (positionsOf_eq_nil_iff (·.condition = .expr [])).trans (by simp)
  have hshadowed : (Conditions.of rs).shadowed = [] ↔
      ((guards rs.branches).filter (!·.isEmpty)).Nodup := by
    rw [Conditions.of, shadowedFrom_eq_nil_iff, map_snd_numbered]
    simp
  rw [Conditions.findings, List.append_eq_nil_iff, List.map_eq_nil_iff, List.map_eq_nil_iff,
    hempty, hshadowed]
  refine and_congr_right fun hstated => ?_
  rw [List.filter_eq_self.2]
  intro guard hguard
  have : guard ≠ [] := ne_of_mem_of_not_mem hguard hstated
  simpa using this

theorem Coverage.findings_eq_nil_iff :
    (Coverage.of rs).findings = [] ↔
      ∀ output ∈ rs.outputs, ∀ b ∈ rs.branches, output ∈ b.assigned := by
  have hmissing (output : Text) : (OutputCoverage.of rs output).missingIn = [] ↔
      ∀ b ∈ rs.branches, output ∈ b.assigned :=
    (positionsOf_eq_nil_iff (!·.assigned.contains output)).trans (by simp)
  simp only [NameSet.mem_def, ← hmissing]
  rw [Coverage.findings, List.map_eq_nil_iff, List.filter_eq_nil_iff, Coverage.of,
    List.forall_mem_map]
  simp

theorem analyze_findings_eq_nil_iff :
    (analyze rs).findings = [] ↔
      (Skeleton.of rs).findings = [] ∧ (Defaults.of rs).findings (some (Skeleton.of rs)) = [] ∧
        (Conditions.of rs).findings = [] ∧ (Coverage.of rs).findings = [] := by
  have hall : analyze rs = ⟨some (Skeleton.of rs), some (Defaults.of rs),
      some (Conditions.of rs), some (Coverage.of rs)⟩ := rfl
  rw [hall, Report.findings]
  simp only [Option.map_some, Option.getD_some, List.append_eq_nil_iff, and_assoc]

end Checks

/-! ## All checks together -/

/-- Every output is assigned by every branch exactly if the branches assign the same names, where
the outputs are what some branch assigns. -/
theorem assigned_alike_iff {rs : Ruleset}
    (houtputs : ∀ name, name ∈ rs.outputs ↔ ∃ b ∈ rs.branches, name ∈ b.assigned) :
    (∀ output ∈ rs.outputs, ∀ b ∈ rs.branches, output ∈ b.assigned) ↔
      ∀ a ∈ rs.branches, ∀ b ∈ rs.branches, ∀ name, name ∈ a.assigned ↔ name ∈ b.assigned := by
  constructor
  · intro hcovered a ha b hb name
    exact ⟨fun hname => hcovered name ((houtputs name).2 ⟨a, ha, hname⟩) b hb,
      fun hname => hcovered name ((houtputs name).2 ⟨b, hb, hname⟩) a ha⟩
  · intro halike output houtput b hb
    obtain ⟨a, ha, hname⟩ := (houtputs output).1 houtput
    exact (halike a ha b hb output).1 hname

/-- **The checks have nothing to report of a script exactly if it is a complete chain.** -/
theorem findings_eq_nil_iff_complete (text : Text) :
    (analyze (Script.parse text)).findings = [] ↔ Complete (Script.parse text) := by
  have halike := assigned_alike_iff (Script.mem_outputs_parse_iff text)
  rw [analyze_findings_eq_nil_iff, Skeleton.findings_eq_nil_iff,
    Conditions.findings_eq_nil_iff, Coverage.findings_eq_nil_iff, halike]
  constructor
  · rintro ⟨⟨hne, hactive⟩, hdefaults, ⟨hstated, hdistinct⟩, hsame⟩
    exact ⟨(Defaults.findings_eq_nil_iff _ hne).1 hdefaults, hactive, hstated, hdistinct, hsame⟩
  · intro h
    have hne : (Script.parse text).branches ≠ [] := by
      obtain ⟨front, last, hsplit, -⟩ := h.closed
      rw [hsplit]
      exact List.append_ne_nil_of_right_ne_nil front (List.cons_ne_nil last [])
    exact ⟨⟨hne, h.active⟩, (Defaults.findings_eq_nil_iff _ hne).2 h.closed,
      ⟨h.stated, h.distinct⟩, h.alike⟩

-- An `else` arm by itself is complete; an empty script is told about once, and not as one that
-- lacks an `else` arm.
example : (analyze (Script.parse "else \x7b\nx = 1\n\x7d")).findings = [] := by decide +kernel

example : (analyze (Script.parse "")).findings.map (·.check) = [.c1] := by decide +kernel

end Check
end RuleReview
