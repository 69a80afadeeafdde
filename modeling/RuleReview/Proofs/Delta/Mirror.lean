import RuleReview.Proofs.Delta.Exact

/-!
# Differences from the other side

`Delta.between` does not treat its two sides alike.  It goes through the new ruleset and remembers
which conditions it has met, and through the old one only to see what is gone, where it takes out
repetitions afterwards.  None of this shows in the outcome: when the sides are exchanged, what was
added is removed, and in the same order.

The reason is that `Exact` is the same demand from both sides.  There is one exception, the order of
the changed branches, which is that of the new ruleset.  So these are compared by their members
(`Exact.mem_changedBranches_iff`), and as none is listed twice, they are the same up to their order.
-/

set_option autoImplicit false

namespace RuleReview

/-- A change as it is told from the other side. -/
def BranchChange.mirrored (change : BranchChange) : BranchChange where
  condition := change.condition
  addedActions := change.removedActions
  removedActions := change.addedActions

theorem BranchChange.mirrored_mirrored (change : BranchChange) :
    change.mirrored.mirrored = change := rfl

theorem BranchChange.mem_map_mirrored_iff {change : BranchChange} {changes : List BranchChange} :
    change ∈ changes.map mirrored ↔ change.mirrored ∈ changes := by
  rw [List.mem_map]
  constructor
  · rintro ⟨other, hmem, rfl⟩
    exact hmem
  · intro hmem
    exact ⟨change.mirrored, hmem, change.mirrored_mirrored⟩

/-- A change that leads from old actions to new ones leads back from the other side. -/
theorem BranchChange.Accounts.mirrored {change : BranchChange} {old new : List Text}
    (h : change.Accounts old new) : change.mirrored.Accounts new old :=
  accounts_of_filter h.removed h.added

theorem Ruleset.Agrees.symm {a b : Ruleset} (h : a.Agrees b) : b.Agrees a where
  conditions condition := (h.conditions condition).symm
  actions condition x y hx hy := (h.actions condition y x hy hx).symm
  mentions := h.mentions.symm
  outputs := h.outputs.symm

namespace Delta

/-! ## The changed branches -/

variable {before after : Ruleset} {d : Delta}

/-- A change is listed if it accounts for a difference between branches that stand for its
condition. -/
theorem Exact.mem_changedBranches_iff (h : Exact before after d) {change : BranchChange} :
    change ∈ d.changedBranches ↔
      ∃ old new, before.Stands change.condition old ∧ after.Stands change.condition new ∧
        old.actions ≠ new.actions ∧ change.Accounts old.actions new.actions := by
  constructor
  · intro hmem
    obtain ⟨old, new, hold, hnew, haccounts⟩ := h.accounts change hmem
    have hlisted := (h.changed.mem_iff change.condition).1 (List.mem_map_of_mem hmem)
    obtain ⟨-, old', new', hold', hnew', hne⟩ := hlisted
    rw [hold'.unique hold, hnew'.unique hnew] at hne
    exact ⟨old, new, hold, hnew, hne, haccounts⟩
  · rintro ⟨old, new, hold, hnew, hne, haccounts⟩
    have hlisted := (h.changed.mem_iff change.condition).2
      ⟨hnew.mem_conditions, old, new, hold, hnew, hne⟩
    obtain ⟨listed, hmem, hsame⟩ := List.mem_map.1 hlisted
    obtain ⟨old', new', hold', hnew', haccounts'⟩ := h.accounts listed hmem
    rw [hsame] at hold' hnew'
    rw [hold'.unique hold, hnew'.unique hnew] at haccounts'
    rwa [← haccounts'.eq haccounts hsame]

/-- No change is listed twice. -/
theorem Exact.nodup_changedBranches (h : Exact before after d) : d.changedBranches.Nodup := by
  have hconditions : (d.changedBranches.map (·.condition)).Nodup := by
    refine List.nodup_iff_pairwise_ne.2 (h.changed.order.imp fun hlt heq => ?_)
    rw [heq] at hlt
    exact Nat.lt_irrefl _ hlt
  exact hconditions.of_map _

/-! ## Mirrored deltas -/

/-- That two deltas tell the same differences from opposite sides. -/
structure Mirrors (d r : Delta) : Prop where
  /-- The branches that the one adds are those that the other removes, in the same order. -/
  addedBranches : d.addedBranches = r.removedBranches
  /-- The branches that the one removes are those that the other adds, in the same order. -/
  removedBranches : d.removedBranches = r.addedBranches
  /-- The same branches have changed, with added and removed actions exchanged in each. -/
  changedBranches : r.changedBranches.Perm (d.changedBranches.map BranchChange.mirrored)
  /-- The names are exchanged as well. -/
  addedVariables : d.addedVariables = r.removedVariables
  removedVariables : d.removedVariables = r.addedVariables
  addedOutputs : d.addedOutputs = r.removedOutputs
  removedOutputs : d.removedOutputs = r.addedOutputs
  /-- There are differences from one side if there are from the other. -/
  isEmpty : d.isEmpty = r.isEmpty

variable {r : Delta}

theorem Exact.mirrored_mem (h : Exact before after d) (h' : Exact after before r)
    {change : BranchChange} (hmem : change ∈ r.changedBranches) :
    change.mirrored ∈ d.changedBranches := by
  obtain ⟨old, new, hold, hnew, hne, haccounts⟩ := h'.mem_changedBranches_iff.1 hmem
  exact h.mem_changedBranches_iff.2 ⟨new, old, hnew, hold, hne.symm, haccounts.mirrored⟩

/-- Deltas that are exact in opposite directions mirror each other. -/
theorem Exact.mirrors (h : Exact before after d) (h' : Exact after before r) : d.Mirrors r where
  addedBranches := h.added.eq h'.removed
  removedBranches := h.removed.eq h'.added
  changedBranches := by
    -- each side lists its changes in the order of its own new ruleset, so only members compare
    have hnodup : (d.changedBranches.map BranchChange.mirrored).Nodup :=
      h.nodup_changedBranches.map (Function.LeftInverse.injective BranchChange.mirrored_mirrored)
    refine (List.perm_ext_iff_of_nodup h'.nodup_changedBranches hnodup).2 fun change => ?_
    rw [BranchChange.mem_map_mirrored_iff]
    exact ⟨h.mirrored_mem h', h'.mirrored_mem h⟩
  addedVariables := h.addedVariables.eq h'.removedVariables
  removedVariables := h.removedVariables.eq h'.addedVariables
  addedOutputs := h.addedOutputs.eq h'.removedOutputs
  removedOutputs := h.removedOutputs.eq h'.addedOutputs
  isEmpty := by
    rw [Bool.eq_iff_iff, h.isEmpty_iff, h'.isEmpty_iff]
    exact ⟨Ruleset.Agrees.symm, Ruleset.Agrees.symm⟩

/-- **Exchanging the two sides of a comparison mirrors what it finds.** -/
theorem mirrors_between (a b : Ruleset) : (between a b).Mirrors (between b a) :=
  (exact_between a b).mirrors (exact_between b a)

-- The changed branches come in the order of the new side, so this order is not kept.
example :
    let a : Ruleset := ⟨[⟨.expr "a", ["x = 1"]⟩, ⟨.default, ["x = 2"]⟩], .empty, .empty⟩
    let b : Ruleset := ⟨[⟨.default, ["x = 3"]⟩, ⟨.expr "a", []⟩], .empty, .empty⟩
    (between a b).changedBranches.map (·.condition) = ["DEFAULT", "a"] ∧
      (between b a).changedBranches.map (·.condition) = ["a", "DEFAULT"] := by
  decide

end Delta
end RuleReview
