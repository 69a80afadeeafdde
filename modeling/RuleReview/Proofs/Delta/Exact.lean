import RuleReview.Proofs.Delta.Standing

/-!
# A delta is exact

What one ruleset has that another has not can be said without any comparison of branches one by one:
in terms of which conditions occur, where they occur first, and which branch stands for them.
`Exact` says it so, and `exact_iff_eq_between` that `Delta.between` finds the one delta that is
exact, and finds nothing only between rulesets that agree in all of this.

## What is here

* `Accounts` — what a changed branch tells of the old and the new actions.
* `Exact` — the delta of two rulesets, and `exact_between`, `Exact.eq`.
* `Ruleset.Agrees` — what an empty delta means.
-/

set_option autoImplicit false

namespace RuleReview

/-! ## Actions -/

/-- That a change accounts for the difference between old and new actions. -/
structure BranchChange.Accounts (change : BranchChange) (old new : List Text) : Prop where
  /-- Added are the new actions that are no old ones, in their order. -/
  added : change.addedActions = new.filter (· ∉ old)
  /-- Removed are the old actions that are no new ones, in their order. -/
  removed : change.removedActions = old.filter (· ∉ new)
  /-- The new actions are those that are not removed, and the added ones. -/
  mem_new : ∀ a, a ∈ new ↔ (a ∈ old ∧ a ∉ change.removedActions) ∨ a ∈ change.addedActions
  /-- Nothing is added and nothing removed only if the same actions are ordered or repeated in
  another way. -/
  silent_iff : change.addedActions = [] ∧ change.removedActions = [] ↔ ∀ a, a ∈ old ↔ a ∈ new

/-- Two filters are all that is needed to account for a difference. -/
theorem BranchChange.accounts_of_filter {change : BranchChange} {old new : List Text}
    (hadded : change.addedActions = new.filter (· ∉ old))
    (hremoved : change.removedActions = old.filter (· ∉ new)) : change.Accounts old new := by
  refine ⟨hadded, hremoved, fun a => ?_, ?_⟩
  · rw [hadded, hremoved, List.mem_filter, List.mem_filter]
    by_cases hold : a ∈ old <;> by_cases hnew : a ∈ new <;> simp [hold, hnew]
  · rw [hadded, hremoved, List.filter_eq_nil_iff, List.filter_eq_nil_iff]
    simp only [decide_eq_true_eq, not_not]
    constructor
    · rintro ⟨hadd, hremove⟩ a
      exact ⟨hremove a, hadd a⟩
    · intro hsame
      exact ⟨fun a => (hsame a).2, fun a => (hsame a).1⟩

/-- The difference leaves no choice in how a change accounts for it. -/
theorem BranchChange.Accounts.eq {x y : BranchChange} {old new : List Text}
    (hx : x.Accounts old new) (hy : y.Accounts old new) (hsame : x.condition = y.condition) :
    x = y := by
  cases x
  cases y
  rw [BranchChange.mk.injEq]
  exact ⟨hsame, hx.added.trans hy.added.symm, hx.removed.trans hy.removed.symm⟩

/-! ## Names -/

/-- That one set of names holds what is in the first of two others and not in the second. -/
def NameSet.IsMinus (d s t : NameSet) : Prop := ∀ name, name ∈ d ↔ name ∈ s ∧ name ∉ t

theorem NameSet.IsMinus.eq {d d' s t : NameSet} (h : d.IsMinus s t) (h' : d'.IsMinus s t) :
    d = d' :=
  NameSet.ext d d' fun name => (h name).trans (h' name).symm

theorem NameSet.isEmpty_iff (s : NameSet) : s.isEmpty = true ↔ ∀ name, name ∉ s := by
  rw [isEmpty, List.isEmpty_iff, List.eq_nil_iff_forall_not_mem]
  rfl

/-- Two sets are equal if neither has a name that the other has not. -/
theorem NameSet.eq_iff_of_isMinus {s t d d' : NameSet} (h : d.IsMinus t s) (h' : d'.IsMinus s t) :
    s = t ↔ d.isEmpty = true ∧ d'.isEmpty = true := by
  rw [isEmpty_iff, isEmpty_iff]
  constructor
  · rintro rfl
    exact ⟨fun name hname => ((h name).1 hname).2 ((h name).1 hname).1,
      fun name hname => ((h' name).1 hname).2 ((h' name).1 hname).1⟩
  · rintro ⟨hempty, hempty'⟩
    refine NameSet.ext s t fun name => ⟨fun hs => ?_, fun ht => ?_⟩
    · by_contra ht
      exact hempty' name ((h' name).2 ⟨hs, ht⟩)
    · by_contra hs
      exact hempty name ((h name).2 ⟨ht, hs⟩)

/-! ## Exact deltas -/

/-- That two rulesets agree in everything that is compared. -/
structure Ruleset.Agrees (a b : Ruleset) : Prop where
  /-- They have the same conditions. -/
  conditions : ∀ condition, condition ∈ a.conditions ↔ condition ∈ b.conditions
  /-- The branches that stand for a condition have the same actions. -/
  actions : ∀ condition x y, a.Stands condition x → b.Stands condition y → x.actions = y.actions
  /-- They mention the same names. -/
  mentions : a.mentions = b.mentions
  /-- They assign the same names. -/
  outputs : a.outputs = b.outputs

namespace Delta

/-- That two rulesets have a condition in common, and the branches that stand for it differ in their
actions. -/
def Differs (before after : Ruleset) (condition : Text) : Prop :=
  ∃ old new, before.Stands condition old ∧ after.Stands condition new ∧ old.actions ≠ new.actions

/-- That a delta tells exactly what one ruleset has that another has not. -/
structure Exact (before after : Ruleset) (d : Delta) : Prop where
  /-- The added branches are the new conditions that are no old ones. -/
  added : Firsts after.conditions (· ∉ before.conditions) d.addedBranches
  /-- The removed branches are the old conditions that are no new ones. -/
  removed : Firsts before.conditions (· ∉ after.conditions) d.removedBranches
  /-- There is one changed branch for each common condition whose branches differ. -/
  changed : Firsts after.conditions (Differs before after) (d.changedBranches.map (·.condition))
  /-- Each of them accounts for the difference. -/
  accounts : ∀ change ∈ d.changedBranches, ∃ old new, before.Stands change.condition old ∧
    after.Stands change.condition new ∧ change.Accounts old.actions new.actions
  /-- The names are compared as sets. -/
  addedVariables : d.addedVariables.IsMinus after.mentions before.mentions
  removedVariables : d.removedVariables.IsMinus before.mentions after.mentions
  addedOutputs : d.addedOutputs.IsMinus after.outputs before.outputs
  removedOutputs : d.removedOutputs.IsMinus before.outputs after.outputs

section Between

variable {before after : Ruleset}

/-- A branch has changed if another one stands for its condition on the other side. -/
theorem change?_eq_some_iff {b : Branch} {change : BranchChange} :
    change? before b = some change ↔
      ∃ old, before.Stands b.condition.text old ∧ old.actions ≠ b.actions ∧
        change = ⟨b.condition.text, b.actions.filter (· ∉ old.actions),
          old.actions.filter (· ∉ b.actions)⟩ := by
  have hfilter : ∀ xs ys : List Text, xs.filter (!ys.contains ·) = xs.filter (· ∉ ys) := by
    intro xs ys
    refine List.filter_congr fun a _ => ?_
    by_cases ha : a ∈ ys <;> simp [ha]
  rw [change?]
  cases hfind : before.find? b.condition.text with
  | none =>
    refine iff_of_false (by simp) ?_
    rintro ⟨old, hold, _⟩
    rw [Ruleset.find?_eq_some_iff.2 hold] at hfind
    cases hfind
  | some old =>
    have hold := Ruleset.find?_eq_some_iff.1 hfind
    simp only [hfilter]
    split
    · next hsame =>
      refine iff_of_false (by simp) ?_
      rintro ⟨old', hold', hne, _⟩
      rw [hold'.unique hold] at hne
      exact hne hsame
    · next hne =>
      constructor
      · intro hchange
        exact ⟨old, hold, hne, (Option.some.inj hchange).symm⟩
      · rintro ⟨old', hold', _, rfl⟩
        rw [hold'.unique hold]

/-- The changed branches have their conditions in the order in which these stand. -/
theorem map_condition_filterMap_change?_sublist (bs : List Branch) :
    ((bs.filterMap (change? before)).map (·.condition)).Sublist (bs.map (·.condition.text)) := by
  induction bs with
  | nil => exact List.Sublist.slnil
  | cons b rest ih =>
    cases hchange : change? before b with
    | none =>
      rw [List.filterMap_cons_none hchange, List.map_cons]
      exact ih.cons _
    | some change =>
      obtain ⟨old, _, _, rfl⟩ := change?_eq_some_iff.1 hchange
      rw [List.filterMap_cons_some hchange, List.map_cons, List.map_cons]
      exact ih.cons_cons _

theorem firsts_changed :
    Firsts after.conditions (Differs before after)
      (((firstBranches [] after.branches).filterMap (change? before)).map (·.condition)) where
  mem_iff condition := by
    rw [List.mem_map]
    constructor
    · rintro ⟨change, hmem, rfl⟩
      obtain ⟨b, hb, hchange⟩ := List.mem_filterMap.1 hmem
      obtain ⟨old, hold, hne, rfl⟩ := change?_eq_some_iff.1 hchange
      have hstands := stands_of_mem_firstBranches hb
      exact ⟨hstands.mem_conditions, old, b, hold, hstands, hne⟩
    · rintro ⟨hmem, old, new, hold, hnew, hne⟩
      have hlisted := ((firsts_firstBranches [] after.branches).mem_iff condition).2
        ⟨hmem, List.not_mem_nil⟩
      obtain ⟨b, hb, rfl⟩ := List.mem_map.1 hlisted
      obtain rfl : b = new := (stands_of_mem_firstBranches hb).unique hnew
      exact ⟨_, List.mem_filterMap.2 ⟨b, hb, change?_eq_some_iff.2 ⟨old, hold, hne, rfl⟩⟩, rfl⟩
  order := (firsts_firstBranches [] after.branches).order.sublist
    (map_condition_filterMap_change?_sublist _)

variable (before after)

/-- What the comparison finds is exact. -/
theorem exact_between : Exact before after (between before after) where
  added := by
    have hlisted := (firsts_firstBranches [] after.branches).filter
      fun condition => (before.find? condition).isNone
    rw [List.filter_map] at hlisted
    refine hlisted.congr fun condition _ => ?_
    rw [Option.isNone_iff_eq_none, Ruleset.find?_eq_none_iff]
    exact and_iff_right List.not_mem_nil
  removed := by
    have hlisted := (firsts_withoutRepeats before.conditions).filter
      fun condition => (after.find? condition).isNone
    rw [← withoutRepeats_filter] at hlisted
    refine hlisted.congr fun condition _ => ?_
    rw [Option.isNone_iff_eq_none, Ruleset.find?_eq_none_iff]
    exact iff_of_eq (true_and _)
  changed := firsts_changed
  accounts := by
    intro change hmem
    obtain ⟨b, hb, hchange⟩ := List.mem_filterMap.1 hmem
    obtain ⟨old, hold, _, rfl⟩ := change?_eq_some_iff.1 hchange
    exact ⟨old, b, hold, stands_of_mem_firstBranches hb,
      BranchChange.accounts_of_filter rfl rfl⟩
  addedVariables := NameSet.mem_minus _ _
  removedVariables := NameSet.mem_minus _ _
  addedOutputs := NameSet.mem_minus _ _
  removedOutputs := NameSet.mem_minus _ _

end Between

/-- Lists of changes with the same conditions are equal if a condition leaves no choice. -/
theorem eq_of_map_condition_eq {xs ys : List BranchChange}
    (hmap : xs.map (·.condition) = ys.map (·.condition))
    (hentry : ∀ x ∈ xs, ∀ y ∈ ys, x.condition = y.condition → x = y) : xs = ys := by
  induction xs generalizing ys with
  | nil => exact (List.map_eq_nil_iff.1 hmap.symm).symm
  | cons x xs ih =>
    cases ys with
    | nil => cases hmap
    | cons y ys =>
      rw [List.map_cons, List.map_cons, List.cons.injEq] at hmap
      have hhead : x = y := hentry x (by simp) y (by simp) hmap.1
      have htail : xs = ys := ih hmap.2 fun x' hx' y' hy' =>
        hentry x' (List.mem_cons_of_mem x hx') y' (List.mem_cons_of_mem y hy')
      rw [hhead, htail]

/-- There is only one exact delta. -/
theorem Exact.eq {before after : Ruleset} {d d' : Delta} (h : Exact before after d)
    (h' : Exact before after d') : d = d' := by
  have hchanged : d.changedBranches = d'.changedBranches := by
    refine eq_of_map_condition_eq (h.changed.eq h'.changed) fun x hx y hy hsame => ?_
    obtain ⟨old, new, hold, hnew, hx⟩ := h.accounts x hx
    obtain ⟨old', new', hold', hnew', hy⟩ := h'.accounts y hy
    rw [← hsame] at hold' hnew'
    obtain rfl := hold.unique hold'
    obtain rfl := hnew.unique hnew'
    exact hx.eq hy hsame
  cases d
  cases d'
  rw [Delta.mk.injEq]
  exact ⟨h.added.eq h'.added, h.removed.eq h'.removed, hchanged,
    h.addedVariables.eq h'.addedVariables, h.removedVariables.eq h'.removedVariables,
    h.addedOutputs.eq h'.addedOutputs, h.removedOutputs.eq h'.removedOutputs⟩

/-- An exact delta is empty between rulesets that agree, and between no others. -/
theorem Exact.isEmpty_iff {before after : Ruleset} {d : Delta} (h : Exact before after d) :
    d.isEmpty = true ↔ before.Agrees after := by
  have hadded : d.addedBranches.isEmpty = true ↔
      ∀ condition ∈ after.conditions, condition ∈ before.conditions := by
    rw [List.isEmpty_iff, h.added.eq_nil_iff]
    simp only [not_not]
  have hremoved : d.removedBranches.isEmpty = true ↔
      ∀ condition ∈ before.conditions, condition ∈ after.conditions := by
    rw [List.isEmpty_iff, h.removed.eq_nil_iff]
    simp only [not_not]
  have hchanged : d.changedBranches.isEmpty = true ↔
      ∀ condition x y, before.Stands condition x → after.Stands condition y →
        x.actions = y.actions := by
    rw [List.isEmpty_iff, ← List.map_eq_nil_iff, h.changed.eq_nil_iff]
    constructor
    · intro hsame condition x y hx hy
      by_contra hne
      exact hsame condition hy.mem_conditions ⟨x, y, hx, hy, hne⟩
    · rintro hsame condition _ ⟨x, y, hx, hy, hne⟩
      exact hne (hsame condition x y hx hy)
  have hmentions := NameSet.eq_iff_of_isMinus h.addedVariables h.removedVariables
  have houtputs := NameSet.eq_iff_of_isMinus h.addedOutputs h.removedOutputs
  simp only [isEmpty, Bool.and_eq_true]
  constructor
  · rintro ⟨⟨⟨⟨⟨⟨ha, hr⟩, hc⟩, hav⟩, hrv⟩, hao⟩, hro⟩
    exact ⟨fun condition => ⟨hremoved.1 hr condition, hadded.1 ha condition⟩, hchanged.1 hc,
      hmentions.2 ⟨hav, hrv⟩, houtputs.2 ⟨hao, hro⟩⟩
  · rintro ⟨hconditions, hactions, hm, ho⟩
    obtain ⟨hav, hrv⟩ := hmentions.1 hm
    obtain ⟨hao, hro⟩ := houtputs.1 ho
    have ha := hadded.2 fun condition => (hconditions condition).2
    have hr := hremoved.2 fun condition => (hconditions condition).1
    exact ⟨⟨⟨⟨⟨⟨ha, hr⟩, hchanged.2 hactions⟩, hav⟩, hrv⟩, hao⟩, hro⟩

/-- **The comparison finds the one exact delta, and it is empty exactly between rulesets that
agree.** -/
theorem exact_iff_eq_between (before after : Ruleset) :
    (∀ d, Exact before after d ↔ d = between before after) ∧
      ((between before after).isEmpty = true ↔ before.Agrees after) := by
  have hexact := exact_between before after
  refine ⟨fun d => ⟨fun h => h.eq hexact, ?_⟩, hexact.isEmpty_iff⟩
  rintro rfl
  exact hexact

end Delta
end RuleReview
