import Mathlib.Data.List.Sort
import RuleReview.Delta

/-!
# First occurrences

Rulesets are compared condition by condition.  A condition may occur more than once; it counts where
it occurs first, and the branch that stands there stands for it.  The comparison finds first
occurrences in two ways: `firstBranches` remembers what it has seen, and `withoutRepeats` takes out
what follows.  This file says what both of them come to, without regard to either.

## What is here

* `Firsts` — some of the members of a list, each once, in the order of their first occurrences;
  there is only one such list (`Firsts.eq`).
* `firsts_firstBranches`, `firsts_withoutRepeats` — the two ways to find them.
* `Ruleset.Stands` — the branch that stands for a condition, and `find?_eq_some_iff`.
-/

set_option autoImplicit false

namespace RuleReview

/-! ## Lists of first occurrences -/

/-- The members of `all` for which `p` holds, in the order in which they first occur there. -/
structure Firsts (all : List Text) (p : Text → Prop) (listed : List Text) : Prop where
  /-- These are listed, and nothing else. -/
  mem_iff : ∀ t, t ∈ listed ↔ t ∈ all ∧ p t
  /-- What occurs first is listed first; as no text comes before itself, none is listed twice. -/
  order : listed.Pairwise fun s t => all.idxOf s < all.idxOf t

namespace Firsts

variable {all listed others : List Text} {p q : Text → Prop}

/-- The order and the members leave no choice. -/
theorem eq (h : Firsts all p listed) (h' : Firsts all p others) : listed = others := by
  have hirrefl : Std.Irrefl fun s t : Text => all.idxOf s < all.idxOf t :=
    ⟨fun _ => Nat.lt_irrefl _⟩
  have hantisymm : Std.Antisymm fun s t : Text => all.idxOf s < all.idxOf t :=
    ⟨fun _ _ hlt hgt => absurd hgt (Nat.lt_asymm hlt)⟩
  refine h.order.eq_of_mem_iff h'.order fun t => ?_
  rw [h.mem_iff, h'.mem_iff]

theorem congr (hpq : ∀ t ∈ all, (p t ↔ q t)) (h : Firsts all p listed) : Firsts all q listed where
  mem_iff t := (h.mem_iff t).trans (and_congr_right (hpq t))
  order := h.order

theorem eq_nil_iff (h : Firsts all p listed) : listed = [] ↔ ∀ t ∈ all, ¬ p t := by
  rw [List.eq_nil_iff_forall_not_mem]
  refine forall_congr' fun t => ?_
  rw [h.mem_iff, not_and]

/-- To list fewer members is to leave the others out. -/
theorem filter (h : Firsts all p listed) (keep : Text → Bool) :
    Firsts all (fun t => p t ∧ keep t = true) (listed.filter keep) where
  mem_iff t := by rw [List.mem_filter, h.mem_iff, and_assoc]
  order := h.order.sublist List.filter_sublist

theorem nil : Firsts [] p [] := ⟨by simp, List.Pairwise.nil⟩

/-- In front of a list, what is not in front keeps its order. -/
theorem order_cons {t : Text} (h : listed.Pairwise fun s u => all.idxOf s < all.idxOf u)
    (hnew : t ∉ listed) :
    listed.Pairwise fun s u => (t :: all).idxOf s < (t :: all).idxOf u := by
  refine h.imp_of_mem fun {s u} hs hu hlt => ?_
  have hts : t ≠ s := fun heq => hnew (heq ▸ hs)
  have htu : t ≠ u := fun heq => hnew (heq ▸ hu)
  rw [List.idxOf_cons_ne all hts, List.idxOf_cons_ne all htu]
  exact Nat.succ_lt_succ hlt

/-- A text in front that is not to be listed makes no difference. -/
theorem skip {t : Text} (ht : ¬ p t) (h : Firsts all p listed) : Firsts (t :: all) p listed where
  mem_iff s := by
    rw [h.mem_iff, List.mem_cons]
    refine ⟨fun hs => ⟨.inr hs.1, hs.2⟩, ?_⟩
    rintro ⟨rfl | hs, hp⟩
    · exact absurd hp ht
    · exact ⟨hs, hp⟩
  order := order_cons h.order fun hmem => ht ((h.mem_iff t).1 hmem).2

/-- A text in front that is to be listed is listed first, and not again. -/
theorem cons {t : Text} (ht : p t) (h : Firsts all (fun s => p s ∧ s ≠ t) listed) :
    Firsts (t :: all) p (t :: listed) where
  mem_iff s := by
    rw [List.mem_cons, List.mem_cons, h.mem_iff]
    constructor
    · rintro (rfl | ⟨hs, hp, _⟩)
      · exact ⟨.inl rfl, ht⟩
      · exact ⟨.inr hs, hp⟩
    · rintro ⟨rfl | hs, hp⟩
      · exact .inl rfl
      · by_cases hst : s = t
        · exact .inl hst
        · exact .inr ⟨hs, hp, hst⟩
  order := by
    have hnew : t ∉ listed := fun hmem => ((h.mem_iff t).1 hmem).2.2 rfl
    refine List.pairwise_cons.2 ⟨fun s hs => ?_, order_cons h.order hnew⟩
    have hts : t ≠ s := fun heq => hnew (heq ▸ hs)
    rw [List.idxOf_cons_self, List.idxOf_cons_ne all hts]
    exact Nat.succ_pos _

end Firsts

/-! ## Finding first occurrences -/

/-- The branches that stand for their conditions list the conditions not seen before. -/
theorem firsts_firstBranches (seen : List Text) (bs : List Branch) :
    Firsts (bs.map (·.condition.text)) (· ∉ seen)
      ((firstBranches seen bs).map (·.condition.text)) := by
  fun_induction firstBranches seen bs with
  | case1 => exact .nil
  | case2 seen b rest hseen ih =>
    have hmem : b.condition.text ∈ seen := List.contains_iff_mem.1 hseen
    exact ih.skip (not_not_intro hmem)
  | case3 seen b rest hseen ih =>
    have hnew : b.condition.text ∉ seen := fun hmem => hseen (List.contains_iff_mem.2 hmem)
    refine Firsts.cons hnew (ih.congr fun t _ => ?_)
    rw [List.mem_cons, not_or, and_comm]

theorem firsts_withoutRepeats (all : List Text) :
    Firsts all (fun _ => True) (withoutRepeats all) := by
  induction all with
  | nil => exact .nil
  | cons t rest ih =>
    refine Firsts.cons trivial ((ih.filter (· ≠ t)).congr fun s _ => ?_)
    rw [decide_eq_true_eq]

/-- It is all the same whether members are left out before or after the repetitions. -/
theorem withoutRepeats_filter (keep : Text → Bool) (all : List Text) :
    withoutRepeats (all.filter keep) = (withoutRepeats all).filter keep := by
  induction all with
  | nil => rfl
  | cons t rest ih =>
    by_cases hkeep : keep t = true
    · rw [List.filter_cons_of_pos hkeep, withoutRepeats, withoutRepeats,
        List.filter_cons_of_pos hkeep, ih, List.filter_comm]
    · rw [List.filter_cons_of_neg hkeep, withoutRepeats, List.filter_cons_of_neg hkeep, ih,
        List.filter_filter]
      refine List.filter_congr fun s _ => ?_
      have hst : keep s = true → s ≠ t := fun hs heq => hkeep (heq ▸ hs)
      cases hs : keep s with
      | false => rfl
      | true => simp [hst hs]

/-! ## The branch that stands for a condition -/

/-- A branch that stands for a condition: the first in the ruleset that is shown by it. -/
def Ruleset.Stands (rs : Ruleset) (condition : Text) (b : Branch) : Prop :=
  ∃ front back, rs.branches = front ++ b :: back ∧ b.condition.text = condition ∧
    ∀ earlier ∈ front, earlier.condition.text ≠ condition

namespace Ruleset

variable {rs : Ruleset} {condition : Text} {b : Branch}

theorem find?_eq_some_iff : rs.find? condition = some b ↔ rs.Stands condition b := by
  rw [find?, List.find?_eq_some_iff_append, Stands]
  constructor
  · rintro ⟨htext, front, back, hsplit, hfirst⟩
    exact ⟨front, back, hsplit, by simpa using htext, by simpa using hfirst⟩
  · rintro ⟨front, back, hsplit, htext, hfirst⟩
    exact ⟨by simpa using htext, front, back, hsplit, by simpa using hfirst⟩

theorem find?_eq_none_iff : rs.find? condition = none ↔ condition ∉ rs.conditions := by
  rw [find?, List.find?_eq_none, conditions, List.mem_map]
  simp

theorem Stands.unique {b' : Branch} (h : rs.Stands condition b) (h' : rs.Stands condition b') :
    b = b' := by
  rw [← find?_eq_some_iff] at h h'
  exact Option.some.inj (h.symm.trans h')

theorem Stands.mem_conditions (h : rs.Stands condition b) : condition ∈ rs.conditions := by
  obtain ⟨front, back, hsplit, htext, _⟩ := h
  rw [conditions, hsplit]
  simp [htext]

end Ruleset

/-- What is kept as a branch that stands for its condition was not seen, and does stand for it. -/
theorem split_of_mem_firstBranches {seen : List Text} {bs : List Branch} {b : Branch}
    (h : b ∈ firstBranches seen bs) :
    b.condition.text ∉ seen ∧ ∃ front back, bs = front ++ b :: back ∧
      ∀ earlier ∈ front, earlier.condition.text ≠ b.condition.text := by
  fun_induction firstBranches seen bs with
  | case1 => cases h
  | case2 seen b' rest hseen ih =>
    obtain ⟨hnew, front, back, rfl, hfirst⟩ := ih h
    have hmem : b'.condition.text ∈ seen := List.contains_iff_mem.1 hseen
    refine ⟨hnew, b' :: front, back, rfl, List.forall_mem_cons.2 ⟨fun heq => ?_, hfirst⟩⟩
    exact hnew (heq ▸ hmem)
  | case3 seen b' rest hseen ih =>
    rcases List.mem_cons.1 h with rfl | hlater
    · exact ⟨fun hmem => hseen (List.contains_iff_mem.2 hmem), [], rest, rfl, by simp⟩
    · obtain ⟨hnew, front, back, rfl, hfirst⟩ := ih hlater
      rw [List.mem_cons, not_or] at hnew
      refine ⟨hnew.2, b' :: front, back, rfl, List.forall_mem_cons.2 ⟨fun heq => ?_, hfirst⟩⟩
      exact hnew.1 heq.symm

theorem stands_of_mem_firstBranches {rs : Ruleset} {b : Branch}
    (h : b ∈ firstBranches [] rs.branches) : rs.Stands b.condition.text b := by
  obtain ⟨_, front, back, hsplit, hfirst⟩ := split_of_mem_firstBranches h
  exact ⟨front, back, hsplit, rfl, hfirst⟩

end RuleReview
