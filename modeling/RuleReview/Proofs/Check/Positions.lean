import Mathlib.Data.List.Basic
import RuleReview.Check.Measure

/-!
# Positions of branches

The checks say of branches where they stand, counted from one, and not which branches they are.  So
what a check lists are the positions of the branches of some kind (`positionsOf`).  They come in
increasing order, and a position is among them exactly if the branch there is of that kind.  Hence
the positions of a kind and those of all other branches part the positions of the ruleset.
-/

set_option autoImplicit false

namespace RuleReview
namespace Check

variable {branches : List Branch}

theorem map_snd_numbered (branches : List Branch) : (numbered branches).map (·.2) = branches := by
  rw [numbered, List.map_map]
  exact List.zipIdx_map_fst 0 branches

theorem mem_numbered_iff {p : Nat} {b : Branch} :
    (p, b) ∈ numbered branches ↔ ∃ i, p = i + 1 ∧ branches[i]? = some b := by
  rw [numbered, List.mem_map]
  constructor
  · rintro ⟨⟨e, i⟩, hmem, heq⟩
    obtain ⟨rfl, rfl⟩ := Prod.mk.inj heq
    exact ⟨i, rfl, List.mk_mem_zipIdx_iff_getElem?.1 hmem⟩
  · rintro ⟨i, rfl, hget⟩
    exact ⟨(b, i), List.mk_mem_zipIdx_iff_getElem?.2 hget, rfl⟩

theorem getElem?_numbered (branches : List Branch) (i : Nat) :
    (numbered branches)[i]? = branches[i]?.map fun b => (i + 1, b) := by
  rw [numbered, List.getElem?_map, List.getElem?_zipIdx, Option.map_map, Nat.zero_add]
  rfl

/-- Branches are numbered in increasing order. -/
theorem pairwise_fst_numbered (branches : List Branch) :
    ((numbered branches).map (·.1)).Pairwise (· < ·) := by
  have hindices : (branches.zipIdx.map (·.2)).Pairwise (· < ·) := by
    rw [List.zipIdx_map_snd]
    exact List.pairwise_lt_range'
  rw [numbered, List.map_map]
  exact List.pairwise_map.2 ((List.pairwise_map.1 hindices).imp Nat.succ_lt_succ)

/-- The positions of the branches of a kind. -/
def positionsOf (kind : Branch → Bool) (branches : List Branch) : List Nat :=
  ((numbered branches).filter (kind ·.2)).map (·.1)

/-- No branch of a kind is found exactly if there is none. -/
theorem positionsOf_eq_nil_iff (kind : Branch → Bool) :
    positionsOf kind branches = [] ↔ ∀ b ∈ branches, kind b = false := by
  conv_rhs => rw [← map_snd_numbered branches]
  rw [positionsOf, List.map_eq_nil_iff, List.filter_eq_nil_iff, List.forall_mem_map]
  simp

theorem length_positionsOf (kind : Branch → Bool) :
    (positionsOf kind branches).length = branches.countP kind := by
  conv_rhs => rw [← map_snd_numbered branches]
  rw [positionsOf, List.length_map, ← List.countP_eq_length_filter, List.countP_map]
  rfl

/-- A position is listed if the branch there is of the kind. -/
theorem mem_positionsOf_iff {kind : Branch → Bool} {p : Nat} :
    p ∈ positionsOf kind branches ↔ ∃ i b, p = i + 1 ∧ branches[i]? = some b ∧ kind b = true := by
  simp only [positionsOf, List.mem_map, List.mem_filter, Prod.exists, mem_numbered_iff]
  constructor
  · rintro ⟨_, b, ⟨⟨i, rfl, hget⟩, hkind⟩, rfl⟩
    exact ⟨i, b, rfl, hget, hkind⟩
  · rintro ⟨i, b, rfl, hget, hkind⟩
    exact ⟨i + 1, b, ⟨⟨i, rfl, hget⟩, hkind⟩, rfl⟩

/-- Positions are listed in increasing order. -/
theorem pairwise_positionsOf (kind : Branch → Bool) (branches : List Branch) :
    (positionsOf kind branches).Pairwise (· < ·) :=
  (pairwise_fst_numbered branches).sublist (List.filter_sublist.map _)

/-! ## A kind and all others -/

/-- No position is one of a kind and one of the other branches. -/
theorem not_mem_positionsOf_not {kind : Branch → Bool} {p : Nat}
    (h : p ∈ positionsOf kind branches) : p ∉ positionsOf (!kind ·) branches := by
  obtain ⟨i, b, rfl, hget, hkind⟩ := mem_positionsOf_iff.1 h
  rw [mem_positionsOf_iff]
  rintro ⟨j, c, hij, hget', hother⟩
  obtain rfl := Nat.succ.inj hij
  obtain rfl := Option.some.inj (hget.symm.trans hget')
  simp [hkind] at hother

/-- The positions of a kind and those of the other branches are all positions. -/
theorem mem_positionsOf_or_iff (kind : Branch → Bool) (p : Nat) :
    p ∈ positionsOf kind branches ∨ p ∈ positionsOf (!kind ·) branches ↔
      1 ≤ p ∧ p ≤ branches.length := by
  rw [mem_positionsOf_iff, mem_positionsOf_iff]
  constructor
  · rintro (⟨i, b, rfl, hget, -⟩ | ⟨i, b, rfl, hget, -⟩)
    all_goals
      have hlt := (List.getElem?_eq_some_iff.1 hget).1
      omega
  · rintro ⟨hpos, hle⟩
    have hlt : p - 1 < branches.length := by omega
    have hp : p = p - 1 + 1 := by omega
    cases hkind : kind branches[p - 1] with
    | true => exact .inl ⟨p - 1, _, hp, List.getElem?_eq_getElem hlt, hkind⟩
    | false => exact .inr ⟨p - 1, _, hp, List.getElem?_eq_getElem hlt, by rw [hkind]; rfl⟩

end Check
end RuleReview
