import RuleReview.Text.Basic

/-!
# Sets of names, and tables keyed by names

The names that a rule mentions and the names that it assigns are sets: a name counts once, and the
order in which the set is shown is the order of the names, not that of the script.  A set is
therefore the strictly increasing list of its members, and the order is part of the type, so two
sets with the same members are the same set (`NameSet.ext`).

A table from names to values is kept in the same order, one entry for each key; a later value for
a key takes the place of the earlier one.

## What is here

* `NameSet`, with `insert`, `ofList` and `minus`, each described by its members.
* `Keyed`, with `put`, `find?`, `ofList` and `keys`.
-/

set_option autoImplicit false

namespace RuleReview

/-! ## The order of texts -/

/-- Of two different texts one comes before the other. -/
theorem Text.lt_of_not_lt_of_ne (a b : Text) (h : ¬ a < b) (hne : a ≠ b) : b < a := by
  apply Classical.byContradiction
  intro h'
  exact hne (List.le_antisymm (List.not_lt.1 h') (List.not_lt.1 h))

/-! ## Sets -/

/-- A set of names: its members in increasing order, each once. -/
structure NameSet where
  /-- The members in increasing order. -/
  names : List Text
  /-- Each member comes before all later ones. -/
  sorted : names.Pairwise (· < ·)
  deriving DecidableEq

namespace NameSet

instance : Membership Text NameSet := ⟨fun s n => n ∈ s.names⟩

theorem mem_def (n : Text) (s : NameSet) : n ∈ s ↔ n ∈ s.names := Iff.rfl

/-- The set without members. -/
def empty : NameSet := ⟨[], List.Pairwise.nil⟩

/-- Put a name into its place among names in increasing order. -/
def place (n : Text) : List Text → List Text
  | [] => [n]
  | m :: rest =>
    if n < m then n :: m :: rest else if n = m then m :: rest else m :: place n rest

theorem mem_place (n : Text) (names : List Text) (x : Text) :
    x ∈ place n names ↔ x = n ∨ x ∈ names := by
  induction names with
  | nil => simp [place]
  | cons m rest ih =>
    simp only [place]
    split
    · simp
    · split
      · next h => subst h; simp
      · simp only [List.mem_cons, ih]; grind

theorem pairwise_place (n : Text) (names : List Text) (h : names.Pairwise (· < ·)) :
    (place n names).Pairwise (· < ·) := by
  induction names with
  | nil => simp [place]
  | cons m rest ih =>
    rw [List.pairwise_cons] at h
    simp only [place]
    split
    · next hlt =>
      refine List.pairwise_cons.2 ⟨fun x hx => ?_, List.pairwise_cons.2 h⟩
      rcases List.mem_cons.1 hx with rfl | hx
      · exact hlt
      · exact List.lt_trans hlt (h.1 x hx)
    · next hlt =>
      split
      · exact List.pairwise_cons.2 h
      · next hne =>
        refine List.pairwise_cons.2 ⟨fun x hx => ?_, ih h.2⟩
        rcases (mem_place n rest x).1 hx with rfl | hx
        · exact Text.lt_of_not_lt_of_ne x m hlt hne
        · exact h.1 x hx

/-- The set with one more member. -/
def insert (s : NameSet) (n : Text) : NameSet := ⟨place n s.names, pairwise_place n _ s.sorted⟩

theorem mem_insert (s : NameSet) (n x : Text) : x ∈ s.insert n ↔ x = n ∨ x ∈ s :=
  mem_place n s.names x

/-- The set of the names of a list. -/
def ofList (names : List Text) : NameSet := names.foldl insert empty

theorem mem_foldl_insert (names : List Text) (s : NameSet) (x : Text) :
    x ∈ names.foldl insert s ↔ x ∈ names ∨ x ∈ s := by
  induction names generalizing s with
  | nil => simp
  | cons n rest ih => simp only [List.foldl_cons, ih, mem_insert, List.mem_cons]; grind

theorem mem_ofList (names : List Text) (x : Text) : x ∈ ofList names ↔ x ∈ names := by
  rw [ofList, mem_foldl_insert]
  simp [mem_def, empty]

/-- The members of `s` that are not in `t`. -/
def minus (s t : NameSet) : NameSet :=
  ⟨s.names.filter (· ∉ t.names), s.sorted.filter _⟩

theorem mem_minus (s t : NameSet) (x : Text) : x ∈ s.minus t ↔ x ∈ s ∧ x ∉ t := by
  simp [minus, mem_def]

/-- Whether the set has no member. -/
def isEmpty (s : NameSet) : Bool := s.names.isEmpty

end NameSet

/-- Two increasing lists with the same members are equal. -/
theorem Text.eq_of_sorted_of_mem_iff (a b : List Text) (ha : a.Pairwise (· < ·))
    (hb : b.Pairwise (· < ·)) (h : ∀ x, x ∈ a ↔ x ∈ b) : a = b := by
  induction a generalizing b with
  | nil => cases b with
    | nil => rfl
    | cons y _ => exact absurd ((h y).2 (by simp)) (by simp)
  | cons x as ih => cases b with
    | nil => exact absurd ((h x).1 (by simp)) (by simp)
    | cons y bs =>
      rw [List.pairwise_cons] at ha hb
      have hxy : x = y := by
        rcases List.mem_cons.1 ((h x).1 (by simp)) with hx | hx
        · exact hx
        · rcases List.mem_cons.1 ((h y).2 (by simp)) with hy | hy
          · exact hy.symm
          · exact absurd (List.lt_trans (ha.1 y hy) (hb.1 x hx)) (List.lt_irrefl x)
      subst hxy
      refine congrArg (x :: ·) (ih bs ha.2 hb.2 fun z => ?_)
      have hz := h z
      simp only [List.mem_cons] at hz
      constructor
      · intro hm
        rcases hz.1 (Or.inr hm) with rfl | hm'
        · exact absurd (ha.1 z hm) (List.lt_irrefl z)
        · exact hm'
      · intro hm
        rcases hz.2 (Or.inr hm) with rfl | hm'
        · exact absurd (hb.1 z hm) (List.lt_irrefl z)
        · exact hm'

/-- A set is determined by its members. -/
theorem NameSet.ext (s t : NameSet) (h : ∀ x, x ∈ s ↔ x ∈ t) : s = t := by
  cases s with
  | mk a ha => cases t with
    | mk b hb => cases Text.eq_of_sorted_of_mem_iff a b ha hb h; rfl

theorem NameSet.eq_of_names_eq {s t : NameSet} (h : s.names = t.names) : s = t :=
  NameSet.ext s t fun x => by rw [NameSet.mem_def, NameSet.mem_def, h]

/-! ## Tables -/

/-- A table from names to values, in the order of the names. -/
abbrev Keyed (α : Type) := List (Text × α)

namespace Keyed

variable {α : Type}

/-- Set the value of a key, in the key's place. -/
def put (key : Text) (value : α) : Keyed α → Keyed α
  | [] => [(key, value)]
  | (k, v) :: rest =>
    if key < k then (key, value) :: (k, v) :: rest
    else if key = k then (key, value) :: rest
    else (k, v) :: put key value rest

/-- The value of a key. -/
def find? (key : Text) : Keyed α → Option α
  | [] => none
  | (k, v) :: rest => if key = k then some v else find? key rest

/-- A key that was just set has the new value, and the other keys keep theirs. -/
theorem find?_put (key : Text) (value : α) (table : Keyed α) (k : Text) :
    find? k (put key value table) = if k = key then some value else find? k table := by
  induction table with
  | nil => simp [put, find?]
  | cons entry rest ih =>
    obtain ⟨a, v⟩ := entry
    simp only [put]
    split
    · simp [find?]
    · split
      · next h => subst h; simp only [find?]; grind
      · next h => simp only [find?, ih]; grind

/-- The table of a list of entries, where a later entry of a key counts. -/
def ofList (entries : List (Text × α)) : Keyed α :=
  entries.foldl (fun table e => put e.1 e.2 table) []

/-- The keys of a table. -/
def keys (table : Keyed α) : List Text := table.map (·.1)

/-- A key takes its place among the keys as a name does in a set. -/
theorem keys_put (key : Text) (value : α) (table : Keyed α) :
    keys (put key value table) = NameSet.place key (keys table) := by
  induction table with
  | nil => rfl
  | cons entry rest ih =>
    obtain ⟨k, v⟩ := entry
    simp only [put, keys, List.map_cons, NameSet.place]
    split
    · rfl
    · split
      · next h => rw [List.map_cons, h]
      · rw [List.map_cons]
        exact congrArg (k :: ·) ih

theorem keys_foldl_put (entries : List (Text × α)) (table : Keyed α) (s : NameSet)
    (h : keys table = s.names) :
    keys (entries.foldl (fun table e => put e.1 e.2 table) table) =
      ((entries.map (·.1)).foldl NameSet.insert s).names := by
  induction entries generalizing table s with
  | nil => exact h
  | cons e entries ih =>
    rw [List.foldl_cons, List.map_cons, List.foldl_cons]
    refine ih _ _ ?_
    rw [keys_put, h]
    rfl

/-- The keys of a table are the set of the keys of its entries, in the order of the set. -/
theorem keys_ofList (entries : List (Text × α)) :
    keys (ofList entries) = (NameSet.ofList (entries.map (·.1))).names :=
  keys_foldl_put entries [] .empty rfl

theorem ofList_append_singleton (entries : List (Text × α)) (e : Text × α) :
    ofList (entries ++ [e]) = put e.1 e.2 (ofList entries) := by
  rw [ofList, List.foldl_append]
  rfl

end Keyed
end RuleReview
