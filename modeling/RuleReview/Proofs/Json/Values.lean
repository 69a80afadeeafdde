import RuleReview.Proofs.Json.Nesting

/-!
# From a tree to its value

A free-form value without floats is what its tree is read as, if the tree does not nest deeper than
the reader goes (`value?_tree`).  That needs what every free-form value has: whole numbers that 64
bits hold, and keys in increasing order, since the reader puts the fields of an object into a table
by key (`FreeForm`).  A record is another matter.  Its fields stand in the order of their
declaration, and the reader finds them by name (`record?_object`).

Whether or not it is free-form, a value without floats is known by its tree, and so by its text in
either layout (`eq_of_layout_eq`).
-/

set_option autoImplicit false

namespace RuleReview

/-! ## Tables -/

/-- A key behind all others is put at the end of a table. -/
theorem Keyed.put_of_forall_lt {α : Type} {key : Text} {table : Keyed α}
    (h : ∀ entry ∈ table, entry.1 < key) (value : α) :
    table.put key value = table ++ [(key, value)] := by
  induction table with
  | nil => rfl
  | cons entry table ih =>
    obtain ⟨hentry, htable⟩ := List.forall_mem_cons.1 h
    have hafter : ¬ key < entry.1 := fun hbefore => List.lt_asymm hentry hbefore
    have hother : key ≠ entry.1 := fun heq => List.lt_irrefl key (heq ▸ hentry)
    rw [Keyed.put, if_neg hafter, if_neg hother, ih htable]
    rfl

namespace Json

open Text

/-! ## Free-form values -/

/-- The free-form values: whole numbers fit into 64 bits, with a sign or without, and an object has
its keys in increasing order, each once. -/
inductive FreeForm : Json → Prop
  | null : FreeForm .null
  | bool (b : Bool) : FreeForm (.bool b)
  | integer {n : Int} (hlow : -0x8000000000000000 ≤ n) (hhigh : n < UInt64.size) :
      FreeForm (.number (.integer n))
  | float (x : Float) : FreeForm (.number (.float x))
  | string (t : Text) : FreeForm (.string t)
  | array {items : List Json} (h : ∀ item ∈ items, FreeForm item) : FreeForm (.array items)
  | object {fields : List (Text × Json)} (hsorted : (fields.map (·.1)).Pairwise (· < ·))
      (h : ∀ field ∈ fields, FreeForm field.2) : FreeForm (.object fields)

mutual

/-- How deep the containers of a value nest. -/
def depth : Json → Nat
  | .array items => itemsDepth items + 1
  | .object fields => fieldsDepth fields + 1
  | _ => 0

/-- How deep the items of an array nest. -/
def itemsDepth : List Json → Nat
  | [] => 0
  | item :: items => max (depth item) (itemsDepth items)

/-- How deep the values of the fields of an object nest. -/
def fieldsDepth : List (Text × Json) → Nat
  | [] => 0
  | (_, value) :: fields => max (depth value) (fieldsDepth fields)

end

theorem depth_le_itemsDepth {items : List Json} {item : Json} (h : item ∈ items) :
    item.depth ≤ itemsDepth items := by
  induction items with
  | nil => cases h
  | cons first items ih =>
    rw [itemsDepth]
    rcases List.mem_cons.1 h with rfl | h
    · exact Nat.le_max_left _ _
    · exact Nat.le_trans (ih h) (Nat.le_max_right _ _)

theorem depth_le_fieldsDepth {fields : List (Text × Json)} {field : Text × Json}
    (h : field ∈ fields) : field.2.depth ≤ fieldsDepth fields := by
  induction fields with
  | nil => cases h
  | cons first fields ih =>
    rw [fieldsDepth]
    rcases List.mem_cons.1 h with rfl | h
    · exact Nat.le_max_left _ _
    · exact Nat.le_trans (ih h) (Nat.le_max_right _ _)

section Values

variable {d : Nat}

theorem values?_trees {items : List Json} (h : ∀ item ∈ items, item.tree.value? d = .ok item) :
    Tree.values? d (trees items) = .ok items := by
  induction items with
  | nil => rw [trees, Tree.values?]
  | cons item items ih =>
    obtain ⟨hitem, hitems⟩ := List.forall_mem_cons.1 h
    rw [trees, Tree.values?, hitem, ih hitems]
    rfl

/-- The fields of an object are put into the table one behind the other. -/
theorem fields?_fieldTrees {fields : List (Text × Json)} {table : Keyed Json}
    (hsorted : ((table ++ fields).map (·.1)).Pairwise (· < ·))
    (h : ∀ field ∈ fields, field.2.tree.value? d = .ok field.2) :
    Tree.fields? d (fieldTrees fields) table = .ok (table ++ fields) := by
  induction fields generalizing table with
  | nil => rw [fieldTrees, Tree.fields?, List.append_nil]
  | cons field fields ih =>
    obtain ⟨key, value⟩ := field
    obtain ⟨hvalue, hfields⟩ := List.forall_mem_cons.1 h
    have hput : table.put key value = table ++ [(key, value)] := by
      apply Keyed.put_of_forall_lt
      intro entry hentry
      rw [List.map_append, List.pairwise_append] at hsorted
      exact hsorted.2.2 _ (List.mem_map_of_mem hentry) _ List.mem_cons_self
    rw [fieldTrees, Tree.fields?, text?_parts, hvalue]
    change Tree.fields? d (fieldTrees fields) (table.put key value) = _
    rw [hput, ih (by rwa [List.append_assoc]) hfields, List.append_assoc]
    rfl

/-- **A free-form value without floats is what its tree is read as.** -/
theorem value?_tree {j : Json} (hform : FreeForm j) (hfree : FloatFree j) (hdepth : j.depth ≤ d) :
    j.tree.value? d = .ok j := by
  induction hform generalizing d with
  | null => rw [tree, Tree.value?]
  | bool b => rw [tree, Tree.value?]
  | integer hlow hhigh =>
    rw [tree, Tree.value?, value?_numeral hlow hhigh]
    rfl
  | float x => cases hfree
  | string t =>
    rw [tree, Tree.value?, text?_parts]
    rfl
  | @array items _ ih =>
    cases hfree with
    | array hfree =>
      cases d with
      | zero => cases hdepth
      | succ d =>
        have hitems : ∀ item ∈ items, item.tree.value? d = .ok item := fun item hitem =>
          ih item hitem (hfree item hitem)
            (Nat.le_trans (depth_le_itemsDepth hitem) (Nat.le_of_succ_le_succ hdepth))
        rw [tree, Tree.value?, values?_trees hitems]
        rfl
  | @object fields hsorted _ ih =>
    cases hfree with
    | object hfree =>
      cases d with
      | zero => cases hdepth
      | succ d =>
        have hfields : ∀ field ∈ fields, field.2.tree.value? d = .ok field.2 := fun field hfield =>
          ih field hfield (hfree field hfield)
            (Nat.le_trans (depth_le_fieldsDepth hfield) (Nat.le_of_succ_le_succ hdepth))
        rw [tree, Tree.value?, fields?_fieldTrees (by simpa using hsorted) hfields]
        rfl

end Values

/-! ## Records -/

section Records

variable {what : Text} {names : List Text} {required : Nat}

/-- A field that a record has and that was not given before is added to those that were. -/
theorem addField?_of_new {given : Tree.Record} {key : Text} (hknown : key ∈ names)
    (hnew : key ∉ given.map (·.1)) (t : Tree) :
    Tree.addField? names given key t = .ok ((key, t) :: given) := by
  have hknown' : (!names.contains key) = false := by simpa using hknown
  have hnew' : given.any (·.1 == key) = false := by
    rw [List.any_eq_false]
    rintro field hfield heq
    exact hnew (List.mem_map.2 ⟨field, hfield, eq_of_beq heq⟩)
  rw [Tree.addField?, hknown', hnew']
  rfl

theorem foldlM_addField? {fields : List (Text × Json)} {given : Tree.Record}
    (hknown : ∀ field ∈ fields, field.1 ∈ names)
    (honce : (fields.map (·.1)).Nodup) (hnew : ∀ field ∈ fields, field.1 ∉ given.map (·.1)) :
    (fieldTrees fields).foldlM
        (fun given field => do Tree.addField? names given (← text? field.1) field.2) given =
      .ok ((fields.map fun field => (field.1, field.2.tree)).reverse ++ given) := by
  induction fields generalizing given with
  | nil => rfl
  | cons field fields ih =>
    obtain ⟨key, value⟩ := field
    rw [List.map_cons, List.nodup_cons] at honce
    obtain ⟨hkey, hfields⟩ := List.forall_mem_cons.1 hknown
    obtain ⟨hkeyNew, hfieldsNew⟩ := List.forall_mem_cons.1 hnew
    have hlater : ∀ field ∈ fields, field.1 ∉ ((key, value.tree) :: given).map (·.1) := by
      intro field hfield
      rw [List.map_cons, List.mem_cons, not_or]
      exact ⟨fun heq => honce.1 (heq ▸ List.mem_map_of_mem hfield), hfieldsNew field hfield⟩
    have hfirst : (do Tree.addField? names given (← text? (parts key)) value.tree) =
        .ok ((key, value.tree) :: given) := by
      rw [text?_parts]
      exact addField?_of_new hkey hkeyNew value.tree
    rw [fieldTrees, List.foldlM_cons, hfirst]
    refine (ih hfields honce.2 hlater).trans ?_
    rw [List.map_cons, List.reverse_cons, List.append_assoc, List.singleton_append]

/-- A record is read from fields that it has, each of which stands once. -/
theorem record?_object {fields : List (Text × Json)} (hknown : ∀ field ∈ fields, field.1 ∈ names)
    (honce : (fields.map (·.1)).Nodup) :
    Tree.record? what names required (Json.object fields).tree =
      .ok (fields.map fun field => (field.1, field.2.tree)).reverse := by
  rw [tree, Tree.record?, foldlM_addField? hknown honce (by simp), List.append_nil]

/-- A list is read item by item. -/
theorem toList?_trees {α : Type} {read : Tree → Except Fault α} {write : α → Json} {as : List α}
    (h : ∀ a ∈ as, read (write a).tree = .ok a) :
    Tree.toList? read (Json.array (as.map write)).tree = .ok as := by
  rw [tree, Tree.toList?]
  induction as with
  | nil => rfl
  | cons a as ih =>
    obtain ⟨ha, has⟩ := List.forall_mem_cons.1 h
    rw [List.map_cons, trees, List.mapM_cons, ha, ih has]
    rfl

end Records

/-! ## Different values -/

theorem parts_injective {t u : Text} (h : parts t = parts u) : t = u := by
  have ht := text?_parts t
  rw [h, text?_parts u] at ht
  exact (Except.ok.inj ht).symm

/-- A whole number is known by its sign and its digits. -/
theorem integer_eq_of_numeral {n m : Int}
    (h : (Number.integer n).numeral = (Number.integer m).numeral) : n = m := by
  have hsign : decide (n < 0) = decide (m < 0) := congrArg Numeral.negative h
  have hdigits : digits n.natAbs = digits m.natAbs := congrArg Numeral.whole h
  have hsize : n.natAbs = m.natAbs := by
    rw [← ofDigits_digits n.natAbs, hdigits, ofDigits_digits]
  have hnegative : n < 0 ↔ m < 0 := decide_eq_decide.1 hsign
  omega

theorem trees_eq_map (items : List Json) : trees items = items.map tree := by
  induction items with
  | nil => rw [trees, List.map_nil]
  | cons item items ih => rw [trees, ih, List.map_cons]

theorem fieldTrees_eq_map (fields : List (Text × Json)) :
    fieldTrees fields = fields.map fun field => (parts field.1, field.2.tree) := by
  induction fields with
  | nil => rw [fieldTrees, List.map_nil]
  | cons field fields ih => rw [fieldTrees, ih, List.map_cons]

/-- Lists are equal if their images are, when no two of their elements have the same image. -/
theorem eq_of_map_eq {α β : Type} {f : α → β} {l l' : List α}
    (hf : ∀ a ∈ l, ∀ b ∈ l', f a = f b → a = b) (h : l.map f = l'.map f) : l = l' := by
  induction l generalizing l' with
  | nil => exact (List.map_eq_nil_iff.1 h.symm).symm
  | cons a l ih =>
    cases l' with
    | nil => cases h
    | cons b l' =>
      obtain ⟨hfirst, hrest⟩ := List.cons.inj h
      rw [hf a List.mem_cons_self b List.mem_cons_self hfirst,
        ih (fun x hx y hy => hf x (List.mem_cons_of_mem a hx) y (List.mem_cons_of_mem b hy)) hrest]

/-- Values without floats that have the same tree are the same. -/
theorem eq_of_tree_eq {a b : Json} (ha : FloatFree a) (hb : FloatFree b) (h : a.tree = b.tree) :
    a = b := by
  induction ha generalizing b with
  | null => cases hb <;> first | rfl | cases h
  | bool x => cases hb <;> cases h; rfl
  | integer n =>
    cases hb with
    | integer m =>
      rw [tree, tree] at h
      rw [integer_eq_of_numeral (Tree.number.inj h)]
    | _ => cases h
  | string t =>
    cases hb with
    | string u =>
      rw [tree, tree] at h
      rw [parts_injective (Tree.string.inj h)]
    | _ => cases h
  | @array items _ ih =>
    cases hb with
    | @array items' hfree =>
      rw [tree, tree, trees_eq_map, trees_eq_map] at h
      have hitems : items = items' :=
        eq_of_map_eq (fun x hx y hy => ih x hx (hfree y hy)) (Tree.array.inj h)
      rw [hitems]
    | _ => cases h
  | @object fields _ ih =>
    cases hb with
    | @object fields' hfree =>
      rw [tree, tree, fieldTrees_eq_map, fieldTrees_eq_map] at h
      have hfield : ∀ x ∈ fields, ∀ y ∈ fields',
          (parts x.1, x.2.tree) = (parts y.1, y.2.tree) → x = y := by
        intro x hx y hy heq
        obtain ⟨hkey, hvalue⟩ := Prod.mk.inj heq
        exact Prod.ext (parts_injective hkey) (ih x hx (hfree y hy) hvalue)
      rw [eq_of_map_eq hfield (Tree.object.inj h)]
    | _ => cases h

/-- **Values without floats that are written alike are the same**, in every layout. -/
theorem eq_of_layout_eq (l : Layout) {a b : Json} (ha : FloatFree a) (hb : FloatFree b)
    (h : l.value 0 a = l.value 0 b) : a = b := by
  have hread := parse?_layout l ha
  rw [h, parse?_layout l hb] at hread
  exact eq_of_tree_eq ha hb (Option.some.inj hread).symm

end Json
end RuleReview
