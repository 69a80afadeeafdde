import RuleReview.Proofs.Json.Layout
import RuleReview.Proofs.Json.Spelling

/-!
# From a text to its tree

The tokens of a tree, put together one by one, make that tree again (`ofTokens?_tokens`).  And the
tokens of a value are found in its text whatever blanks stand between them, as long as the value has
no floats (`spells_value`).  So a value without floats is read back, as a tree, from every layout
(`parse?_layout`).

A number is read to its end only if the text behind it does not go on with it, so what is said of a
text is said of it in front of others: `Spells`.  Texts can then be joined where the second begins
with something else than a number goes on with.
-/

set_option autoImplicit false

namespace RuleReview
namespace Json

open Text

/-! ## The tokens of a tree -/

mutual

/-- The tokens of a tree. -/
def Tree.tokens : Tree → List Token
  | .null => [.null]
  | .bool b => [.bool b]
  | .number n => [.number n]
  | .string parts => [.string parts]
  | .array [] => [.beginArray, .endArray]
  | .array (item :: items) => .beginArray :: (item.tokens ++ (moreItems items ++ [.endArray]))
  | .object [] => [.beginObject, .endObject]
  | .object (field :: fields) =>
    .beginObject :: (fieldTokens field ++ (moreFields fields ++ [.endObject]))

/-- The tokens of the items after the first one of an array. -/
def Tree.moreItems : List Tree → List Token
  | [] => []
  | item :: items => .comma :: (item.tokens ++ moreItems items)

/-- The tokens of a field. -/
def Tree.fieldTokens : List StringPart × Tree → List Token
  | (key, value) => .string key :: .colon :: value.tokens

/-- The tokens of the fields after the first one of an object. -/
def Tree.moreFields : List (List StringPart × Tree) → List Token
  | [] => []
  | field :: fields => .comma :: (fieldTokens field ++ moreFields fields)

end

section Nesting

variable {p q : Partial} {t : Token} {stack : List Frame}

/-- What is read after more tokens. -/
def readOn (p : Partial) (ts : List Token) : Option Partial := ts.foldlM Partial.step p

theorem readOn_cons (h : p.step t = some q) (ts : List Token) :
    readOn p (t :: ts) = readOn q ts := by
  rw [readOn, List.foldlM_cons, h]
  rfl

/-- Behind the bracket that opens an array, its first item is read as any other. -/
theorem readOn_firstItem (tree : Tree) (ts : List Token) :
    readOn (.firstItem stack) (tree.tokens ++ ts) =
      readOn (.value (.array [] :: stack)) (tree.tokens ++ ts) := by
  have hstep : ∀ t : Token, t ≠ .endArray →
      Partial.step (.firstItem stack) t = Partial.step (.value (.array [] :: stack)) t := by
    intro t h
    cases t <;> first | rfl | exact absurd rfl h
  have hfirst : ∃ first rest, tree.tokens = first :: rest ∧ first ≠ .endArray := by
    fun_cases Tree.tokens tree <;> exact ⟨_, _, rfl, by simp⟩
  obtain ⟨first, rest, htokens, hne⟩ := hfirst
  rw [htokens, List.cons_append, readOn, readOn, List.foldlM_cons, List.foldlM_cons, hstep _ hne]

mutual

/-- The tokens of a tree, where a value must come, complete the tree. -/
theorem readOn_tokens (stack : List Frame) (ts : List Token) :
    ∀ t : Tree, readOn (.value stack) (t.tokens ++ ts) = readOn (.complete stack t) ts
  | .null | .bool _ | .number _ | .string _ => by
    rw [Tree.tokens, List.singleton_append, readOn_cons rfl]
  | .array [] | .object [] => by
    rw [Tree.tokens, List.cons_append, readOn_cons rfl, List.singleton_append, readOn_cons rfl]
  | .array (item :: items) => by
    rw [Tree.tokens, List.cons_append, readOn_cons rfl, List.append_assoc, readOn_firstItem,
      readOn_tokens _ _ item, List.append_assoc, readOn_moreItems, List.reverse_nil]
    rfl
  | .object ((key, value) :: fields) => by
    rw [Tree.tokens, Tree.fieldTokens, List.cons_append, readOn_cons rfl, List.append_assoc,
      List.cons_append, readOn_cons rfl, List.cons_append, readOn_cons rfl, readOn_tokens _ _ value,
      List.append_assoc, readOn_moreFields, List.reverse_nil]
    rfl

/-- The items that follow complete the array, behind those that are done. -/
theorem readOn_moreItems (stack : List Frame) (ts : List Token) :
    ∀ (items done : List Tree) (last : Tree),
      readOn (.complete (.array done :: stack) last) (Tree.moreItems items ++ ([.endArray] ++ ts)) =
        readOn (.complete stack (.array (done.reverse ++ last :: items))) ts
  | [], done, last => by
    rw [Tree.moreItems, List.nil_append, List.singleton_append, readOn_cons rfl, List.reverse_cons]
  | item :: items, done, last => by
    rw [Tree.moreItems, List.cons_append, readOn_cons rfl, List.append_assoc,
      readOn_tokens _ _ item, readOn_moreItems stack ts items, List.reverse_cons,
      List.append_assoc]
    rfl

/-- The fields that follow complete the object, behind those that are done. -/
theorem readOn_moreFields (stack : List Frame) (ts : List Token) :
    ∀ (fields done : List (List StringPart × Tree)) (key : List StringPart) (last : Tree),
      readOn (.complete (.object done key :: stack) last)
          (Tree.moreFields fields ++ ([.endObject] ++ ts)) =
        readOn (.complete stack (.object (done.reverse ++ (key, last) :: fields))) ts
  | [], done, key, last => by
    rw [Tree.moreFields, List.nil_append, List.singleton_append, readOn_cons rfl,
      List.reverse_cons]
  | (next, value) :: fields, done, key, last => by
    rw [Tree.moreFields, Tree.fieldTokens, List.cons_append, readOn_cons rfl, List.append_assoc,
      List.cons_append, readOn_cons rfl, List.cons_append, readOn_cons rfl,
      readOn_tokens _ _ value, readOn_moreFields stack ts fields, List.reverse_cons,
      List.append_assoc]
    rfl

end

/-- **The tokens of a tree are put together to the tree.** -/
theorem ofTokens?_tokens (t : Tree) : Tree.ofTokens? t.tokens = some t := by
  have hread := readOn_tokens [] [] t
  rw [List.append_nil] at hread
  rw [Tree.ofTokens?, show t.tokens.foldlM Partial.step (.value []) = _ from hread]
  rfl

end Nesting

/-! ## The tree of a value -/

mutual

/-- The tree of a value as it is written. -/
def tree : Json → Tree
  | .null => .null
  | .bool b => .bool b
  | .number n => .number n.numeral
  | .string t => .string (parts t)
  | .array items => .array (trees items)
  | .object fields => .object (fieldTrees fields)

/-- The trees of the items of an array. -/
def trees : List Json → List Tree
  | [] => []
  | item :: items => tree item :: trees items

/-- The fields of an object, with the trees of their values. -/
def fieldTrees : List (Text × Json) → List (List StringPart × Tree)
  | [] => []
  | (key, value) :: fields => (parts key, tree value) :: fieldTrees fields

end

/-- Values in which no number is a float. -/
inductive FloatFree : Json → Prop
  | null : FloatFree .null
  | bool (b : Bool) : FloatFree (.bool b)
  | integer (n : Int) : FloatFree (.number (.integer n))
  | string (t : Text) : FloatFree (.string t)
  | array {items : List Json} (h : ∀ item ∈ items, FloatFree item) : FloatFree (.array items)
  | object {fields : List (Text × Json)} (h : ∀ field ∈ fields, FloatFree field.2) :
      FloatFree (.object fields)

theorem floatFree_texts (ts : List Text) : FloatFree (.texts ts) :=
  .array (List.forall_mem_map.2 fun t _ => .string t)

/-! ## What a text is read as -/

/-- The token that a single character is. -/
def mark? : Char → Option Token
  | '[' => some .beginArray
  | ']' => some .endArray
  | '{' => some .beginObject
  | '}' => some .endObject
  | ',' => some .comma
  | ':' => some .colon
  | _ => none

section Spells

variable {t u : Text} {ts us : List Token} {c : Char}

theorem tokens?_mark {tok : Token} (h : mark? c = some tok) (rest : Text) :
    tokens? (c :: rest) = (tokens? rest).map (tok :: ·) := by
  unfold mark? at h
  split at h <;> cases h <;> rw [tokens?]

theorem tokens?_gap (h : isGap c = true) (rest : Text) : tokens? (c :: rest) = tokens? rest := by
  simp only [isGap, Bool.or_eq_true, beq_iff_eq] at h
  rcases h with ((rfl | rfl) | rfl) | rfl <;> simp [tokens?, isGap]

theorem endsNumeral_nil : EndsNumeral [] := by
  intro c h
  cases h

theorem endsNumeral_mark {tok : Token} (h : mark? c = some tok) (rest : Text) :
    EndsNumeral (c :: rest) := by
  rintro d ⟨⟩
  unfold mark? at h
  split at h <;> cases h <;> decide

theorem endsNumeral_gap (h : isGap c = true) (rest : Text) : EndsNumeral (c :: rest) := by
  rintro d ⟨⟩
  simp only [isGap, Bool.or_eq_true, beq_iff_eq] at h
  rcases h with ((rfl | rfl) | rfl) | rfl <;> decide

theorem EndsNumeral.gap_append {gap : Text} (hgap : ∀ c ∈ gap, isGap c = true)
    (h : EndsNumeral t) : EndsNumeral (gap ++ t) := by
  cases gap with
  | nil => exact h
  | cons c gap => exact endsNumeral_gap (hgap c List.mem_cons_self) _

theorem EndsNumeral.append (ht : EndsNumeral t) (hu : EndsNumeral u) : EndsNumeral (t ++ u) := by
  cases t with
  | nil => exact hu
  | cons c t => exact fun d hd => ht d hd

/-- A text is read as these tokens, in front of any other that a number does not go on with. -/
def Spells (t : Text) (ts : List Token) : Prop :=
  ∀ rest others, EndsNumeral rest → tokens? rest = some others →
    tokens? (t ++ rest) = some (ts ++ others)

theorem spells_nil : Spells [] [] := fun _ _ _ h => h

theorem Spells.append (ht : Spells t ts) (hu : Spells u us) (hends : EndsNumeral u) :
    Spells (t ++ u) (ts ++ us) := by
  intro rest others hrest h
  rw [List.append_assoc, List.append_assoc]
  exact ht _ _ (hends.append hrest) (hu rest others hrest h)

theorem Spells.gap {gap : Text} (hgap : ∀ c ∈ gap, isGap c = true) (hu : Spells u us) :
    Spells (gap ++ u) us := by
  induction gap with
  | nil => exact hu
  | cons c gap ih =>
    obtain ⟨hc, hgap⟩ := List.forall_mem_cons.1 hgap
    intro rest others hrest h
    rw [List.cons_append, List.cons_append, tokens?_gap hc]
    exact ih hgap rest others hrest h

theorem Spells.mark {tok : Token} (hc : mark? c = some tok) (hu : Spells u us) :
    Spells (c :: u) (tok :: us) := by
  intro rest others hrest h
  rw [List.cons_append, tokens?_mark hc, hu rest others hrest h]
  rfl

theorem spells_null : Spells "null" [.null] := by
  intro rest others _ h
  change tokens? ('n' :: 'u' :: 'l' :: 'l' :: rest) = _
  rw [tokens?, h]
  rfl

theorem spells_bool (b : Bool) : Spells (if b then "true" else "false") [.bool b] := by
  intro rest others _ h
  cases b with
  | true =>
    change tokens? ('t' :: 'r' :: 'u' :: 'e' :: rest) = _
    rw [tokens?, h]
    rfl
  | false =>
    change tokens? ('f' :: 'a' :: 'l' :: 's' :: 'e' :: rest) = _
    rw [tokens?, h]
    rfl

theorem tokens?_string {rest : Text} {ps : List StringPart}
    (hread : readString? t = some (ps, rest)) :
    tokens? ('"' :: t) = (tokens? rest).map (.string ps :: ·) := by
  rw [tokens?]
  split
  · next hnone => cases hread.symm.trans hnone
  · next read after hsome =>
    obtain ⟨rfl, rfl⟩ := Prod.mk.inj (Option.some.inj (hread.symm.trans hsome))
    rfl

theorem spells_quote (t : Text) : Spells (quote t) [.string (parts t)] := by
  intro rest others _ h
  change tokens? ('"' :: (t.flatMap escape ++ ['"'] ++ rest)) = _
  rw [List.append_assoc, List.singleton_append, tokens?_string (readString?_quote t rest), h]
  rfl

theorem tokens?_numeral (hc : c = '-' ∨ c.isDigit = true) {rest after : Text} {n : Numeral}
    (hread : readNumeral? (c :: rest) = some (n, after)) :
    tokens? (c :: rest) = (tokens? after).map (.number n :: ·) := by
  have hother : ∀ d : Char, d ≠ '-' → d.isDigit = false → c ≠ d := by
    rintro d hminus hdigit rfl
    simp [hminus, hdigit] at hc
  have hgap : isGap c = false := by
    simp [isGap, hother ' ', hother '\n', hother '\t', hother '\r']
  rw [tokens?]
  · rw [if_neg (by simp [hgap])]
    split
    · next hnone => cases hread.symm.trans hnone
    · next read left hsome =>
      obtain ⟨rfl, rfl⟩ := Prod.mk.inj (Option.some.inj (hread.symm.trans hsome))
      rfl
  -- no other token begins like a number
  all_goals
    first
    | exact hother _ (by decide) (by decide)
    | exact fun _ h => absurd h (hother _ (by decide) (by decide))

theorem spells_integer (n : Int) :
    Spells (Number.integer n).toText [.number (Number.integer n).numeral] := by
  intro rest others hrest h
  have hread := readNumeral?_toText hrest n
  obtain ⟨c, more, htext, hc⟩ := toText_eq_cons n
  rw [htext, List.cons_append] at hread ⊢
  rw [tokens?_numeral hc hread, h]
  rfl

/-! ### Values -/

variable {j : Json} {l : Layout} {level : Nat}

theorem endsNumeral_items (items : List Json) : EndsNumeral (l.items level items) := by
  cases items with
  | nil => exact endsNumeral_nil
  | cons item items => exact endsNumeral_mark rfl _

theorem endsNumeral_fields (fields : List (Text × Json)) :
    EndsNumeral (l.fields level fields) := by
  cases fields with
  | nil => exact endsNumeral_nil
  | cons field fields => exact endsNumeral_mark rfl _

theorem spells_items {items : List Json} (h : ∀ item ∈ items, ∀ level,
      Spells (l.value level item) item.tree.tokens) :
    Spells (l.items level items) (Tree.moreItems (trees items)) := by
  induction items with
  | nil => exact spells_nil
  | cons item items ih =>
    obtain ⟨hitem, hitems⟩ := List.forall_mem_cons.1 h
    have hmore := (hitem level).append (ih hitems) (endsNumeral_items items)
    exact (hmore.gap (l.gap_blank level)).mark rfl

theorem spells_field (key : Text) (h : Spells (l.value level j) j.tree.tokens) :
    Spells (l.field level (key, j)) (Tree.fieldTokens (parts key, j.tree)) :=
  (spells_quote key).append ((h.gap l.space_blank).mark rfl)
    (endsNumeral_mark rfl (l.space ++ l.value level j))

theorem spells_fields {fields : List (Text × Json)} (h : ∀ field ∈ fields, ∀ level,
      Spells (l.value level field.2) field.2.tree.tokens) :
    Spells (l.fields level fields) (Tree.moreFields (fieldTrees fields)) := by
  induction fields with
  | nil => exact spells_nil
  | cons field fields ih =>
    obtain ⟨hfield, hfields⟩ := List.forall_mem_cons.1 h
    have hfirst : Spells (l.field level field) _ := spells_field field.1 (hfield level)
    have hmore := hfirst.append (ih hfields) (endsNumeral_fields fields)
    exact (hmore.gap (l.gap_blank level)).mark rfl

/-- A container with a first part and further ones, between its brackets. -/
theorem spells_container {opening closing : Char} {beginToken endToken : Token}
    {first more : Text} {firstTokens moreTokens : List Token}
    (hopening : mark? opening = some beginToken) (hclosing : mark? closing = some endToken)
    (hfirst : Spells first firstTokens) (hmore : Spells more moreTokens)
    (hends : EndsNumeral more) (level : Nat) :
    Spells (opening :: (l.gap (level + 1) ++ (first ++ (more ++ (l.gap level ++ [closing])))))
      (beginToken :: (firstTokens ++ (moreTokens ++ [endToken]))) := by
  have hclose : Spells (l.gap level ++ [closing]) [endToken] :=
    (spells_nil.mark hclosing).gap (l.gap_blank level)
  have hcloseEnds : EndsNumeral (l.gap level ++ [closing]) :=
    .gap_append (l.gap_blank level) (endsNumeral_mark hclosing [])
  have hinside := hfirst.append (hmore.append hclose hcloseEnds) (hends.append hcloseEnds)
  exact (hinside.gap (l.gap_blank (level + 1))).mark hopening

/-- A value without floats is read as the tokens of its tree, in every layout. -/
theorem spells_value (l : Layout) (h : FloatFree j) :
    ∀ level, Spells (l.value level j) j.tree.tokens := by
  induction h with
  | null => exact fun _ => spells_null
  | bool b => exact fun _ => spells_bool b
  | integer n => exact fun _ => spells_integer n
  | string t => exact fun _ => spells_quote t
  | @array items _ ih =>
    intro level
    cases items with
    | nil => exact (spells_nil.mark rfl).mark rfl
    | cons item items =>
      obtain ⟨hitem, hitems⟩ := List.forall_mem_cons.1 ih
      exact spells_container rfl rfl (hitem (level + 1)) (spells_items hitems)
        (endsNumeral_items items) level
  | @object fields _ ih =>
    intro level
    cases fields with
    | nil => exact (spells_nil.mark rfl).mark rfl
    | cons field fields =>
      obtain ⟨hfield, hfields⟩ := List.forall_mem_cons.1 ih
      exact spells_container rfl rfl (spells_field field.1 (hfield (level + 1)))
        (spells_fields hfields) (endsNumeral_fields fields) level

/-- **A value without floats is read back from every layout.** -/
theorem parse?_layout (l : Layout) (h : FloatFree j) : Tree.parse? (l.value 0 j) = some j.tree := by
  have htokens : tokens? (l.value 0 j) = some j.tree.tokens := by
    have hread := spells_value l h 0 [] [] endsNumeral_nil (by rw [tokens?])
    rwa [List.append_nil, List.append_nil] at hread
  rw [Tree.parse?, htokens]
  exact ofTokens?_tokens j.tree

end Spells

/-- A value without floats is read back from its pretty and from its compact text. -/
theorem parse?_pretty {j : Json} (h : FloatFree j) : Tree.parse? (pretty j) = some j.tree := by
  rw [pretty_eq, parse?_layout _ h]

theorem parse?_compact {j : Json} (h : FloatFree j) : Tree.parse? (compact j) = some j.tree := by
  rw [compact_eq 0, parse?_layout _ h]

end Json
end RuleReview
