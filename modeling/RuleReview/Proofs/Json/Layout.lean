import RuleReview.Json.Print
import RuleReview.Json.Token

/-!
# One writer for both layouts

The pretty layout and the compact one differ in the blanks between their tokens and in nothing else.
So there is one way of writing a value, for any blanks in these places (`Layout.value`); with line
ends and indentation it gives the pretty text (`pretty_eq`), with nothing the compact one
(`compact_eq`).  What is proved of every layout holds of both.
-/

set_option autoImplicit false

namespace RuleReview
namespace Json

open Text

/-! ## The writer -/

/-- The blanks that stand between the tokens of a value. -/
structure Layout where
  /-- What stands before an item, a field or a closing bracket on a level. -/
  gap : Nat → Text
  /-- What stands behind the colon of a field. -/
  space : Text
  /-- There are only blanks before an item. -/
  gap_blank : ∀ level, ∀ c ∈ gap level, isGap c = true
  /-- There are only blanks behind a colon. -/
  space_blank : ∀ c ∈ space, isGap c = true

namespace Layout

/-- Every item and every field on a line of its own. -/
def lined : Layout where
  gap := newLine
  space := [' ']
  gap_blank := by
    intro level c hc
    rcases List.mem_cons.1 hc with rfl | hc
    · rfl
    · rw [(List.mem_replicate.1 hc).2]
      rfl
  space_blank := by simp [isGap]

/-- No blanks. -/
def tight : Layout where
  gap _ := []
  space := []
  gap_blank := by simp
  space_blank := by simp

mutual

/-- A value that begins on a given level. -/
def value (l : Layout) (level : Nat) : Json → Text
  | .null => "null"
  | .bool b => if b then "true" else "false"
  | .number n => n.toText
  | .string t => quote t
  | .array [] => ['[', ']']
  | .array (item :: items) =>
    '[' :: (l.gap (level + 1) ++ (l.value (level + 1) item ++
      (l.items (level + 1) items ++ (l.gap level ++ [']']))))
  | .object [] => ['{', '}']
  | .object (field :: fields) =>
    '{' :: (l.gap (level + 1) ++ (l.field (level + 1) field ++
      (l.fields (level + 1) fields ++ (l.gap level ++ ['}']))))

/-- The items after the first one of an array. -/
def items (l : Layout) (level : Nat) : List Json → Text
  | [] => []
  | item :: items => ',' :: (l.gap level ++ (l.value level item ++ l.items level items))

/-- A field with its key. -/
def field (l : Layout) (level : Nat) : Text × Json → Text
  | (key, value) => quote key ++ ':' :: (l.space ++ l.value level value)

/-- The fields after the first one of an object. -/
def fields (l : Layout) (level : Nat) : List (Text × Json) → Text
  | [] => []
  | field :: fields => ',' :: (l.gap level ++ (l.field level field ++ l.fields level fields))

end

/-- The text of an object begins and ends with a brace, that of an array with a bracket. -/
theorem value_object (l : Layout) (level : Nat) (fields : List (Text × Json)) :
    ∃ inner, l.value level (.object fields) = '{' :: (inner ++ ['}']) := by
  cases fields with
  | nil => exact ⟨[], rfl⟩
  | cons field fields =>
    exact ⟨l.gap (level + 1) ++ (l.field (level + 1) field ++
      (l.fields (level + 1) fields ++ l.gap level)), by simp [Layout.value]⟩

theorem value_array (l : Layout) (level : Nat) (items : List Json) :
    ∃ inner, l.value level (.array items) = '[' :: (inner ++ [']']) := by
  cases items with
  | nil => exact ⟨[], rfl⟩
  | cons item items =>
    exact ⟨l.gap (level + 1) ++ (l.value (level + 1) item ++
      (l.items (level + 1) items ++ l.gap level)), by simp [Layout.value]⟩

end Layout

/-! ## The two layouts -/

mutual

theorem prettyAt_eq (level : Nat) : ∀ j : Json, prettyAt level j = Layout.lined.value level j
  | .null | .bool _ | .number _ | .string _ | .object [] => by rw [prettyAt, Layout.value]
  | .array [] => by
    rw [prettyAt, Layout.value]
    rfl
  | .array (item :: items) => by
    rw [prettyAt, prettyAt_eq (level + 1) item, prettyItems_eq (level + 1) items, Layout.value]
    simp only [List.append_assoc]
    rfl
  | .object (field :: fields) => by
    rw [prettyAt, prettyField_eq (level + 1) field, prettyFields_eq (level + 1) fields,
      Layout.value]
    simp only [List.append_assoc, List.cons_append]
    rfl

theorem prettyItems_eq (level : Nat) :
    ∀ items : List Json, prettyItems level items = Layout.lined.items level items
  | [] => by rw [prettyItems, Layout.items]
  | item :: items => by
    rw [prettyItems, prettyAt_eq level item, prettyItems_eq level items, Layout.items]
    simp only [List.append_assoc]
    rfl

theorem prettyField_eq (level : Nat) :
    ∀ field : Text × Json, prettyField level field = Layout.lined.field level field
  | (key, value) => by
    rw [prettyField, prettyAt_eq level value, Layout.field, List.append_assoc]
    rfl

theorem prettyFields_eq (level : Nat) :
    ∀ fields : List (Text × Json), prettyFields level fields = Layout.lined.fields level fields
  | [] => by rw [prettyFields, Layout.fields]
  | field :: fields => by
    rw [prettyFields, prettyField_eq level field, prettyFields_eq level fields, Layout.fields]
    simp only [List.append_assoc]
    rfl

end

/-- The pretty text of a value. -/
theorem pretty_eq (j : Json) : pretty j = Layout.lined.value 0 j := prettyAt_eq 0 j

mutual

/-- The compact text of a value, which is the same on every level. -/
theorem compact_eq (level : Nat) : ∀ j : Json, compact j = Layout.tight.value level j
  | .null | .bool _ | .number _ | .string _ | .object [] => by rw [compact, Layout.value]
  | .array [] => by
    rw [compact, Layout.value]
    rfl
  | .array (item :: items) => by
    rw [compact, compact_eq (level + 1) item, compactItems_eq (level + 1) items, Layout.value]
    simp only [List.append_assoc]
    rfl
  | .object (field :: fields) => by
    rw [compact, compactField_eq (level + 1) field, compactFields_eq (level + 1) fields,
      Layout.value]
    simp only [List.append_assoc, List.cons_append]
    rfl

theorem compactItems_eq (level : Nat) :
    ∀ items : List Json, compactItems items = Layout.tight.items level items
  | [] => by rw [compactItems, Layout.items]
  | item :: items => by
    rw [compactItems, compact_eq level item, compactItems_eq level items, Layout.items]
    simp only [List.append_assoc]
    rfl

theorem compactField_eq (level : Nat) :
    ∀ field : Text × Json, compactField field = Layout.tight.field level field
  | (key, value) => by
    rw [compactField, compact_eq level value, Layout.field, List.append_assoc]
    rfl

theorem compactFields_eq (level : Nat) :
    ∀ fields : List (Text × Json), compactFields fields = Layout.tight.fields level fields
  | [] => by rw [compactFields, Layout.fields]
  | field :: fields => by
    rw [compactFields, compactField_eq level field, compactFields_eq level fields, Layout.fields]
    simp only [List.append_assoc]
    rfl

end

end Json
end RuleReview
