import RuleReview.Decimal.Layout
import RuleReview.Json.Value

/-!
# Writing JSON

Two layouts are written.  The pretty one puts every item and every field on a line of its own,
indented by two blanks for each level, with empty arrays and objects as `[]` and `{}`.  The compact
one writes no blanks at all.

In a string only the quotation mark, the backslash and the control characters are escaped; a control
character has a short escape where JSON has one and four lower-case hexadecimal digits otherwise.

## What is here

* `Json.escape`, `Json.quote` — strings.
* `Json.pretty`, `Json.compact` — values.
-/

set_option autoImplicit false

namespace RuleReview
namespace Json

open Text

/-- A character as it stands in a string. -/
def escape (c : Char) : Text :=
  if c == '"' then ['\\', '"']
  else if c == '\\' then ['\\', '\\']
  else if c.toNat < 0x20 then
    if c.toNat == 0x8 then ['\\', 'b']
    else if c.toNat == 0x9 then ['\\', 't']
    else if c.toNat == 0xA then ['\\', 'n']
    else if c.toNat == 0xC then ['\\', 'f']
    else if c.toNat == 0xD then ['\\', 'r']
    else ['\\', 'u', '0', '0', hexDigit (c.toNat / 16), hexDigit (c.toNat % 16)]
  else [c]

/-- A string with its quotation marks. -/
def quote (t : Text) : Text := '"' :: t.flatMap escape ++ ['"']

/-- A number. -/
def Number.toText : Number → Text
  | .integer n => if n < 0 then '-' :: decimal n.natAbs else decimal n.natAbs
  | .float x => Decimal.json64 x
  | .single x => Decimal.json32 x

/-- The start of a line at a level. -/
def newLine (level : Nat) : Text := '\n' :: List.replicate (2 * level) ' '

mutual

/-- A value that begins on a line of the given level. -/
def prettyAt (level : Nat) : Json → Text
  | .null => "null"
  | .bool b => if b then "true" else "false"
  | .number n => n.toText
  | .string t => quote t
  | .array [] => "[]"
  | .array (item :: items) =>
    "[" ++ newLine (level + 1) ++ prettyAt (level + 1) item ++ prettyItems (level + 1) items ++
      newLine level ++ "]"
  | .object [] => ['{', '}']
  | .object (field :: fields) =>
    '{' :: newLine (level + 1) ++ prettyField (level + 1) field ++
      prettyFields (level + 1) fields ++ newLine level ++ ['}']

/-- The items after the first one of an array. -/
def prettyItems (level : Nat) : List Json → Text
  | [] => []
  | item :: items => "," ++ newLine level ++ prettyAt level item ++ prettyItems level items

/-- A field with its key. -/
def prettyField (level : Nat) : Text × Json → Text
  | (key, value) => quote key ++ ": " ++ prettyAt level value

/-- The fields after the first one of an object. -/
def prettyFields (level : Nat) : List (Text × Json) → Text
  | [] => []
  | field :: fields => "," ++ newLine level ++ prettyField level field ++ prettyFields level fields

end

/-- A value in the pretty layout. -/
def pretty (j : Json) : Text := prettyAt 0 j

mutual

/-- A value in the compact layout. -/
def compact : Json → Text
  | .null => "null"
  | .bool b => if b then "true" else "false"
  | .number n => n.toText
  | .string t => quote t
  | .array [] => "[]"
  | .array (item :: items) => "[" ++ compact item ++ compactItems items ++ "]"
  | .object [] => ['{', '}']
  | .object (field :: fields) => '{' :: compactField field ++ compactFields fields ++ ['}']

/-- The items after the first one of an array. -/
def compactItems : List Json → Text
  | [] => []
  | item :: items => "," ++ compact item ++ compactItems items

/-- A field with its key. -/
def compactField : Text × Json → Text
  | (key, value) => quote key ++ ":" ++ compact value

/-- The fields after the first one of an object. -/
def compactFields : List (Text × Json) → Text
  | [] => []
  | field :: fields => "," ++ compactField field ++ compactFields fields

end

end Json
end RuleReview
