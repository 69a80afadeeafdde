import RuleReview.Names

/-!
# JSON values

Test cases, trace events and replies carry JSON.  A number keeps what a reader can tell of it: whole
numbers of 64 bits are exact, every other number is a float.

An object is the list of its fields in the order they are written in.  Records are written in the
order of their declaration; free-form objects keep their keys sorted, each once (`Keyed`).

## What is here

* `Json`, and `Json.Number`.
* Short names for the values that records are built from: `Json.nat`, `Json.texts`.
-/

set_option autoImplicit false

namespace RuleReview

/-- A JSON number. -/
inductive Json.Number where
  /-- A whole number that 64 bits hold, with a sign or without. -/
  | integer (n : Int)
  /-- Any other number. -/
  | float (x : Float)
  /-- A float of 32 bits, which takes fewer digits to write than the same number of 64 bits. -/
  | single (x : Float32)

/-- A JSON value. -/
inductive Json where
  /-- The value `null`. -/
  | null
  /-- A truth value. -/
  | bool (b : Bool)
  /-- A number. -/
  | number (n : Json.Number)
  /-- A string. -/
  | string (t : Text)
  /-- An array. -/
  | array (items : List Json)
  /-- An object, with its fields in the order they are written in. -/
  | object (fields : List (Text × Json))

namespace Json

/-- A natural number. -/
def nat (n : Nat) : Json := .number (.integer n)

/-- An array of strings. -/
def texts (ts : List Text) : Json := .array (ts.map .string)

/-- A value that may be absent, written as `null` then. -/
def nullable {α : Type} (toJson : α → Json) : Option α → Json
  | none => .null
  | some a => toJson a

/-- The object without fields. -/
def emptyObject : Json := .object []

end Json
end RuleReview
