import RuleReview.Decimal.Layout
import RuleReview.Text.Visible
import RuleReview.Toml.Document

/-!
# Reading records from TOML

Settings and notes are records whose fields may all be left out.  Each field that is there must have
a value of its type; what a record does not know is passed over.

A record may also be given as an array of its fields in their order.  A date counts as a table with
one entry, which holds its text.

## What is here

* `Toml.Value.toText?`, `toBool?`, `toNat?`, `toFloat32?`, `toTable?` — values of a type.
* `Toml.Value.toRecord?`, `Toml.field?` — records and their fields.
-/

set_option autoImplicit false

namespace RuleReview
namespace Toml

open Text

/-- The key of the text of a date. -/
def dateKey : Text := "$__toml_private_datetime"

namespace Value

/-- A value as it is shown in a complaint about its type. -/
def shown : Value → Text
  | .string t => "string " ++ displayed t
  | .integer n =>
    let sign : Text := if n < 0 then "-" else ""
    "integer " ++ backQuoted (sign ++ decimal n.natAbs)
  | .float x => "floating point " ++ backQuoted (Decimal.plain64 x)
  | .bool b => "boolean " ++ backQuoted (if b then "true" else "false")
  | .date _ | .table _ _ => "map"
  | .array _ | .tables _ => "sequence"

/-- The rule that a value of another type breaks. -/
def mistyped {α : Type} (v : Value) (expected : Text) : Except Rule α :=
  .error (.wrongType v.shown expected)

/-- A string. -/
def toText? : Value → Except Rule Text
  | .string t => .ok t
  | v => v.mistyped "a string"

/-- A truth value. -/
def toBool? : Value → Except Rule Bool
  | .bool b => .ok b
  | v => v.mistyped "a boolean"

/-- A whole number that is not negative. -/
def toNat? : Value → Except Rule Nat
  | .integer (.ofNat n) => .ok n
  | v => v.mistyped "a natural number"

/-- A number as a 32-bit float. -/
def toFloat32? : Value → Except Rule Float32
  | .float x => .ok x.toFloat32
  | .integer n => .ok (Int64.ofInt n).toFloat32
  | v => v.mistyped "a number"

/-- A table with any keys, each with the place of its value. -/
def toTable? (span : Span) : Value → Except Rule Entries
  | .table _ entries => .ok entries
  | .date t => .ok [(dateKey, span, .string t)]
  | v => v.mistyped "a map"

/-- The fields of a record with the given names. -/
def toRecord? (names : List Text) (span : Span) : Value → Except Rule Entries
  | .array items => .ok (names.zip (items.map fun v => (span, v)))
  | .tables items => .ok (names.zip (items.map fun entries => (span, .table .header entries)))
  | v => v.toTable? span

end Value

/-- The fault of a value that breaks a rule. -/
def atSpan {α : Type} (span : Span) (outcome : Except Rule α) : Except Fault α :=
  outcome.mapError fun rule => ⟨span, { rule := some rule }⟩

/-- A field of a record, which may be left out. -/
def field? {α : Type} (record : Entries) (name : Text) (absent : α)
    (read : Value → Except Rule α) : Except Fault α :=
  match record.lookup name with
  | none => .ok absent
  | some (span, v) => atSpan span (read v)

/-- A field that is itself a record; it has no fields if it is left out. -/
def record? (outer : Entries) (name : Text) (names : List Text) : Except Fault Entries :=
  match outer.lookup name with
  | none => .ok []
  | some (span, v) => atSpan span (v.toRecord? names span)

end Toml
end RuleReview
