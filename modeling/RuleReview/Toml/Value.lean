import RuleReview.Text.Basic

/-!
# TOML values

Settings and notes are kept in TOML files.  A table remembers how it came to be, because that
decides what may still be added to it: a table with a header of its own is closed to dotted keys,
and a table made by dotted keys or written in braces cannot be given a header later.

Each entry of a table remembers where in the file it stands, so that a complaint about its value can
point there.

## What is here

* `Toml.Span` — a stretch of a file.
* `Toml.Origin`, `Toml.Value`, `Toml.Entries`.
* `Toml.Value.kind` — what sort of value it is, as complaints say it.
-/

set_option autoImplicit false

namespace RuleReview
namespace Toml

/-- A stretch of a file, by the numbers of characters that are left at its start and at its end. -/
structure Span where
  /-- The characters left at the start. -/
  start : Nat
  /-- The characters left at the end. -/
  stop : Nat
  deriving DecidableEq

/-- How a table came to be. -/
inductive Origin where
  /-- It is the whole file, or has a header of its own. -/
  | header
  /-- It has no header, but a table inside it has one. -/
  | implied
  /-- It was made by dotted keys. -/
  | dotted
  /-- It was written in braces. -/
  | inline
  deriving DecidableEq

/-- A value. -/
inductive Value where
  /-- A string. -/
  | string (t : Text)
  /-- A whole number of 64 bits. -/
  | integer (n : Int)
  /-- Any other number. -/
  | float (x : Float)
  /-- A truth value. -/
  | bool (b : Bool)
  /-- A date, a time or both, in their standard form. -/
  | date (t : Text)
  /-- An array. -/
  | array (items : List Value)
  /-- A table: its entries, each with its key and its place, in the order they were added in. -/
  | table (origin : Origin) (entries : List (Text × Span × Value))
  /-- Tables that share a header, each begun by another occurrence of it. -/
  | tables (items : List (List (Text × Span × Value)))

/-- The entries of a table, in the order they were added in. -/
abbrev Entries := List (Text × Span × Value)

/-- What sort of value it is. -/
def Value.kind : Value → Text
  | .string _ => "string"
  | .integer _ => "integer"
  | .float _ => "float"
  | .bool _ => "boolean"
  | .date _ => "datetime"
  | .array _ => "array"
  | .table .inline _ => "inline table"
  | .table _ _ => "table"
  | .tables _ => "array of tables"

namespace Entries

/-- The value of a key. -/
def find? (key : Text) (entries : Entries) : Option Value :=
  (entries.lookup key).map (·.2)

/-- The entries with another value for a key that is there. -/
def replace (key : Text) (value : Value) : Entries → Entries
  | [] => []
  | (k, span, v) :: rest =>
    if k = key then (k, span, value) :: rest else (k, span, v) :: replace key value rest

/-- The entries with a key that reaches to another place of the file. -/
def stretch (key : Text) (stop : Nat) (entries : Entries) : Entries :=
  entries.map fun (k, span, v) => if k = key then (k, { span with stop }, v) else (k, span, v)

/-- The entries with the value of a key taken out and set anew at the end. -/
def moveToEnd (key : Text) (span : Span) (value : Value) (entries : Entries) : Entries :=
  entries.filter (·.1 ≠ key) ++ [(key, span, value)]

end Entries
end Toml
end RuleReview
