import RuleReview.Json.Tree

/-!
# Reading JSON

A JSON text is read for a purpose: as a free-form value, or as a record whose fields are known.
Only the parts that are used must have a value.  A field that a record does not have may hold
anything that is JSON, however deep it nests and whatever its numbers and escapes are.

A free-form value has its keys sorted, the last of equal keys counting; in a record a known field
may stand only once.  A record may also be written as the array of its fields in their order.

## What is here

* `Fault` — why a text has no value.
* `Numeral.value?` and `text?` — the values of numbers and strings.
* `Tree.value?`, `parse?` — free-form values.
* `Tree.toText?`, `Tree.toBool?`, `Tree.toList?`, `Tree.record?` — the parts of records.
-/

set_option autoImplicit false

namespace RuleReview
namespace Json

/-- Why a text cannot be read. -/
inductive Fault where
  /-- The text is no JSON. -/
  | notJson
  /-- Containers are nested too deeply. -/
  | tooDeep
  /-- A number is too great for a float. -/
  | outOfRange
  /-- Half of a pair of 16-bit units stands alone. -/
  | loneUnit
  /-- Something else was expected here. -/
  | expected (what : Text)
  /-- A record lacks a field. -/
  | missing (field : Text)
  /-- A record has a field twice. -/
  | repeated (field : Text)
  /-- An array has too few or too many items for a record. -/
  | wrongLength
  deriving DecidableEq

/-- A fault as it is reported. -/
def Fault.message : Fault → Text
  | notJson => "not a JSON text"
  | tooDeep => "nested too deeply"
  | outOfRange => "number out of range"
  | loneUnit => "lone surrogate in a string"
  | expected what => "expected " ++ what
  | missing field => "missing field " ++ Text.quoted field
  | repeated field => "duplicate field " ++ Text.quoted field
  | wrongLength => "wrong number of items"

/-! ## Numbers -/

/-- The significand of a number, as far as 64 bits hold it: digits are taken while they fit. -/
def takeDigits (significand : Nat) : List Nat → Nat × List Nat
  | [] => (significand, [])
  | d :: ds =>
    if significand * 10 + d < UInt64.size then takeDigits (significand * 10 + d) ds
    else (significand, d :: ds)

/-- `significand * 10 ^ exponent` as a float, if it is finite: one operation with a power of ten,
after further divisions where the power would be out of range.  Each operation rounds to nearest. -/
def scale? (significand : Float) (exponent : Int) : (fuel : Nat) → Option Float
  | 0 => some significand
  | fuel + 1 =>
    if exponent.natAbs ≤ 308 then
      let power := Float.ofScientific 1 false exponent.natAbs
      if 0 ≤ exponent then
        let x := significand * power
        if x.isFinite then some x else none
      else
        some (significand / power)
    else if significand == 0 then some significand
    else if 0 ≤ exponent then none
    else scale? (significand / Float.ofScientific 1 false 308) (exponent + 308) fuel

/-- The value of a number.  A number without point and exponent is a whole number if 64 bits hold
it; a negative zero is a float. -/
def Numeral.value? (n : Numeral) : Except Fault Number :=
  let whole := Text.ofDigits 10 n.whole
  if n.fraction.isEmpty ∧ n.exponent.isNone ∧ !n.negative ∧ whole < UInt64.size then
    .ok (.integer whole)
  else if
      n.fraction.isEmpty ∧ n.exponent.isNone ∧ n.negative ∧ 0 < whole ∧
        whole ≤ 0x8000000000000000 then
    .ok (.integer (-whole))
  else
    let (high, dropped) := takeDigits 0 n.whole
    let (significand, ignored) := takeDigits high n.fraction
    let written : Int :=
      match n.exponent with
      | none => 0
      | some (negative, digits) =>
        let power : Int := Text.ofDigits 10 digits
        if negative then -power else power
    let exponent := written + dropped.length - (n.fraction.length - ignored.length : Nat)
    match scale? (UInt64.ofNat significand).toFloat exponent 4 with
    | none => .error .outOfRange
    | some x => .ok (.float (if n.negative then -x else x))

/-! ## Strings -/

/-- Whether a 16-bit unit is the first half of a pair. -/
def isHighUnit (u : Nat) : Bool := 0xD800 ≤ u && u < 0xDC00

/-- Whether a 16-bit unit is the second half of a pair. -/
def isLowUnit (u : Nat) : Bool := 0xDC00 ≤ u && u < 0xE000

/-- The text of a string: the two halves of a pair of units make one character, and neither may
stand alone. -/
def text? : List StringPart → Except Fault Text
  | [] => .ok []
  | .char c :: rest => (text? rest).map (c :: ·)
  | .unit u :: .unit v :: rest =>
    if isHighUnit u then
      if isLowUnit v then
        (text? rest).map (Char.ofNat (0x10000 + (u - 0xD800) * 0x400 + (v - 0xDC00)) :: ·)
      else .error .loneUnit
    else if isLowUnit u then .error .loneUnit
    else (text? (.unit v :: rest)).map (Char.ofNat u :: ·)
  | .unit u :: rest =>
    if isHighUnit u || isLowUnit u then .error .loneUnit
    else (text? rest).map (Char.ofNat u :: ·)

/-! ## Free-form values -/

/-- How deeply the containers of a text may nest. -/
def maxDepth : Nat := 127

namespace Tree

mutual

/-- The value of a tree in which containers nest at most `depth` deep. -/
def value? (depth : Nat) : Tree → Except Fault Json
  | .null => .ok .null
  | .bool b => .ok (.bool b)
  | .number n => n.value?.map .number
  | .string parts => (text? parts).map .string
  | .array items =>
    match depth with
    | 0 => .error .tooDeep
    | depth + 1 => (values? depth items).map .array
  | .object fields =>
    match depth with
    | 0 => .error .tooDeep
    | depth + 1 => (fields? depth fields []).map .object

/-- The values of the items of an array. -/
def values? (depth : Nat) : List Tree → Except Fault (List Json)
  | [] => .ok []
  | item :: items => do
    let v ← value? depth item
    let vs ← values? depth items
    .ok (v :: vs)

/-- The fields of an object, set one after the other in a table. -/
def fields? (depth : Nat) : List (List StringPart × Tree) → Keyed Json → Except Fault (Keyed Json)
  | [], table => .ok table
  | (key, item) :: rest, table => do
    let k ← text? key
    let v ← value? depth item
    fields? depth rest (table.put k v)

end

/-! ## Records -/

/-- A string. -/
def toText? : Tree → Except Fault Text
  | .string parts => text? parts
  | _ => .error (.expected "a string")

/-- A truth value. -/
def toBool? : Tree → Except Fault Bool
  | .bool b => .ok b
  | _ => .error (.expected "a boolean")

/-- An array whose items are read by `item`. -/
def toList? {α : Type} (item : Tree → Except Fault α) : Tree → Except Fault (List α)
  | .array items => items.mapM item
  | _ => .error (.expected "an array")

/-- `null`, or what `item` reads. -/
def toOption? {α : Type} (item : Tree → Except Fault α) : Tree → Except Fault (Option α)
  | .null => .ok none
  | t => (item t).map some

/-- The fields that a record was given. -/
abbrev Record := List (Text × Tree)

/-- Add a field to those of a record: an unknown one is skipped, a known one must be new. -/
def addField? (names : List Text) (given : Record) (key : Text) (t : Tree) : Except Fault Record :=
  if !names.contains key then .ok given
  else if given.any (·.1 == key) then .error (.repeated key)
  else .ok ((key, t) :: given)

/-- The record with the given field names.  As an array it has at least `required` items. -/
def record? (what : Text) (names : List Text) (required : Nat) : Tree → Except Fault Record
  | .array items =>
    if items.length < required ∨ names.length < items.length then .error .wrongLength
    else .ok (names.zip items)
  | .object fields =>
    fields.foldlM (fun given field => do addField? names given (← text? field.1) field.2) []
  | _ => .error (.expected what)

/-- A field that a record must have. -/
def Record.required? {α : Type} (r : Record) (name : Text) (item : Tree → Except Fault α) :
    Except Fault α :=
  match r.lookup name with
  | none => .error (.missing name)
  | some t => item t

/-- A field that a record may leave out. -/
def Record.optional? {α : Type} (r : Record) (name : Text) (absent : α)
    (item : Tree → Except Fault α) : Except Fault α :=
  match r.lookup name with
  | none => .ok absent
  | some t => item t

end Tree

/-- The tree of a text, or the fault of a text that is no JSON. -/
def tree? (t : Text) : Except Fault Tree :=
  match Tree.parse? t with
  | none => .error .notJson
  | some tree => .ok tree

/-- The free-form value of a text. -/
def parse? (t : Text) : Except Fault Json := do (← tree? t).value? maxDepth

end Json
end RuleReview
