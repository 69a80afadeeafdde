import RuleReview.Decimal.Nearest
import RuleReview.Toml.Reader

/-!
# Numbers

A number has decimal digits, with single underscores between them where the writer likes, and no
zero in front of other digits.  With a point or an exponent it is a float; a whole number may also
be written to the bases 2, 8 and 16, without a sign.  Whole numbers have 64 bits.  A float may be
infinite only if it is written so, or if it is negative.

## What is here

* `Toml.digits` — digits with underscores between them.
* `Toml.number` — the number that comes next; `Toml.beginsNumber` — whether one comes next.
-/

set_option autoImplicit false

namespace RuleReview
namespace Toml

open Text Reader

/-- The value of a digit to a base. -/
def digitValue? (base : Nat) (c : Char) : Option Nat :=
  match hexValue? c with
  | some d => if d < base then some d else none
  | none => none

/-- More digits to a base.  After an underscore (`afterDigit` is false then) there must be one. -/
def moreDigits (base : Nat) : (afterDigit : Bool) → Text → Except Fault (List Nat × Text)
  | true, [] => .ok ([], [])
  | false, [] => fail { expected := ["digit"] } []
  | afterDigit, c :: rest =>
    match digitValue? base c with
    | some d => do
      let (digits, after) ← moreDigits base true rest
      return (d :: digits, after)
    | none =>
      if !afterDigit then fail { expected := ["digit"] } (c :: rest)
      else if c = '_' then moreDigits base false rest
      else return ([], c :: rest)

/-- Digits to a base, at least one, with single underscores between them. -/
def digits (base : Nat) : Reader (List Nat) := do
  let t ← get
  if (t.head?.bind (digitValue? base)).isNone then fail {}
  moreDigits base true

/-- Digits before a point: a single zero, or digits of which the first is not zero. -/
def wholeDigits : Reader (List Nat) := within "integer" do
  if ← accept "0" then return [0] else digits 10

/-- What a number with a point or an exponent is called. -/
def floatName : Text := "floating-point number"

/-- The digits after a point, if one comes next. -/
def fraction? : Reader (Option (List Nat)) := within floatName do
  if ← accept "." then return some (← expecting "digit" (digits 10)) else return none

/-- The power of ten that an exponent names, if one comes next. -/
def exponent? : Reader (Option Int) := within floatName do
  match ← peek? with
  | some 'e' | some 'E' =>
    skip 1
    let negative ← accept "-"
    unless negative do let _ ← accept "+"
    let power : Int := ofDigits 10 (← digits 10)
    return some (if negative then -power else power)
  | _ => return none

/-- A whole number, if 64 bits hold it. -/
def ofInteger (negative : Bool) (n : Nat) : Reader Value :=
  if negative then
    if n ≤ 0x8000000000000000 then return .integer (-n) else refuse .tooSmall
  else
    if n < 0x8000000000000000 then return .integer n else refuse .tooGreat

/-- The float nearest to a decimal, unless it is out of range. -/
def ofDecimal (negative : Bool) (d : Decimal.Digits) : Reader Value :=
  let x := Decimal.nearest64 d
  if negative then return .float (-x)
  else if x.isFinite then return .float x
  else fail { subject := some floatName }

/-- A number in decimal digits, after its sign; it begins at `start`. -/
def decimalNumber (start : Text) (negative : Bool) : Reader Value := do
  let whole ← wholeDigits
  let fraction ← fraction?
  let power ← exponent?
  match fraction, power with
  | none, none => lookingAt start (ofInteger negative (ofDigits 10 whole))
  | _, _ =>
    let places := fraction.getD []
    let d : Decimal.Digits := ⟨ofDigits 10 (whole ++ places), power.getD 0 - places.length⟩
    lookingAt start (ofDecimal negative d)

/-- A whole number to a base, after its mark; it begins at `start`. -/
def basedNumber (start : Text) (base : Nat) (name : Text) : Reader Value := do
  let ds ← within name (digits base)
  lookingAt start (ofInteger false (ofDigits base ds))

/-- A number without a finite decimal, after its sign. -/
def special? (negative : Bool) : Reader (Option Value) := do
  let sign : Float := if negative then -1 else 1
  if ← accept "inf" then return some (.float (sign * Float.ofBits 0x7FF0000000000000))
  else if ← accept "nan" then return some (.float (Float.ofBits 0x7FF8000000000000))
  else return none

/-- The number that comes next. -/
def number : Reader Value := do
  let start ← get
  if ← accept "0x" then basedNumber start 16 "hexadecimal integer"
  else if ← accept "0o" then basedNumber start 8 "octal integer"
  else if ← accept "0b" then basedNumber start 2 "binary integer"
  else
    let negative ← accept "-"
    unless negative do let _ ← accept "+"
    match ← special? negative with
    | some value => return value
    | none => decimalNumber start negative

/-- Whether a number comes next, or at least something that can only be one. -/
def beginsNumber (t : Text) : Bool :=
  match t with
  | '+' :: rest | '-' :: rest => beginsUnsigned rest
  | _ => beginsUnsigned t
where
  /-- Whether a digit comes next, or a number without a finite decimal. -/
  beginsUnsigned (t : Text) : Bool :=
    t.head?.any Char.isDigit || (after? "inf" t).isSome || (after? "nan" t).isSome

end Toml
end RuleReview
