import RuleReview.Decimal.Shortest

/-!
# Decimals as text

Where the decimal point stands is a decision of the format that is written, not of the number.  Two
layouts are used: the positional one, which writes every digit between the first one and the units,
and the scientific one, with one digit before the point.

## What is here

* `Digits.positional`, `Digits.scientific`.
* `json64` — floats in JSON: positional with a point while the exponent of the first digit is
  between −5 and 15, scientific with a signed exponent otherwise.
* `plain64`, `plain32` — floats as they are shown to a reader: positional, and words for what is not
  finite.
-/

set_option autoImplicit false

namespace RuleReview
namespace Decimal

open Text

namespace Digits

/-- The exponent of ten of the first digit. -/
def leading (d : Digits) : Int := d.exp + ((decimal d.value).length - 1 : Nat)

/-- The digits with the point in its place; `whole` follows a number without a fraction. -/
def positional (whole : Text) (d : Digits) : Text :=
  let ds := decimal d.value
  if 0 ≤ d.exp then
    ds ++ List.replicate d.exp.toNat '0' ++ whole
  else if 0 ≤ d.leading then
    ds.take (d.leading.toNat + 1) ++ "." ++ ds.drop (d.leading.toNat + 1)
  else
    "0." ++ List.replicate (-d.leading - 1).toNat '0' ++ ds

/-- One digit, the others after a point, and the exponent with its sign. -/
def scientific (d : Digits) : Text :=
  let ds := decimal d.value
  let mantissa :=
    match ds with
    | [] => []
    | [c] => [c]
    | c :: rest => c :: '.' :: rest
  let sign : Text := if 0 ≤ d.leading then "+" else "-"
  mantissa ++ "e" ++ sign ++ decimal d.leading.natAbs

end Digits

/-- The sign bit of a 64-bit float. -/
def negative64 (x : Float) : Bool := x.toBits >>> 63 == 1

/-- A finite 64-bit float as JSON writes it.  A number that is not finite has no JSON text, and is
written as `null`. -/
def json64 (x : Float) : Text :=
  if !x.isFinite then "null"
  else
    let sign : Text := if negative64 x then "-" else ""
    let b := Binary.ofBits64 x.toBits
    if b.mant == 0 then sign ++ "0.0"
    else
      let d := b.shortest .even
      sign ++ (if -5 ≤ d.leading ∧ d.leading ≤ 15 then d.positional ".0" else d.scientific)

/-- A 32-bit float as JSON writes it, by the rules of `json64`. -/
def json32 (x : Float32) : Text :=
  if !x.isFinite then "null"
  else
    let sign : Text := if x.toBits >>> 31 == 1 then "-" else ""
    let b := Binary.ofBits32 x.toBits
    if b.mant == 0 then sign ++ "0.0"
    else
      let d := b.shortest .even
      sign ++ (if -5 ≤ d.leading ∧ d.leading ≤ 15 then d.positional ".0" else d.scientific)

/-- A 64-bit float as it is shown to a reader: positional, and always with a point. -/
def plain64 (x : Float) : Text :=
  if x.isNaN then "NaN"
  else
    let sign : Text := if negative64 x then "-" else ""
    if !x.isFinite then sign ++ "inf"
    else
      let b := Binary.ofBits64 x.toBits
      if b.mant == 0 then sign ++ "0.0" else sign ++ (b.shortest .up).positional ".0"

/-- A 32-bit float as it is shown to a reader: positional, with a point only where there is a
fraction. -/
def plain32 (x : Float32) : Text :=
  if x.isNaN then "NaN"
  else
    let sign : Text := if x.toBits >>> 31 == 1 then "-" else ""
    if !x.isFinite then sign ++ "inf"
    else
      let b := Binary.ofBits32 x.toBits
      if b.mant == 0 then sign ++ "0" else sign ++ (b.shortest .up).positional ""

end Decimal
end RuleReview
