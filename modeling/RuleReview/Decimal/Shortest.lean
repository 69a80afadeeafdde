import RuleReview.Text.Basic

/-!
# The shortest decimal of a binary number

A finite float is written with the fewest decimal digits that are read back as the same float, and
among those with the digits nearest to it.  The decimals that are read back as a float are those
between the midpoints to its two neighbours; a midpoint itself belongs to the float whose
significand is even.  Below a power of two the neighbour is only half as far away.

Everything here is exact arithmetic on natural numbers: two scaled numbers are compared by
multiplying out the powers of two and ten.

## What is here

* `power` — a power with a whole exponent, cut off at one.
* `Binary` — a positive binary number with the gap below it; `Binary.ofBits64`, `Binary.ofBits32`.
* `Digits` — a decimal significand and exponent.
* `Binary.readsBack` — whether a decimal is read back as the number.
* `Binary.shortest` — the shortest decimal that is.
-/

set_option autoImplicit false

namespace RuleReview
namespace Decimal

/-- A power of a base; one where the exponent is negative.  A quotient scaled by `base ^ exp` has
`power base exp` above the line and `power base (-exp)` below it. -/
def power (base : Nat) (exp : Int) : Nat := Nat.pow base exp.toNat

/-- The bit that is in the significand of every 64-bit float but the least ones. -/
def leadingBit64 : Nat := 0x10000000000000

/-- The bit that is in the significand of every 32-bit float but the least ones. -/
def leadingBit32 : Nat := 0x800000

/-- A positive binary number, `mant * 2 ^ exp`. -/
structure Binary where
  /-- The significand. -/
  mant : Nat
  /-- The exponent of two. -/
  exp : Int
  /-- Whether the gap to the number below is half the gap to the number above. -/
  narrowBelow : Bool

/-- The magnitude that the bits of a finite 64-bit float stand for. -/
def Binary.ofBits64 (bits : UInt64) : Binary :=
  let e := ((bits >>> 52) &&& 0x7FF).toNat
  let f := (bits &&& 0xFFFFFFFFFFFFF).toNat
  if e == 0 then ⟨f, -1074, false⟩ else ⟨leadingBit64 + f, (e : Int) - 1075, f == 0 && e > 1⟩

/-- The magnitude that the bits of a finite 32-bit float stand for. -/
def Binary.ofBits32 (bits : UInt32) : Binary :=
  let e := ((bits >>> 23) &&& 0xFF).toNat
  let f := (bits &&& 0x7FFFFF).toNat
  if e == 0 then ⟨f, -149, false⟩ else ⟨leadingBit32 + f, (e : Int) - 150, f == 0 && e > 1⟩

/-- A decimal number, `value * 10 ^ exp`. -/
structure Digits where
  /-- The digits, read as a number. -/
  value : Nat
  /-- The exponent of ten of the last digit. -/
  exp : Int

/-- Which of two equally near decimals is taken. -/
inductive Tie where
  /-- The one whose last digit is even. -/
  | even
  /-- The greater one. -/
  | up

/-- Compare `a * 10 ^ i` with `n * 2 ^ j`. -/
def compareScaled (a : Nat) (i : Int) (n : Nat) (j : Int) : Ordering :=
  compare (a * power 10 i * power 2 (-j)) (n * power 2 j * power 10 (-i))

namespace Binary

/-- Whether a decimal lies between the midpoints to the neighbours, the midpoints included when the
significand is even. -/
def readsBack (x : Binary) (d : Digits) : Bool :=
  let low := if x.narrowBelow then 4 * x.mant - 1 else 4 * x.mant - 2
  let atLow := compareScaled d.value d.exp low (x.exp - 2)
  let atHigh := compareScaled d.value d.exp (4 * x.mant + 2) (x.exp - 2)
  let ends := x.mant % 2 == 0
  (atLow == .gt || (ends && atLow == .eq)) && (atHigh == .lt || (ends && atHigh == .eq))

/-- The exponent of ten of the first digit. -/
def leadingExp (x : Binary) : Int :=
  let guess := (((Nat.log2 x.mant : Int) + x.exp) * 30103) / 100000
  if compareScaled 1 (guess + 1) x.mant x.exp != .gt then guess + 1 else guess

/-- The number rounded down to a multiple of `10 ^ k`, in these multiples. -/
def floorAt (x : Binary) (k : Int) : Nat :=
  (x.mant * power 2 x.exp * power 10 (-k)) / (power 10 k * power 2 (-x.exp))

/-- The nearer of the two multiples of `10 ^ k` around the number that are read back as it. -/
def nearestAt (tie : Tie) (x : Binary) (k : Int) : Option Digits :=
  let below : Digits := ⟨floorAt x k, k⟩
  let above : Digits := ⟨below.value + 1, k⟩
  match readsBack x below, readsBack x above with
  | false, false => none
  | true, false => some below
  | false, true => some above
  | true, true =>
    match compareScaled (2 * below.value + 1) k (2 * x.mant) x.exp with
    | .gt => some below
    | .lt => some above
    | .eq =>
      match tie with
      | .up => some above
      | .even => if below.value % 2 == 0 then some below else some above

/-- A decimal without the zeros at its end; `fuel` bounds their number. -/
def stripZeros : (fuel : Nat) → Digits → Digits
  | 0, d => d
  | fuel + 1, d =>
    if d.value != 0 && d.value % 10 == 0 then stripZeros fuel ⟨d.value / 10, d.exp + 1⟩ else d

/-- The shortest decimal that is read back as the number.  Seventeen digits always are, so the
search ends before its bound; past it, the number is written out in full below its units. -/
def shortest (tie : Tie) (x : Binary) : Digits :=
  let top := leadingExp x
  let found := (List.range 17).findSome? fun (i : Nat) => nearestAt tie x (top - i)
  stripZeros 20 (found.getD ⟨floorAt x (top - 16), top - 16⟩)

end Binary
end Decimal
end RuleReview
