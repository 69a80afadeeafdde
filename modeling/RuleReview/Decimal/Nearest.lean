import RuleReview.Decimal.Shortest

/-!
# The float nearest to a decimal

A decimal is read as the 64-bit float nearest to it; of two that are equally near, the one with the
even significand.  The quotient of two natural numbers is rounded once, so no digit is lost on the
way, however many there are.

## What is here

* `roundDiv` — a quotient rounded to the nearest whole number, a half to the even one.
* `nearest64` — the float nearest to a decimal.
-/

set_option autoImplicit false

namespace RuleReview
namespace Decimal

/-- A quotient rounded to the nearest whole number; a half is rounded to the even one. -/
def roundDiv (num den : Nat) : Nat :=
  let q := num / den
  let twice := 2 * (num % den)
  if den < twice || (twice == den && q % 2 == 1) then q + 1 else q

/-- A rounded quotient is at most half a unit away. -/
theorem roundDiv_near (num den : Nat) (h : 0 < den) :
    2 * num ≤ 2 * (roundDiv num den * den) + den ∧
      2 * (roundDiv num den * den) ≤ 2 * num + den := by
  have hdiv := Nat.div_add_mod num den
  have hlt := Nat.mod_lt num h
  have hcomm := Nat.mul_comm den (num / den)
  unfold roundDiv
  simp only [Bool.or_eq_true, decide_eq_true_eq, Bool.and_eq_true, beq_iff_eq]
  split
  · rw [Nat.add_mul, Nat.one_mul]
    omega
  · omega

/-- The bits of the float nearest to `num / den * 2 ^ exp`, where the quotient is positive and the
exponent is that of the last bit that the float keeps. -/
def packBits (num den : Nat) (exp : Int) : UInt64 :=
  let f := roundDiv (num * power 2 (-exp)) (den * power 2 exp)
  let bits :=
    if f < leadingBit64 then f
    else (exp + 1075).toNat * leadingBit64 + (f - leadingBit64)
  UInt64.ofNat (min bits (2047 * leadingBit64))

/-- The exponent of the last bit that the float nearest to a positive quotient keeps: it keeps 53
bits, unless that would take it below the least float. -/
def lastBit (num den : Nat) : Int :=
  let guess : Int := (Nat.log2 num : Int) - Nat.log2 den - 52
  let short := num * power 2 (-guess) < leadingBit64 * den * power 2 guess
  let exp := if short then guess - 1 else guess
  max exp (-1074)

/-- The float nearest to a decimal.  What is beyond the greatest float is infinite. -/
def nearest64 (d : Digits) : Float :=
  if d.value == 0 then 0
  else
    let lead := d.exp + Nat.log2 d.value * 30103 / 100000
    if 310 < lead then Float.ofBits 0x7FF0000000000000
    else if lead < -326 then 0
    else
      let num := d.value * power 10 d.exp
      let den := power 10 (-d.exp)
      Float.ofBits (packBits num den (lastBit num den))

end Decimal
end RuleReview
