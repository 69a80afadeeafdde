import RuleReview.Text.Basic

/-!
# Texts as bytes

Files hold bytes, and texts are stored in UTF-8.  A byte sequence is decoded one character at a
time; where it does not continue as the encoding of a character, the bytes up to that point are one
fault.  A strict reader refuses a sequence with a fault, a lenient one puts the replacement
character in the place of each.

## What is here

* `Utf8.encode` — the bytes of a text.
* `Utf8.decode?` — the text of a byte sequence without faults.
* `Utf8.decodeLossy` — the text of any byte sequence.
-/

set_option autoImplicit false

namespace RuleReview
namespace Utf8

/-- The bytes of a character. -/
def encodeChar (c : Char) : List UInt8 :=
  let n := c.toNat
  if n < 0x80 then [.ofNat n]
  else if n < 0x800 then [.ofNat (0xC0 + n / 0x40), .ofNat (0x80 + n % 0x40)]
  else if n < 0x10000 then
    [.ofNat (0xE0 + n / 0x1000), .ofNat (0x80 + n / 0x40 % 0x40), .ofNat (0x80 + n % 0x40)]
  else
    [.ofNat (0xF0 + n / 0x40000), .ofNat (0x80 + n / 0x1000 % 0x40),
      .ofNat (0x80 + n / 0x40 % 0x40), .ofNat (0x80 + n % 0x40)]

/-- The bytes of a text. -/
def encode (t : Text) : List UInt8 := t.flatMap encodeChar

/-- What the first byte of a longer encoding promises. -/
structure Lead where
  /-- The bits it contributes. -/
  bits : Nat
  /-- The least second byte. -/
  low : Nat
  /-- The greatest second byte. -/
  high : Nat
  /-- How many bytes follow the second one. -/
  more : Nat

/-- The promise of a first byte.  The bounds of the second byte leave out encodings that are longer
than need be, the surrogates, and what is past the last code point. -/
def lead? (b : Nat) : Option Lead :=
  if 0xC2 ≤ b ∧ b ≤ 0xDF then some ⟨b - 0xC0, 0x80, 0xBF, 0⟩
  else if b = 0xE0 then some ⟨0, 0xA0, 0xBF, 1⟩
  else if b = 0xED then some ⟨0xD, 0x80, 0x9F, 1⟩
  else if 0xE1 ≤ b ∧ b ≤ 0xEF then some ⟨b - 0xE0, 0x80, 0xBF, 1⟩
  else if b = 0xF0 then some ⟨0, 0x90, 0xBF, 2⟩
  else if 0xF1 ≤ b ∧ b ≤ 0xF3 then some ⟨b - 0xF0, 0x80, 0xBF, 2⟩
  else if b = 0xF4 then some ⟨4, 0x80, 0x8F, 2⟩
  else none

/-- The last bytes of a character whose earlier bytes contribute `bits`, and what follows it. -/
def decodeTail : (count bits : Nat) → List UInt8 → Option Char × List UInt8
  | 0, bits, bytes => (some (Char.ofNat bits), bytes)
  | _ + 1, _, [] => (none, [])
  | count + 1, bits, b :: rest =>
    if 0x80 ≤ b.toNat ∧ b.toNat ≤ 0xBF then
      decodeTail count (bits * 0x40 + (b.toNat - 0x80)) rest
    else
      (none, b :: rest)

/-- The character that begins with byte `b`, or nothing if there is a fault, and what follows. -/
def decodeChar (b : UInt8) (rest : List UInt8) : Option Char × List UInt8 :=
  if b.toNat < 0x80 then (some (Char.ofNat b.toNat), rest)
  else
    match lead? b.toNat, rest with
    | none, _ => (none, rest)
    | some _, [] => (none, [])
    | some l, c :: after =>
      if l.low ≤ c.toNat ∧ c.toNat ≤ l.high then
        decodeTail l.more (l.bits * 0x40 + (c.toNat - 0x80)) after
      else
        (none, c :: after)

-- Encodings that are longer than need be, and surrogates, are faults; the last code point is none.
example : decodeChar 0xC0 [0x80] = (none, [0x80]) := by decide
example : decodeChar 0xE0 [0x80, 0x80] = (none, [0x80, 0x80]) := by decide
example : decodeChar 0xED [0xA0, 0x80] = (none, [0xA0, 0x80]) := by decide
example : decodeChar 0xF4 [0x8F, 0xBF, 0xBF] = (some (Char.ofNat 0x10FFFF), []) := by decide
example : decodeChar 0xF4 [0x90, 0x80, 0x80] = (none, [0x90, 0x80, 0x80]) := by decide
-- A fault ends where the next byte cannot continue the encoding.
example : decodeChar 0xE2 [0x82, 0x41] = (none, [0x41]) := by decide

theorem length_decodeTail_le (count bits : Nat) (bytes : List UInt8) :
    (decodeTail count bits bytes).2.length ≤ bytes.length := by
  fun_induction decodeTail count bits bytes with
  | case1 => simp
  | case2 => simp
  | case3 _ _ _ _ _ ih => simp only [List.length_cons]; omega
  | case4 => simp

theorem length_decodeChar_le (b : UInt8) (rest : List UInt8) :
    (decodeChar b rest).2.length ≤ rest.length := by
  unfold decodeChar
  split
  · simp
  · cases lead? b.toNat with
    | none => simp
    | some l =>
      cases rest with
      | nil => simp
      | cons c after =>
        simp only
        split
        · have := length_decodeTail_le l.more (l.bits * 0x40 + (c.toNat - 0x80)) after
          simp only [List.length_cons]
          omega
        · simp

/-- The characters of a byte sequence, with nothing in the place of each fault. -/
def decode : List UInt8 → List (Option Char)
  | [] => []
  | b :: rest => (decodeChar b rest).1 :: decode (decodeChar b rest).2
termination_by bytes => bytes.length
decreasing_by
  have := length_decodeChar_le b rest
  simp only [List.length_cons]
  omega

/-- The text of a byte sequence, if it has no fault. -/
def decode? (bytes : List UInt8) : Option Text := (decode bytes).mapM id

/-- The text of a byte sequence, with the replacement character in the place of each fault. -/
def decodeLossy (bytes : List UInt8) : Text :=
  (decode bytes).map (·.getD (Char.ofNat 0xFFFD))

end Utf8
end RuleReview
