import RuleReview.Json.Value

/-!
# JSON tokens

A JSON text is a sequence of brackets, commas, colons, words, strings and numbers with blanks
between them.  Strings and numbers are kept as they are written: whether an escape names a character
and whether a number has a value is only asked of the parts of a text that are used.

## What is here

* `StringPart`, `Numeral`, `Token`.
* `readString?`, `readNumeral?` — a token at the start of a text, and what follows it.
* `tokens?` — the tokens of a text, if it has any other character nowhere.
-/

set_option autoImplicit false

namespace RuleReview
namespace Json

open Text (hexValue?)

/-- A piece of a string as it is written. -/
inductive StringPart where
  /-- A character, or an escape that names one. -/
  | char (c : Char)
  /-- Four hexadecimal digits, which name a unit of a 16-bit encoding. -/
  | unit (u : Nat)
  deriving DecidableEq

/-- A number as it is written, by its digits. -/
structure Numeral where
  /-- Whether a minus sign stands in front. -/
  negative : Bool
  /-- The digits before the point. -/
  whole : List Nat
  /-- The digits after the point; none if there is no point. -/
  fraction : List Nat
  /-- The sign of the exponent, negative or not, and its digits. -/
  exponent : Option (Bool × List Nat)
  deriving DecidableEq

/-- A token of a JSON text. -/
inductive Token where
  /-- An opening bracket. -/
  | beginArray
  /-- A closing bracket. -/
  | endArray
  /-- An opening brace. -/
  | beginObject
  /-- A closing brace. -/
  | endObject
  /-- A comma. -/
  | comma
  /-- A colon. -/
  | colon
  /-- The word `null`. -/
  | null
  /-- The word `true` or the word `false`. -/
  | bool (b : Bool)
  /-- A string. -/
  | string (parts : List StringPart)
  /-- A number. -/
  | number (n : Numeral)
  deriving DecidableEq

/-! ## Strings -/

/-- The number that four hexadecimal digits write. -/
def hexUnit? (a b c d : Char) : Option Nat := do
  let a ← hexValue? a
  let b ← hexValue? b
  let c ← hexValue? c
  let d ← hexValue? d
  some (((a * 16 + b) * 16 + c) * 16 + d)

/-- The character that a one-letter escape names. -/
def escaped? (c : Char) : Option Char :=
  if c = '"' ∨ c = '\\' ∨ c = '/' then some c
  else if c = 'b' then some (Char.ofNat 0x8)
  else if c = 'f' then some (Char.ofNat 0xC)
  else if c = 'n' then some '\n'
  else if c = 'r' then some '\r'
  else if c = 't' then some '\t'
  else none

/-- The parts of a string whose opening quotation mark was read, and what follows the string. -/
def readString? : Text → Option (List StringPart × Text)
  | [] => none
  | '"' :: rest => some ([], rest)
  | '\\' :: 'u' :: a :: b :: c :: d :: rest => do
    let u ← hexUnit? a b c d
    let (parts, after) ← readString? rest
    some (.unit u :: parts, after)
  | '\\' :: c :: rest => do
    let e ← escaped? c
    let (parts, after) ← readString? rest
    some (.char e :: parts, after)
  | c :: rest =>
    if c.toNat < 0x20 ∨ c = '\\' then none
    else do
      let (parts, after) ← readString? rest
      some (.char c :: parts, after)

theorem length_le_of_readString? (t after : Text) (parts : List StringPart)
    (h : readString? t = some (parts, after)) : after.length ≤ t.length := by
  fun_induction readString? t generalizing parts with
  | case1 => simp at h
  | case2 rest => simp at h; simp [h.2]
  | case3 a b c d rest ih =>
    simp only [Option.bind_eq_bind, Option.bind_eq_some_iff, Prod.exists] at h
    obtain ⟨_, _, _, _, h', he⟩ := h
    cases he
    have := ih _ h'
    simp only [List.length_cons]
    omega
  | case4 c rest _ ih =>
    simp only [Option.bind_eq_bind, Option.bind_eq_some_iff, Prod.exists] at h
    obtain ⟨_, _, _, _, h', he⟩ := h
    cases he
    have := ih _ h'
    simp only [List.length_cons]
    omega
  | case5 => simp at h
  | case6 c rest _ _ _ _ ih =>
    simp only [Option.bind_eq_bind, Option.bind_eq_some_iff, Prod.exists] at h
    obtain ⟨_, _, h', he⟩ := h
    cases he
    have := ih _ h'
    simp only [List.length_cons]
    omega

/-! ## Numbers -/

/-- The digits that a text begins with, and what follows them. -/
def readDigits : Text → List Nat × Text
  | [] => ([], [])
  | c :: rest =>
    if c.isDigit then
      let (digits, after) := readDigits rest
      ((c.toNat - 48) :: digits, after)
    else
      ([], c :: rest)

theorem length_readDigits (t : Text) :
    (readDigits t).2.length + (readDigits t).1.length = t.length := by
  induction t with
  | nil => rfl
  | cons c rest ih =>
    simp only [readDigits]
    split
    · simp only [List.length_cons]; omega
    · simp

/-- The digits of an exponent, of which the sign was read. -/
def readPower? (negative : Bool) (t : Text) : Option (Option (Bool × List Nat) × Text) :=
  if (readDigits t).1.isEmpty then none
  else some (some (negative, (readDigits t).1), (readDigits t).2)

/-- The exponent at the start of a text, if one begins there. -/
def readExponent? : Text → Option (Option (Bool × List Nat) × Text)
  | [] => some (none, [])
  | c :: rest =>
    if c = 'e' ∨ c = 'E' then
      match rest with
      | '+' :: r => readPower? false r
      | '-' :: r => readPower? true r
      | r => readPower? false r
    else
      some (none, c :: rest)

/-- The part of a number after its whole digits. -/
def readFraction? : Text → Option (List Nat × Text)
  | '.' :: rest =>
    if (readDigits rest).1.isEmpty then none else some (readDigits rest)
  | t => some ([], t)

/-- A number without its sign.  It has at least one digit before the point, and no zero in front of
other digits there. -/
def readMagnitude? (negative : Bool) (t : Text) : Option (Numeral × Text) :=
  let whole := (readDigits t).1
  if whole.isEmpty ∨ (whole.head? = some 0 ∧ 1 < whole.length) then none
  else do
    let (fraction, afterFraction) ← readFraction? (readDigits t).2
    let (exponent, after) ← readExponent? afterFraction
    some (⟨negative, whole, fraction, exponent⟩, after)

/-- The number at the start of a text, and what follows it. -/
def readNumeral? : Text → Option (Numeral × Text)
  | '-' :: rest => readMagnitude? true rest
  | t => readMagnitude? false t

theorem length_le_of_readPower? (t after : Text) (negative : Bool) (e : Option (Bool × List Nat))
    (h : readPower? negative t = some (e, after)) : after.length ≤ t.length := by
  unfold readPower? at h
  have := length_readDigits t
  split at h
  · simp at h
  · cases h; omega

theorem length_le_of_readExponent? (t after : Text) (e : Option (Bool × List Nat))
    (h : readExponent? t = some (e, after)) : after.length ≤ t.length := by
  unfold readExponent? at h
  split at h
  · cases h; exact Nat.le_refl _
  · next c rest =>
    split at h
    · split at h
      all_goals
        have := length_le_of_readPower? _ _ _ _ h
        simp only [List.length_cons] at *
        omega
    · cases h; exact Nat.le_refl _

theorem length_le_of_readFraction? (t after : Text) (ds : List Nat)
    (h : readFraction? t = some (ds, after)) : after.length ≤ t.length := by
  unfold readFraction? at h
  split at h
  · next rest =>
    have := length_readDigits rest
    split at h
    · simp at h
    · have h2 : (readDigits rest).2 = after := by rw [Option.some.inj h]
      rw [← h2]
      simp only [List.length_cons]
      omega
  · cases h; exact Nat.le_refl _

theorem length_lt_of_readMagnitude? (t after : Text) (negative : Bool) (n : Numeral)
    (h : readMagnitude? negative t = some (n, after)) : after.length < t.length := by
  unfold readMagnitude? at h
  simp only at h
  split at h
  · simp at h
  · next hw =>
    simp only [Option.bind_eq_bind, Option.bind_eq_some_iff, Prod.exists] at h
    obtain ⟨_, _, hf, _, _, he, hr⟩ := h
    cases hr
    have h1 := length_le_of_readFraction? _ _ _ hf
    have h2 := length_le_of_readExponent? _ _ _ he
    have h3 := length_readDigits t
    simp only [List.isEmpty_iff, not_or] at hw
    have := List.length_pos_iff.2 hw.1
    omega

theorem length_lt_of_readNumeral? (t after : Text) (n : Numeral)
    (h : readNumeral? t = some (n, after)) : after.length < t.length := by
  unfold readNumeral? at h
  split at h
  · have := length_lt_of_readMagnitude? _ _ _ _ h
    simp only [List.length_cons]
    omega
  · exact length_lt_of_readMagnitude? _ _ _ _ h

/-! ## Tokens -/

/-- The blanks that may stand between tokens. -/
def isGap (c : Char) : Bool := c == ' ' || c == '\n' || c == '\t' || c == '\r'

/-- The tokens of a text. -/
def tokens? : Text → Option (List Token)
  | [] => some []
  | '[' :: rest => (tokens? rest).map (.beginArray :: ·)
  | ']' :: rest => (tokens? rest).map (.endArray :: ·)
  | '{' :: rest => (tokens? rest).map (.beginObject :: ·)
  | '}' :: rest => (tokens? rest).map (.endObject :: ·)
  | ',' :: rest => (tokens? rest).map (.comma :: ·)
  | ':' :: rest => (tokens? rest).map (.colon :: ·)
  | 'n' :: 'u' :: 'l' :: 'l' :: rest => (tokens? rest).map (.null :: ·)
  | 't' :: 'r' :: 'u' :: 'e' :: rest => (tokens? rest).map (.bool true :: ·)
  | 'f' :: 'a' :: 'l' :: 's' :: 'e' :: rest => (tokens? rest).map (.bool false :: ·)
  | '"' :: rest =>
    match _h : readString? rest with
    | none => none
    | some (parts, after) => (tokens? after).map (.string parts :: ·)
  | c :: rest =>
    if isGap c then tokens? rest
    else
      match _h : readNumeral? (c :: rest) with
      | none => none
      | some (n, after) => (tokens? after).map (.number n :: ·)
termination_by t => t.length
decreasing_by
  all_goals simp only [List.length_cons]
  iterate 9 omega
  · have h := length_le_of_readString? _ _ _ _h
    omega
  · omega
  · simpa using length_lt_of_readNumeral? _ _ _ _h

end Json
end RuleReview
