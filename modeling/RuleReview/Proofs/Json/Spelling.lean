import RuleReview.Json.Print
import RuleReview.Json.Read

/-!
# Strings and numbers as they are written

What is written for a string is read back as that string, and what is written for a whole number of
64 bits as that number.  Reading goes in two steps, and so do the proofs.  First the characters give
the parts of a string and the digits of a numeral (`readString?_quote`, `readNumeral?_toText`), then
these give a text and a number (`text?_parts`, `value?_numeral`).

A number does not say where it ends.  It is read to its end only when what follows it cannot be part
of a number (`EndsNumeral`), as is the case for everything that follows a number in a JSON text.
-/

set_option autoImplicit false

namespace RuleReview
namespace Json

open Text

/-! ## Strings -/

/-- The codes of the control characters that have a short escape. -/
def shortCodes : List Nat := [0x8, 0x9, 0xA, 0xC, 0xD]

/-- The part of a string that a character is read back as: a control character without a short
escape is written by its code. -/
def part (c : Char) : StringPart :=
  if c.toNat < 0x20 ∧ c.toNat ∉ shortCodes then .unit c.toNat else .char c

/-- The parts of a string. -/
def parts (t : Text) : List StringPart := t.map part

theorem hexValue?_hexDigit : ∀ n < 16, hexValue? (hexDigit n) = some n := by decide

theorem hexUnit?_of_lt {n : Nat} (h : n < 0x100) :
    hexUnit? '0' '0' (hexDigit (n / 16)) (hexDigit (n % 16)) = some n := by
  have hhigh := hexValue?_hexDigit (n / 16) (by omega)
  have hlow := hexValue?_hexDigit (n % 16) (by omega)
  have hzero : hexValue? '0' = some 0 := rfl
  simp only [hexUnit?, hzero, hhigh, hlow, Option.bind_eq_bind, Option.bind_some,
    Option.some.injEq]
  omega

section String

variable {c d : Char} {rest after : Text} {later : List StringPart}

/-! A string is read back from one written character to the next.  The first hypothesis is always
what comes of the rest. -/

theorem readString?_code (h : readString? rest = some (later, after)) {a b : Char} {u : Nat}
    (hu : hexUnit? a b c d = some u) :
    readString? ('\\' :: 'u' :: a :: b :: c :: d :: rest) = some (.unit u :: later, after) := by
  rw [readString?]
  simp only [hu, h, Option.bind_eq_bind, Option.bind_some]

theorem readString?_short (h : readString? rest = some (later, after)) (hd : escaped? c = some d) :
    readString? (['\\', c] ++ rest) = some (.char d :: later, after) := by
  have hu : c ≠ 'u' := by
    rintro rfl
    cases hd
  change readString? ('\\' :: c :: rest) = _
  rw [readString?]
  · simp only [hd, h, Option.bind_eq_bind, Option.bind_some]
  · rintro _ _ _ _ _ rfl
    exact absurd rfl hu

theorem readString?_plain (h : readString? rest = some (later, after)) (hquote : c ≠ '"')
    (hslash : c ≠ '\\') (hlow : ¬ c.toNat < 0x20) :
    readString? (c :: rest) = some (.char c :: later, after) := by
  rw [readString?]
  · simp only [h, Option.bind_eq_bind, Option.bind_some]
    rw [if_neg (by simp [hlow, hslash])]
  · exact hquote
  · rintro _ _ _ _ _ rfl
    exact absurd rfl hslash
  · rintro _ _ rfl
    exact absurd rfl hslash

theorem eq_ofNat_of_beq {n : Nat} (h : (c.toNat == n) = true) : c = Char.ofNat n := by
  rw [← eq_of_beq h, Char.ofNat_toNat]

/-- Every character is read back as its part, whichever way it is written. -/
theorem readString?_escape (h : readString? rest = some (later, after)) (c : Char) :
    readString? (escape c ++ rest) = some (part c :: later, after) := by
  fun_cases escape c
  case case1 hc | case2 hc =>
    obtain rfl := eq_of_beq hc
    exact readString?_short h rfl
  case case3 hc | case4 hc | case5 hc | case6 hc | case7 hc =>
    obtain rfl := eq_ofNat_of_beq hc
    exact readString?_short h rfl
  case case8 hlow h8 h9 hA hC hD =>
    have hpart : part c = .unit c.toNat := by
      rw [part, if_pos]
      simp_all [shortCodes]
    rw [hpart]
    exact readString?_code h (hexUnit?_of_lt (by omega))
  case case9 hquote hslash hlow =>
    have hpart : part c = .char c := if_neg fun hboth => hlow hboth.1
    rw [hpart]
    exact readString?_plain h (by simpa using hquote) (by simpa using hslash) hlow

/-- A string is read back up to its closing quotation mark. -/
theorem readString?_quote (t rest : Text) :
    readString? (t.flatMap escape ++ '"' :: rest) = some (parts t, rest) := by
  induction t with
  | nil => rw [List.flatMap_nil, List.nil_append, readString?, parts, List.map_nil]
  | cons c t ih =>
    rw [List.flatMap_cons, List.append_assoc]
    exact readString?_escape ih c

/-- A unit that is no half of a pair is a character. -/
theorem text?_unit {n : Nat} (hn : n < 0xD800 ∨ 0xE000 ≤ n) (more : List StringPart) :
    text? (.unit n :: more) = (text? more).map (Char.ofNat n :: ·) := by
  have hhigh : isHighUnit n = false := by simp [isHighUnit]; omega
  have hlow : isLowUnit n = false := by simp [isLowUnit]; omega
  cases more with
  | nil => simp [text?, hhigh, hlow]
  | cons first more => cases first <;> simp [text?, hhigh, hlow]

theorem text?_part (c : Char) (more : List StringPart) :
    text? (part c :: more) = (text? more).map (c :: ·) := by
  rw [part]
  split
  · next hunit => rw [text?_unit (by omega), Char.ofNat_toNat]
  · rw [text?]

/-- The parts of a string are its text. -/
theorem text?_parts (t : Text) : text? (parts t) = .ok t := by
  induction t with
  | nil => rfl
  | cons c t ih =>
    change text? (part c :: parts t) = _
    rw [text?_part, ih]
    rfl

end String

/-! ## Numbers -/

/-- The digits of a number. -/
def digits (n : Nat) : List Nat := (decimal n).map fun c => c.toNat - 48

/-- A text that a number in front of it does not go on with. -/
def EndsNumeral (t : Text) : Prop :=
  ∀ c, t.head? = some c → c.isDigit = false ∧ c ≠ '.' ∧ c ≠ 'e' ∧ c ≠ 'E'

theorem isDigit_digit : ∀ d < 10, (digit d).isDigit = true := by decide

theorem toNat_digit : ∀ d < 10, (digit d).toNat - 48 = d := by decide

theorem isDigit_of_mem_decimal {n : Nat} {c : Char} (h : c ∈ decimal n) : c.isDigit = true := by
  fun_induction decimal n with
  | case1 n hn =>
    rw [List.mem_singleton.1 h]
    exact isDigit_digit n hn
  | case2 n hn ih =>
    rcases List.mem_append.1 h with h | h
    · exact ih h
    · rw [List.mem_singleton.1 h]
      exact isDigit_digit _ (Nat.mod_lt n (by decide))

theorem digits_of_lt {n : Nat} (h : n < 10) : digits n = [n] := by
  rw [digits, decimal, if_pos h, List.map_singleton, toNat_digit n h]

theorem digits_of_le {n : Nat} (h : 10 ≤ n) : digits n = digits (n / 10) ++ [n % 10] := by
  rw [digits, decimal, if_neg (by omega), List.map_append, List.map_singleton,
    toNat_digit _ (Nat.mod_lt n (by decide)), digits]

theorem ofDigits_append (base : Nat) (ds : List Nat) (d : Nat) :
    ofDigits base (ds ++ [d]) = ofDigits base ds * base + d := by
  rw [ofDigits, List.foldl_append, ofDigits]
  rfl

/-- The digits of a number are its value. -/
theorem ofDigits_digits (n : Nat) : ofDigits 10 (digits n) = n := by
  by_cases hn : n < 10
  · rw [digits_of_lt hn]
    simp [ofDigits]
  · rw [digits_of_le (by omega), ofDigits_append, ofDigits_digits (n / 10)]
    omega

theorem decimal_eq_cons (n : Nat) : ∃ c rest, decimal n = c :: rest ∧ c.isDigit = true := by
  have hne : decimal n ≠ [] := by fun_cases decimal n <;> simp
  obtain ⟨c, rest, hdecimal⟩ := List.exists_cons_of_ne_nil hne
  exact ⟨c, rest, hdecimal, isDigit_of_mem_decimal (hdecimal ▸ List.mem_cons_self)⟩

theorem digits_ne_nil (n : Nat) : digits n ≠ [] := by
  obtain ⟨c, rest, hdecimal, -⟩ := decimal_eq_cons n
  simp [digits, hdecimal]

/-- No zero stands in front of the other digits of a number. -/
theorem head?_digits_ne_zero {n : Nat} (h : 0 < n) : (digits n).head? ≠ some 0 := by
  by_cases hn : n < 10
  · rw [digits_of_lt hn]
    simp
    omega
  · have hfirst : (digits (n / 10)).head? ≠ some 0 := head?_digits_ne_zero (by omega)
    obtain ⟨d, ds, hdigits⟩ := List.exists_cons_of_ne_nil (digits_ne_nil (n / 10))
    rw [hdigits] at hfirst
    rw [digits_of_le (by omega), hdigits]
    exact hfirst

section Numeral

variable {rest : Text}

theorem readDigits_append (hrest : EndsNumeral rest) {t : Text} (ht : ∀ c ∈ t, c.isDigit = true) :
    readDigits (t ++ rest) = (t.map fun c => c.toNat - 48, rest) := by
  induction t with
  | nil =>
    cases rest with
    | nil => rfl
    | cons c rest =>
      rw [List.nil_append, readDigits, if_neg (by simp [(hrest c rfl).1])]
      rfl
  | cons c t ih =>
    obtain ⟨hc, ht⟩ := List.forall_mem_cons.1 ht
    rw [List.cons_append, readDigits, if_pos hc, ih ht]
    rfl

theorem readFraction?_of_ends (hrest : EndsNumeral rest) :
    readFraction? rest = some ([], rest) := by
  rw [readFraction?]
  rintro after rfl
  exact (hrest '.' rfl).2.1 rfl

theorem readExponent?_of_ends (hrest : EndsNumeral rest) :
    readExponent? rest = some (none, rest) := by
  cases rest with
  | nil => rfl
  | cons c rest =>
    obtain ⟨-, -, he, hE⟩ := hrest c rfl
    simp [readExponent?, he, hE]

theorem readMagnitude?_decimal (hrest : EndsNumeral rest) (negative : Bool) (n : Nat) :
    readMagnitude? negative (decimal n ++ rest) = some (⟨negative, digits n, [], none⟩, rest) := by
  have hread : readDigits (decimal n ++ rest) = (digits n, rest) :=
    readDigits_append hrest fun c hc => isDigit_of_mem_decimal hc
  have hzero : ¬ ((digits n).head? = some 0 ∧ 1 < (digits n).length) := by
    rintro ⟨hhead, hlength⟩
    rcases Nat.eq_zero_or_pos n with rfl | hn
    · simp [digits_of_lt] at hlength
    · exact head?_digits_ne_zero hn hhead
  rw [readMagnitude?, hread, if_neg]
  · simp only [readFraction?_of_ends hrest, readExponent?_of_ends hrest, Option.bind_eq_bind,
      Option.bind_some]
  · rw [List.isEmpty_iff, not_or]
    exact ⟨digits_ne_nil n, hzero⟩

/-- The numeral that a whole number is written as.  Floats are not looked at here. -/
def Number.numeral : Number → Numeral
  | .integer n => ⟨n < 0, digits n.natAbs, [], none⟩
  | _ => ⟨false, [], [], none⟩

/-- A whole number is read back up to what ends it. -/
theorem readNumeral?_toText (hrest : EndsNumeral rest) (n : Int) :
    readNumeral? ((Number.integer n).toText ++ rest) =
      some ((Number.integer n).numeral, rest) := by
  by_cases hn : n < 0
  · have htext : (Number.integer n).toText = '-' :: decimal n.natAbs := if_pos hn
    rw [htext, List.cons_append, readNumeral?, readMagnitude?_decimal hrest, Number.numeral,
      decide_eq_true hn]
  · have htext : (Number.integer n).toText = decimal n.natAbs := if_neg hn
    have hsign : ∀ after, decimal n.natAbs ++ rest ≠ '-' :: after := by
      intro after hminus
      obtain ⟨d, ds, hdecimal, hd⟩ := decimal_eq_cons n.natAbs
      rw [hdecimal, List.cons_append] at hminus
      rw [(List.cons.inj hminus).1] at hd
      cases hd
    rw [htext, readNumeral?, readMagnitude?_decimal hrest, Number.numeral, decide_eq_false hn]
    exact hsign

theorem toText_eq_cons (n : Int) :
    ∃ c rest, (Number.integer n).toText = c :: rest ∧ (c = '-' ∨ c.isDigit = true) := by
  by_cases hn : n < 0
  · exact ⟨'-', decimal n.natAbs, if_pos hn, .inl rfl⟩
  · obtain ⟨c, rest, hdecimal, hc⟩ := decimal_eq_cons n.natAbs
    exact ⟨c, rest, (if_neg hn).trans hdecimal, .inr hc⟩

/-- The numeral of a whole number that 64 bits hold, with a sign or without, is that number. -/
theorem value?_numeral {n : Int} (hlow : -0x8000000000000000 ≤ n) (hhigh : n < UInt64.size) :
    (Number.integer n).numeral.value? = .ok (.integer n) := by
  have hsize : UInt64.size = 0x10000000000000000 := rfl
  rw [Number.numeral, Numeral.value?]
  simp only [ofDigits_digits]
  by_cases hn : n < 0
  · rw [if_neg (by simp [hn]), if_pos ⟨rfl, rfl, decide_eq_true hn, by omega, by omega⟩]
    have hvalue : -(n.natAbs : Int) = n := by omega
    rw [hvalue]
  · rw [if_pos ⟨rfl, rfl, by simpa using hn, by omega⟩]
    have hvalue : (n.natAbs : Int) = n := by omega
    rw [hvalue]

end Numeral

end Json
end RuleReview
