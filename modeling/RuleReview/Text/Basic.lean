/-!
# Text

Rule scripts, explanations and replies are all scanned character by character, so a text in this
library is the list of its characters.  A string literal is read as a text wherever one is
expected.

## What is here

* `Text` — a list of characters, ordered by code points, the shorter first.
* `Text.cut` — a text parted at the first occurrence of a character.
* `Text.occursIn` — whether one text is a stretch of another (`occursIn_iff`).
* `Text.lines` — the lines of a text.
* `Text.decimal`, `Text.padded` — a number in decimal digits; `Text.ofDigits` — the number that
  digits write; `Text.hexDigit`, `Text.hexValue?` — hexadecimal digits.
* `Text.shorten` — the start of a text, marked when something was left off.
-/

set_option autoImplicit false

namespace RuleReview

/-- A text is the list of its characters. -/
abbrev Text := List Char

/-- A string literal stands for the list of its characters. -/
instance : Coe String Text := ⟨String.toList⟩

namespace Text

/-! ## Parting and searching -/

/-- What stands before and after the first `sep`, when there is one. -/
def cut (sep : Char) : Text → Option (Text × Text)
  | [] => none
  | c :: rest => if c = sep then some ([], rest) else (cut sep rest).map fun p => (c :: p.1, p.2)

/-- A cut loses nothing, and the first part is free of the separator. -/
theorem cut_eq_some_iff (sep : Char) (t before after : Text) :
    cut sep t = some (before, after) ↔ t = before ++ sep :: after ∧ sep ∉ before := by
  induction t generalizing before with
  | nil => simp [cut]
  | cons c rest ih =>
    by_cases h : c = sep
    · subst h
      cases before with
      | nil => simp [cut, eq_comm]
      | cons d before => simp only [cut]; grind
    · cases before with
      | nil => simp [cut, h]
      | cons d before => simp [cut, h, ih]; grind

/-- There is no cut exactly when the separator does not occur. -/
theorem cut_eq_none_iff (sep : Char) (t : Text) : cut sep t = none ↔ sep ∉ t := by
  induction t with
  | nil => simp [cut]
  | cons c rest ih =>
    by_cases h : c = sep
    · simp [cut, h]
    · simp [cut, h, ih, Ne.symm h]

/-- What stands before and after the last `sep`, when there is one. -/
def cutLast (sep : Char) : Text → Option (Text × Text)
  | [] => none
  | c :: rest =>
    match cutLast sep rest with
    | some (before, after) => some (c :: before, after)
    | none => if c = sep then some ([], rest) else none

/-- There is no last separator exactly when the separator does not occur. -/
theorem cutLast_eq_none_iff (sep : Char) (t : Text) : cutLast sep t = none ↔ sep ∉ t := by
  induction t with
  | nil => simp [cutLast]
  | cons c rest ih =>
    rw [cutLast]
    split
    · next before after hr =>
      have hmem : sep ∈ rest := Classical.byContradiction fun hn => by simp [ih.2 hn] at hr
      simp [hmem]
    · next hr =>
      by_cases hc : c = sep
      · simp [hc]
      · simp [hc, Ne.symm hc, ih.1 hr]

/-- A cut at the last separator loses nothing, and the second part is free of the separator. -/
theorem cutLast_eq_some_iff (sep : Char) (t before after : Text) :
    cutLast sep t = some (before, after) ↔ t = before ++ sep :: after ∧ sep ∉ after := by
  induction t generalizing before after with
  | nil => simp [cutLast]
  | cons c rest ih =>
    rw [cutLast]
    split
    · next b a hr =>
      have hsplit := (ih b a).1 hr
      cases before with
      | nil =>
        have hmem : sep ∈ rest := by simp [hsplit.1]
        grind
      | cons d before =>
        simp only [Option.some.injEq, Prod.mk.injEq, List.cons.injEq, List.cons_append]
        have := ih before after
        grind
    · next hr =>
      have hfree := (cutLast_eq_none_iff sep rest).1 hr
      cases before with
      | nil => grind
      | cons d before => grind

/-- What follows `start` in a text that begins with it. -/
def after? : (start t : Text) → Option Text
  | [], t => some t
  | _ :: _, [] => none
  | a :: start, b :: t => if a = b then after? start t else none

/-- Whether `part` is a stretch of `whole`. -/
def occursIn (part : Text) : Text → Bool
  | [] => part.isEmpty
  | c :: rest => part.isPrefixOf (c :: rest) || occursIn part rest

theorem occursIn_iff (part whole : Text) : occursIn part whole = true ↔ part <:+: whole := by
  induction whole with
  | nil => simp [occursIn, List.isEmpty_iff]
  | cons c rest ih => simp [occursIn, ih, List.infix_cons_iff]

/-! ## Trimming one end -/

/-- A text without the characters of `p` at its end. -/
def dropEndWhile (p : Char → Bool) : Text → Text
  | [] => []
  | c :: rest =>
    match dropEndWhile p rest with
    | [] => if p c then [] else [c]
    | d :: kept => c :: d :: kept

/-! ## Lines -/

/-- The lines of a text: a line ends before a newline, or before a carriage return that a newline
follows, and a text that ends with a newline has no further line after it. -/
def lines : Text → List Text
  | [] => []
  | '\r' :: '\n' :: rest => [] :: lines rest
  | '\n' :: rest => [] :: lines rest
  | c :: rest =>
    match lines rest with
    | [] => [[c]]
    | line :: others => (c :: line) :: others

/-! ## Numbers and excerpts -/

/-- The character of a decimal digit. -/
def digit (n : Nat) : Char := Char.ofNat (48 + n)

/-- A number in decimal digits, without leading zeros. -/
def decimal (n : Nat) : Text :=
  if n < 10 then [digit n] else decimal (n / 10) ++ [digit (n % 10)]

/-- A number in decimal digits, with zeros in front up to a width. -/
def padded (width n : Nat) : Text :=
  List.replicate (width - (decimal n).length) '0' ++ decimal n

/-- The number that digits write to a base. -/
def ofDigits (base : Nat) (digits : List Nat) : Nat := digits.foldl (fun n d => n * base + d) 0

/-- A hexadecimal digit in lower case. -/
def hexDigit (n : Nat) : Char := if n < 10 then Char.ofNat (48 + n) else Char.ofNat (87 + n)

/-- The value of a hexadecimal digit in either case. -/
def hexValue? (c : Char) : Option Nat :=
  if '0' ≤ c ∧ c ≤ '9' then some (c.toNat - 48)
  else if 'a' ≤ c ∧ c ≤ 'f' then some (c.toNat - 87)
  else if 'A' ≤ c ∧ c ≤ 'F' then some (c.toNat - 55)
  else none

/-- The first `limit` characters, with three dots after them when something was left off. -/
def shorten (limit : Nat) (t : Text) : Text :=
  if t.length ≤ limit then t else t.take limit ++ "..."

/-- An item of a list, on a line of its own. -/
def bullet (t : Text) : Text := "\n- " ++ t

/-- A text in single quotation marks. -/
def quoted (t : Text) : Text := "'" ++ t ++ "'"

end Text
end RuleReview
