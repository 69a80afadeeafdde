import RuleReview.Toml.Reader

/-!
# Quoted strings

A string is basic or literal, and stands within a line or runs over several.  Only basic strings
know escapes.  In a string of several lines a line end is a newline however it was written, a
newline right after the opening quotes is dropped, and so is, in a basic one, everything from a
backslash at the end of a line to the next character that is not blank.

A string of several lines ends with three quotes; up to two more in front of these belong to it.

## What is here

* `Toml.QuoteStyle` — the four kinds of strings.
* `Toml.piece?` — what one character adds to a string; `Toml.body` — what all of them add.
* `Toml.quotedString`, `Toml.quotedKey`.
-/

set_option autoImplicit false

namespace RuleReview
namespace Toml

open Text Reader

/-- A kind of strings. -/
structure QuoteStyle where
  /-- The quotation mark. -/
  mark : Char
  /-- Whether there are escapes. -/
  escapes : Bool
  /-- Whether it may run over several lines. -/
  block : Bool
  /-- What it is called. -/
  name : Text

namespace QuoteStyle

/-- A basic string within a line. -/
def basic : QuoteStyle := ⟨'"', true, false, "basic string"⟩

/-- A literal string within a line. -/
def literal : QuoteStyle := ⟨'\'', false, false, "literal string"⟩

/-- A basic string of several lines. -/
def basicBlock : QuoteStyle := ⟨'"', true, true, "multiline basic string"⟩

/-- A literal string of several lines. -/
def literalBlock : QuoteStyle := ⟨'\'', false, true, "multiline literal string"⟩

/-- The complaint about a string of this kind. -/
def complaint (s : QuoteStyle) : Complaint := { subject := some s.name }

end QuoteStyle

/-- The character that a one-letter escape names. -/
def escaped? (c : Char) : Option Char :=
  if c = 'b' then some (Char.ofNat 0x8)
  else if c = 't' then some '\t'
  else if c = 'n' then some '\n'
  else if c = 'f' then some (Char.ofNat 0xC)
  else if c = 'r' then some '\r'
  else if c = '"' ∨ c = '\\' then some c
  else none

/-- The complaint about an unknown escape. -/
def unknownEscape : Complaint where
  subject := some "escape sequence"
  expected := ['b', 'f', 'n', 'r', 't', 'u', 'U', '\\', '"'].map fun c => backQuoted [c]

/-- The complaint about a code point that is not written in the right number of digits. -/
def badCode (digits : Nat) : Complaint where
  subject := some ("unicode " ++ decimal digits ++ "-digit hex code")

/-- Whether nothing but blanks comes before the next newline. -/
def endsLine (t : Text) : Bool :=
  match t.dropWhile isGap with
  | '\n' :: _ => true
  | '\r' :: '\n' :: _ => true
  | _ => false

/-- A text without the blanks and newlines that it begins with. -/
def dropSpace : Text → Text
  | [] => []
  | '\r' :: '\n' :: rest => dropSpace rest
  | c :: rest => if isGap c || c == '\n' then dropSpace rest else c :: rest

/-- The character whose code point comes next, in the given number of digits. -/
def codePoint (digits : Nat) : Reader Char := do
  let t ← get
  match (t.take digits).mapM hexValue? with
  | none => fail (badCode digits)
  | some ds =>
    let code := ofDigits 16 ds
    if ds.length < digits then fail (badCode digits)
    else if code.isValidChar then
      skip digits
      return Char.ofNat code
    else fail { badCode digits with rule := some .outOfRange }

/-- The character that an escape names, of which the backslash and its letter come next.  The fault
of an unknown letter is found behind it, or with it if it is no ASCII character. -/
def escapedBy (letter : Char) : Reader Char := do
  skip 1
  if letter = 'u' then
    skip 1
    codePoint 4
  else if letter = 'U' then
    skip 1
    codePoint 8
  else
    match escaped? letter with
    | some c =>
      skip 1
      return c
    | none =>
      if letter < Char.ofNat 0x80 then skip 1
      fail unknownEscape

/-- What a backslash that comes next adds to a string, if something follows it. -/
def escape? (s : QuoteStyle) : Reader (Option Text) := do
  match (← get).tail with
  | [] => return none
  | letter :: rest =>
    if s.block && endsLine (letter :: rest) then
      set (dropSpace (letter :: rest))
      return some []
    else return some [← escapedBy letter]

/-- What the next character adds to a string, if it may stand there and is no quotation mark. -/
def plainPiece? (s : QuoteStyle) : Reader (Option Text) := do
  match ← peek? with
  | none => return none
  | some c =>
    if c = s.mark then return none
    else if c = '\\' ∧ s.escapes then escape? s
    else if isPlain c then
      skip 1
      return some [c]
    else if s.block then
      if ← acceptNewline then return some ['\n'] else return none
    else return none

/-- The number of quotation marks that come next. -/
def marksAhead (s : QuoteStyle) : Reader Nat := do
  return ((← get).takeWhile (· == s.mark)).length

/-- Whether something follows one or two quotation marks so that they belong to a string of several
lines.  In a basic string that may be anything but the end of the file. -/
def marksBelong (s : QuoteStyle) (after : Text) : Reader Bool := do
  if s.escapes then return !after.isEmpty else return (← lookingAt after (plainPiece? s)).isSome

/-- What comes next and adds to a string. -/
def piece? (s : QuoteStyle) : Reader (Option Text) := do
  let marks ← marksAhead s
  if marks = 0 then plainPiece? s
  else if s.block ∧ marks < 3 ∧ (← marksBelong s ((← get).drop marks)) then
    skip marks
    return some (List.replicate marks s.mark)
  else return none

/-- The characters of a string whose opening quotes were read; `fuel` bounds their number. -/
def body (s : QuoteStyle) : (fuel : Nat) → Reader Text
  | 0 => return []
  | fuel + 1 => do
    match ← piece? s with
    | some added => return added ++ (← body s fuel)
    | none => return []

/-- A string of a kind, of which the opening quotes come next. -/
def quotedAs (s : QuoteStyle) : Reader Text := do
  if s.block then
    skip 3
    let _ ← acceptNewline
    let inside ← body s (← get).length
    let own := min ((← marksAhead s) - 3) 2
    if own ≠ 0 then skip own
    expect (List.replicate 3 s.mark) s.complaint
    return inside ++ List.replicate own s.mark
  else
    skip 1
    let inside ← body s (← get).length
    expect [s.mark] s.complaint
    return inside

/-- The string that comes next. -/
def quotedString : Reader Text := do
  let t ← get
  let mark := t.headD '"'
  let block := (after? (List.replicate 3 mark) t).isSome
  quotedAs (if mark = '"' then (if block then .basicBlock else .basic)
    else (if block then .literalBlock else .literal))

/-- The quoted key that comes next. -/
def quotedKey : Reader Text := do
  quotedAs (if (← peek?) = some '"' then .basic else .literal)

end Toml
end RuleReview
