import RuleReview.Toml.Fault

/-!
# Reading a file from left to right

A reader takes something from the start of a text and leaves the rest, or finds a fault.  It looks
at the next characters and decides what must come.

## What is here

* `Toml.Reader`, with `accept`, `expect`, `takeWhile`, `placed` and `lookingAt`.
* `orFail`, `expecting`, `within` — readers with other faults.
* `skipBlanks`, `skipLines`, `skipSpace`, `endLine` — what may stand between values.
-/

set_option autoImplicit false

namespace RuleReview
namespace Toml

open Text

/-- A reader takes something from the start of a text, or finds a fault. -/
abbrev Reader (α : Type) := StateT Text (Except Fault) α

namespace Reader

variable {α : Type}

/-- Find a fault with the next character. -/
def fail (c : Complaint) : Reader α := fun t => .error ⟨⟨t.length, t.length - 1⟩, c⟩

/-- Break a rule at the next character. -/
def refuse (rule : Rule) : Reader α := fail { rule := some rule }

/-- The next character, which is left where it is. -/
def peek? : Reader (Option Char) := fun t => .ok (t.head?, t)

/-- Pass over some characters. -/
def skip (count : Nat) : Reader Unit := fun t => .ok ((), t.drop count)

/-- Take characters as long as they have a property. -/
def takeWhile (p : Char → Bool) : Reader Text := fun t => .ok (t.takeWhile p, t.dropWhile p)

/-- Pass over `part` if it comes next. -/
def accept (part : Text) : Reader Bool := fun t =>
  match after? part t with
  | some rest => .ok (true, rest)
  | none => .ok (false, t)

/-- Pass over `part`, which must come next. -/
def expect (part : Text) (otherwise : Complaint) : Reader Unit := do
  unless ← accept part do fail otherwise

/-- What a reader takes, with its place. -/
def placed (r : Reader α) : Reader (Span × α) := fun t => do
  let (a, rest) ← r t
  return ((⟨t.length, rest.length⟩, a), rest)

/-- What a reader finds at another place; the place here is kept. -/
def lookingAt (place : Text) (r : Reader α) : Reader α := fun t => do
  let (a, _) ← r place
  return (a, t)

/-- A reader of which every fault is another fault at another place. -/
def orFail (r : Reader α) (place : Text) (c : Complaint) : Reader α := fun t =>
  match r t with
  | .ok taken => .ok taken
  | .error _ => fail c place

/-- A reader that says what could have stood where it finds a fault. -/
def expecting (what : Text) (r : Reader α) : Reader α := fun t =>
  match r t with
  | .ok taken => .ok taken
  | .error f => .error { f with complaint.expected := f.complaint.expected ++ [what] }

/-- A reader that names what it could not read, where it has no closer name for it. -/
def within (subject : Text) (r : Reader α) : Reader α := fun t =>
  match r t with
  | .ok taken => .ok taken
  | .error f =>
    .error { f with complaint.subject := some (f.complaint.subject.getD subject) }

end Reader

open Reader

/-! ## Between values -/

/-- The blanks that may stand within a line. -/
def isGap (c : Char) : Bool := c == ' ' || c == '\t'

/-- Whether a character may stand in a comment: a tab, or anything that is no control character. -/
def isPlain (c : Char) : Bool := c == '\t' || (' ' ≤ c && c != Char.ofNat 0x7F)

/-- The complaint where a line must end. -/
def lineGoesOn : Complaint := { expected := ["newline", backQuoted "#"] }

/-- Pass over blanks within a line. -/
def skipBlanks : Reader Unit := do let _ ← takeWhile isGap

/-- Pass over a newline, which may follow a carriage return. -/
def acceptNewline : Reader Bool := do
  if ← accept "\n" then return true else accept "\r\n"

/-- Pass over the blanks and the comment that a line ends with, and over the end of the line. -/
def endLine : Reader Unit := do
  skipBlanks
  if (← peek?) = some '#' then let _ ← takeWhile isPlain
  unless ← acceptNewline do
    if (← peek?).isSome then fail lineGoesOn

/-- Pass over blanks, newlines and comments between statements; `fuel` bounds the number of
lines. -/
def skipLines : (fuel : Nat) → Reader Unit
  | 0 => skipBlanks
  | fuel + 1 => do
    skipBlanks
    match ← peek? with
    | some '#' =>
      let _ ← takeWhile isPlain
      if ← acceptNewline then skipLines fuel
      else if (← peek?).isSome then fail {}
    | some '\n' | some '\r' => if ← acceptNewline then skipLines fuel else fail {}
    | _ => return

/-- Pass over a newline, which must come next.  The fault of another character is found
behind it. -/
def newline : Reader Unit := do
  unless ← acceptNewline do
    skip 1
    fail {}

/-- Pass over blanks, newlines and comments between the items of an array; `fuel` bounds the number
of lines. -/
def skipSpace : (fuel : Nat) → Reader Unit
  | 0 => skipBlanks
  | fuel + 1 => do
    skipBlanks
    match ← peek? with
    | some '#' =>
      let _ ← takeWhile isPlain
      newline
      skipSpace fuel
    | some '\n' | some '\r' =>
      newline
      skipSpace fuel
    | _ => return

end Toml
end RuleReview
