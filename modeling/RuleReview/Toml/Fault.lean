import RuleReview.Text.Utf8
import RuleReview.Toml.Value

/-!
# Complaints about TOML files

A complaint shows the line it is about, with a mark under the place, and says what could not be
read, what could have stood there, and which rule was broken, as far as it knows.

## What is here

* `Toml.Rule`, `Toml.Complaint`, `Toml.Fault` — what is wrong, and where.
* `Fault.render` — the complaint as it is shown.
-/

set_option autoImplicit false

namespace RuleReview
namespace Toml

open Text

/-- A rule that a file breaks. -/
inductive Rule where
  /-- A key is set once, in a table that may be added to. -/
  | duplicateKey (key : Text) (table : Option (List Text))
  /-- Only tables have entries. -/
  | notTable (path : List Text) (kind : Text)
  /-- A value lies in its range. -/
  | outOfRange
  /-- A whole number is not greater than 64 bits hold. -/
  | tooGreat
  /-- A whole number is not less than 64 bits hold. -/
  | tooSmall
  /-- Values and keys do not nest too deeply. -/
  | tooDeep
  /-- A value is of the type that is asked for. -/
  | wrongType (found expected : Text)
  deriving DecidableEq

/-- A name in back quotes. -/
def backQuoted (t : Text) : Text := "\x60" ++ t ++ "\x60"

/-- The names along a path. -/
def joinDots (path : List Text) : Text := List.intercalate "." path

/-- What is said when a rule is broken. -/
def Rule.message : Rule → Text
  | duplicateKey key none => "duplicate key " ++ backQuoted key
  | duplicateKey key (some []) => "duplicate key " ++ backQuoted key ++ " in document root"
  | duplicateKey key (some table) =>
    "duplicate key " ++ backQuoted key ++ " in table " ++ backQuoted (joinDots table)
  | notTable path kind =>
    "dotted key " ++ backQuoted (joinDots path) ++ " attempted to extend non-table type (" ++
      kind ++ ")"
  | outOfRange => "value is out of range"
  | tooGreat => "number too large to fit in target type"
  | tooSmall => "number too small to fit in target type"
  | tooDeep => "recursion limit exceeded"
  | wrongType found expected => "invalid type: " ++ found ++ ", expected " ++ expected

/-- What is wrong. -/
structure Complaint where
  /-- What could not be read. -/
  subject : Option Text := none
  /-- What could have stood there. -/
  expected : List Text := []
  /-- The rule that is broken. -/
  rule : Option Rule := none
  deriving DecidableEq

/-- A complaint in words, in up to three lines. -/
def Complaint.message (c : Complaint) : Text :=
  let subject := c.subject.toList.map fun (t : Text) => "invalid " ++ t
  let expected : List Text :=
    if c.expected.isEmpty then [] else ["expected " ++ List.intercalate ", " c.expected]
  List.intercalate "\n" (subject ++ expected ++ c.rule.toList.map Rule.message)

/-- What is wrong, and where. -/
structure Fault where
  /-- The place. -/
  span : Span
  /-- What is wrong there. -/
  complaint : Complaint
  deriving DecidableEq

/-- The number of bytes of a text. -/
def byteLength (t : Text) : Nat := (Utf8.encode t).length

/-- The pieces of a text between newlines. -/
def splitLines : Text → List Text
  | [] => [[]]
  | c :: rest =>
    match splitLines rest with
    | [] => [[c]]
    | line :: others => if c = '\n' then [] :: line :: others else (c :: line) :: others

/-- A fault as it is shown for the text of the file.  The place one past the end belongs to the last
line.  Columns count characters, but bytes before a character that is not ASCII. -/
def Fault.render (source : Text) (f : Fault) : Text :=
  let start := source.length - f.span.start
  let inside := min start (source.length - 1)
  let before := splitLines (source.take inside)
  let line := before.length - 1
  let lineStart := before.getLast?.getD []
  let isAscii := (source.drop start).headD ' ' < Char.ofNat 0x80
  let column := (if isAscii then lineStart.length else byteLength lineStart) + (start - inside)
  let content := (splitLines source)[line]?.getD []
  let marked := byteLength ((source.drop start).take (f.span.start - f.span.stop))
  let marks := max 1 (min marked (byteLength content - column))
  let number := decimal (line + 1)
  let gutter : Text := List.replicate (number.length + 1) ' ' ++ "|"
  "TOML parse error at line " ++ number ++ ", column " ++ decimal (column + 1) ++ "\n" ++
    gutter ++ "\n" ++
    number ++ " | " ++ content ++ "\n" ++
    gutter ++ List.replicate (column + 1) ' ' ++ List.replicate marks '^' ++ "\n" ++
    f.complaint.message ++ "\n"

end Toml
end RuleReview
