import RuleReview.Text.Basic

/-!
# Keys as they are written

A key of letters, digits, underscores and hyphens stands by itself.  Any other key has quotation
marks: double ones, unless there is something to escape that single ones spare.

## What is here

* `Toml.isBare` — what stands by itself.
* `Toml.writtenKey` — a key as it is written.
-/

set_option autoImplicit false

namespace RuleReview
namespace Toml

open Text

/-- Whether a character may stand in a key without quotation marks. -/
def isBare (c : Char) : Bool := c.isAlphanum || c == '_' || c == '-'

/-- Whether a character is a control character other than a tab. -/
def isControl (c : Char) : Bool := c != '\t' && (c < ' ' || c == Char.ofNat 0x7F)

/-- A character as it is written between double quotation marks. -/
def escapedChar (c : Char) : Text :=
  if c = '"' ∨ c = '\\' then ['\\', c]
  else if c = '\n' then ['\\', 'n']
  else if c = '\r' then ['\\', 'r']
  else if c = '\t' then ['\\', 't']
  else if c = Char.ofNat 0x8 then ['\\', 'b']
  else if c = Char.ofNat 0xC then ['\\', 'f']
  else if isControl c then
    "\\u00" ++ [hexDigit (c.toNat / 16), (hexDigit (c.toNat % 16)).toUpper]
  else [c]

/-- Whether a character has no place between single quotation marks. -/
def spoilsLiteral (c : Char) : Bool := c == '\'' || isControl c

/-- A key as it is written. -/
def writtenKey (key : Text) : Text :=
  if !key.isEmpty && key.all isBare then key
  else if key.any (fun c => c == '"' || c == '\\') && !key.any spoilsLiteral then "'" ++ key ++ "'"
  else "\"" ++ key.flatMap escapedChar ++ "\""

example : writtenKey "a-1" = "a-1" := by decide
example : writtenKey [] = "\"\"" := by decide
example : writtenKey "a b" = "\"a b\"" := by decide
example : writtenKey "it\"s" = "'it\"s'" := by decide
example : writtenKey "x'y\"z" = "\"x'y\\\"z\"" := by decide
example : writtenKey "a\tb" = "\"a\\tb\"" := by decide
example : writtenKey [Char.ofNat 0x1F] = "\"\\u001F\"" := by decide

end Toml
end RuleReview
