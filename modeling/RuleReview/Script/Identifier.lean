import RuleReview.Text.Word

/-!
# Identifiers

The names of a rule script are dotted paths such as `order.total`.  A path is made of segments, each
of which begins with an ASCII letter or an underscore and goes on with word characters; a dot that
no such segment follows belongs to no path.  A run of word characters that begins otherwise, such as
`3rd`, is passed over as a whole, so that nothing inside it is taken for a name.

## What is here

* `dotted` — the rest of a path after its first segment.
* `identifiers` — the paths of a text, from left to right.
* `isKeyword` — the words of the rule language that are never names of data.
-/

set_option autoImplicit false

namespace RuleReview
namespace Script

open Text

theorem length_dropWhile_le (p : Char → Bool) (t : Text) : (t.dropWhile p).length ≤ t.length :=
  (List.dropWhile_sublist p).length_le

/-- The further segments of a path, with the dots before them, and what follows the path. -/
def dotted : Text → Text × Text
  | '.' :: c :: rest =>
    if isNameStart c then
      let more := dotted (rest.dropWhile isWord)
      ('.' :: c :: rest.takeWhile isWord ++ more.1, more.2)
    else
      ([], '.' :: c :: rest)
  | t => ([], t)
termination_by t => t.length
decreasing_by
  have := length_dropWhile_le isWord rest
  simp only [List.length_cons]
  omega

theorem length_dotted_le (t : Text) : (dotted t).2.length ≤ t.length := by
  fun_induction dotted t with
  | case1 c rest _ more ih =>
    have := length_dropWhile_le isWord rest
    have : more.2.length ≤ (rest.dropWhile isWord).length := ih
    simp only [List.length_cons]
    omega
  | case2 => simp
  | case3 => simp

/-- The identifiers of a text, from left to right, keywords included. -/
def identifiers : Text → List Text
  | [] => []
  | c :: rest =>
    if !isWord c then identifiers rest
    else if !isNameStart c then identifiers (rest.dropWhile isWord)
    else
      let more := dotted (rest.dropWhile isWord)
      (c :: rest.takeWhile isWord ++ more.1) :: identifiers more.2
termination_by t => t.length
decreasing_by
  · simp
  · have := length_dropWhile_le isWord rest
    simp only [List.length_cons]
    omega
  · have := length_dropWhile_le isWord rest
    have := length_dotted_le (rest.dropWhile isWord)
    simp only [List.length_cons]
    omega

/-- The words of the rule language. -/
def keywords : List Text :=
  ["if", "else", "return", "true", "false", "null", "new", "for", "while", "switch", "case",
    "break", "continue"]

/-- Whether a word belongs to the rule language. -/
def isKeyword (word : Text) : Bool := keywords.contains word

end Script
end RuleReview
