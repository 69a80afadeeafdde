import RuleReview.Text.Basic

/-!
# Comments

A rule script has comments of two kinds, and they are taken out in two passes over the whole text:
first the block comments, which may span lines, then the line comments.  Hence a block comment can
hide the opening of a line comment, but not the other way round.

A block comment that is never closed is no comment: it stays, with everything after it.

## What is here

* `afterClose?` — what follows the first end of a block comment.
* `dropBlockComments`, `dropLineComments` and their composition `dropComments`.
-/

set_option autoImplicit false

namespace RuleReview
namespace Script

/-- What follows the first end of a block comment. -/
def afterClose? : Text → Option Text
  | [] => none
  | '*' :: '/' :: rest => some rest
  | _ :: rest => afterClose? rest

theorem length_lt_of_afterClose? (t rest : Text) (h : afterClose? t = some rest) :
    rest.length < t.length := by
  fun_induction afterClose? t with
  | case1 => simp at h
  | case2 r =>
    cases h
    simp only [List.length_cons]
    omega
  | case3 _ _ _ ih =>
    have := ih h
    simp only [List.length_cons]
    omega

/-- A text without its block comments: each begins at the first opening that is left and runs to
the first end after that opening. -/
def dropBlockComments : Text → Text
  | [] => []
  | '/' :: '*' :: rest =>
    match _h : afterClose? rest with
    | some rest' => dropBlockComments rest'
    | none => '/' :: '*' :: rest
  | c :: rest => c :: dropBlockComments rest
termination_by t => t.length
decreasing_by
  all_goals simp_all only [List.length_cons]
  · have := length_lt_of_afterClose? _ _ _h; omega
  · omega

/-- A text without its line comments: each runs from its opening to the end of the line. -/
def dropLineComments : Text → Text
  | [] => []
  | '/' :: '/' :: rest => dropLineComments (rest.dropWhile (· ≠ '\n'))
  | c :: rest => c :: dropLineComments rest
termination_by t => t.length
decreasing_by
  all_goals simp only [List.length_cons]
  · have := (List.dropWhile_sublist (l := rest) (· ≠ '\n')).length_le; omega
  · omega

/-- A text without comments. -/
def dropComments (t : Text) : Text := dropLineComments (dropBlockComments t)

end Script
end RuleReview
