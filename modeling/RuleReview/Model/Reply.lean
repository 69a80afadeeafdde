import RuleReview.Text.Blank

/-!
# Recovering JSON from replies

A model that is asked for JSON may put it into a fenced block or into running text.  The JSON is
taken to be what stands between the first opening and the last closing delimiter, after a fence
around the reply was removed.

## What is here

* `Reply.unfence` — a reply without a fence around it.
* `Reply.object?`, `Reply.array?` — the outermost JSON object or array of a reply.
* `Reply.excerpt` — the start of a reply, for complaints about it.
-/

set_option autoImplicit false

namespace RuleReview
namespace Reply

open Text

/-- The mark that begins and ends a fenced block. -/
def fence : Text := "```"

/-- What stands before the last occurrence of `part`, when there is one. -/
def beforeLast (part : Text) : Text → Option Text
  | [] => if part.isEmpty then some [] else none
  | c :: rest =>
    match beforeLast part rest with
    | some before => some (c :: before)
    | none => if part.isPrefixOf (c :: rest) then some [] else none

/-- A reply, trimmed; if it begins with a fence, what stands between the line of that fence and the
last fence after it, or all that follows the line if there is none.  A fence without a line end is
left alone. -/
def unfence (reply : Text) : Text :=
  let t := trim reply
  if fence.isPrefixOf t then
    match cut '\n' t with
    | none => t
    | some (_, body) => trim ((beforeLast fence body).getD body)
  else
    t

/-- What stands between the first `first` and the last `last`, both included. -/
def between (first last : Char) (t : Text) : Option Text := do
  let (_, after) ← cut first t
  let (inner, _) ← cutLast last after
  some (first :: inner ++ [last])

/-- The outermost object of a reply. -/
def object? (reply : Text) : Option Text := between '{' '}' (unfence reply)

/-- The outermost array of a reply. -/
def array? (reply : Text) : Option Text := between '[' ']' (unfence reply)

/-- How much of a bad reply is quoted. -/
def excerpt (t : Text) : Text := shorten 200 t

end Reply
end RuleReview
