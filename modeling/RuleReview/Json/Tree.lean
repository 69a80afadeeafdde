import RuleReview.Json.Token

/-!
# JSON trees

The tokens of a JSON text are put together from left to right.  What was opened and not closed yet
is kept on a stack, so a text may nest to any depth here; how deep a value may be is a question of
reading the value (`RuleReview.Json.Read`).

## What is here

* `Tree` — the nesting of a JSON text, with strings and numbers as they are written.
* `Partial.step` — one token more; `Tree.ofTokens?` — all tokens.
* `Tree.parse?` — the tree of a text.
-/

set_option autoImplicit false

namespace RuleReview
namespace Json

/-- The nesting of a JSON text. -/
inductive Tree where
  /-- The word `null`. -/
  | null
  /-- One of the words `true` and `false`. -/
  | bool (b : Bool)
  /-- A number. -/
  | number (n : Numeral)
  /-- A string. -/
  | string (parts : List StringPart)
  /-- An array. -/
  | array (items : List Tree)
  /-- An object, its fields in the order of the text. -/
  | object (fields : List (List StringPart × Tree))

/-- A container that is open, with its finished items, the last one first. -/
inductive Frame where
  /-- An array. -/
  | array (done : List Tree)
  /-- An object, and the key of the value that is being read. -/
  | object (done : List (List StringPart × Tree)) (key : List StringPart)

/-- What has been read of a text, by what may come next.  The stack holds the open containers, the
innermost first. -/
inductive Partial where
  /-- A value must come. -/
  | value (stack : List Frame)
  /-- An array was opened: a value or the end of the array must come. -/
  | firstItem (stack : List Frame)
  /-- An object was opened: a key or the end of the object must come. -/
  | firstKey (stack : List Frame)
  /-- A comma was read in an object: a key must come. -/
  | key (stack : List Frame) (done : List (List StringPart × Tree))
  /-- A key was read: a colon must come. -/
  | colon (stack : List Frame) (done : List (List StringPart × Tree)) (key : List StringPart)
  /-- A value is complete. -/
  | complete (stack : List Frame) (value : Tree)

namespace Partial

/-- One token where a value must come. -/
def begin? (stack : List Frame) : Token → Option Partial
  | .null => some (complete stack .null)
  | .bool b => some (complete stack (.bool b))
  | .number n => some (complete stack (.number n))
  | .string parts => some (complete stack (.string parts))
  | .beginArray => some (firstItem stack)
  | .beginObject => some (firstKey stack)
  | _ => none

/-- One token more. -/
def step : Partial → Token → Option Partial
  | value stack, t => begin? stack t
  | firstItem stack, .endArray => some (complete stack (.array []))
  | firstItem stack, t => begin? (.array [] :: stack) t
  | firstKey stack, .endObject => some (complete stack (.object []))
  | firstKey stack, .string k => some (colon stack [] k)
  | key stack done, .string k => some (colon stack done k)
  | colon stack done k, .colon => some (value (.object done k :: stack))
  | complete (.array done :: stack) v, .comma => some (value (.array (v :: done) :: stack))
  | complete (.array done :: stack) v, .endArray =>
    some (complete stack (.array (v :: done).reverse))
  | complete (.object done k :: stack) v, .comma => some (key stack ((k, v) :: done))
  | complete (.object done k :: stack) v, .endObject =>
    some (complete stack (.object ((k, v) :: done).reverse))
  | _, _ => none

/-- The value of a text that was read to its end. -/
def finish? : Partial → Option Tree
  | complete [] v => some v
  | _ => none

end Partial

namespace Tree

/-- The tree of a sequence of tokens. -/
def ofTokens? (tokens : List Token) : Option Tree := do
  let last ← tokens.foldlM Partial.step (.value [])
  last.finish?

/-- The tree of a text. -/
def parse? (t : Text) : Option Tree := do ofTokens? (← tokens? t)

end Tree
end Json
end RuleReview
