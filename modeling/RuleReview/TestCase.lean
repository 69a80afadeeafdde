import RuleReview.Json.Print
import RuleReview.Json.Read

/-!
# Test cases

A test case names the inputs that select a branch of a rule and the outputs expected then.  A list
of test cases is shown as pretty JSON, and read back from it.

## What is here

* `TestCase`, its JSON form, and `TestCase.parseList?`, which reads a list of test cases.
-/

set_option autoImplicit false

namespace RuleReview

open Json (Tree)

/-- One test case of a rule. -/
structure TestCase where
  /-- A short name. -/
  name : Text
  /-- The inputs. -/
  input : Json
  /-- The outputs. -/
  expected : Json
  /-- A remark on the choice of inputs. -/
  note : Option Text

namespace TestCase

/-- The JSON form of a test case; a remark that is absent is left out. -/
def toJson (c : TestCase) : Json :=
  let note : List (Text × Json) :=
    match c.note with
    | none => []
    | some note => [("note", .string note)]
  .object (("name", .string c.name) :: ("input", c.input) :: ("expected", c.expected) :: note)

/-- A list of test cases as it is shown. -/
def render (cases : List TestCase) : Text := Json.pretty (.array (cases.map toJson))

/-- The test case of a JSON tree that stands inside an array, so that the containers of its values
nest at most two levels less deep than those of a text.  Only the name is required. -/
def ofTree? (t : Tree) : Except Json.Fault TestCase := do
  let value := Tree.value? (Json.maxDepth - 2)
  let r ← t.record? "a test case" ["name", "input", "expected", "note"] 1
  let name ← Tree.Record.required? r "name" Tree.toText?
  let input ← Tree.Record.optional? r "input" Json.emptyObject value
  let expected ← Tree.Record.optional? r "expected" Json.emptyObject value
  let note ← Tree.Record.optional? r "note" none (Tree.toOption? Tree.toText?)
  .ok ⟨name, input, expected, note⟩

/-- The test cases of a JSON text. -/
def parseList? (t : Text) : Except Json.Fault (List TestCase) := do
  Tree.toList? ofTree? (← Json.tree? t)

end TestCase
end RuleReview
