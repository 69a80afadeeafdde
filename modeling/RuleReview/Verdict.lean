import RuleReview.Json.Read

/-!
# Verdicts

A verdict says whether an explanation covers its rule, and if not, what it leaves out.

## What is here

* `Verdict`, its JSON form, and `Verdict.ofTree?`, which reads that form back.
-/

set_option autoImplicit false

namespace RuleReview

open Json (Tree)

/-- The outcome of checking an explanation against its ruleset. -/
structure Verdict where
  /-- Whether the explanation is accepted. -/
  ok : Bool
  /-- What the explanation omits or misstates. -/
  missing : List Text
  /-- Whether the checker asks for another explanation.  Nothing depends on it. -/
  rewriteNeeded : Bool
  deriving DecidableEq

namespace Verdict

/-- The JSON form of a verdict. -/
def toJson (v : Verdict) : Json :=
  .object [("ok", .bool v.ok), ("missing", .texts v.missing),
    ("rewrite_needed", .bool v.rewriteNeeded)]

/-- The verdict of a JSON tree.  Only `ok` is required. -/
def ofTree? (t : Tree) : Except Json.Fault Verdict := do
  let r ← t.record? "a verdict" ["ok", "missing", "rewrite_needed"] 1
  let ok ← Tree.Record.required? r "ok" Tree.toBool?
  let missing ← Tree.Record.optional? r "missing" [] (Tree.toList? Tree.toText?)
  let rewriteNeeded ← Tree.Record.optional? r "rewrite_needed" false Tree.toBool?
  .ok ⟨ok, missing, rewriteNeeded⟩

/-- The verdict of a JSON text. -/
def parse? (t : Text) : Except Json.Fault Verdict := do ofTree? (← Json.tree? t)

end Verdict
end RuleReview
