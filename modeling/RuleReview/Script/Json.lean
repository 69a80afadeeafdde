import RuleReview.Json.Print
import RuleReview.Script.Ruleset

/-!
# Rulesets as JSON

A model is shown a ruleset as pretty JSON, so that it sees exactly the structure that was extracted.
A condition is given by the text it is shown by.
-/

set_option autoImplicit false

namespace RuleReview

/-- The JSON form of a branch. -/
def Branch.toJson (b : Branch) : Json :=
  .object [("condition", .string b.condition.text), ("actions", .texts b.actions)]

/-- The JSON form of a ruleset. -/
def Ruleset.toJson (rs : Ruleset) : Json :=
  .object [("branches", .array (rs.branches.map Branch.toJson)),
    ("variables", .texts rs.mentions.names), ("outputs", .texts rs.outputs.names)]

/-- A ruleset as pretty JSON. -/
def Ruleset.render (rs : Ruleset) : Text := rs.toJson.pretty

end RuleReview
