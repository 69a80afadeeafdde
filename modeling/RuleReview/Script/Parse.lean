import RuleReview.Script.Comment
import RuleReview.Script.Identifier
import RuleReview.Script.Ruleset

/-!
# Reading a rule script

A script is read line by line, not as a nested grammar.  A line that begins with `if`, `else if` or
`else`, once a closing brace before it is dropped, is a header and opens a branch.  The branch's
body runs to the next line that holds a closing brace, or to the end of the script.  That line is
not part of the body: it is looked at again, so the `} else {` of a chain opens the next branch.  A
nested block therefore ends the outer body at its own closing brace.

Reading never fails; a text that is no rule script has no branches.

## What is here

* `header?` — the condition that a line opens a branch under.
* `Findings` — what a stretch of lines contributes, and `Findings.ofLines`, the scan.
* `parse` — the ruleset of a script.
-/

set_option autoImplicit false

namespace RuleReview
namespace Script

open Text

/-- A line as it is examined: trimmed, without one closing brace in front. -/
def normalize (line : Text) : Text :=
  match trim line with
  | '}' :: rest => trim rest
  | t => trim t

/-- The condition of a header: what stands between the first opening and the last closing
parenthesis, or nothing when these are missing or in the wrong order. -/
def conditionText (line : Text) : Text :=
  match cut '(' line with
  | none => []
  | some (_, afterOpen) =>
    match cutLast ')' afterOpen with
    | none => []
    | some (inner, _) => trim inner

/-- The condition that a line opens a branch under.  Only the first letters of the line count. -/
def header? (line : Text) : Option Condition :=
  if List.isPrefixOf "if" line || List.isPrefixOf "else if" line then
    some (.expr (conditionText line))
  else if List.isPrefixOf "else" line then
    some .default
  else
    none

/-- Whether a body goes on past a line. -/
def isBodyLine (line : Text) : Bool := !line.contains '}'

/-- The action on a body line: a line with an equals sign, without the semicolons at its end. -/
def action? (line : Text) : Option Text :=
  let t := trim line
  if t.contains '=' then some (dropEndWhile (· == ';') t) else none

/-- The identifiers of a line that are no keywords. -/
def mentioned (line : Text) : List Text := (identifiers line).filter (!isKeyword ·)

/-- What a stretch of lines contributes to a ruleset. -/
structure Findings where
  /-- The branches it opens. -/
  branches : List Branch := []
  /-- The names it mentions. -/
  mentions : List Text := []
  /-- What its actions assign to. -/
  targets : List Text := []

/-- The findings of consecutive lines, of which the first stands outside every body. -/
def Findings.ofLines : List Text → Findings
  | [] => {}
  | line :: rest =>
    let examined := normalize line
    match header? examined with
    | none =>
      let later := ofLines rest
      { later with mentions := mentioned examined ++ later.mentions }
    | some condition =>
      let body := rest.takeWhile isBodyLine
      let later := ofLines (rest.dropWhile isBodyLine)
      { branches := ⟨condition, body.filterMap action?⟩ :: later.branches
        mentions :=
          mentioned examined ++ body.flatMap (fun l => mentioned (trim l)) ++ later.mentions
        targets := body.filterMap (fun l => assignedTo? (trim l)) ++ later.targets }
termination_by lines => lines.length
decreasing_by
  · simp
  · have := (List.dropWhile_sublist (l := rest) isBodyLine).length_le
    simp only [List.length_cons]
    omega

/-- The ruleset of a script. -/
def parse (text : Text) : Ruleset :=
  let found := Findings.ofLines (lines (dropComments text))
  ⟨found.branches, .ofList found.mentions, .ofList found.targets⟩

end Script
end RuleReview
