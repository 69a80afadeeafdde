import RuleReview.Delta
import RuleReview.Plan
import RuleReview.Script.Json

/-!
# Prompts

What a language model is told for each of its roles: an instruction about its manner, and the task
with the rule as pretty JSON.  Texts that are passed on are trimmed first.

## What is here

* `Prompt`, and one prompt for each role: `Prompt.explain`, `rewrite`, `verify`, `compare`, `tests`
  and `plan`.
-/

set_option autoImplicit false

namespace RuleReview

open Text

/-- An instruction and a task for a model. -/
structure Prompt where
  /-- The instruction. -/
  system : Text
  /-- The task. -/
  user : Text
  deriving DecidableEq

namespace Prompt

/-- The manner of texts for people. -/
def plainLanguage : Text :=
  "You write for non-technical stakeholders. Describe business rules precisely, without adding " ++
    "logic that is not in the rule."

/-- The manner of replies for programs. -/
def jsonOnly : Text :=
  "You are a meticulous business-rules reviewer. Return ONLY JSON. No explanation, no markdown, " ++
    "no code fences."

/-- Background, if there is any. -/
def background (context : Text) : Text :=
  if isAllBlank context then [] else "Background context:\n" ++ trim context ++ "\n\n"

/-- Explain a rule, given background that may be blank. -/
def explain (rs : Ruleset) (context : Text) : Prompt where
  system := plainLanguage
  user :=
    "Convert this rule structure into clear English.\n\nRules:\n" ++
      "- Start with a one-sentence summary\n" ++
      "- Then list the decision logic as bullets, one per branch, in order\n" ++
      "- Use 'Otherwise' for the DEFAULT branch\n" ++
      "- Mention every output by name\n\n" ++
      background context ++
      "Rule structure:\n" ++ rs.render

/-- The lines of what was found wanting. -/
def problems (missing : List Text) : Text :=
  if missing.isEmpty then "- (none listed; check every branch and output)\n"
  else missing.flatMap fun item => '-' :: ' ' :: item ++ ['\n']

/-- Rewrite an explanation that was found wanting. -/
def rewrite (rs : Ruleset) (explanation : Text) (missing : List Text) : Prompt where
  system := plainLanguage
  user :=
    "A reviewer found problems with this explanation of a rule. Rewrite it so that it is " ++
      "complete and accurate. Keep the same format (summary, then bullets; 'Otherwise' for " ++
      "DEFAULT). " ++
      "Return only the revised explanation.\n\n" ++
      "Problems found:\n" ++
      problems missing ++
      "\nCurrent explanation:\n" ++ trim explanation ++
      "\n\nRule structure:\n" ++ rs.render

/-- Check an explanation. -/
def verify (rs : Ruleset) (explanation : Text) : Prompt where
  system := jsonOnly
  user :=
    "Check whether the explanation below covers the rule structure completely and accurately: " ++
      "every branch condition, the DEFAULT branch if present, and every output assignment.\n\n" ++
      "Return a JSON object:\n" ++
      "\x7b\"ok\": true | false, \"missing\": [\"<each omitted or misstated item>\"], " ++
      "\"rewrite_needed\": true | false\x7d\n\n" ++
      "Rule structure:\n" ++ rs.render ++ "\n\nExplanation:\n" ++ trim explanation

/-- Tell what changed from one rule to another. -/
def compare (before after : Ruleset) : Prompt where
  system := plainLanguage
  user :=
    "Explain in plain English what changed between rule A and rule B. Cover added, removed, and " ++
      "modified branches and outputs, and what the change means for the people affected. Do not " ++
      "describe unchanged logic in detail.\n\n" ++
      "Rule A:\n" ++ before.render ++ "\n\nRule B:\n" ++ after.render ++
      "\n\nStructural changes (A -> B):\n" ++ trimEnd (Delta.between before after).render

/-- Design test cases. -/
def tests (rs : Ruleset) : Prompt where
  system := jsonOnly
  user :=
    "Design test cases for this rule. Provide at least one case per branch, including the " ++
      "DEFAULT branch if present. Inputs must satisfy exactly the branch under test.\n\n" ++
      "Return a JSON array. Each element must be:\n" ++
      "\x7b\"name\": \"<short snake_case name>\", \"input\": \x7b<variable>: <value>\x7d, " ++
      "\"expected\": \x7b<output>: <value>\x7d\x7d\n\n" ++
      "Rule structure:\n" ++ rs.render

/-- Plan a run. -/
def plan (mode : Mode) : Prompt where
  system := jsonOnly
  user :=
    "Plan a pipeline for analysing a business rule in " ++ quoted mode.name ++ " mode.\n" ++
      "Available steps: " ++ List.intercalate ", " (Step.vocabulary.map Step.id) ++ ".\n" ++
      "'parse' must come before any step that needs a parsed rule; use it once per input. " ++
      "'rewrite' only helps after 'verify'.\n\n" ++
      "Return a JSON array of step names in execution order."

end Prompt
end RuleReview
