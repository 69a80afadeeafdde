import RuleReview.Names
import RuleReview.Text.Blank

/-!
# Rulesets

What a rule script says, as far as this library looks at it: a chain of branches, each with the
condition it is taken under and the assignments it makes, and the names that occur.

## What is here

* `Condition`, `Branch` and `Ruleset`.
* `Condition.text` — a condition as it is shown; an `else` arm is shown as `DEFAULT`, which is
  therefore also how a condition with that very text is shown (`Condition.Confusable`).
* `assignedTo?` and `assignedValue?` — the two sides of an assignment, parted at its first `=`.
* `Branch.assigned` — the names that a branch assigns.
-/

set_option autoImplicit false

namespace RuleReview

open Text

/-- The guard of a branch. -/
inductive Condition where
  /-- The condition of an `if` or `else if`; empty if the header gives none. -/
  | expr (text : Text)
  /-- An `else` arm, taken whenever no earlier branch is. -/
  | default
  deriving DecidableEq

namespace Condition

/-- The text that a condition is shown by. -/
def text : Condition → Text
  | expr t => t
  | default => "DEFAULT"

/-- Whether a branch under this condition is an `else` arm. -/
def isDefault : Condition → Bool
  | expr _ => false
  | default => true

theorem isDefault_iff (c : Condition) : c.isDefault = true ↔ c = default := by
  cases c <;> simp [isDefault]

/-- That one of two conditions is an `else` arm and the other is given by the word for it. -/
def Confusable (c d : Condition) : Prop :=
  c = default ∧ d = expr "DEFAULT" ∨ c = expr "DEFAULT" ∧ d = default

/-- A condition is known by its text, unless it may be mistaken for an `else` arm. -/
theorem text_eq_iff (c d : Condition) : c.text = d.text ↔ c = d ∨ c.Confusable d := by
  constructor
  · intro h
    cases c with
    | expr t => cases d with
      | expr u => exact .inl (congrArg expr h)
      | default => exact .inr (.inr ⟨congrArg expr h, rfl⟩)
    | default => cases d with
      | expr u => exact .inr (.inl ⟨rfl, congrArg expr h.symm⟩)
      | default => exact .inl rfl
  · rintro (rfl | ⟨rfl, rfl⟩ | ⟨rfl, rfl⟩) <;> rfl

end Condition

/-- What is assigned to: the text before the first `=` of an action, trimmed.  It may be empty, and
need not be a name. -/
def assignedTo? (action : Text) : Option Text := (cut '=' action).map fun p => trim p.1

/-- What is assigned: the text after the first `=` of an action, trimmed. -/
def assignedValue? (action : Text) : Option Text := (cut '=' action).map fun p => trim p.2

/-- One arm of a chain of conditions. -/
structure Branch where
  /-- When the branch is taken. -/
  condition : Condition
  /-- The assignments, in the order of the script. -/
  actions : List Text
  deriving DecidableEq

/-- The targets of a branch's assignments, in their order. -/
def Branch.assigned (b : Branch) : List Text := b.actions.filterMap assignedTo?

/-- The structure of one rule script. -/
structure Ruleset where
  /-- The branches in the order of the script. -/
  branches : List Branch
  /-- The identifiers that occur, keywords left out. -/
  mentions : NameSet
  /-- What the actions assign to. -/
  outputs : NameSet
  deriving DecidableEq

namespace Ruleset

/-- Whether nothing was found in the script. -/
def isEmpty (rs : Ruleset) : Bool :=
  rs.branches.isEmpty && rs.mentions.isEmpty && rs.outputs.isEmpty

/-- Whether some branch is an `else` arm. -/
def hasDefault (rs : Ruleset) : Bool := rs.branches.any (·.condition.isDefault)

/-- The conditions as they are shown, in the order of the branches. -/
def conditions (rs : Ruleset) : List Text := rs.branches.map (·.condition.text)

end Ruleset
end RuleReview
