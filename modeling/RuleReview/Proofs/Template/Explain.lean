import RuleReview.Proofs.Text.Lower
import RuleReview.Template

/-!
# Explanations from templates mention everything

The template verifier asks that an explanation mentions every output, every condition that is given
and, if there is an `else` arm, the word "otherwise".  An explanation from the template has the
outputs in its opening sentence and a line for each branch, so it leaves nothing out, whatever the
texts in the ruleset are.

## What is here

* `infix_intercalate_of_mem`, `infix_flatMap_of_mem` — pieces of a text are stretches of it.
* `Covers`, `unmentioned_eq_nil_iff`, `mem_statedConditions_iff` — what the verifier asks for.
* `covers_explain` — nothing is left out; `verify_eq_accepted_iff` — that is all it takes.
-/

set_option autoImplicit false

namespace RuleReview
namespace Template

open Text

/-! ## Pieces of a text -/

theorem infix_flatMap_of_mem {α : Type} {l : List α} {a : α} (h : a ∈ l) (f : α → Text) :
    f a <:+: l.flatMap f := by
  obtain ⟨front, back, rfl⟩ := List.append_of_mem h
  rw [List.flatMap_append, List.flatMap_cons]
  exact ⟨front.flatMap f, back.flatMap f, List.append_assoc _ _ _⟩

theorem infix_intercalate_of_mem {pieces : List Text} {piece : Text} (h : piece ∈ pieces)
    (separator : Text) : piece <:+: List.intercalate separator pieces := by
  have hmem : piece ∈ pieces.intersperse separator := by
    fun_induction List.intersperse separator pieces with
    | case1 => exact h
    | case2 => exact h
    | case3 first second rest ih =>
      rcases List.mem_cons.1 h with rfl | hlater
      · exact List.mem_cons_self
      · exact List.mem_cons_of_mem _ (List.mem_cons_of_mem _ (ih hlater))
  rw [List.intercalate, ← List.flatMap_id]
  exact infix_flatMap_of_mem hmem id

/-! ## What the verifier asks for -/

/-- An explanation that mentions all it has to. -/
structure Covers (rs : Ruleset) (explanation : Text) : Prop where
  /-- It mentions every output. -/
  outputs : ∀ output ∈ rs.outputs.names, output <:+: explanation
  /-- It mentions every condition that is given. -/
  conditions : ∀ condition ∈ statedConditions rs, condition <:+: explanation
  /-- It has the word for an `else` arm, in letters of any size. -/
  otherwise : rs.hasDefault = true → "otherwise" <:+: lower explanation

theorem withoutRepeats_eq_nil_iff (names : List Text) : withoutRepeats names = [] ↔ names = [] := by
  cases names with
  | nil => simp [withoutRepeats]
  | cons n rest => simp [withoutRepeats]

theorem filter_occursIn_eq_nil_iff (parts : List Text) (whole : Text) :
    parts.filter (!occursIn · whole) = [] ↔ ∀ part ∈ parts, part <:+: whole := by
  simp only [List.filter_eq_nil_iff, Bool.not_eq_true', Bool.not_eq_false, occursIn_iff]

theorem unmentioned_eq_nil_iff (rs : Ruleset) (explanation : Text) :
    unmentioned rs explanation = [] ↔ Covers rs explanation := by
  have harms : (if rs.hasDefault && !occursIn "otherwise" (lower explanation) then [otherwiseItem]
      else []) = [] ↔ (rs.hasDefault = true → "otherwise" <:+: lower explanation) := by
    rw [← occursIn_iff]
    cases rs.hasDefault <;> simp
  simp only [unmentioned, List.append_eq_nil_iff, List.map_eq_nil_iff, withoutRepeats_eq_nil_iff,
    filter_occursIn_eq_nil_iff, harms]
  exact ⟨fun h => ⟨h.1.1, h.1.2, h.2⟩, fun h => ⟨⟨h.outputs, h.conditions⟩, h.otherwise⟩⟩

variable {rs : Ruleset}

/-- The conditions that are asked for are those that branches give. -/
theorem mem_statedConditions_iff {condition : Text} : condition ∈ statedConditions rs ↔
    condition ≠ [] ∧ ∃ b ∈ rs.branches, b.condition = .expr condition := by
  rw [statedConditions, List.mem_filterMap]
  constructor
  · rintro ⟨b, hb, hstated⟩
    cases hcondition : b.condition with
    | default => rw [hcondition] at hstated; cases hstated
    | expr t =>
      rw [hcondition] at hstated
      cases t with
      | nil => cases hstated
      | cons first rest =>
        obtain rfl : first :: rest = condition := Option.some.inj hstated
        exact ⟨List.cons_ne_nil _ _, b, hb, hcondition⟩
  · rintro ⟨hne, b, hb, hcondition⟩
    refine ⟨b, hb, ?_⟩
    simp only [hcondition, List.isEmpty_eq_false_iff.2 hne]
    rfl

/-! ## What an explanation mentions -/

theorem explain_ne_nil (rs : Ruleset) : explain rs ≠ [] := by
  rw [explain, List.append_assoc]
  exact List.append_ne_nil_of_right_ne_nil _ (List.cons_ne_nil _ _)

/-- Each branch has its line. -/
theorem describe_infix_explain {b : Branch} (h : b ∈ rs.branches) :
    describe b <:+: explain rs := by
  have hbullet : describe b <:+: bullet (describe b) := (List.suffix_append _ _).isInfix
  have hlines := infix_flatMap_of_mem (List.mem_map_of_mem (f := describe) h) bullet
  exact hbullet.trans (hlines.trans (List.suffix_append _ _).isInfix)

theorem output_infix_explain {output : Text} (h : output ∈ rs.outputs.names) :
    output <:+: explain rs := by
  have hsome : ¬ rs.outputs.isEmpty = true := by
    rw [NameSet.isEmpty, List.isEmpty_iff]
    exact List.ne_nil_of_mem h
  have hsummary : output <:+: summary rs := by
    rw [summary, if_neg hsome, List.append_assoc, List.append_assoc]
    exact (infix_intercalate_of_mem h ", ").trans (List.infix_append _ _ _)
  rw [explain, List.append_assoc]
  exact hsummary.trans (List.prefix_append _ _).isInfix

theorem condition_infix_explain {condition : Text} (h : condition ∈ statedConditions rs) :
    condition <:+: explain rs := by
  obtain ⟨hne, b, hb, hcondition⟩ := mem_statedConditions_iff.1 h
  obtain ⟨first, rest, rfl⟩ := List.exists_cons_of_ne_nil hne
  have hlead : first :: rest <:+: describe b := by
    rw [describe, hcondition, List.append_assoc]
    exact List.infix_append "If " (first :: rest) _
  exact hlead.trans (describe_infix_explain hb)

theorem otherwise_infix_lower_explain (h : rs.hasDefault = true) :
    "otherwise" <:+: lower (explain rs) := by
  obtain ⟨b, hb, hdefault⟩ := List.any_eq_true.1 h
  have hword : "Otherwise" <:+: describe b := by
    rw [describe, (Condition.isDefault_iff _).1 hdefault, List.append_assoc]
    exact (List.prefix_append _ _).isInfix
  have hascii : ("Otherwise" : Text).all (·.toNat < 0x80) = true := rfl
  exact map_toLower_infix_lower (fun c hc => by simpa using List.all_eq_true.1 hascii c hc)
    (hword.trans (describe_infix_explain hb))

/-- **An explanation from the template leaves nothing out.** -/
theorem covers_explain (rs : Ruleset) : Covers rs (explain rs) where
  outputs _ h := output_infix_explain h
  conditions _ h := condition_infix_explain h
  otherwise := otherwise_infix_lower_explain

/-- The verifier accepts exactly the explanations that leave nothing out. -/
theorem verify_eq_accepted_iff (rs : Ruleset) (explanation : Text) :
    verify rs explanation = ⟨true, [], false⟩ ↔ Covers rs explanation := by
  rw [← unmentioned_eq_nil_iff, verify]
  constructor
  · exact congrArg Verdict.missing
  · intro hnone
    rw [hnone]
    rfl

end Template
end RuleReview
