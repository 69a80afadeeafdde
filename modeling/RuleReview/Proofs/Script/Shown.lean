import Mathlib.Data.List.Forall2
import RuleReview.Proofs.Json.Values
import RuleReview.Script.Json

/-!
# What the JSON of a ruleset shows

A model is asked about a rule by the JSON of its ruleset, so it can only tell rules apart that have
different JSON.  It can tell apart almost all: nothing that stands in a condition, an action or a
name, be it a quotation mark, a line end or more JSON, makes one structure look like another.  What
is lost is whether a branch shown under `DEFAULT` is an `else` arm or has this word for a condition.

## What is here

* `Branch.shown` — a branch as far as it is shown, and `Branch.ShownAlike`.
* `Branch.toJson_eq_iff`, `Ruleset.eq_of_toJson_eq` — the JSON values tell as much.
* `Ruleset.render_eq_iff` — when two rulesets have the same JSON text.
-/

set_option autoImplicit false

namespace RuleReview

open Json (FloatFree)

/-! ## What is shown -/

/-- A branch as far as it is shown: the text of its condition, and its actions. -/
def Branch.shown (b : Branch) : Text × List Text := (b.condition.text, b.actions)

/-- That two branches have the same actions and the same condition, or conditions of which one is an
`else` arm and the other is given by the word for it. -/
def Branch.ShownAlike (x y : Branch) : Prop :=
  (x.condition = y.condition ∨ x.condition.Confusable y.condition) ∧ x.actions = y.actions

theorem Branch.shown_eq_iff (x y : Branch) : x.shown = y.shown ↔ x.ShownAlike y := by
  rw [shown, shown, Prod.mk.injEq, Condition.text_eq_iff, ShownAlike]

/-- The images of two lists are the same exactly if those of their elements are, one by one. -/
theorem map_eq_map_iff_forall₂ {α β : Type} {f : α → β} {l l' : List α} :
    l.map f = l'.map f ↔ List.Forall₂ (fun x y => f x = f y) l l' := by
  rw [← List.forall₂_map_right_iff, ← List.forall₂_map_left_iff, List.forall₂_eq_eq_eq]

/-! ## From a JSON value back to what it shows -/

theorem Json.eq_of_texts_eq {ts us : List Text} (h : texts ts = texts us) : ts = us :=
  (List.map_inj_right fun _ _ => Json.string.inj).1 (Json.array.inj h)

namespace Branch

theorem floatFree_toJson (b : Branch) : FloatFree b.toJson :=
  .object (by simpa using ⟨.string b.condition.text, Json.floatFree_texts b.actions⟩)

theorem toJson_eq_iff (x y : Branch) : x.toJson = y.toJson ↔ x.shown = y.shown := by
  constructor
  · intro h
    have hfields := Json.object.inj h
    simp only [List.cons.injEq, Prod.mk.injEq, true_and, and_true, Json.string.injEq] at hfields
    exact Prod.ext hfields.1 (Json.eq_of_texts_eq hfields.2)
  · intro h
    obtain ⟨htext, hactions⟩ := Prod.mk.inj h
    rw [toJson, toJson, htext, hactions]

end Branch

namespace Ruleset

theorem floatFree_toJson (rs : Ruleset) : FloatFree rs.toJson := by
  have hbranches : FloatFree (.array (rs.branches.map Branch.toJson)) :=
    .array (List.forall_mem_map.2 fun b _ => b.floatFree_toJson)
  exact .object (by simpa using
    ⟨hbranches, Json.floatFree_texts rs.mentions.names, Json.floatFree_texts rs.outputs.names⟩)

theorem eq_of_toJson_eq {a b : Ruleset} (h : a.toJson = b.toJson) :
    a.branches.map Branch.shown = b.branches.map Branch.shown ∧ a.mentions = b.mentions ∧
      a.outputs = b.outputs := by
  have hfields := Json.object.inj h
  simp only [List.cons.injEq, Prod.mk.injEq, true_and, and_true, Json.array.injEq] at hfields
  obtain ⟨hbranches, hmentions, houtputs⟩ := hfields
  rw [map_eq_map_iff_forall₂] at hbranches ⊢
  refine ⟨hbranches.imp fun x y => (Branch.toJson_eq_iff x y).1, ?_, ?_⟩
  · exact NameSet.eq_of_names_eq (Json.eq_of_texts_eq hmentions)
  · exact NameSet.eq_of_names_eq (Json.eq_of_texts_eq houtputs)

/-! ## The text -/

/-- **Two rulesets have the same JSON exactly if they show the same**: the same branches, up to the
texts of their conditions, and the same names.  Branches that show the same are the same, but that
an `else` arm is not told apart from a branch with the word for it as condition. -/
theorem render_eq_iff (a b : Ruleset) :
    (a.render = b.render ↔
      a.branches.map Branch.shown = b.branches.map Branch.shown ∧ a.mentions = b.mentions ∧
        a.outputs = b.outputs) ∧
    (a.branches.map Branch.shown = b.branches.map Branch.shown ↔
      List.Forall₂ Branch.ShownAlike a.branches b.branches) := by
  refine ⟨⟨fun h => ?_, ?_⟩, ?_⟩
  · rw [render, render, Json.pretty_eq, Json.pretty_eq] at h
    exact eq_of_toJson_eq (Json.eq_of_layout_eq _ a.floatFree_toJson b.floatFree_toJson h)
  · rintro ⟨hbranches, hmentions, houtputs⟩
    have hjson : a.branches.map Branch.toJson = b.branches.map Branch.toJson := by
      rw [map_eq_map_iff_forall₂] at hbranches ⊢
      exact hbranches.imp fun x y => (Branch.toJson_eq_iff x y).2
    rw [render, render, toJson, toJson, hjson, hmentions, houtputs]
  · simp only [map_eq_map_iff_forall₂, Branch.shown_eq_iff]

-- The one pair of branches that are not told apart.
example : Ruleset.render ⟨[⟨.default, ["x = 1"]⟩], .empty, .empty⟩ =
    Ruleset.render ⟨[⟨.expr "DEFAULT", ["x = 1"]⟩], .empty, .empty⟩ := rfl

end Ruleset
end RuleReview
