import RuleReview.Proofs.Text.Trim
import RuleReview.Script.Parse

/-!
# What a script assigns to

The scan takes the outputs of a script from the lines of its bodies, but keeps the actions without
the semicolons at their end.  Nothing in front of an equals sign is lost by that, so the outputs are
what the kept actions assign to, in the same order and as often.

## What is here

* `assignedTo?_eq_some_iff` — what an action assigns to is what stands before its first equals sign.
* `assignedTo?_dropEndWhile` — the semicolons at the end of a line do not belong to its target.
* `targets_ofLines`, `outputs_parse` — the outputs of a script are the targets of its branches.
-/

set_option autoImplicit false

namespace RuleReview
namespace Script

open Text

theorem assignedTo?_eq_some_iff (action name : Text) :
    assignedTo? action = some name ↔
      ∃ before after, action = before ++ '=' :: after ∧ '=' ∉ before ∧ trim before = name := by
  simp only [assignedTo?, Option.map_eq_some_iff, Prod.exists, cut_eq_some_iff, and_assoc]

/-- What is left off at the end of a line stands after its equals sign. -/
theorem assignedTo?_dropEndWhile {p : Char → Bool} (hp : p '=' = false) {t : Text}
    (h : '=' ∈ t) : assignedTo? (dropEndWhile p t) = assignedTo? t := by
  obtain ⟨⟨before, after⟩, hcut⟩ : ∃ parts, cut '=' t = some parts :=
    Option.ne_none_iff_exists'.1 fun hnone => (cut_eq_none_iff '=' t).1 hnone h
  obtain ⟨rfl, hfirst⟩ := (cut_eq_some_iff '=' t before after).1 hcut
  have hkept := (cut_eq_some_iff '=' (before ++ '=' :: dropEndWhile p after) before _).2
    ⟨rfl, hfirst⟩
  rw [dropEndWhile_append_of_stop hp, assignedTo?, assignedTo?, hkept, hcut]
  rfl

/-- A body line gives the target of the action that is kept of it. -/
theorem bind_assignedTo?_action? (line : Text) :
    (action? line).bind assignedTo? = assignedTo? (trim line) := by
  rw [action?]
  by_cases h : '=' ∈ trim line
  · rw [if_pos (List.contains_iff_mem.2 h)]
    exact assignedTo?_dropEndWhile (by decide) h
  · rw [if_neg (by simpa using h), assignedTo?, (cut_eq_none_iff '=' _).2 h]
    rfl

/-- **The targets that the scan collects are those of its branches.** -/
theorem targets_ofLines (ls : List Text) :
    (Findings.ofLines ls).targets = (Findings.ofLines ls).branches.flatMap Branch.assigned := by
  fun_induction Findings.ofLines ls with
  | case1 => rfl
  | case2 line rest examined _ later ih => exact ih
  | case3 line rest examined condition _ body later ih =>
    have hbody : body.filterMap (fun l => assignedTo? (trim l)) =
        (body.filterMap action?).filterMap assignedTo? := by
      rw [List.filterMap_filterMap]
      exact (List.filterMap_congr fun line _ => bind_assignedTo?_action? line).symm
    rw [List.flatMap_cons, ← ih, Branch.assigned, ← hbody]

theorem outputs_parse (text : Text) :
    (parse text).outputs = .ofList ((parse text).branches.flatMap Branch.assigned) := by
  rw [parse, targets_ofLines]

/-- The outputs of a script are the names that its branches assign. -/
theorem mem_outputs_parse_iff (text name : Text) :
    name ∈ (parse text).outputs ↔ ∃ b ∈ (parse text).branches, name ∈ b.assigned := by
  rw [outputs_parse, NameSet.mem_ofList, List.mem_flatMap]

end Script
end RuleReview
