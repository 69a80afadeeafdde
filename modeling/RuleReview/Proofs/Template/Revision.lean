import RuleReview.Proofs.Delta.Standing
import RuleReview.Proofs.Script.Outputs
import RuleReview.Proofs.Template.Explain

/-!
# A revision from the template mends the explanation

A revision takes the blanks off the end of an explanation and adds a list of what the verifier found
missing.  The verifier then finds nothing missing any more: each thing it asks for either was in the
explanation or is in the list.  What was there is still there, since neither an output nor a
condition of a script ends with a blank, and since the line end before the list keeps what is added
from changing the small letters of what was there.

## What is here

* `infix_rewrite`, `infix_lower_rewrite` — what is not lost by a revision.
* `item_infix_rewrite` — what a revision adds.
* `trimEnd_of_mem_outputs`, `trimEnd_of_mem_statedConditions` — what a script asks for is trimmed.
* `verify_rewrite` — after a revision nothing is missing, and nothing that was mentioned gets lost.
-/

set_option autoImplicit false

namespace RuleReview
namespace Template

open Text

/-! ## What a revision does to an explanation -/

/-- A revision leaves the explanation as it is, or adds lines to what it is without blanks at the
end. -/
theorem rewrite_cases (explanation : Text) (missing : List Text) :
    missing = [] ∧ rewrite explanation missing = explanation ∨
      ∃ added, rewrite explanation missing = trimEnd explanation ++ '\n' :: added ∧
        missing.flatMap bullet <:+ added := by
  rw [rewrite]
  split
  · next h => exact .inl ⟨List.isEmpty_iff.1 h, rfl⟩
  · refine .inr ⟨"\nAlso covers:" ++ missing.flatMap bullet, ?_, List.suffix_append _ _⟩
    rw [List.append_assoc]
    rfl

/-- **A revision does not lose a stretch that ends with no blank.** -/
theorem infix_rewrite {part explanation : Text} (hpart : trimEnd part = part)
    (h : part <:+: explanation) (missing : List Text) : part <:+: rewrite explanation missing := by
  rcases rewrite_cases explanation missing with ⟨-, hsame⟩ | ⟨added, hadded, -⟩
  · rwa [hsame]
  · obtain ⟨back, hstretch, hback⟩ := trimEnd_stretch explanation
    rw [hstretch] at h
    rw [hadded]
    exact (infix_of_infix_append_blanks hpart hback h).trans (List.prefix_append _ _).isInfix

/-- **Nor does it lose one in small letters.** -/
theorem infix_lower_rewrite {part explanation : Text} (hpart : trimEnd part = part)
    (h : part <:+: lower explanation) (missing : List Text) :
    part <:+: lower (rewrite explanation missing) := by
  rcases rewrite_cases explanation missing with ⟨-, hsame⟩ | ⟨added, hadded, -⟩
  · rwa [hsame]
  · obtain ⟨back, hstretch, hback⟩ := trimEnd_stretch explanation
    rw [hstretch, lower_append_blanks hback] at h
    have hstop : StopsCase '\n' := stopsCase_of_isBlank rfl
    rw [hadded]
    exact (infix_of_infix_append_blanks hpart hback h).trans
      (lower_prefix_lower_append hstop _ _).isInfix

/-- What is missing is in the revision. -/
theorem item_infix_rewrite {item : Text} {missing : List Text} (h : item ∈ missing)
    (explanation : Text) : item <:+: rewrite explanation missing := by
  rcases rewrite_cases explanation missing with ⟨rfl, -⟩ | ⟨added, hadded, hlist⟩
  · exact absurd h List.not_mem_nil
  · have hbullet : item <:+: bullet item := (List.suffix_append _ _).isInfix
    have hitem : item <:+: added :=
      hbullet.trans ((infix_flatMap_of_mem h bullet).trans hlist.isInfix)
    rw [hadded]
    exact hitem.trans ((List.suffix_cons _ _).trans (List.suffix_append _ _)).isInfix

/-- What is quoted in an item is in it. -/
theorem infix_append_quoted (front part : Text) : part <:+: front ++ quoted part := by
  have hquoted : part <:+: quoted part := List.infix_append "'".toList part "'".toList
  exact hquoted.trans (List.suffix_append _ _).isInfix

/-! ## What a script asks for is trimmed -/

theorem trimEnd_of_mem_outputs {text output : Text}
    (h : output ∈ (Script.parse text).outputs.names) : trimEnd output = output := by
  obtain ⟨b, -, hassigned⟩ := (Script.mem_outputs_parse_iff text output).1 h
  obtain ⟨action, -, htarget⟩ := List.mem_filterMap.1 hassigned
  obtain ⟨before, -, -, -, rfl⟩ := (Script.assignedTo?_eq_some_iff action output).1 htarget
  exact trimEnd_trim before

theorem trimEnd_conditionText (line : Text) :
    trimEnd (Script.conditionText line) = Script.conditionText line := by
  rw [Script.conditionText]
  split
  · rfl
  · split
    · rfl
    · exact trimEnd_trim _

/-- A header gives its condition without blanks at the end. -/
theorem trimEnd_of_header? {line condition : Text}
    (h : Script.header? line = some (.expr condition)) : trimEnd condition = condition := by
  unfold Script.header? at h
  split at h
  · cases h
    exact trimEnd_conditionText line
  · split at h <;> cases h

theorem trimEnd_of_mem_branches {ls : List Text} {b : Branch} {condition : Text}
    (hb : b ∈ (Script.Findings.ofLines ls).branches) (hcondition : b.condition = .expr condition) :
    trimEnd condition = condition := by
  fun_induction Script.Findings.ofLines ls with
  | case1 => cases hb
  | case2 line rest examined _ later ih => exact ih hb
  | case3 line rest examined opened hheader body later ih =>
    rcases List.mem_cons.1 hb with rfl | hlater
    · rw [show opened = .expr condition from hcondition] at hheader
      exact trimEnd_of_header? hheader
    · exact ih hlater

theorem trimEnd_of_mem_statedConditions {text condition : Text}
    (h : condition ∈ statedConditions (Script.parse text)) : trimEnd condition = condition := by
  obtain ⟨-, b, hb, hcondition⟩ := mem_statedConditions_iff.1 h
  exact trimEnd_of_mem_branches hb hcondition

/-! ## Nothing is missing after a revision -/

section Missing

variable {rs : Ruleset} {explanation : Text}

theorem outputItem_mem_unmentioned {output : Text} (h : output ∈ rs.outputs.names)
    (hnot : ¬ output <:+: explanation) : outputItem output ∈ unmentioned rs explanation := by
  have hleft : output ∈ rs.outputs.names.filter (!occursIn · explanation) := by
    rw [← occursIn_iff] at hnot
    exact List.mem_filter.2 ⟨h, by simpa using hnot⟩
  exact List.mem_append_left _ (List.mem_append_left _ (List.mem_map_of_mem hleft))

theorem conditionItem_mem_unmentioned {condition : Text} (h : condition ∈ statedConditions rs)
    (hnot : ¬ condition <:+: explanation) :
    conditionItem condition ∈ unmentioned rs explanation := by
  have hleft : condition ∈ (statedConditions rs).filter (!occursIn · explanation) := by
    rw [← occursIn_iff] at hnot
    exact List.mem_filter.2 ⟨h, by simpa using hnot⟩
  have honce := ((firsts_withoutRepeats _).mem_iff (conditionItem condition)).2
    ⟨List.mem_map_of_mem hleft, trivial⟩
  exact List.mem_append_left _ (List.mem_append_right _ honce)

theorem otherwiseItem_mem_unmentioned (h : rs.hasDefault = true)
    (hnot : ¬ "otherwise" <:+: lower explanation) :
    otherwiseItem ∈ unmentioned rs explanation := by
  rw [← occursIn_iff] at hnot
  refine List.mem_append_right _ ?_
  rw [h, Bool.eq_false_iff.2 hnot]
  exact List.mem_singleton_self _

/-- **A revision of what is missing mentions everything**, if nothing that is asked for ends with a
blank. -/
theorem covers_rewrite (houtputs : ∀ output ∈ rs.outputs.names, trimEnd output = output)
    (hconditions : ∀ condition ∈ statedConditions rs, trimEnd condition = condition) :
    Covers rs (rewrite explanation (unmentioned rs explanation)) where
  outputs output h := by
    by_cases hmentioned : output <:+: explanation
    · exact infix_rewrite (houtputs output h) hmentioned _
    · have hitem : output <:+: outputItem output := infix_append_quoted _ output
      exact hitem.trans (item_infix_rewrite (outputItem_mem_unmentioned h hmentioned) _)
  conditions condition h := by
    by_cases hmentioned : condition <:+: explanation
    · exact infix_rewrite (hconditions condition h) hmentioned _
    · have hitem : condition <:+: conditionItem condition := infix_append_quoted _ condition
      exact hitem.trans (item_infix_rewrite (conditionItem_mem_unmentioned h hmentioned) _)
  otherwise h := by
    by_cases hmentioned : "otherwise" <:+: lower explanation
    · exact infix_lower_rewrite rfl hmentioned _
    · have hascii : ("Otherwise" : Text).all (·.toNat < 0x80) = true := rfl
      have hitem : "Otherwise".toList <:+: otherwiseItem :=
        (List.prefix_append "Otherwise".toList " (DEFAULT) branch").isInfix
      exact map_toLower_infix_lower (fun c hc => by simpa using List.all_eq_true.1 hascii c hc)
        (hitem.trans (item_infix_rewrite (otherwiseItem_mem_unmentioned h hmentioned) _))

end Missing

/-- **After a revision of what was missing, nothing is.**  And whatever a revision is told to add,
what the explanation of a script mentioned before it mentions still. -/
theorem verify_rewrite (text explanation : Text) :
    verify (Script.parse text)
        (rewrite explanation (verify (Script.parse text) explanation).missing) =
      ⟨true, [], false⟩ ∧
    ∀ missing,
      (∀ output ∈ (Script.parse text).outputs, output <:+: explanation →
        output <:+: rewrite explanation missing) ∧
      (∀ condition ∈ statedConditions (Script.parse text), condition <:+: explanation →
        condition <:+: rewrite explanation missing) ∧
      ("otherwise" <:+: lower explanation →
        "otherwise" <:+: lower (rewrite explanation missing)) := by
  refine ⟨?_, fun missing => ⟨fun output h hmentioned => ?_, fun condition h hmentioned => ?_,
    fun hmentioned => ?_⟩⟩
  · have hcovers : Covers (Script.parse text)
        (rewrite explanation (unmentioned (Script.parse text) explanation)) :=
      covers_rewrite (fun _ => trimEnd_of_mem_outputs) (fun _ => trimEnd_of_mem_statedConditions)
    have hnone := (unmentioned_eq_nil_iff _ _).2 hcovers
    rw [verify, verify, hnone]
    rfl
  · exact infix_rewrite (trimEnd_of_mem_outputs h) hmentioned missing
  · exact infix_rewrite (trimEnd_of_mem_statedConditions h) hmentioned missing
  · exact infix_lower_rewrite rfl hmentioned missing

end Template
end RuleReview
