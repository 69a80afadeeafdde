import RuleReview.Model.Reply
import RuleReview.Proofs.Text.Trim

/-!
# A payload and what a model says around it

The JSON of a reply is found whatever stands before and after it, under two conditions.  The text
before must not hold the opening delimiter, nor the text after the closing one.  And a fence at the
beginning of the reply must be whole: its line ends before the JSON begins, and it is closed after
the JSON.  What the JSON itself holds plays no part, be it delimiters, newlines or fences.

Three things happen to a reply before it is searched: it is trimmed, the line of a fence is cut off,
and everything from the last fence on is left out.  All three take away from the texts around the
payload only (`Around`), since it begins and ends with characters that are not blank and since a
fence is closed behind it.

## What is here

* `exists_beforeLast`, `beforeLast_append` — where the last occurrence of a part is.
* `Around` — a payload in a text where the search for it meets no other delimiters first.
* `Frames` — what may stand around a payload; `payload_found`.
-/

set_option autoImplicit false

namespace RuleReview
namespace Reply

open Text

/-! ## The last occurrence of a part -/

/-- What is found stands before an occurrence of the part. -/
theorem append_prefix_of_beforeLast {part t before : Text} (h : beforeLast part t = some before) :
    before ++ part <+: t := by
  induction t generalizing before with
  | nil =>
    rw [beforeLast] at h
    split at h
    · next hempty =>
      cases h
      rw [List.isEmpty_iff.1 hempty]
      exact List.prefix_refl _
    · cases h
  | cons c rest ih =>
    rw [beforeLast] at h
    split at h
    · next later hlater =>
      cases h
      exact List.cons_prefix_cons.2 ⟨rfl, ih hlater⟩
    · split at h
      · next hprefix =>
        cases h
        exact List.isPrefixOf_iff_prefix.1 hprefix
      · cases h

/-- A part that occurs has a last occurrence. -/
theorem exists_beforeLast {part t : Text} (h : part <:+: t) :
    ∃ before, beforeLast part t = some before := by
  induction t with
  | nil => exact ⟨[], by rw [List.infix_nil.1 h]; rfl⟩
  | cons c rest ih =>
    rw [beforeLast]
    cases hlater : beforeLast part rest with
    | some before => exact ⟨c :: before, rfl⟩
    | none =>
      rcases List.infix_cons_iff.1 h with hprefix | hinfix
      · exact ⟨[], if_pos (List.isPrefixOf_iff_prefix.2 hprefix)⟩
      · obtain ⟨before, hbefore⟩ := ih hinfix
        rw [hlater] at hbefore
        cases hbefore

/-- The last occurrence in a text is also the last when more stands in front. -/
theorem beforeLast_append {part t before : Text} (h : beforeLast part t = some before)
    (front : Text) : beforeLast part (front ++ t) = some (front ++ before) := by
  induction front with
  | nil => exact h
  | cons c front ih => rw [List.cons_append, beforeLast, ih, List.cons_append]

/-! ## A text with a payload in it -/

/-- What begins and ends with different delimiters is something between the two. -/
theorem exists_enclosed {first last : Char} {o : Text} (hne : first ≠ last)
    (hhead : o.head? = some first) (hlast : o.getLast? = some last) :
    ∃ inner, o = first :: (inner ++ [last]) := by
  obtain ⟨front, rfl⟩ := List.getLast?_eq_some_iff.1 hlast
  cases front with
  | nil => exact absurd (Option.some.inj hhead).symm hne
  | cons c inner => exact ⟨inner, by rw [← Option.some.inj hhead]; rfl⟩

/-- That a payload stands in a text with no opening delimiter before it and no closing one after. -/
def Around (first last : Char) (payload t : Text) : Prop :=
  ∃ before after, t = before ++ (payload ++ after) ∧ first ∉ before ∧ last ∉ after

section Payload

variable {first last : Char} {inner front back : Text}

/-- Where a payload stands in this way it is found as a whole, also when its delimiters stand inside
it. -/
theorem between_of_around {t : Text} (h : Around first last (first :: (inner ++ [last])) t) :
    between first last t = some (first :: (inner ++ [last])) := by
  obtain ⟨before, after, rfl, hbefore, hafter⟩ := h
  have hcut : cut first (before ++ (first :: (inner ++ [last]) ++ after)) =
      some (before, inner ++ [last] ++ after) :=
    (cut_eq_some_iff _ _ _ _).2 ⟨rfl, hbefore⟩
  have hlast : cutLast last (inner ++ [last] ++ after) = some (inner, after) :=
    (cutLast_eq_some_iff _ _ _ _).2 ⟨List.append_assoc _ _ _, hafter⟩
  simp only [between, hcut, hlast, Option.bind_eq_bind, Option.bind_some]
  rfl

/-- A payload between delimiters that are not blank keeps trimming away from itself. -/
theorem trim_around (hfirst : isBlank first = false) (hlast : isBlank last = false) :
    trim (front ++ (first :: (inner ++ [last]) ++ back)) =
      trimStart front ++ (first :: (inner ++ [last]) ++ trimEnd back) := by
  have hstart : trimStart (front ++ (first :: (inner ++ [last]) ++ back)) =
      trimStart front ++ (first :: (inner ++ [last]) ++ back) :=
    dropWhile_append_of_stop hfirst front _
  have hend : trimEnd (trimStart front ++ first :: inner ++ last :: back) =
      trimStart front ++ first :: inner ++ last :: trimEnd back :=
    dropEndWhile_append_of_stop hlast _ back
  rw [trim, hstart]
  simpa using hend

theorem mem_of_mem_trimStart {c : Char} (h : c ∈ trimStart front) : c ∈ front :=
  (List.dropWhile_sublist isBlank).subset h

theorem mem_of_mem_trimEnd {c : Char} (h : c ∈ trimEnd back) : c ∈ back := by
  obtain ⟨blanks, hsplit, -⟩ := trimEnd_stretch back
  rw [hsplit]
  exact List.mem_append_left blanks h

/-- A text begins with a fence only if it does so before any character that is in no fence. -/
theorem fence_prefix_of_append (hfence : first ∉ fence) {t : Text}
    (h : fence <+: front ++ first :: t) : fence <+: front := by
  rcases List.prefix_or_prefix_of_prefix h (List.prefix_append front _) with hfront | ⟨rest, hrest⟩
  · exact hfront
  · rw [← hrest, List.prefix_append_right_inj] at h
    cases rest with
    | nil => exact ⟨[], by rw [List.append_nil, ← hrest, List.append_nil]⟩
    | cons c rest =>
      obtain rfl := (List.cons_prefix_cons.1 h).1
      exact absurd (by rw [← hrest]; simp) hfence

/-- A fence does not end with a blank, so it is not lost by trimming. -/
theorem fence_infix_trimEnd (h : fence <:+: back) : fence <:+: trimEnd back := by
  obtain ⟨blanks, hsplit, hblanks⟩ := trimEnd_stretch back
  rw [hsplit] at h
  exact infix_of_infix_append_blanks (by decide) hblanks h

/-! ## What may stand around a payload -/

/-- What may stand before and after a payload. -/
inductive Frames (front back : Text) : Prop
  /-- The reply does not begin with a fence before the payload does. -/
  | prose (h : ¬ fence <+: trimStart front)
  /-- The reply begins with the line of a fence, and the fence is closed after the payload. -/
  | fenced (h : fence <+: trimStart front) (hline : '\n' ∈ trimStart front)
      (hclose : fence <:+: back)

/-- What is left of a reply when a fence was removed has the payload in it. -/
theorem around_unfence (hfirst : isBlank first = false) (hlast : isBlank last = false)
    (hfence : first ∉ fence) (h : Frames front back) (hfront : first ∉ front)
    (hback : last ∉ back) :
    Around first last (first :: (inner ++ [last]))
      (unfence (front ++ (first :: (inner ++ [last]) ++ back))) := by
  have hstart : first ∉ trimStart front := fun hmem => hfront (mem_of_mem_trimStart hmem)
  rw [unfence, trim_around hfirst hlast]
  cases h with
  | prose h =>
    have hnone : ¬ fence.isPrefixOf
        (trimStart front ++ (first :: (inner ++ [last]) ++ trimEnd back)) = true := by
      rw [List.isPrefixOf_iff_prefix]
      exact fun hprefix => h (fence_prefix_of_append hfence hprefix)
    rw [if_neg hnone]
    exact ⟨_, _, rfl, hstart, fun hmem => hback (mem_of_mem_trimEnd hmem)⟩
  | fenced h hline hclose =>
    -- the line of the fence ends in `front`, and `rest` is what follows it there
    obtain ⟨⟨line, rest⟩, hcut⟩ : ∃ parts, cut '\n' (trimStart front) = some parts :=
      Option.ne_none_iff_exists'.1 fun hnone => (cut_eq_none_iff _ _).1 hnone hline
    obtain ⟨hsplit, hfree⟩ := (cut_eq_some_iff _ _ _ _).1 hcut
    have hrest : first ∉ rest := fun hmem => hstart (by rw [hsplit]; simp [hmem])
    -- the last fence stands in `back`, and `kept` is what stands before it there
    obtain ⟨kept, hkept⟩ := exists_beforeLast (fence_infix_trimEnd hclose)
    have hkeptPrefix := (List.prefix_append kept fence).trans (append_prefix_of_beforeLast hkept)
    have hafter : last ∉ kept := fun hmem => hback (mem_of_mem_trimEnd (hkeptPrefix.subset hmem))
    have hbegins : fence.isPrefixOf
        (trimStart front ++ (first :: (inner ++ [last]) ++ trimEnd back)) = true :=
      List.isPrefixOf_iff_prefix.2 (h.trans (List.prefix_append _ _))
    have hbody : cut '\n' (trimStart front ++ (first :: (inner ++ [last]) ++ trimEnd back)) =
        some (line, rest ++ (first :: (inner ++ [last]) ++ trimEnd back)) :=
      (cut_eq_some_iff _ _ _ _).2 ⟨by rw [hsplit, List.append_assoc, List.cons_append], hfree⟩
    have hclosed : beforeLast fence (rest ++ (first :: (inner ++ [last]) ++ trimEnd back)) =
        some (rest ++ (first :: (inner ++ [last]) ++ kept)) :=
      beforeLast_append (beforeLast_append hkept _) rest
    rw [if_pos hbegins, hbody]
    simp only [hclosed, Option.getD_some, trim_around hfirst hlast]
    exact ⟨_, _, rfl, fun hmem => hrest (mem_of_mem_trimStart hmem),
      fun hmem => hafter (mem_of_mem_trimEnd hmem)⟩

/-- Between frames a payload is found as a whole. -/
theorem between_unfence_of_frames (hfirst : isBlank first = false) (hlast : isBlank last = false)
    (hfence : first ∉ fence) (h : Frames front back) (hfront : first ∉ front)
    (hback : last ∉ back) :
    between first last (unfence (front ++ (first :: (inner ++ [last]) ++ back))) =
      some (first :: (inner ++ [last])) :=
  between_of_around (around_unfence hfirst hlast hfence h hfront hback)

/-- A reply that is nothing but a payload is found as a whole. -/
theorem between_unfence_enclosed (hfirst : isBlank first = false) (hlast : isBlank last = false)
    (hfence : first ∉ fence) (inner : Text) :
    between first last (unfence (first :: (inner ++ [last]))) =
      some (first :: (inner ++ [last])) := by
  have hnothing : Frames [] [] := .prose (by decide)
  have hfound : between first last (unfence ([] ++ (first :: (inner ++ [last]) ++ []))) = _ :=
    between_unfence_of_frames hfirst hlast hfence hnothing List.not_mem_nil List.not_mem_nil
  rwa [List.nil_append, List.append_nil] at hfound

end Payload

/-- **JSON is found in a reply whatever stands around it**, as long as no opening delimiter stands
before it, no closing one after it, and a fence at the beginning is whole. -/
theorem payload_found {front back : Text} (h : Frames front back) (o : Text) :
    (o.head? = some '{' → o.getLast? = some '}' → '{' ∉ front → '}' ∉ back →
      object? (front ++ o ++ back) = some o) ∧
    (o.head? = some '[' → o.getLast? = some ']' → '[' ∉ front → ']' ∉ back →
      array? (front ++ o ++ back) = some o) := by
  constructor
  · intro hhead hlast hfront hback
    obtain ⟨inner, rfl⟩ := exists_enclosed (by decide) hhead hlast
    rw [object?, List.append_assoc]
    exact between_unfence_of_frames (by decide) (by decide) (by decide) h hfront hback
  · intro hhead hlast hfront hback
    obtain ⟨inner, rfl⟩ := exists_enclosed (by decide) hhead hlast
    rw [array?, List.append_assoc]
    exact between_unfence_of_frames (by decide) (by decide) (by decide) h hfront hback

/-- An object that holds a fence and a closing brace, over two lines. -/
def quotingObject : Text := "\x7b\"a\": \"``` \x7d\",\n\"b\": \x7b\x7d\x7d"

/-- An array that holds a fence and an opening bracket. -/
def quotingArray : Text := "[\"```\n\", \"[\"]"

/-- What stands before the fenced object. -/
def openingFence : Text := " ```json\nThe verdict:\n"

/-- What stands after it. -/
def closingFence : Text := "\n```\nThere is no \x7b in it."

/-- The object is found between its fences, with an opening brace after them, and the array is found
in running text. -/
theorem payload_found_quoting :
    (Frames openingFence closingFence ∧
      object? (openingFence ++ quotingObject ++ closingFence) = some quotingObject) ∧
    Frames "As ``` ]:" " [" ∧ array? ("As ``` ]:" ++ quotingArray ++ " [") = some quotingArray := by
  have hfenced : Frames openingFence closingFence :=
    .fenced (by decide) (by decide) ((occursIn_iff _ _).1 (by decide))
  have hprose : Frames "As ``` ]:" " [" := .prose (by decide)
  refine ⟨⟨hfenced, ?_⟩, hprose, ?_⟩
  · exact (payload_found hfenced quotingObject).1 (by decide) (by decide) (by decide) (by decide)
  · exact (payload_found hprose quotingArray).2 (by decide) (by decide) (by decide) (by decide)

end Reply
end RuleReview
