import Mathlib.Data.List.TakeDrop
import RuleReview.Proofs.Text.Lines
import RuleReview.Proofs.Text.Trim
import RuleReview.Script.Parse

/-!
# The names that a script mentions

The scan collects identifiers line by line, from lines that were trimmed, and from some of which a
closing brace was dropped.  This file shows that it finds what a single look at the whole text
finds.

Everything about `identifiers` follows from one equation, `identifiers_append_break`: a text falls
into two at a *break*, a character that is neither in a word nor a dot.  Line ends, blanks and
braces are breaks, so taking them away changes nothing.

## What is here

* `IsBreak`, and what breaks do to `identifiers`.
* `identifiers_trim`, `identifiers_normalize`, `flatMap_identifiers_lines` — the three things that
  happen to a script before its lines are searched.
* `parse_mentions_eq_identifiers` — the names that a script mentions are the identifiers of its
  whole text, keywords left out.
-/

set_option autoImplicit false

namespace RuleReview
namespace Script

open Text

/-! ## Breaks -/

/-- A character at which no identifier begins and across which none goes on. -/
def IsBreak (c : Char) : Prop := isWord c = false ∧ c ≠ '.'

instance (c : Char) : Decidable (IsBreak c) := inferInstanceAs (Decidable (_ ∧ _))

theorem isBreak_of_isBlank {c : Char} (h : isBlank c = true) : IsBreak c :=
  of_isBlank (P := IsBreak) (by decide +kernel) h

theorem isBreak_of_mem_lineEnd {stop : Text} (h : LineEnd stop) : ∀ c ∈ stop, IsBreak c := by
  have hreturn : IsBreak '\r' := by decide +kernel
  have hnewline : IsBreak '\n' := by decide +kernel
  cases h with
  | newline => exact List.forall_mem_singleton.2 hnewline
  | returned => exact List.forall_mem_cons.2 ⟨hreturn, List.forall_mem_singleton.2 hnewline⟩

/-! ## A path ends at a break -/

/-- A name begins with an ASCII character. -/
theorem isAscii_of_isNameStart {c : Char} (h : isNameStart c = true) : c.toNat < 0x80 := by
  rw [isNameStart, Bool.or_eq_true, beq_iff_eq] at h
  rcases h with halpha | rfl
  · have hz : 'z'.val.toNat = 122 := rfl
    have hZ : 'Z'.val.toNat = 90 := rfl
    change (decide ('A'.val ≤ c.val ∧ c.val ≤ 'Z'.val) ||
      (decide ('a'.val ≤ c.val) && decide (c.val ≤ 'z'.val))) = true at halpha
    simp only [Bool.or_eq_true, Bool.and_eq_true, decide_eq_true_eq,
      UInt32.le_iff_toNat_le] at halpha
    simp only [Char.toNat]
    omega
  · decide

/-- What begins a name also goes on with one. -/
theorem isWord_of_isNameStart {c : Char} (h : isNameStart c = true) : isWord c = true := by
  have hlt := isAscii_of_isNameStart h
  simp only [isNameStart, Bool.or_eq_true] at h
  simp only [isWord, Bool.or_eq_true]
  refine h.imp_left fun halpha => ?_
  simp [isAlphanumeric, hlt, Char.isAlphanum, halpha]

theorem dotted_of_ne_dot {c : Char} (hc : c ≠ '.') (t : Text) : dotted (c :: t) = ([], c :: t) := by
  rw [dotted]
  rintro d rest h
  exact hc (List.cons.inj h).1

theorem dotted_append_break {c : Char} (hc : IsBreak c) (a b : Text) :
    dotted (a ++ c :: b) = ((dotted a).1, (dotted a).2 ++ c :: b) := by
  fun_induction dotted a with
  | case1 d rest hstart more ih =>
    rw [List.cons_append, List.cons_append, dotted, if_pos hstart,
      takeWhile_append_of_stop hc.1, dropWhile_append_of_stop hc.1, ih]
  | case2 d rest hstart => rw [List.cons_append, List.cons_append, dotted, if_neg hstart]
  | case3 t hshape =>
    -- nothing goes on here: the text is empty, a lone dot, or begins with another character
    rcases t with _ | ⟨d, _ | ⟨e, rest⟩⟩
    · exact dotted_of_ne_dot hc.2 b
    · by_cases hd : d = '.'
      · have hstart : ¬ isNameStart c = true := fun h =>
          Bool.false_ne_true (hc.1.symm.trans (isWord_of_isNameStart h))
        rw [hd, List.cons_append, List.nil_append, dotted, if_neg hstart]
      · exact dotted_of_ne_dot hd _
    · exact dotted_of_ne_dot (fun hd => hshape e rest (by rw [hd])) _

/-! ## Identifiers and breaks -/

/-- **Identifiers split at a break.** -/
theorem identifiers_append_break {c : Char} (hc : IsBreak c) (a b : Text) :
    identifiers (a ++ c :: b) = identifiers a ++ identifiers b := by
  fun_induction identifiers a with
  | case1 => rw [List.nil_append, identifiers, if_pos (by simp [hc.1]), List.nil_append]
  | case2 d rest hword ih => rw [List.cons_append, identifiers, if_pos hword, ih]
  | case3 d rest hword hstart ih =>
    rw [List.cons_append, identifiers, if_neg hword, if_pos hstart,
      dropWhile_append_of_stop hc.1, ih]
  | case4 d rest hword hstart more ih =>
    rw [List.cons_append, identifiers, if_neg hword, if_neg hstart,
      takeWhile_append_of_stop hc.1, dropWhile_append_of_stop hc.1, dotted_append_break hc]
    exact congrArg (_ :: ·) ih

/-- Breaks in front belong to no identifier. -/
theorem identifiers_breaks_append {front : Text} (h : ∀ c ∈ front, IsBreak c) (t : Text) :
    identifiers (front ++ t) = identifiers t := by
  induction front with
  | nil => rfl
  | cons c front ih =>
    have hc := identifiers_append_break (h c (by simp)) [] (front ++ t)
    rw [List.cons_append, ← List.nil_append (c :: (front ++ t)), hc,
      ih fun d hd => h d (by simp [hd]), identifiers, List.nil_append]

/-- A stretch of breaks parts a text like a single one. -/
theorem identifiers_append_breaks_append {stop : Text} (hne : stop ≠ [])
    (h : ∀ c ∈ stop, IsBreak c) (a b : Text) :
    identifiers (a ++ (stop ++ b)) = identifiers a ++ identifiers b := by
  cases stop with
  | nil => exact absurd rfl hne
  | cons c stop =>
    rw [List.cons_append, identifiers_append_break (h c (by simp)),
      identifiers_breaks_append fun d hd => h d (by simp [hd])]

/-- Breaks at the end belong to no identifier. -/
theorem identifiers_append_breaks {back : Text} (h : ∀ c ∈ back, IsBreak c) (t : Text) :
    identifiers (t ++ back) = identifiers t := by
  cases back with
  | nil => rw [List.append_nil]
  | cons c back =>
    have hsplit := identifiers_append_breaks_append (List.cons_ne_nil c back) h t []
    rwa [List.append_nil, identifiers, List.append_nil] at hsplit

/-! ## What happens to a script before its lines are searched -/

theorem identifiers_trim (t : Text) : identifiers (trim t) = identifiers t := by
  obtain ⟨front, back, ht, hfront, hback⟩ := trim_stretch t
  conv_rhs => rw [ht]
  rw [identifiers_breaks_append fun c hc => isBreak_of_isBlank (hfront c hc),
    identifiers_append_breaks fun c hc => isBreak_of_isBlank (hback c hc)]

theorem identifiers_normalize (line : Text) : identifiers (normalize line) = identifiers line := by
  rw [normalize]
  split
  · next rest h =>
    have hbrace := identifiers_append_break (by decide +kernel : IsBreak '}') [] rest
    rw [identifiers_trim, ← identifiers_trim line, h, ← List.nil_append ('}' :: rest), hbrace,
      identifiers, List.nil_append]
  · rw [identifiers_trim, identifiers_trim]

/-- **The identifiers of a text are those of its lines.** -/
theorem flatMap_identifiers_lines (t : Text) : (lines t).flatMap identifiers = identifiers t := by
  generalize hls : lines t = ls
  induction ls generalizing t with
  | nil => rw [(lines_eq_nil_iff t).1 hls, identifiers, List.flatMap_nil]
  | cons line others ih =>
    rcases lines_eq_cons hls with ⟨rfl, rfl⟩ | ⟨stop, rest, hstop, rfl, rfl⟩
    · rw [List.flatMap_cons, List.flatMap_nil, List.append_nil]
    · have hne : stop ≠ [] := by cases hstop <;> simp
      rw [List.flatMap_cons, ih rest rfl,
        identifiers_append_breaks_append hne (isBreak_of_mem_lineEnd hstop)]

/-! ## The scan -/

theorem mentioned_normalize (line : Text) : mentioned (normalize line) = mentioned line := by
  rw [mentioned, mentioned, identifiers_normalize]

theorem mentioned_trim (line : Text) : mentioned (trim line) = mentioned line := by
  rw [mentioned, mentioned, identifiers_trim]

/-- The scan searches every line once, as a header, in a body or in passing. -/
theorem mentions_ofLines (ls : List Text) :
    (Findings.ofLines ls).mentions = ls.flatMap mentioned := by
  fun_induction Findings.ofLines ls with
  | case1 => rfl
  | case2 line rest examined _ later ih =>
    show mentioned (normalize line) ++ later.mentions = _
    rw [mentioned_normalize, ih, List.flatMap_cons]
  | case3 line rest examined condition _ body later ih =>
    show mentioned (normalize line) ++ body.flatMap (fun l => mentioned (trim l)) ++
      later.mentions = _
    simp only [mentioned_trim]
    rw [mentioned_normalize, ih, List.append_assoc, ← List.flatMap_append,
      List.takeWhile_append_dropWhile, List.flatMap_cons]

/-- What the scan collects from the lines of a text, repetitions and order included. -/
theorem mentions_ofLines_lines (t : Text) :
    (Findings.ofLines (lines t)).mentions = mentioned t := by
  rw [mentions_ofLines, mentioned, ← flatMap_identifiers_lines, List.filter_flatMap]
  rfl

/-- **The names that a script mentions are the identifiers of its whole text**, once its comments
are gone and keywords are left out.  The scan meets them in the order of the text and each as often
as it occurs there, so that reading by lines loses, adds, splits and joins none of them. -/
theorem parse_mentions_eq_identifiers (text : Text) :
    (parse text).mentions =
        .ofList ((identifiers (dropComments text)).filter (!keywords.contains ·)) ∧
      (Findings.ofLines (lines (dropComments text))).mentions =
        (identifiers (dropComments text)).filter (!keywords.contains ·) ∧
      ∀ word, word ∈ (parse text).mentions ↔
        word ∈ identifiers (dropComments text) ∧ word ∉ keywords := by
  have hscan := mentions_ofLines_lines (dropComments text)
  have hset : (parse text).mentions = .ofList (mentioned (dropComments text)) := by
    rw [parse, hscan]
  refine ⟨hset, hscan, fun word => ?_⟩
  rw [hset, NameSet.mem_ofList, mentioned, List.mem_filter]
  simp [isKeyword]

end Script
end RuleReview
