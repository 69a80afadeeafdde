import RuleReview.Proofs.Text.Lines
import RuleReview.Proofs.Text.Trim
import RuleReview.Script.Parse

/-!
# What of its lines a script depends on

The scan trims every line before it looks at it, except that it looks for the closing brace that
ends a body, which trimming keeps.  It takes nothing from a blank line, and a blank line ends no
body.  So all that counts of the lines of a script is their *content*: the trimmed lines, blank ones
left out.

The content of a text can be taken piece by piece (`content_lines_append_newline`), whichever of its
newlines parts the pieces, and whether a carriage return stands before it or not.

## What is here

* `content`, `ofLines_content` — the scan of lines and of their content find the same.
* `content_lines_append_newline`, `content_lines_append_blanks` — the content of a text.
* `parse_eq_of_content` — scripts with the same content are the same ruleset.
-/

set_option autoImplicit false

namespace RuleReview
namespace Script

open Text

/-! ## The content of lines -/

/-- The lines that are not blank, trimmed. -/
def content (ls : List Text) : List Text := (ls.map trim).filter (· ≠ [])

section Lines

variable {line : Text} {ls : List Text}

theorem content_cons_of_blank (h : trim line = []) (ls : List Text) :
    content (line :: ls) = content ls := by
  simp [content, h]

theorem content_cons_of_ne (h : trim line ≠ []) (ls : List Text) :
    content (line :: ls) = trim line :: content ls := by
  simp [content, h]

theorem content_append (ls others : List Text) :
    content (ls ++ others) = content ls ++ content others := by
  simp [content]

/-- What is taken from trimmed lines, and not from blank ones, is taken from the content. -/
theorem filterMap_content {f : Text → Option Text} (htrim : ∀ l, f (trim l) = f l)
    (hblank : f [] = none) (ls : List Text) : (content ls).filterMap f = ls.filterMap f := by
  induction ls with
  | nil => rfl
  | cons line ls ih =>
    by_cases h : trim line = []
    · have hnone : f line = none := by rw [← htrim, h, hblank]
      rw [content_cons_of_blank h, List.filterMap_cons, hnone, ih]
    · rw [content_cons_of_ne h, List.filterMap_cons, List.filterMap_cons, htrim, ih]

theorem flatMap_content {f : Text → List Text} (htrim : ∀ l, f (trim l) = f l)
    (hblank : f [] = []) (ls : List Text) : (content ls).flatMap f = ls.flatMap f := by
  induction ls with
  | nil => rfl
  | cons line ls ih =>
    by_cases h : trim line = []
    · have hnil : f line = [] := by rw [← htrim, h, hblank]
      rw [content_cons_of_blank h, List.flatMap_cons, hnil, ih, List.nil_append]
    · rw [content_cons_of_ne h, List.flatMap_cons, List.flatMap_cons, htrim, ih]

/-! ## The scan -/

theorem normalize_trim (line : Text) : normalize (trim line) = normalize line := by
  rw [normalize, normalize, trim_trim]

theorem isBodyLine_trim (line : Text) : isBodyLine (trim line) = isBodyLine line := by
  rw [isBodyLine, isBodyLine, Bool.eq_iff_iff]
  simp [mem_trim_iff line '}' rfl]

theorem action?_trim (line : Text) : action? (trim line) = action? line := by
  simp only [action?, trim_trim]

/-- A blank line is part of a body. -/
theorem isBodyLine_of_blank (h : trim line = []) : isBodyLine line = true := by
  rw [← isBodyLine_trim, h]
  rfl

/-- A blank line opens no branch. -/
theorem header?_of_blank (h : trim line = []) : header? (normalize line) = none := by
  rw [← normalize_trim, h]
  rfl

theorem mentioned_nil : mentioned [] = [] := by
  rw [mentioned, identifiers, List.filter_nil]

/-- A blank line mentions no name. -/
theorem mentioned_of_blank (h : trim line = []) : mentioned (normalize line) = [] := by
  rw [← normalize_trim, h]
  exact mentioned_nil

/-- The content of a body is the body of the content, and so with what follows the body. -/
theorem takeWhile_dropWhile_content (ls : List Text) :
    (content ls).takeWhile isBodyLine = content (ls.takeWhile isBodyLine) ∧
      (content ls).dropWhile isBodyLine = content (ls.dropWhile isBodyLine) := by
  induction ls with
  | nil => exact ⟨rfl, rfl⟩
  | cons line ls ih =>
    by_cases h : trim line = []
    · have hbody := isBodyLine_of_blank h
      rw [content_cons_of_blank h, List.takeWhile_cons_of_pos hbody,
        List.dropWhile_cons_of_pos hbody, content_cons_of_blank h]
      exact ih
    · rw [content_cons_of_ne h]
      by_cases hbody : isBodyLine line = true
      · have htrimmed : isBodyLine (trim line) = true := by rwa [isBodyLine_trim]
        rw [List.takeWhile_cons_of_pos hbody, List.dropWhile_cons_of_pos hbody,
          List.takeWhile_cons_of_pos htrimmed, List.dropWhile_cons_of_pos htrimmed,
          content_cons_of_ne h, ih.1]
        exact ⟨rfl, ih.2⟩
      · have htrimmed : ¬ isBodyLine (trim line) = true := by rwa [isBodyLine_trim]
        rw [List.takeWhile_cons_of_neg hbody, List.dropWhile_cons_of_neg hbody,
          List.takeWhile_cons_of_neg htrimmed, List.dropWhile_cons_of_neg htrimmed,
          content_cons_of_ne h]
        exact ⟨rfl, rfl⟩

/-- **The scan finds the same in lines and in their content.** -/
theorem ofLines_content (ls : List Text) : Findings.ofLines (content ls) = Findings.ofLines ls := by
  fun_induction Findings.ofLines ls with
  | case1 => rw [content, List.map_nil, List.filter_nil, Findings.ofLines]
  | case2 line rest examined hheader later ih =>
    by_cases h : trim line = []
    · rw [content_cons_of_blank h, ih, show mentioned examined = [] from mentioned_of_blank h]
      rfl
    · rw [content_cons_of_ne h, Findings.ofLines, normalize_trim]
      simp only [show header? (normalize line) = none from hheader, ih]
      rfl
  | case3 line rest examined condition hheader body later ih =>
    have h : trim line ≠ [] := by
      intro hblank
      rw [show header? examined = none from header?_of_blank hblank] at hheader
      cases hheader
    obtain ⟨hbody, hafter⟩ := takeWhile_dropWhile_content rest
    rw [content_cons_of_ne h, Findings.ofLines, normalize_trim]
    simp only [show header? (normalize line) = some condition from hheader, hbody, hafter, ih]
    rw [filterMap_content action?_trim rfl,
      filterMap_content (f := fun l => assignedTo? (trim l)) (by simp) rfl,
      flatMap_content (f := fun l => mentioned (trim l)) (by simp) mentioned_nil]

end Lines

/-! ## The content of a text -/

section Text

variable {a b t back : Text}

theorem content_lines_of_not_mem (h : '\n' ∉ t) : content (lines t) = content [t] := by
  cases hlines : lines t with
  | nil =>
    rw [(lines_eq_nil_iff t).1 hlines]
    rfl
  | cons line others =>
    rcases lines_eq_cons hlines with ⟨rfl, rfl⟩ | ⟨stop, rest, hstop, rfl, -⟩
    · rfl
    · cases hstop <;> simp at h

/-- A carriage return before the newline that ends a line is dropped by one as by the other. -/
theorem content_lines_line_append_newline (ha : '\n' ∉ a) (b : Text) :
    content (lines (a ++ '\n' :: b)) = content [a] ++ content (lines b) := by
  by_cases hend : a.getLast? = some '\r'
  · obtain ⟨line, rfl⟩ := List.getLast?_eq_some_iff.1 hend
    rw [List.append_assoc, List.singleton_append,
      lines_append_return (fun hmem => ha (List.mem_append_left _ hmem)),
      ← List.singleton_append, content_append]
    congr 1
    rw [content, content, List.map_singleton, List.map_singleton,
      trim_append_blanks (by simp [isBlank])]
  · rw [lines_append_newline ha hend, ← List.singleton_append, content_append]

/-- The content of a text on both sides of any of its newlines. -/
theorem content_lines_append_newline (a b : Text) :
    content (lines (a ++ '\n' :: b)) = content (lines a) ++ content (lines b) := by
  by_cases ha : '\n' ∈ a
  · -- the induction is on the lines of `a`: its first one goes
    cases hcut : cut '\n' a with
    | none => exact absurd ha ((cut_eq_none_iff '\n' a).1 hcut)
    | some parts =>
      obtain ⟨first, later⟩ := parts
      obtain ⟨hsplit, hfirst⟩ := (cut_eq_some_iff _ _ _ _).1 hcut
      have hshorter : later.length < a.length := by simp [hsplit]; omega
      rw [hsplit, List.append_assoc, List.cons_append, content_lines_line_append_newline hfirst,
        content_lines_line_append_newline hfirst, content_lines_append_newline later b,
        List.append_assoc]
  · rw [content_lines_line_append_newline ha, content_lines_of_not_mem ha]
termination_by a.length

/-- Blanks at the end of the last line count for nothing. -/
theorem content_lines_append_blanks (hback : ∀ c ∈ back, isBlank c = true) (hline : '\n' ∉ back)
    (t : Text) : content (lines (t ++ back)) = content (lines t) := by
  have hlast : ∀ line : Text, '\n' ∉ line →
      content (lines (line ++ back)) = content (lines line) := by
    intro line hmem
    rw [content_lines_of_not_mem hmem, content_lines_of_not_mem (by simp [hmem, hline]),
      content, content, List.map_singleton, List.map_singleton, trim_append_blanks hback]
  cases hcut : cutLast '\n' t with
  | none => exact hlast t ((cutLast_eq_none_iff '\n' t).1 hcut)
  | some parts =>
    obtain ⟨earlier, line⟩ := parts
    obtain ⟨rfl, hmem⟩ := (cutLast_eq_some_iff _ _ _ _).1 hcut
    rw [List.append_assoc, List.cons_append, content_lines_append_newline,
      content_lines_append_newline, hlast line hmem]

end Text

/-- Scripts of the same content, once their comments are dropped, are the same ruleset. -/
theorem parse_eq_of_content {t other : Text}
    (h : content (lines (dropComments t)) = content (lines (dropComments other))) :
    parse t = parse other := by
  rw [parse, parse, ← ofLines_content, h, ofLines_content]

end Script
end RuleReview
