import RuleReview.Text.Basic

/-!
# Where lines end

`Text.lines` takes one character at a time.  What a proof about lines needs is the other view: a
text is its first line, a line end, and the text that the other lines come from (`lines_eq_cons`).
In the other direction, texts that end no line come back as the lines of what joins them by newlines
(`lines_flatMap_newline`).  A line is a stretch of its text without a newline
(`infix_of_mem_lines`, `newline_not_mem_of_mem_lines`).
-/

set_option autoImplicit false

namespace RuleReview
namespace Text

theorem lines_eq_nil_iff (t : Text) : lines t = [] ↔ t = [] := by
  fun_cases lines t <;> simp_all

/-- What ends a line: a newline, or a carriage return and a newline. -/
inductive LineEnd : Text → Prop
  | newline : LineEnd ['\n']
  | returned : LineEnd ['\r', '\n']

/-- A text with lines is its first line alone, or its first line, a line end, and the text that the
other lines come from. -/
theorem lines_eq_cons {t line : Text} {others : List Text} (h : lines t = line :: others) :
    t = line ∧ others = [] ∨
      ∃ stop rest, LineEnd stop ∧ t = line ++ (stop ++ rest) ∧ others = lines rest := by
  fun_induction lines t generalizing line others with
  | case1 => exact absurd h (by simp)
  | case2 rest =>
    obtain ⟨rfl, rfl⟩ := List.cons.inj h
    exact .inr ⟨_, rest, .returned, rfl, rfl⟩
  | case3 rest =>
    obtain ⟨rfl, rfl⟩ := List.cons.inj h
    exact .inr ⟨_, rest, .newline, rfl, rfl⟩
  | case4 c rest _ _ hrest ih =>
    obtain ⟨rfl, rfl⟩ := List.cons.inj h
    rw [(lines_eq_nil_iff rest).1 hrest]
    exact .inl ⟨rfl, rfl⟩
  | case5 c rest _ _ first later hrest ih =>
    obtain ⟨rfl, rfl⟩ := List.cons.inj h
    rcases ih hrest with ⟨rfl, rfl⟩ | ⟨stop, after, hstop, rfl, rfl⟩
    · exact .inl ⟨rfl, rfl⟩
    · exact .inr ⟨stop, after, hstop, rfl, rfl⟩

/-- A line is a stretch of its text. -/
theorem infix_of_mem_lines {t line : Text} (h : line ∈ lines t) : line <:+: t := by
  generalize hls : lines t = ls at h
  induction ls generalizing t with
  | nil => cases h
  | cons first others ih =>
    rcases lines_eq_cons hls with ⟨rfl, rfl⟩ | ⟨stop, rest, -, rfl, rfl⟩
    · obtain rfl := List.mem_singleton.1 h
      exact List.infix_rfl
    · rcases List.mem_cons.1 h with rfl | hlater
      · exact (List.prefix_append _ _).isInfix
      · have hrest : rest <:+ first ++ (stop ++ rest) :=
          (List.suffix_append stop rest).trans (List.suffix_append first _)
        exact (ih rfl hlater).trans hrest.isInfix

/-- No line holds a newline. -/
theorem newline_not_mem_of_mem_lines {t line : Text} (h : line ∈ lines t) : '\n' ∉ line := by
  fun_induction lines t generalizing line with
  | case1 => cases h
  | case2 rest ih | case3 rest ih =>
    rcases List.mem_cons.1 h with rfl | hlater
    · exact List.not_mem_nil
    · exact ih hlater
  | case4 c rest _ hc _ _ =>
    rw [List.mem_singleton.1 h, List.mem_singleton]
    exact fun hn => hc hn.symm
  | case5 c rest _ hc first others hrest ih =>
    rw [hrest] at ih
    rcases List.mem_cons.1 h with rfl | hlater
    · rw [List.mem_cons, not_or]
      exact ⟨fun hn => hc hn.symm, ih List.mem_cons_self⟩
    · exact ih (List.mem_cons_of_mem first hlater)

/-- A line without a line end in it is the first line of what it begins. -/
theorem lines_append_newline {line : Text} (hline : '\n' ∉ line)
    (hend : line.getLast? ≠ some '\r') (rest : Text) :
    lines (line ++ '\n' :: rest) = line :: lines rest := by
  induction line with
  | nil => rfl
  | cons c line ih =>
    rw [List.mem_cons, not_or] at hline
    have hlater : lines (line ++ '\n' :: rest) = line :: lines rest := by
      cases line with
      | nil => rfl
      | cons d line => exact ih hline.2 (by simpa using hend)
    rw [List.cons_append, lines, hlater]
    · rintro after rfl hafter
      -- a carriage return just before the newline would be the last character of the line
      cases line with
      | nil => exact hend rfl
      | cons d line => exact hline.2 (by rw [(List.cons.inj hafter).1]; simp)
    · exact fun hc => hline.1 hc.symm

/-- A carriage return before the newline is part of the line end. -/
theorem lines_append_return {line : Text} (hline : '\n' ∉ line) (rest : Text) :
    lines (line ++ '\r' :: '\n' :: rest) = line :: lines rest := by
  induction line with
  | nil => rfl
  | cons c line ih =>
    rw [List.mem_cons, not_or] at hline
    rw [List.cons_append, lines, ih hline.2]
    · rintro after - hafter
      cases line with
      | nil => exact absurd (List.cons.inj hafter).1 (by decide)
      | cons d line => exact hline.2 (by rw [(List.cons.inj hafter).1]; simp)
    · exact fun hc => hline.1 hc.symm

/-- Lines that are ended by newlines are the first lines of what they begin. -/
theorem lines_flatMap_newline {ls : List Text}
    (h : ∀ line ∈ ls, '\n' ∉ line ∧ line.getLast? ≠ some '\r') (rest : Text) :
    lines (ls.flatMap (· ++ ['\n']) ++ rest) = ls ++ lines rest := by
  induction ls with
  | nil => rfl
  | cons line ls ih =>
    obtain ⟨⟨hline, hend⟩, hrest⟩ := List.forall_mem_cons.1 h
    rw [List.flatMap_cons, List.append_assoc, List.append_assoc, List.singleton_append,
      lines_append_newline hline hend, ih hrest, List.cons_append]

end Text
end RuleReview
