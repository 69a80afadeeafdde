import RuleReview.Proofs.Script.Comments
import RuleReview.Proofs.Script.Content

/-!
# Comments and blank lines say nothing

A script is the same ruleset when a line comment is put at the end of one of its lines, and when a
block comment or a blank line is put before one (`parse_insert`).  It does not matter what the line
is.  The end of a line may stand within a block comment, also one that is never closed, and behind
another line comment.  The line comment is then dropped with the other one, or it stays in the first
pass and is dropped in the second.

A block comment or a blank line may not be put within a block comment that is still open: the end of
the one that is put there would close it.

The texts differ, without comments, in blanks at the end of a line and in blank lines, so the scan
finds the same in them (`parse_eq_of_content`).
-/

set_option autoImplicit false

namespace RuleReview
namespace Script

open Text

/-! ## The end of a line -/

section Line

/-- What stands behind a line: nothing, or a line end and the other lines. -/
inductive EndsLine : Text → Prop
  | last : EndsLine []
  | newline (rest : Text) : EndsLine ('\n' :: rest)
  | returned (rest : Text) : EndsLine ('\r' :: '\n' :: rest)

/-- Neither an opening nor an end of a comment goes on with what ends a line. -/
theorem EndsLine.head?_ne {after : Text} (h : EndsLine after) {c : Char} (hr : c ≠ '\r')
    (hn : c ≠ '\n') : after.head? ≠ some c := by
  cases h <;> simp [hr.symm, hn.symm]

/-- Block comments are dropped from the later lines and leave the line end. -/
theorem EndsLine.dropBlockComments {after : Text} (h : EndsLine after) :
    EndsLine (dropBlockComments after) := by
  cases h with
  | last =>
    rw [Script.dropBlockComments]
    exact .last
  | newline rest =>
    rw [dropBlockComments_cons fun h => absurd h (by decide)]
    exact .newline _
  | returned rest =>
    rw [dropBlockComments_cons fun h => absurd h (by decide),
      dropBlockComments_cons fun h => absurd h (by decide)]
    exact .returned _

variable {x : Text}

/-- What leaves only blanks of itself changes nothing at the end of the last line. -/
theorem content_append_of_blank (a : Text) (hline : '\n' ∉ x) (hhead : x.head? ≠ some '/')
    (hblank : ∀ c ∈ dropLineComments x, isBlank c = true) :
    content (lines (dropLineComments (a ++ x))) = content (lines (dropLineComments a)) := by
  have hkept : '\n' ∉ dropLineComments x := fun h => hline ((dropLineComments_sublist x).subset h)
  rcases dropLineComments_append a hline hhead with h | h
  · rw [h]
  · rw [h, content_lines_append_blanks hblank hkept]

/-- What leaves only blanks of itself changes nothing at the end of a line. -/
theorem content_append_newline_of_blank (a later : Text) (hline : '\n' ∉ x)
    (hhead : x.head? ≠ some '/') (hblank : ∀ c ∈ dropLineComments x, isBlank c = true) :
    content (lines (dropLineComments (a ++ (x ++ '\n' :: later)))) =
      content (lines (dropLineComments a)) ++ content (lines (dropLineComments later)) := by
  rw [← List.append_assoc, dropLineComments_append_newline, content_lines_append_newline,
    content_append_of_blank a hline hhead hblank]

/-- A line comment leaves the blank before it. -/
theorem dropLineComments_comment {body : Text} (hline : '\n' ∉ body) :
    dropLineComments (" // ".toList ++ body) = " ".toList := by
  have hcomment : dropLineComments ("//".toList ++ ' ' :: body) = [] :=
    dropLineComments_slashes (by simp [hline])
  change dropLineComments (' ' :: ("//".toList ++ ' ' :: body)) = _
  rw [dropLineComments_cons fun h => absurd h (by decide), hcomment]
  rfl

theorem isBlank_of_mem_dropLineComments_comment {body : Text} (hline : '\n' ∉ body) :
    ∀ c ∈ dropLineComments (" // ".toList ++ body), isBlank c = true := by
  rw [dropLineComments_comment hline]
  exact List.forall_mem_singleton.2 rfl

/-- A line comment may be put before what stands, besides the newline, at the end of a line. -/
theorem content_insert_newline (kept later : Text) {body : Text} (hbody : '\n' ∉ body)
    (hline : '\n' ∉ x) (hhead : x.head? ≠ some '/')
    (hblank : ∀ c ∈ dropLineComments x, isBlank c = true) :
    content (lines (dropLineComments (kept ++ (" // ".toList ++ (body ++ (x ++ '\n' :: later)))))) =
      content (lines (dropLineComments (kept ++ (x ++ '\n' :: later)))) := by
  have hboth : '\n' ∉ body ++ x := by simp [hbody, hline]
  have hinserted := content_append_newline_of_blank kept later
    (x := " // ".toList ++ (body ++ x)) (by simp [hbody, hline]) (by simp)
    (isBlank_of_mem_dropLineComments_comment hboth)
  rw [content_append_newline_of_blank kept later hline hhead hblank, ← hinserted,
    List.append_assoc _ _ ('\n' :: later), List.append_assoc body]

/-- A line comment at the end of a line changes nothing, when the block comments are dropped. -/
theorem content_insert_comment (kept : Text) {body after : Text} (hafter : EndsLine after)
    (hline : '\n' ∉ body) :
    content (lines (dropLineComments (kept ++ (" // ".toList ++ (body ++ after))))) =
      content (lines (dropLineComments (kept ++ after))) := by
  cases hafter with
  | last =>
    rw [List.append_nil, List.append_nil]
    exact content_append_of_blank kept (by simp [hline]) (by simp)
      (isBlank_of_mem_dropLineComments_comment hline)
  | newline rest =>
    exact content_insert_newline (x := []) kept rest hline (by simp) (by simp)
      (by rw [dropLineComments]; simp)
  | returned rest =>
    have hreturn : dropLineComments ['\r'] = ['\r'] := by
      rw [dropLineComments_cons fun h => absurd h (by decide), dropLineComments]
    exact content_insert_newline (x := ['\r']) kept rest hline (by simp) (by simp)
      (by rw [hreturn]; exact List.forall_mem_singleton.2 rfl)

/-- A line comment at the end of a line is dropped with the block comment that it stands in, or is
left where it was, at the end of a line. -/
theorem dropBlockComments_insert (before : Text) {body after : Text} (hafter : EndsLine after)
    (hopen : ¬ "/*".toList <:+: body) (hclose : ¬ "*/".toList <:+: body) :
    dropBlockComments (before ++ (" // ".toList ++ (body ++ after))) =
        dropBlockComments (before ++ after) ∨
      ∃ kept later, EndsLine later ∧
        dropBlockComments (before ++ (" // ".toList ++ (body ++ after))) =
          kept ++ (" // ".toList ++ (body ++ later)) ∧
        dropBlockComments (before ++ after) = kept ++ later := by
  have hstar := hafter.head?_ne (c := '*') (by decide) (by decide)
  have hslash := hafter.head?_ne (c := '/') (by decide) (by decide)
  have hnoopen : ¬ "/*".toList <:+: " // ".toList ++ body :=
    fun h => ((pair_infix_append_cons (c := ' ') (by decide) (by decide) " //" body).1 h).elim
      (by decide) hopen
  have hnoclose : ¬ "*/".toList <:+: " // ".toList ++ body :=
    fun h => ((pair_infix_append_cons (c := ' ') (by decide) (by decide) " //" body).1 h).elim
      (by decide) hclose
  rcases closed_or_open before with hclosed | ⟨front, inside, hfront, hinside, rfl⟩
  · refine .inr ⟨dropBlockComments before, _, hafter.dropBlockComments, ?_, ?_⟩
    · rw [dropBlockComments_append_of_closed hclosed (by simp), ← List.append_assoc _ body,
        dropBlockComments_append_of_unopened hnoopen (fun _ => hstar), List.append_assoc]
    · rw [dropBlockComments_append_of_closed hclosed (fun _ => hstar)]
  · -- the end of the comment is looked for behind the line, with the line comment and without it
    have hinserted :
        afterClose? (inside ++ (" // ".toList ++ (body ++ after))) = afterClose? after := by
      rw [afterClose?_append hinside (by simp), ← List.append_assoc,
        afterClose?_append hnoclose hslash]
    have hplain : afterClose? (inside ++ after) = afterClose? after :=
      afterClose?_append hinside hslash
    simp only [List.append_assoc front, List.append_assoc "/*".toList]
    rw [dropBlockComments_append_of_closed hfront (by simp),
      dropBlockComments_append_of_closed hfront (by simp)]
    cases hend : afterClose? after with
    | some rest =>
      rw [hend] at hinserted hplain
      rw [dropBlockComments_of_afterClose?_eq_some hinserted,
        dropBlockComments_of_afterClose?_eq_some hplain]
      exact .inl rfl
    | none =>
      rw [hend] at hinserted hplain
      rw [dropBlockComments_of_afterClose?_eq_none hinserted,
        dropBlockComments_of_afterClose?_eq_none hplain]
      exact .inr ⟨dropBlockComments front ++ ("/*".toList ++ inside), after, hafter, by simp,
        by simp⟩

/-- **A line comment at the end of a line changes nothing.** -/
theorem parse_insert_line_comment {before body after : Text} (hafter : EndsLine after)
    (hline : '\n' ∉ body) (hopen : ¬ "/*".toList <:+: body) (hclose : ¬ "*/".toList <:+: body) :
    parse (before ++ (" // ".toList ++ (body ++ after))) = parse (before ++ after) := by
  apply parse_eq_of_content
  rw [dropComments, dropComments]
  rcases dropBlockComments_insert before hafter hopen hclose with
    h | ⟨kept, later, hlater, hinserted, hplain⟩
  · rw [h]
  · rw [hinserted, hplain, content_insert_comment kept hlater hline]

end Line

/-! ## Between two lines -/

section Between

/-- A text behind which a new line begins. -/
def BeforeLine (t : Text) : Prop := t = [] ∨ t.getLast? = some '\n'

instance (t : Text) : Decidable (BeforeLine t) := inferInstanceAs (Decidable (_ ∨ _))

variable {before after other : Text}

theorem BeforeLine.dropBlockComments (h : BeforeLine before) (hclosed : Closed before) :
    BeforeLine (dropBlockComments before) := by
  rcases h with rfl | hlast
  · exact .inl (by rw [Script.dropBlockComments])
  · exact .inr (getLast?_dropBlockComments_of_closed hclosed hlast)

theorem BeforeLine.content_append (h : BeforeLine before) (after : Text) :
    content (lines (dropLineComments (before ++ after))) =
      content (lines (dropLineComments before)) ++ content (lines (dropLineComments after)) := by
  rcases h with rfl | hlast
  · rw [dropLineComments]
    rfl
  · obtain ⟨earlier, rfl⟩ := List.getLast?_eq_some_iff.1 hlast
    have hplain : content (lines (dropLineComments (earlier ++ ['\n']))) =
        content (lines (dropLineComments earlier)) := by
      rw [dropLineComments_append_newline, content_lines_append_newline, dropLineComments]
      exact List.append_nil _
    rw [hplain, List.append_assoc, List.singleton_append, dropLineComments_append_newline,
      content_lines_append_newline]

/-- What follows the lines of a closed text counts for what it is without its comments. -/
theorem parse_append_eq (hline : BeforeLine before) (hclosed : Closed before)
    (h : content (lines (dropComments after)) = content (lines (dropComments other))) :
    parse (before ++ after) = parse (before ++ other) := by
  have hlast : before.getLast? ≠ some '/' := by
    rcases hline with rfl | hlast
    · simp
    · simp [hlast]
  have hcontent : ∀ more : Text, content (lines (dropComments (before ++ more))) =
      content (lines (dropComments before)) ++ content (lines (dropComments more)) := by
    intro more
    rw [dropComments, dropBlockComments_append_of_closed hclosed fun hs => absurd hs hlast,
      (hline.dropBlockComments hclosed).content_append]
    rfl
  exact parse_eq_of_content (by rw [hcontent, hcontent, h])

theorem content_blank_line (blank : Text) (hblank : ∀ c ∈ blank, isBlank c = true)
    (hline : '\n' ∉ blank) (after : Text) :
    content (lines (dropComments (blank ++ '\n' :: after))) =
      content (lines (dropComments after)) := by
  have hslash : '/' ∉ blank := fun h => absurd (hblank _ h) (by decide)
  have hopen : ¬ "/*".toList <:+: blank ++ ['\n'] := by
    intro h
    have hmem : '/' ∈ blank ++ ['\n'] := h.subset List.mem_cons_self
    simp [hslash] at hmem
  have hcomment : ¬ "//".toList <:+: blank := fun h => hslash (h.subset List.mem_cons_self)
  have hkept : dropBlockComments (blank ++ '\n' :: after) =
      blank ++ '\n' :: dropBlockComments after := by
    have hbehind : dropBlockComments (blank ++ ['\n'] ++ after) = _ :=
      dropBlockComments_append_of_unopened hopen (by simp)
    rwa [List.append_assoc, List.append_assoc] at hbehind
  have hnone : content (lines blank) = [] := content_lines_append_blanks hblank hline []
  rw [dropComments, hkept, dropLineComments_append_newline, content_lines_append_newline,
    dropLineComments_of_not_infix hcomment, hnone]
  rfl

theorem content_block_comment {body : Text} (hclose : ¬ "*/".toList <:+: body) (after : Text) :
    content (lines (dropComments ("/*".toList ++ (body ++ ("*/".toList ++ '\n' :: after))))) =
      content (lines (dropComments after)) := by
  rw [dropComments, dropBlockComments_comment hclose]
  exact content_blank_line [] (by simp) (by simp) after

end Between

/-- **Comments and blank lines are transparent.**  A line comment may be put at the end of any line,
and a blank line or a block comment before any line that stands in no block comment. -/
theorem parse_insert :
    (∀ before body after : Text, EndsLine after → '\n' ∉ body → ¬ "/*".toList <:+: body →
      ¬ "*/".toList <:+: body →
      parse (before ++ (" // ".toList ++ (body ++ after))) = parse (before ++ after)) ∧
    ∀ before after : Text, BeforeLine before → Closed before →
      (∀ blank : Text, (∀ c ∈ blank, isBlank c = true) → '\n' ∉ blank →
        parse (before ++ (blank ++ '\n' :: after)) = parse (before ++ after)) ∧
      ∀ body : Text, ¬ "*/".toList <:+: body →
        parse (before ++ ("/*".toList ++ (body ++ ("*/".toList ++ '\n' :: after)))) =
          parse (before ++ after) := by
  constructor
  · intro before body after hafter hline hopen hclose
    exact parse_insert_line_comment hafter hline hopen hclose
  · intro before after hbefore hclosed
    constructor
    · intro blank hblank hline
      exact parse_append_eq hbefore hclosed (content_blank_line blank hblank hline after)
    · intro body hclose
      exact parse_append_eq hbefore hclosed (content_block_comment hclose after)

/-- In a script with a block comment in the middle of a branch, a line comment can be put within the
block comment; and behind the block comment another one, which holds a brace and two slashes. -/
theorem parse_insert_within_branch :
    parse ("if (a > 1) \x7b /* x".toList ++
        (" // ".toList ++ ("\x7d y = 2".toList ++ '\n' :: "z */ b = 1;\n\x7d".toList))) =
      parse ("if (a > 1) \x7b /* x".toList ++ '\n' :: "z */ b = 1;\n\x7d".toList) ∧
    parse (("if (a) \x7b".toList ++ ("/*".toList ++ (" x ".toList ++ ("*/".toList ++ ['\n'])))) ++
        ("/*".toList ++ ("\x7d //\n".toList ++ ("*/".toList ++ '\n' :: "b = 1;\n\x7d".toList)))) =
      parse (("if (a) \x7b".toList ++ ("/*".toList ++ (" x ".toList ++ ("*/".toList ++ ['\n'])))) ++
        "b = 1;\n\x7d".toList) := by
  have hfree : ∀ part whole : Text, occursIn part whole = false → ¬ part <:+: whole :=
    fun part whole h => by rw [← occursIn_iff, h]; decide
  have hclosed : Closed ("if (a) \x7b".toList ++
      ("/*".toList ++ (" x ".toList ++ ("*/".toList ++ ['\n'])))) :=
    @Closed.comment "if (a) \x7b".toList " x ".toList ['\n'] (hfree _ _ (by decide))
      (hfree _ _ (by decide)) (.plain (hfree _ _ (by decide)))
  have hline : BeforeLine ("if (a) \x7b".toList ++
      ("/*".toList ++ (" x ".toList ++ ("*/".toList ++ ['\n'])))) := .inr (by decide)
  exact ⟨parse_insert.1 _ _ _ (.newline _) (by decide) (hfree _ _ (by decide))
    (hfree _ _ (by decide)), (parse_insert.2 _ _ hline hclosed).2 _ (hfree _ _ (by decide))⟩

end Script
end RuleReview
