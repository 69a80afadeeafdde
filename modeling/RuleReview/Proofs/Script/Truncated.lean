import RuleReview.Proofs.Script.Comments
import RuleReview.Proofs.Script.Content
import RuleReview.Proofs.Script.Mentions
import RuleReview.Proofs.Script.Outputs

/-!
# Scripts that break off

A script that breaks off is read as the beginning of the whole script, wherever it breaks off: in a
body, before the line that ends one, or between two headers.  No branch is gained, and only the last
one can have changed: it may lack its last actions.  So later lines never change what was read
before, although the scan looks ahead for the end of a body and then looks at that line again.

The reason is that the scan of a body takes a beginning of the lines that follow its header.  If the
end of the body is among the lines that are there, the same body is taken and the scan goes on at
the same line; if not, the body goes on and nothing else is lost (`begins_ofLines_append`).

This is said of scripts in which no comment opens.  A block comment may be cut in two, and what was
a comment is then read.

## What is here

* `Begins` — the branches of a script that breaks off, against those of the whole script.
* `FirstLines` — the first lines of a text, as a text.
* `begins_parse_firstLines` — what is read of the first lines of a script.
-/

set_option autoImplicit false

namespace RuleReview
namespace Script

open Text

/-! ## The branches of a script that breaks off -/

/-- That branches are the first ones of others, where the last of them may lack actions at its
end. -/
structure Begins (cut full : List Branch) : Prop where
  /-- No branch is gained. -/
  length_le : cut.length ≤ full.length
  /-- All branches but the last one are the same. -/
  earlier : ∀ i, i + 1 < cut.length → cut[i]? = full[i]?
  /-- The last one has the same condition and some of the actions, from the first one on. -/
  last : ∀ b, cut.getLast? = some b →
    ∃ whole, full[cut.length - 1]? = some whole ∧ b.condition = whole.condition ∧
      b.actions <+: whole.actions

namespace Begins

variable {cut full : List Branch} {b whole : Branch}

theorem nil (full : List Branch) : Begins [] full where
  length_le := Nat.zero_le _
  earlier := by simp
  last := by simp

theorem single (hcondition : b.condition = whole.condition) (hactions : b.actions <+: whole.actions)
    (later : List Branch) : Begins [b] (whole :: later) where
  length_le := Nat.succ_le_succ (Nat.zero_le _)
  earlier := by simp
  last := by
    rintro _ ⟨⟩
    exact ⟨whole, rfl, hcondition, hactions⟩

/-- A branch in front of both is the same branch. -/
theorem cons (h : Begins cut full) (b : Branch) : Begins (b :: cut) (b :: full) := by
  cases cut with
  | nil => exact single rfl (List.prefix_refl _) full
  | cons next cut =>
    refine ⟨Nat.succ_le_succ h.length_le, fun i hi => ?_, fun last hlast => ?_⟩
    · cases i with
      | zero => rfl
      | succ i => exact h.earlier i (Nat.lt_of_succ_lt_succ hi)
    · rw [List.getLast?_cons_cons] at hlast
      exact h.last last hlast

/-- No branch acts otherwise than one of the whole script. -/
theorem exists_whole (h : Begins cut full) (hb : b ∈ cut) :
    ∃ whole ∈ full, b.condition = whole.condition ∧ b.actions <+: whole.actions := by
  obtain ⟨i, hi, rfl⟩ := List.getElem_of_mem hb
  by_cases hlater : i + 1 < cut.length
  · have hsame := h.earlier i hlater
    rw [List.getElem?_eq_getElem hi] at hsame
    exact ⟨_, List.mem_of_getElem? hsame.symm, rfl, List.prefix_refl _⟩
  · have hlast : cut.getLast? = some cut[i] := by
      rw [List.getLast?_eq_getElem?, List.getElem?_eq_some_iff]
      exact ⟨by omega, by congr 1; omega⟩
    obtain ⟨whole, hwhole, hcondition, hactions⟩ := h.last _ hlast
    exact ⟨whole, List.mem_of_getElem? hwhole, hcondition, hactions⟩

/-- What the branches assign is assigned by the whole script. -/
theorem assigned_subset (h : Begins cut full) :
    cut.flatMap Branch.assigned ⊆ full.flatMap Branch.assigned := by
  intro name hname
  obtain ⟨b, hb, hassigned⟩ := List.mem_flatMap.1 hname
  obtain ⟨whole, hwhole, -, hactions⟩ := h.exists_whole hb
  exact List.mem_flatMap.2 ⟨whole, hwhole, (hactions.filterMap assignedTo?).subset hassigned⟩

end Begins

/-- **Lines that follow do not change what was read before.** -/
theorem begins_ofLines_append (ls later : List Text) :
    Begins (Findings.ofLines ls).branches (Findings.ofLines (ls ++ later)).branches := by
  fun_induction Findings.ofLines ls with
  | case1 => exact .nil _
  | case2 line rest examined h found ih =>
    rw [List.cons_append, Findings.ofLines]
    simp only [show header? (normalize line) = none from h]
    exact ih
  | case3 line rest examined condition h body found ih =>
    rw [List.cons_append, Findings.ofLines]
    simp only [show header? (normalize line) = some condition from h]
    by_cases hends : rest.dropWhile isBodyLine = []
    · -- the body does not end with the lines that are there
      have hall : ∀ l ∈ rest, isBodyLine l = true := List.dropWhile_eq_nil_iff.1 hends
      have hbody : body = rest := List.takeWhile_eq_self_iff.2 hall
      have hnone : found.branches = [] := by
        rw [show found = Findings.ofLines (rest.dropWhile isBodyLine) from rfl, hends,
          Findings.ofLines]
      rw [hnone, List.takeWhile_append_of_pos hall, hbody, List.filterMap_append]
      apply Begins.single
      · rfl
      · exact List.prefix_append _ _
    · -- the same body is taken, and the scan goes on at the same line
      have hdrop : (rest ++ later).dropWhile isBodyLine = rest.dropWhile isBodyLine ++ later := by
        rw [List.dropWhile_append, if_neg (by simpa [List.isEmpty_iff] using hends)]
      have htake : (rest ++ later).takeWhile isBodyLine = body := by
        have hsplit := List.takeWhile_append_dropWhile (p := isBodyLine) (l := rest ++ later)
        rw [hdrop, ← List.append_assoc] at hsplit
        have hrest := List.takeWhile_append_dropWhile (p := isBodyLine) (l := rest)
        exact List.append_cancel_right ((List.append_cancel_right hsplit).trans hrest.symm)
      rw [hdrop, htake]
      exact ih.cons _

/-! ## The first lines of a text -/

/-- The first lines of a text as a text of their own: these lines with newlines between them, or
the beginning of the text that has these lines. -/
inductive FirstLines (k : Nat) (t : Text) : Text → Prop
  | joined : FirstLines k t (List.intercalate ['\n'] ((lines t).take k))
  | beginning {front : Text} (h : front <+: t) (hlines : lines front = (lines t).take k) :
      FirstLines k t front

section FirstLines

variable {t cut line : Text} {k : Nat}

/-- What opens no comment opens none in any of its lines. -/
theorem Uncommented.of_mem_lines (h : Uncommented t) (hline : line ∈ lines t) : Uncommented line :=
  ⟨fun hopen => h.line (hopen.trans (infix_of_mem_lines hline)),
    fun hopen => h.block (hopen.trans (infix_of_mem_lines hline))⟩

theorem intercalate_newline_begins (ls : List Text) :
    List.intercalate ['\n'] ls <+: ls.flatMap (· ++ ['\n']) := by
  induction ls with
  | nil => exact List.prefix_refl _
  | cons line ls ih =>
    cases ls with
    | nil => simp
    | cons next ls =>
      rw [List.intercalate_cons_cons, List.flatMap_cons, List.prefix_append_right_inj]
      exact ih

/-- Lines with newlines between them have the content of these lines. -/
theorem content_lines_intercalate {ls : List Text} (h : ∀ line ∈ ls, '\n' ∉ line) :
    content (lines (List.intercalate ['\n'] ls)) = content ls := by
  induction ls with
  | nil => rfl
  | cons line ls ih =>
    obtain ⟨hline, hls⟩ := List.forall_mem_cons.1 h
    cases ls with
    | nil => rw [List.intercalate_singleton, content_lines_of_not_mem hline]
    | cons next ls =>
      rw [List.intercalate_cons_cons, List.append_assoc, List.singleton_append,
        content_lines_append_newline, ih hls, content_lines_of_not_mem hline, ← content_append]
      rfl

/-- In the first lines of a text in which no comment opens, the scan finds what it finds in these
lines. -/
theorem FirstLines.ofLines_eq (h : FirstLines k t cut) (hfree : Uncommented t) :
    Findings.ofLines (lines (dropComments cut)) = Findings.ofLines ((lines t).take k) := by
  cases h with
  | joined =>
    have hlines : ∀ line ∈ (lines t).take k, Uncommented line :=
      fun line hline => hfree.of_mem_lines (List.mem_of_mem_take hline)
    have hjoined : Uncommented (List.intercalate ['\n'] ((lines t).take k)) :=
      Uncommented.of_prefix (uncommented_flatMap_newline hlines) (intercalate_newline_begins _)
    rw [dropComments_of_uncommented hjoined, ← ofLines_content, content_lines_intercalate,
      ofLines_content]
    exact fun line hline => newline_not_mem_of_mem_lines (List.mem_of_mem_take hline)
  | beginning hprefix hlines =>
    have hfront : Uncommented cut := Uncommented.of_prefix hfree hprefix
    rw [dropComments_of_uncommented hfront, hlines]

end FirstLines

/-- **A script that breaks off is read as the beginning of the whole script.**  It has no more
branches.  All of them but the last are the same, and the last has the same condition and some of
the actions, from the first one on.  No name is mentioned and none assigned that is not in the whole
script. -/
theorem begins_parse_firstLines (text : Text) (h : Uncommented text) (k : Nat) (cut : Text)
    (hcut : FirstLines k text cut) :
    Begins (parse cut).branches (parse text).branches ∧
      (∀ name ∈ (parse cut).mentions, name ∈ (parse text).mentions) ∧
      ∀ name ∈ (parse cut).outputs, name ∈ (parse text).outputs := by
  have hfound := hcut.ofLines_eq h
  have hwhole : lines (dropComments text) = (lines text).take k ++ (lines text).drop k := by
    rw [dropComments_of_uncommented h, List.take_append_drop]
  have hbegins : Begins (parse cut).branches (parse text).branches := by
    rw [parse, parse, hfound, hwhole]
    exact begins_ofLines_append _ _
  refine ⟨hbegins, fun name hname => ?_, fun name hname => ?_⟩
  · rw [parse, NameSet.mem_ofList] at hname ⊢
    rw [hfound, mentions_ofLines] at hname
    rw [hwhole, mentions_ofLines, List.flatMap_append]
    exact List.mem_append_left _ hname
  · rw [outputs_parse, NameSet.mem_ofList] at hname ⊢
    exact hbegins.assigned_subset hname

/-- A script of which the lines end with a carriage return and a newline. -/
def returnedScript : Text :=
  "if (a) \x7b\r\n  x = 1;\r\n\x7d else \x7b\r\n  y = b;\r\n  x = 2;\r\n\x7d\r\n"

/-- Broken off in its second body, the script keeps its first branch and one of two actions, whether
the lines keep their ends or not. -/
theorem begins_parse_returnedScript :
    Uncommented returnedScript ∧
    (parse returnedScript).branches =
      [⟨.expr "a", ["x = 1".toList]⟩, ⟨.default, ["y = b".toList, "x = 2".toList]⟩] ∧
    ∀ cut ∈ (["if (a) \x7b\n  x = 1;\n\x7d else \x7b\n  y = b;",
        "if (a) \x7b\r\n  x = 1;\r\n\x7d else \x7b\r\n  y = b;\r\n"] : List Text),
      FirstLines 4 returnedScript cut ∧
      (parse cut).branches = [⟨.expr "a", ["x = 1".toList]⟩, ⟨.default, ["y = b".toList]⟩] ∧
      Begins (parse cut).branches (parse returnedScript).branches := by
  have hfree : Uncommented returnedScript := by decide
  have hjoined : FirstLines 4 returnedScript
      "if (a) \x7b\n  x = 1;\n\x7d else \x7b\n  y = b;" := .joined
  have hbeginning : FirstLines 4 returnedScript
      "if (a) \x7b\r\n  x = 1;\r\n\x7d else \x7b\r\n  y = b;\r\n" :=
    .beginning (by decide) (by decide)
  refine ⟨hfree, by decide +kernel, List.forall_mem_cons.2 ⟨?_, List.forall_mem_singleton.2 ?_⟩⟩
  · exact ⟨hjoined, by decide +kernel, (begins_parse_firstLines _ hfree 4 _ hjoined).1⟩
  · exact ⟨hbeginning, by decide +kernel, (begins_parse_firstLines _ hfree 4 _ hbeginning).1⟩

end Script
end RuleReview
