import Mathlib.Data.List.ModifyLast
import RuleReview.Proofs.Text.Trim
import RuleReview.Script.Parse

/-!
# Reading a script in one pass

`Script.parse` scans a script in two nested stretches: a header is found, its body is taken up to
the line that ends it, and the scan goes on *at* that line.  This file shows that the outcome is
that of a single pass over the lines by an automaton with two states, in which every line is looked
at once and plays one part.

## What is here

* `Role`, `Reads` — the part a line plays, and when it plays it.  `Reads` speaks of first and last
  parentheses and of beginnings of lines, not of the functions of the scan.
* `Pass` — the pass over all lines, and `pass_iff`, which says that there is exactly one.
* `Role.record` — what a part adds to the branches found so far.
* `parse_branches_eq_pass` — the branches of a script are those that the pass records.

The invariant of the nested scan is `foldl_record_roles_inside`: between a header and the end of its
body, the pass adds to the last branch what the scan takes with `takeWhile`, and then stands where
the scan resumes.
-/

set_option autoImplicit false

namespace RuleReview
namespace Script

open Text

/-! ## What a line is -/

/-- A line as a pass examines it: trimmed, without one closing brace in front, trimmed again. -/
def examined (line : Text) : Text := trim (((trim line).dropPrefix? ['}']).getD (trim line))

/-- The condition that a header gives: what stands between its first opening and its last closing
parenthesis, and nothing if no closing one follows an opening one. -/
inductive Guards (line : Text) : Text → Prop
  | between {before inner after : Text} (h : line = before ++ '(' :: (inner ++ ')' :: after))
      (hfirst : '(' ∉ before) (hlast : ')' ∉ after) : Guards line (trim inner)
  | missing (h : ∀ before inner after, line ≠ before ++ '(' :: (inner ++ ')' :: after)) :
      Guards line []

/-- Where a pass over the lines of a script stands. -/
inductive Place where
  /-- Outside every body. -/
  | outside
  /-- In the body of the branch that was opened last. -/
  | inside
  deriving DecidableEq

/-- The part that a line plays. -/
inductive Role where
  /-- An assignment in a body. -/
  | action (text : Text)
  /-- A line in a body that assigns nothing. -/
  | filler
  /-- The header of a branch. -/
  | header (condition : Condition)
  /-- A line that ends a body without opening another, or stands outside every body. -/
  | aside

/-- The place a line leaves the pass in. -/
def Role.next : Role → Place
  | action _ | filler | header _ => .inside
  | aside => .outside

/-- The part that a line plays at a place. -/
inductive Reads : Place → Text → Role → Prop
  | action {line : Text} (hbody : '}' ∉ line) (h : '=' ∈ line) :
      Reads .inside line (.action ((trim line).rdropWhile (· == ';')))
  | filler {line : Text} (hbody : '}' ∉ line) (h : '=' ∉ line) : Reads .inside line .filler
  | expr {place : Place} {line guard : Text} (hfree : place = .outside ∨ '}' ∈ line)
      (h : "if".toList <+: examined line ∨ "else if".toList <+: examined line)
      (hguard : Guards (examined line) guard) : Reads place line (.header (.expr guard))
  | default {place : Place} {line : Text} (hfree : place = .outside ∨ '}' ∈ line)
      (hif : ¬ ("if".toList <+: examined line ∨ "else if".toList <+: examined line))
      (h : "else".toList <+: examined line) : Reads place line (.header .default)
  | aside {place : Place} {line : Text} (hfree : place = .outside ∨ '}' ∈ line)
      (hif : ¬ ("if".toList <+: examined line ∨ "else if".toList <+: examined line))
      (h : ¬ "else".toList <+: examined line) : Reads place line .aside

/-- A pass over lines from a place: each line in turn plays its part, and the next line is met where
that leaves the pass. -/
inductive Pass : Place → List Text → List Role → Prop
  | done {place : Place} : Pass place [] []
  | line {place : Place} {line : Text} {rest : List Text} {role : Role} {roles : List Role}
      (h : Reads place line role) (later : Pass role.next rest roles) :
      Pass place (line :: rest) (role :: roles)

/-- What a part adds to the branches found so far: a header opens a branch, and an assignment goes
to the branch opened last. -/
def Role.record (branches : List Branch) : Role → List Branch
  | action text => branches.modifyLast fun b => { b with actions := b.actions ++ [text] }
  | header condition => branches ++ [⟨condition, []⟩]
  | filler | aside => branches

/-- The condition of a header. -/
def Role.condition? : Role → Option Condition
  | header condition => some condition
  | _ => none

/-- The text of an assignment. -/
def Role.action? : Role → Option Text
  | action text => some text
  | _ => none

/-! ## The scan reads lines as the pass does -/

theorem normalize_eq_examined (line : Text) : normalize line = examined line := by
  rw [normalize, examined]
  cases trim line with
  | nil => rfl
  | cons c rest =>
    by_cases hc : c = '}'
    · subst hc; simp [List.dropPrefix?]
    · have hdrop : (c :: rest).dropPrefix? ['}'] = none := by simp [List.dropPrefix?, hc]
      rw [hdrop, Option.getD_none]
      split
      · next h => exact absurd (List.cons.inj h).1 hc
      · rfl

/-- What follows any occurrence of a separator is part of what follows the first. -/
theorem suffix_of_cut {sep : Char} {t before rest before' rest' : Text}
    (h : cut sep t = some (before, rest)) (h' : t = before' ++ sep :: rest') : rest' <:+ rest := by
  obtain ⟨ht, hfirst⟩ := (cut_eq_some_iff sep t before rest).1 h
  rw [ht] at h'
  rcases List.append_eq_append_iff.1 h' with ⟨between, hb, hr⟩ | ⟨between, hb, hr⟩
  · cases between with
    | nil => exact (List.cons.inj hr).2 ▸ List.suffix_refl _
    | cons c between =>
      rw [(List.cons.inj hr).2]
      exact (List.suffix_cons sep rest').trans (List.suffix_append between _)
  · cases between with
    | nil => exact (List.cons.inj hr).2 ▸ List.suffix_refl _
    | cons c between =>
      rw [← (List.cons.inj hr).1] at hb
      exact absurd (by simp [hb]) hfirst

theorem guards_conditionText (line : Text) : Guards line (conditionText line) := by
  rw [conditionText]
  split
  · next h =>
    have hfree := (cut_eq_none_iff '(' line).1 h
    exact .missing fun before inner after hl => hfree (by simp [hl])
  · next before rest h =>
    obtain ⟨hl, hfirst⟩ := (cut_eq_some_iff '(' line before rest).1 h
    split
    · next hnone =>
      have hfree := (cutLast_eq_none_iff ')' rest).1 hnone
      exact .missing fun before' inner after hl' =>
        hfree ((suffix_of_cut h hl').subset (by simp))
    · next inner after hsome =>
      obtain ⟨hr, hlast⟩ := (cutLast_eq_some_iff ')' rest inner after).1 hsome
      exact .between (by rw [hl, hr]) hfirst hlast

theorem conditionText_of_guards {line guard : Text} (h : Guards line guard) :
    conditionText line = guard := by
  cases h with
  | @between before inner after hl hfirst hlast =>
    have hopen := (cut_eq_some_iff '(' line before _).2 ⟨hl, hfirst⟩
    have hclose := (cutLast_eq_some_iff ')' (inner ++ ')' :: after) inner after).2 ⟨rfl, hlast⟩
    rw [conditionText, hopen]
    simp only [hclose]
  | missing hl =>
    have hscan := guards_conditionText line
    generalize conditionText line = found at hscan ⊢
    cases hscan with
    | between hl' => exact absurd hl' (hl _ _ _)
    | missing => rfl

theorem action?_eq (line : Text) :
    action? line = if '=' ∈ line then some ((trim line).rdropWhile (· == ';')) else none := by
  have hmem : (trim line).contains '=' = true ↔ '=' ∈ line := by
    rw [List.contains_iff_mem, mem_trim_iff line '=' rfl]
  simp only [action?, dropEndWhile_eq_rdropWhile, hmem]

theorem isBodyLine_iff (line : Text) : isBodyLine line = true ↔ '}' ∉ line := by
  simp [isBodyLine]

theorem header?_eq (line : Text) :
    header? line =
      if "if".toList <+: line ∨ "else if".toList <+: line then
        some (.expr (conditionText line))
      else if "else".toList <+: line then some .default else none := by
  simp only [header?, Bool.or_eq_true, List.isPrefixOf_iff_prefix]

/-- The part that a line plays at a place, in the terms of the scan. -/
def roleAt (place : Place) (line : Text) : Role :=
  if place = .inside ∧ isBodyLine line = true then
    match Script.action? line with
    | some text => .action text
    | none => .filler
  else
    match header? (normalize line) with
    | some condition => .header condition
    | none => .aside

theorem roleAt_outside (line : Text) :
    roleAt .outside line = (header? (normalize line)).elim .aside .header := by
  rw [roleAt, if_neg (by simp)]
  cases header? (normalize line) <;> rfl

theorem roleAt_inside {line : Text} (h : '}' ∉ line) :
    roleAt .inside line =
      if '=' ∈ line then .action ((trim line).rdropWhile (· == ';')) else .filler := by
  rw [roleAt, if_pos ⟨rfl, (isBodyLine_iff line).2 h⟩, action?_eq]
  by_cases hassign : '=' ∈ line
  · rw [if_pos hassign, if_pos hassign]
  · rw [if_neg hassign, if_neg hassign]

theorem roleAt_free {place : Place} {line : Text} (h : place = .outside ∨ '}' ∈ line) :
    roleAt place line =
      if "if".toList <+: examined line ∨ "else if".toList <+: examined line then
        .header (.expr (conditionText (examined line)))
      else if "else".toList <+: examined line then .header .default else .aside := by
  have hfree : ¬ (place = .inside ∧ isBodyLine line = true) := by
    rw [isBodyLine_iff]
    rintro ⟨rfl, hb⟩
    exact hb (h.resolve_left (by simp))
  rw [roleAt, if_neg hfree, normalize_eq_examined, header?_eq]
  by_cases hif : "if".toList <+: examined line ∨ "else if".toList <+: examined line
  · rw [if_pos hif, if_pos hif]
  · rw [if_neg hif, if_neg hif]
    by_cases helse : "else".toList <+: examined line
    · rw [if_pos helse, if_pos helse]
    · rw [if_neg helse, if_neg helse]

/-- At a place a line plays exactly one part. -/
theorem reads_iff (place : Place) (line : Text) (role : Role) :
    Reads place line role ↔ roleAt place line = role := by
  constructor
  · intro h
    cases h with
    | action hbody h => rw [roleAt_inside hbody, if_pos h]
    | filler hbody h => rw [roleAt_inside hbody, if_neg h]
    | expr hfree h hguard => rw [roleAt_free hfree, if_pos h, conditionText_of_guards hguard]
    | default hfree hif h => rw [roleAt_free hfree, if_neg hif, if_pos h]
    | aside hfree hif h => rw [roleAt_free hfree, if_neg hif, if_neg h]
  · rintro rfl
    by_cases hfree : place = .outside ∨ '}' ∈ line
    · rw [roleAt_free hfree]
      split
      · next h => exact .expr hfree h (guards_conditionText _)
      · next hif =>
        split
        · next h => exact .default hfree hif h
        · next h => exact .aside hfree hif h
    · rw [not_or] at hfree
      cases place with
      | outside => exact absurd rfl hfree.1
      | inside =>
        rw [roleAt_inside hfree.2]
        split
        · next h => exact .action hfree.2 h
        · next h => exact .filler hfree.2 h

/-! ## The pass over all lines -/

/-- The parts that lines play one after the other, the first line being met at a place. -/
def rolesFrom : Place → List Text → List Role
  | _, [] => []
  | place, line :: rest => roleAt place line :: rolesFrom (roleAt place line).next rest

/-- From every place there is exactly one pass over a list of lines. -/
theorem pass_iff (place : Place) (ls : List Text) (roles : List Role) :
    Pass place ls roles ↔ rolesFrom place ls = roles := by
  constructor
  · intro h
    induction h with
    | done => rfl
    | line h _ ih => rw [rolesFrom, (reads_iff _ _ _).1 h, ih]
  · rintro rfl
    induction ls generalizing place with
    | nil => exact .done
    | cons line rest ih => exact .line ((reads_iff _ _ _).2 rfl) (ih _)

theorem length_eq_of_pass {place : Place} {ls : List Text} {roles : List Role}
    (h : Pass place ls roles) : roles.length = ls.length := by
  induction h with
  | done => rfl
  | line _ _ ih => rw [List.length_cons, List.length_cons, ih]

/-! ## What the pass records -/

@[simp] theorem record_action (branches : List Branch) (b : Branch) (text : Text) :
    (Role.action text).record (branches ++ [b]) =
      branches ++ [{ b with actions := b.actions ++ [text] }] :=
  List.modifyLast_concat _ b branches

/-- **A body is read by the pass as the scan reads it.**  From inside a body the pass puts the
assignments of the body into the branch that is open.  Then it stands at the line that ended the
body, which plays the same part inside as outside. -/
theorem foldl_record_roles_inside (branches : List Branch) (b : Branch) (ls : List Text) :
    (rolesFrom .inside ls).foldl Role.record (branches ++ [b]) =
      (rolesFrom .outside (ls.dropWhile isBodyLine)).foldl Role.record
        (branches ++
          [{ b with actions := b.actions ++ (ls.takeWhile isBodyLine).filterMap action? }]) := by
  induction ls generalizing b with
  | nil => simp [rolesFrom]
  | cons line rest ih =>
    by_cases hbody : isBodyLine line = true
    · rw [List.takeWhile_cons_of_pos hbody, List.dropWhile_cons_of_pos hbody, rolesFrom]
      have hrole := roleAt_inside ((isBodyLine_iff line).1 hbody)
      have haction := action?_eq line
      by_cases hassign : '=' ∈ line
      · rw [if_pos hassign] at hrole haction
        rw [hrole, List.foldl_cons, record_action, Role.next, ih, List.filterMap_cons, haction]
        simp
      · rw [if_neg hassign] at hrole haction
        rw [hrole, List.foldl_cons, Role.record, Role.next, ih, List.filterMap_cons, haction]
    · have hends : '}' ∈ line := by simpa [isBodyLine_iff] using hbody
      have hsame : roleAt .inside line = roleAt .outside line :=
        (roleAt_free (.inr hends)).trans (roleAt_free (.inr hends)).symm
      rw [List.takeWhile_cons_of_neg hbody, List.dropWhile_cons_of_neg hbody, rolesFrom, rolesFrom,
        hsame, List.filterMap_nil, List.append_nil]

/-- From outside every body, the pass adds to the branches those that the scan finds. -/
theorem foldl_record_roles_outside (branches : List Branch) (ls : List Text) :
    (rolesFrom .outside ls).foldl Role.record branches =
      branches ++ (Findings.ofLines ls).branches := by
  fun_induction Findings.ofLines ls generalizing branches with
  | case1 => simp [rolesFrom]
  | case2 line rest examined h later ih =>
    have hrole : roleAt .outside line = .aside := by
      rw [roleAt_outside, h, Option.elim]
    rw [rolesFrom, hrole, List.foldl_cons, Role.record, Role.next, ih]
  | case3 line rest examined condition h body later ih =>
    have hrole : roleAt .outside line = .header condition := by
      rw [roleAt_outside, h, Option.elim]
    rw [rolesFrom, hrole, List.foldl_cons, Role.record, Role.next, foldl_record_roles_inside, ih]
    simp [body, later]

theorem map_condition_foldl_record (roles : List Role) (branches : List Branch) :
    (roles.foldl Role.record branches).map (·.condition) =
      branches.map (·.condition) ++ roles.filterMap Role.condition? := by
  induction roles generalizing branches with
  | nil => simp
  | cons role roles ih =>
    rw [List.foldl_cons, ih]
    cases role with
    | action text =>
      rcases List.eq_nil_or_concat branches with rfl | ⟨front, b, rfl⟩
      · rfl
      · rw [List.concat_eq_append, record_action, List.filterMap_cons_none rfl]
        simp
    | header condition =>
      rw [Role.record, List.filterMap_cons_some (rfl : Role.condition? _ = some condition)]
      simp
    | filler => rfl
    | aside => rfl

/-- Only a line inside a body assigns, and inside a body some branch is open. -/
theorem flatMap_actions_foldl_record {place : Place} {ls : List Text} {roles : List Role}
    (h : Pass place ls roles) (branches : List Branch)
    (hopen : place = .inside → branches ≠ []) :
    (roles.foldl Role.record branches).flatMap (·.actions) =
      branches.flatMap (·.actions) ++ roles.filterMap Role.action? := by
  induction h generalizing branches with
  | done => simp
  | @line place line rest role roles hreads _ ih =>
    rw [List.foldl_cons]
    cases hreads with
    | action _ _ =>
      obtain ⟨front, b, rfl⟩ := (List.eq_nil_or_concat branches).resolve_left (hopen rfl)
      rw [List.concat_eq_append, record_action, ih _ (fun _ => by simp),
        List.filterMap_cons_some (rfl : Role.action? _ = some _)]
      simp
    | filler _ _ => exact ih branches fun _ => hopen rfl
    | expr _ _ _ =>
      rw [Role.record, ih _ (fun _ => by simp), List.filterMap_cons_none rfl]
      simp
    | default _ _ _ =>
      rw [Role.record, ih _ (fun _ => by simp), List.filterMap_cons_none rfl]
      simp
    | aside _ _ _ => exact ih branches (by simp [Role.next])

/-- **Reading a script is one pass over its lines.**  There is exactly one pass over the lines of a
script without its comments.  Every line plays one part in it.  The branches of the script are what
the pass records, so their conditions are those of the headers and their actions those of the
assignments, all in the order of the lines. -/
theorem parse_branches_eq_pass (text : Text) :
    ∃ roles : List Role,
      (∀ others, Pass .outside (lines (dropComments text)) others ↔ others = roles) ∧
      roles.length = (lines (dropComments text)).length ∧
      (parse text).branches = roles.foldl Role.record [] ∧
      (parse text).branches.map (·.condition) = roles.filterMap Role.condition? ∧
      (parse text).branches.flatMap (·.actions) = roles.filterMap Role.action? := by
  have hpass := (pass_iff .outside (lines (dropComments text)) _).2 rfl
  have hbranches : (parse text).branches =
      (rolesFrom .outside (lines (dropComments text))).foldl Role.record [] := by
    rw [foldl_record_roles_outside, List.nil_append, parse]
  refine ⟨rolesFrom .outside (lines (dropComments text)), fun others => ?_,
    length_eq_of_pass hpass, hbranches, ?_, ?_⟩
  · rw [pass_iff]
    exact eq_comm
  · rw [hbranches, map_condition_foldl_record, List.map_nil, List.nil_append]
  · rw [hbranches, flatMap_actions_foldl_record hpass [] (by simp), List.flatMap_nil,
      List.nil_append]

end Script
end RuleReview
