import RuleReview.Proofs.Script.Comments
import RuleReview.Proofs.Script.Mentions
import RuleReview.Proofs.Script.Outputs
import RuleReview.Proofs.Script.Pass

/-!
# Chains as they are written

The usual way of writing a chain of branches gives each header and each assignment a line of its
own, and lets the brace that closes one body share a line with the next header.  This file writes
chains in that way and shows that reading gets back what was written.

Little is asked of the texts between: a condition may hold parentheses, balanced or not, braces and
equals signs, and an action anything but a closing brace.

## What is here

* `write` — the text of a chain of arms, line by line (`chainLines`); `IsWritten` — the same, the
  last newline left to choice.
* `IsArm` — the arms that can be written so, with `IsInline` and `IsAction` for their parts.
* `parse_write` — reading gets back the arms, what they assign to and what they mention; then a
  chain of which every part is as odd as it may be.
-/

set_option autoImplicit false

namespace RuleReview
namespace Script

open Text

/-! ## Writing -/

/-- The line that opens the first arm of a chain. -/
def opening : Condition → Text
  | .expr guard => "if (" ++ (guard ++ ") \x7b")
  | .default => "else \x7b"

/-- The line that closes an arm and opens the next one. -/
def reopening : Condition → Text
  | .expr guard => "\x7d else if (" ++ (guard ++ ") \x7b")
  | .default => "\x7d else \x7b"

/-- The line of an action. -/
def actionLine (action : Text) : Text := "  " ++ (action ++ ";")

/-- The lines of arms and of the end of their chain, where the first arm has a header of its own. -/
def chainLines (header : Condition → Text) : List Branch → List Text
  | [] => ["\x7d"]
  | arm :: rest =>
    header arm.condition :: (arm.actions.map actionLine ++ chainLines reopening rest)

/-- The text of a chain, in which every line is ended by a newline. -/
def write (arms : List Branch) : Text := (chainLines opening arms).flatMap (· ++ ['\n'])

/-- Whether a text is that of a chain.  The last line may lack its newline. -/
def IsWritten (text : Text) (arms : List Branch) : Prop :=
  text = write arms ∨ text ++ ['\n'] = write arms

/-! ## What can be written -/

/-- A text that can stand on a line between other characters: trimmed, with no newline in it, and
with no comment. -/
structure IsInline (t : Text) : Prop where
  /-- It is on one line. -/
  oneLine : '\n' ∉ t
  /-- It begins and ends with no blank. -/
  trimmed : trim t = t
  /-- No comment opens in it. -/
  uncommented : Uncommented t

/-- An action that can be written. -/
structure IsAction (action : Text) : Prop extends IsInline action where
  /-- It assigns. -/
  assigns : '=' ∈ action
  /-- It does not end the body. -/
  braceless : '\x7d' ∉ action
  /-- It does not end with what separates actions. -/
  unseparated : action.getLast? ≠ some ';'

/-- A condition that can be written. -/
def IsGuard : Condition → Prop
  | .expr guard => IsInline guard
  | .default => True

/-- An arm that can be written. -/
structure IsArm (arm : Branch) : Prop where
  /-- So can its condition. -/
  guard : IsGuard arm.condition
  /-- So can its actions. -/
  actions : ∀ action ∈ arm.actions, IsAction action

instance (t : Text) : Decidable (IsInline t) :=
  decidable_of_iff ('\n' ∉ t ∧ trim t = t ∧ Uncommented t)
    ⟨fun h => ⟨h.1, h.2.1, h.2.2⟩, fun h => ⟨h.oneLine, h.trimmed, h.uncommented⟩⟩

instance (action : Text) : Decidable (IsAction action) :=
  decidable_of_iff
    (IsInline action ∧ '=' ∈ action ∧ '\x7d' ∉ action ∧ action.getLast? ≠ some ';')
    ⟨fun h => ⟨h.1, h.2.1, h.2.2.1, h.2.2.2⟩,
      fun h => ⟨h.toIsInline, h.assigns, h.braceless, h.unseparated⟩⟩

instance : (c : Condition) → Decidable (IsGuard c)
  | .expr guard => inferInstanceAs (Decidable (IsInline guard))
  | .default => isTrue trivial

instance (arm : Branch) : Decidable (IsArm arm) :=
  decidable_of_iff (IsGuard arm.condition ∧ ∀ action ∈ arm.actions, IsAction action)
    ⟨fun h => ⟨h.1, h.2⟩, fun h => ⟨h.guard, h.actions⟩⟩

/-! ## The lines that are written -/

/-- A line that can be told from the next one, and that holds no comment. -/
structure IsLine (line : Text) : Prop where
  /-- No newline is in it. -/
  oneLine : '\n' ∉ line
  /-- No part of a line end is at its end. -/
  closed : line.getLast? ≠ some '\r'
  /-- No comment opens in it. -/
  uncommented : Uncommented line

/-- Whether a character can stand anywhere on a line. -/
def isPlain (c : Char) : Bool := c != '\n' && c != '\r' && c != '/' && c != '*'

theorem isPlain_iff (c : Char) : isPlain c = true ↔ c ≠ '\n' ∧ c ≠ '\r' ∧ c ≠ '/' ∧ c ≠ '*' := by
  simp [isPlain, and_assoc]

theorem isLine_of_isPlain {line : Text} (h : line.all isPlain = true) : IsLine line := by
  have hplain : ∀ c ∈ line, c ≠ '\n' ∧ c ≠ '\r' ∧ c ≠ '/' ∧ c ≠ '*' := fun c hc =>
    (isPlain_iff c).1 (List.all_eq_true.1 h c hc)
  have hfree : ∀ c : Char, ¬ ['/', c] <:+: line := fun c hpair =>
    (hplain '/' (hpair.subset (by simp))).2.2.1 rfl
  exact ⟨fun hc => (hplain _ hc).1 rfl, fun hc => (hplain _ (List.mem_of_getLast? hc)).2.1 rfl,
    hfree '/', hfree '*'⟩

/-- A text that can stand between other characters, between plain ones. -/
theorem IsInline.isLine {t : Text} (h : IsInline t) {front back : Text} {c d : Char}
    (hframe : (front ++ c :: d :: back).all isPlain = true) :
    IsLine (front ++ c :: (t ++ d :: back)) := by
  rw [List.all_append, List.all_cons, List.all_cons] at hframe
  simp only [Bool.and_eq_true, isPlain_iff] at hframe
  obtain ⟨hfront, hc, hd, hback⟩ := hframe
  have hfront := isLine_of_isPlain hfront
  have hback := isLine_of_isPlain hback
  refine ⟨?_, ?_, ?_⟩
  · simp [hfront.oneLine, h.oneLine, hback.oneLine, hc.1.symm, hd.1.symm]
  · have hlast : (front ++ c :: (t ++ d :: back)).getLast? = (d :: back).getLast? := by
      rw [List.getLast?_append_cons, ← List.cons_append, List.getLast?_append_cons]
    rw [hlast]
    cases back with
    | nil => simpa using hd.2.1
    | cons e back => simpa using hback.closed
  · exact (uncommented_append_cons hc.2.2 _ _).2 ⟨hfront.uncommented,
      (uncommented_append_cons hd.2.2 _ _).2 ⟨h.uncommented, hback.uncommented⟩⟩

/-! ## Headers -/

theorem mentioned_append_break {c : Char} (hc : IsBreak c) (a b : Text) :
    mentioned (a ++ c :: b) = mentioned a ++ mentioned b := by
  rw [mentioned, identifiers_append_break hc, List.filter_append]
  rfl

/-- The names that a condition mentions. -/
def mentionedBy : Condition → List Text
  | .expr guard => mentioned guard
  | .default => []

/-- A line that opens an arm under a condition. -/
structure Opens (line : Text) (c : Condition) : Prop extends IsLine line where
  /-- It is read as a header. -/
  header : header? (normalize line) = some c
  /-- It mentions what the condition mentions. -/
  mentions : mentioned line = mentionedBy c

section Headers

variable {guard : Text}

/-- Parentheses around a guard keep it apart from the words before it. -/
theorem mentioned_parenthesised {front back : Text} (hfront : mentioned front = [])
    (hback : mentioned back = []) (guard : Text) :
    mentioned (front ++ '(' :: (guard ++ ')' :: back)) = mentioned guard := by
  rw [mentioned_append_break (by decide +kernel), mentioned_append_break (by decide +kernel),
    hfront, hback, List.nil_append, List.append_nil]

/-- A guard is what stands between the first opening and the last closing parenthesis, so its own
parentheses do not matter. -/
theorem conditionText_parenthesised {front back : Text} (hfront : '(' ∉ front)
    (hback : ')' ∉ back) (h : trim guard = guard) :
    conditionText (front ++ '(' :: (guard ++ ')' :: back)) = guard := by
  have hguards : Guards (front ++ '(' :: (guard ++ ')' :: back)) (trim guard) :=
    .between rfl hfront hback
  rw [conditionText_of_guards hguards, h]

theorem trim_header {c : Char} (hc : isBlank c = false) (front guard : Text) :
    trim (c :: (front ++ (guard ++ ") \x7b"))) = c :: (front ++ (guard ++ ") \x7b")) := by
  have hends := trim_of_ends hc (by rfl : isBlank '\x7b' = false) (front ++ (guard ++ ") "))
  rwa [List.append_assoc, List.append_assoc] at hends

theorem opens_opening {c : Condition} (h : IsGuard c) :
    Opens (opening c) c := by
  cases c with
  | default => exact ⟨isLine_of_isPlain rfl, rfl, by decide +kernel⟩
  | expr guard =>
    have hguard : IsInline guard := h
    have hline : opening (.expr guard) = "if ".toList ++ '(' :: (guard ++ ')' :: " \x7b".toList) :=
      rfl
    have htrim : trim (opening (.expr guard)) = opening (.expr guard) :=
      trim_header (by rfl) "f (" guard
    have hnormal : normalize (opening (.expr guard)) = opening (.expr guard) := by
      rw [normalize, htrim]
      exact htrim
    have hguards : conditionText (opening (.expr guard)) = guard := by
      rw [hline, conditionText_parenthesised (by decide) (by decide) hguard.trimmed]
    refine ⟨hline ▸ hguard.isLine rfl, ?_, ?_⟩
    · rw [hnormal]
      exact congrArg (some ∘ Condition.expr) hguards
    · rw [hline]
      exact mentioned_parenthesised (by decide +kernel) (by decide +kernel) guard

theorem opens_reopening {c : Condition} (h : IsGuard c) :
    Opens (reopening c) c := by
  cases c with
  | default => exact ⟨isLine_of_isPlain rfl, rfl, by decide +kernel⟩
  | expr guard =>
    have hguard : IsInline guard := h
    have hline : reopening (.expr guard) =
        "\x7d else if ".toList ++ '(' :: (guard ++ ')' :: " \x7b".toList) := rfl
    have htrim : trim (reopening (.expr guard)) = reopening (.expr guard) :=
      trim_header (by rfl) " else if (" guard
    -- once the brace in front is gone, what is left is trimmed again
    have hnormal : normalize (reopening (.expr guard)) = "else if (" ++ (guard ++ ") \x7b") := by
      rw [normalize, htrim]
      exact (trim_cons_of_isBlank (by rfl : isBlank ' ' = true) _).trans
        (trim_header (by rfl) "lse if (" guard)
    have hguards : conditionText ("else if ".toList ++ '(' :: (guard ++ ')' :: " \x7b".toList)) =
        guard := conditionText_parenthesised (by decide) (by decide) hguard.trimmed
    refine ⟨hline ▸ hguard.isLine rfl, ?_, ?_⟩
    · rw [hnormal]
      exact congrArg (some ∘ Condition.expr) hguards
    · rw [hline]
      exact mentioned_parenthesised (by decide +kernel) (by decide +kernel) guard

end Headers

/-! ## Actions -/

/-- The line of an action. -/
structure Acts (line action : Text) : Prop extends IsLine line where
  /-- It belongs to a body. -/
  body : isBodyLine line = true
  /-- It is read as the action. -/
  kept : action? line = some action
  /-- It mentions what the action mentions. -/
  mentions : mentioned line = mentioned action

theorem acts_actionLine {action : Text} (h : IsAction action) :
    Acts (actionLine action) action := by
  have hline : actionLine action = [' '] ++ ' ' :: (action ++ ';' :: []) := rfl
  obtain ⟨first, rest, rfl⟩ : ∃ first rest, action = first :: rest :=
    List.exists_cons_of_ne_nil (List.ne_nil_of_mem h.assigns)
  have htrim : trim (actionLine (first :: rest)) = first :: rest ++ [';'] := by
    rw [hline, List.singleton_append, trim_cons_of_isBlank (by rfl), trim_cons_of_isBlank (by rfl)]
    exact trim_of_ends (isBlank_of_trim_eq h.trimmed) (by rfl) rest
  have hkept : dropEndWhile (· == ';') (first :: rest ++ [';']) = first :: rest := by
    rw [dropEndWhile_eq_rdropWhile, List.rdropWhile_concat_pos _ _ _ (by rfl),
      List.rdropWhile_eq_self_iff]
    intro hne hlast
    apply h.unseparated
    rw [List.getLast?_eq_some_getLast hne, eq_of_beq hlast]
  refine ⟨hline ▸ h.isLine rfl, ?_, ?_, ?_⟩
  · rw [isBodyLine_iff, hline]
    simpa using h.braceless
  · rw [action?, htrim, if_pos (List.contains_iff_mem.2 (List.mem_append_left _ h.assigns)), hkept]
  · rw [hline, mentioned_append_break (by decide +kernel),
      mentioned_append_break (by decide +kernel),
      (by decide +kernel : mentioned [' '] = []), (by decide +kernel : mentioned [] = []),
      List.nil_append, List.append_nil]

/-! ## Reading the lines -/

section Reading

variable {header : Condition → Text} {arms : List Branch}

/-- The lines after the first header begin with one that ends a body. -/
theorem chainLines_reopening (arms : List Branch) :
    ∃ line rest, chainLines reopening arms = line :: rest ∧ ¬ isBodyLine line = true := by
  cases arms with
  | nil => exact ⟨_, _, rfl, by decide⟩
  | cons arm rest =>
    refine ⟨_, _, rfl, ?_⟩
    cases arm.condition <;> exact Bool.false_ne_true

/-- A header and the lines of actions after it are read as an arm. -/
theorem branches_arm {line : Text} {arm : Branch} (hopens : Opens line arm.condition)
    (hactions : ∀ action ∈ arm.actions, IsAction action) (arms : List Branch) :
    (Findings.ofLines
        (line :: (arm.actions.map actionLine ++ chainLines reopening arms))).branches =
      arm :: (Findings.ofLines (chainLines reopening arms)).branches := by
  have hbody : ∀ line ∈ arm.actions.map actionLine, isBodyLine line = true :=
    List.forall_mem_map.2 fun action h => (acts_actionLine (hactions action h)).body
  obtain ⟨stop, rest, hlater, hstop⟩ := chainLines_reopening arms
  have htake : (arm.actions.map actionLine ++ chainLines reopening arms).takeWhile isBodyLine =
      arm.actions.map actionLine := by
    rw [List.takeWhile_append_of_pos hbody, hlater, List.takeWhile_cons_of_neg hstop,
      List.append_nil]
  have hdrop : (arm.actions.map actionLine ++ chainLines reopening arms).dropWhile isBodyLine =
      chainLines reopening arms := by
    rw [List.dropWhile_append_of_pos hbody, hlater, List.dropWhile_cons_of_neg hstop]
  have hkept : (arm.actions.map actionLine).filterMap action? = arm.actions := by
    rw [List.filterMap_map]
    refine (List.filterMap_congr fun action h => ?_).trans List.filterMap_some
    exact (acts_actionLine (hactions action h)).kept
  rw [Findings.ofLines, hopens.header]
  simp only [htake, hdrop, hkept]

/-- **The lines of a chain are read as its arms.** -/
theorem branches_chainLines (hheader : ∀ c, IsGuard c → Opens (header c) c)
    (h : ∀ arm ∈ arms, IsArm arm) :
    (Findings.ofLines (chainLines header arms)).branches = arms := by
  induction arms generalizing header with
  | nil =>
    rw [chainLines]
    decide +kernel
  | cons arm rest ih =>
    obtain ⟨harm, hrest⟩ := List.forall_mem_cons.1 h
    rw [chainLines, branches_arm (hheader _ harm.guard) harm.actions,
      ih (fun _ => opens_reopening) hrest]

/-- What an arm mentions. -/
def armMentions (arm : Branch) : List Text :=
  mentionedBy arm.condition ++ arm.actions.flatMap mentioned

/-- The lines of a chain mention what its arms mention. -/
theorem flatMap_mentioned_chainLines (hheader : ∀ c, IsGuard c → Opens (header c) c)
    (h : ∀ arm ∈ arms, IsArm arm) :
    (chainLines header arms).flatMap mentioned = arms.flatMap armMentions := by
  induction arms generalizing header with
  | nil =>
    rw [chainLines]
    decide +kernel
  | cons arm rest ih =>
    obtain ⟨harm, hrest⟩ := List.forall_mem_cons.1 h
    have hbody : (arm.actions.map actionLine).flatMap mentioned =
        arm.actions.flatMap mentioned := by
      rw [List.flatMap_map]
      exact List.flatMap_congr fun action h => (acts_actionLine (harm.actions action h)).mentions
    rw [chainLines, List.flatMap_cons, List.flatMap_append, (hheader _ harm.guard).mentions, hbody,
      ih (fun _ => opens_reopening) hrest, List.flatMap_cons, armMentions, List.append_assoc]

theorem isLine_chainLines (hheader : ∀ c, IsGuard c → Opens (header c) c)
    (h : ∀ arm ∈ arms, IsArm arm) : ∀ line ∈ chainLines header arms, IsLine line := by
  induction arms generalizing header with
  | nil => exact List.forall_mem_singleton.2 (isLine_of_isPlain rfl)
  | cons arm rest ih =>
    obtain ⟨harm, hrest⟩ := List.forall_mem_cons.1 h
    have hbody : ∀ line ∈ arm.actions.map actionLine, IsLine line :=
      List.forall_mem_map.2 fun action h => (acts_actionLine (harm.actions action h)).toIsLine
    exact List.forall_mem_cons.2 ⟨(hheader _ harm.guard).toIsLine,
      List.forall_mem_append.2 ⟨hbody, ih (fun _ => opens_reopening) hrest⟩⟩

end Reading

/-! ## Whole chains -/

section Chains

variable {text : Text} {arms : List Branch}

theorem uncommented_of_isWritten (htext : IsWritten text arms) (h : ∀ arm ∈ arms, IsArm arm) :
    Uncommented text := by
  have hwhole : Uncommented (write arms) := uncommented_flatMap_newline fun line hline =>
    (isLine_chainLines (fun _ => opens_opening) h line hline).uncommented
  rcases htext with rfl | htext
  · exact hwhole
  · exact hwhole.of_prefix (htext ▸ List.prefix_append text _)

/-- The closing brace stands on the last line of a chain. -/
theorem exists_chainLines (header : Condition → Text) (arms : List Branch) :
    ∃ front : List Text, chainLines header arms = front ++ [['\x7d']] := by
  induction arms generalizing header with
  | nil => exact ⟨[], rfl⟩
  | cons arm rest ih =>
    obtain ⟨front, hfront⟩ := ih reopening
    rw [chainLines, hfront, ← List.append_assoc, ← List.cons_append]
    exact ⟨_, rfl⟩

theorem lines_of_isWritten (htext : IsWritten text arms) (h : ∀ arm ∈ arms, IsArm arm) :
    lines text = chainLines opening arms := by
  obtain ⟨front, hfront⟩ := exists_chainLines opening arms
  have hlines : ∀ line ∈ front, '\n' ∉ line ∧ line.getLast? ≠ some '\r' := fun line hline =>
    have his := isLine_chainLines (fun _ => opens_opening) h line
      (hfront ▸ List.mem_append_left _ hline)
    ⟨his.oneLine, his.closed⟩
  have hwrite : write arms = front.flatMap (· ++ ['\n']) ++ ['\x7d'] ++ ['\n'] := by
    rw [write, hfront, List.flatMap_append, List.append_assoc]
    rfl
  rcases htext with rfl | htext
  · rw [hwrite, List.append_assoc, lines_flatMap_newline hlines, hfront]
    rfl
  · rw [hwrite] at htext
    rw [List.append_cancel_right htext, lines_flatMap_newline hlines, hfront]
    rfl

theorem branches_parse_write (htext : IsWritten text arms) (h : ∀ arm ∈ arms, IsArm arm) :
    (parse text).branches = arms := by
  rw [parse, dropComments_of_uncommented (uncommented_of_isWritten htext h),
    lines_of_isWritten htext h]
  exact branches_chainLines (fun _ => opens_opening) h

theorem mentions_parse_write (htext : IsWritten text arms) (h : ∀ arm ∈ arms, IsArm arm) :
    (parse text).mentions = .ofList (arms.flatMap armMentions) := by
  rw [parse, dropComments_of_uncommented (uncommented_of_isWritten htext h), mentions_ofLines,
    lines_of_isWritten htext h]
  exact congrArg NameSet.ofList (flatMap_mentioned_chainLines (fun _ => opens_opening) h)

theorem mem_armMentions_iff (arm : Branch) (word : Text) :
    word ∈ armMentions arm ↔
      ((∃ guard, arm.condition = .expr guard ∧ word ∈ identifiers guard) ∨
        ∃ action ∈ arm.actions, word ∈ identifiers action) ∧ word ∉ keywords := by
  have hmentioned : ∀ t, word ∈ mentioned t ↔ word ∈ identifiers t ∧ word ∉ keywords := by
    simp [mentioned, isKeyword]
  have hguard : word ∈ mentionedBy arm.condition ↔
      (∃ guard, arm.condition = .expr guard ∧ word ∈ identifiers guard) ∧ word ∉ keywords := by
    cases arm.condition with
    | expr guard => simp [mentionedBy, hmentioned]
    | default => simp [mentionedBy]
  rw [armMentions, List.mem_append, hguard, List.mem_flatMap]
  simp only [hmentioned]
  grind

/-- **Reading gets back the chain that was written**: its arms with their conditions and actions, in
their order, as outputs what stands before the first equals signs of the actions, and as mentions
the identifiers of conditions and actions that are no keywords. -/
theorem parse_write (htext : IsWritten text arms) (h : ∀ arm ∈ arms, IsArm arm) :
    (parse text).branches = arms ∧
      (∀ name, name ∈ (parse text).outputs ↔
        ∃ arm ∈ arms, ∃ action ∈ arm.actions, ∃ before after,
          action = before ++ '=' :: after ∧ '=' ∉ before ∧ trim before = name) ∧
      ∀ word, word ∈ (parse text).mentions ↔
        (∃ arm ∈ arms, (∃ guard, arm.condition = .expr guard ∧ word ∈ identifiers guard) ∨
          ∃ action ∈ arm.actions, word ∈ identifiers action) ∧ word ∉ keywords := by
  refine ⟨branches_parse_write htext h, fun name => ?_, fun word => ?_⟩
  · rw [mem_outputs_parse_iff, branches_parse_write htext h]
    simp only [Branch.assigned, List.mem_filterMap, assignedTo?_eq_some_iff]
  · rw [mentions_parse_write htext h, NameSet.mem_ofList, List.mem_flatMap]
    simp only [mem_armMentions_iff, ← and_assoc]
    grind

/-- A chain with an unbalanced condition, an empty one, an arm without actions and an action that
assigns to nothing. -/
def oddChain : List Branch :=
  [⟨.expr ") = \x7d || f(x.y", ["a.b = \x7b 1; c(d) = 2", "== e"]⟩, ⟨.default, []⟩,
    ⟨.expr "", ["else = if / *"]⟩]

/-- Reading gets back this chain, too. -/
theorem parse_write_oddChain :
    (∀ arm ∈ oddChain, IsArm arm) ∧ (parse (write oddChain)).branches = oddChain ∧
      (parse (write oddChain)).outputs.names = ["", "a.b", "else"] ∧
      (parse (write oddChain)).mentions.names = ["a.b", "c", "d", "e", "f", "x.y"] := by
  have harms : ∀ arm ∈ oddChain, IsArm arm := by decide +kernel
  exact ⟨harms, (parse_write (.inl rfl) harms).1, by decide +kernel, by decide +kernel⟩

end Chains

end Script
end RuleReview
