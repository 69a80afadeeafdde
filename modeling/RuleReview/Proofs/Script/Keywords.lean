import RuleReview.Proofs.Script.Pass

/-!
# Headers and keywords

A header is recognized by the letters that a line begins with, not by the words in it.  So a line
that assigns to `ifEligible` opens a branch without a condition, one that assigns to `elsewhere`
opens an `else` arm, and so does `else  if` with a second space.  This file compares the two ways of
reading: a line is read in the same way by its letters and by its keywords exactly if it is spelled
out (`SpelledOut`).

## What is here

* `HeaderKind`, `Role.kind?` — the kinds of header, and which one a line was read as.
* `firstWord`, `gap`, `nextWord` — the words of a line, and `keywordKind?`, the reading by keywords.
* `SpelledOut`, `letterKind?_eq_keywordKind?_iff` — when the two readings agree.
* `Meets` — the lines that a pass comes by, and `headers_by_letters`, which says how they are read.
* `ReadByKeywords` — that a script is read by keywords; then scripts that are not.
-/

set_option autoImplicit false

namespace RuleReview
namespace Script

open Text

/-! ## Kinds of header -/

/-- The two kinds of header. -/
inductive HeaderKind where
  /-- A header that gives a condition. -/
  | conditional
  /-- The header of an `else` arm. -/
  | otherwise
  deriving DecidableEq

/-- The kind of header that opens a branch under a condition. -/
def kindOf : Condition → HeaderKind
  | .expr _ => .conditional
  | .default => .otherwise

/-- The kind of header that a line was read as. -/
def Role.kind? (role : Role) : Option HeaderKind := role.condition?.map kindOf

/-- The kind of header that a line is by the letters it begins with. -/
def letterKind? (line : Text) : Option HeaderKind := (header? line).map kindOf

/-! ## Words -/

/-- The word that a line begins with; empty if it begins with none. -/
def firstWord (line : Text) : Text := line.takeWhile isWord

/-- Whether a character may stand between the words of a header. -/
def isGap (c : Char) : Bool := c == ' ' || c == '\t'

/-- The spaces and tabs that follow the first word. -/
def gap (line : Text) : Text := (line.dropWhile isWord).takeWhile isGap

/-- The word that follows the first word and a gap.  As a word goes as far as it can, there is none
if there is no gap. -/
def nextWord (line : Text) : Text := firstWord ((line.dropWhile isWord).dropWhile isGap)

/-- The kind of header that a line is by its keywords. -/
def keywordKind? (line : Text) : Option HeaderKind :=
  if firstWord line = "if".toList ∨
      firstWord line = "else".toList ∧ nextWord line = "if".toList then some .conditional
  else if firstWord line = "else".toList then some .otherwise
  else none

/-- That the letters a line begins with are words. -/
structure SpelledOut (line : Text) : Prop where
  /-- The first word is no longer word that begins like `if`. -/
  if_word : "if".toList <+: firstWord line → firstWord line = "if".toList
  /-- It is no longer word that begins like `else`. -/
  else_word : "else".toList <+: firstWord line → firstWord line = "else".toList
  /-- If a word that begins like `if` follows `else`, a single space is before it exactly if it is
  the word `if`. -/
  next_word : firstWord line = "else".toList → "if".toList <+: nextWord line →
    (gap line = [' '] ↔ nextWord line = "if".toList)

variable {line : Text}

/-- A line begins with a word if its first word does. -/
theorem prefix_firstWord_iff (line : Text) {word : Text} (hword : ∀ c ∈ word, isWord c = true) :
    word <+: firstWord line ↔ word <+: line := by
  constructor
  · intro h
    exact h.trans (List.takeWhile_prefix isWord)
  · rintro ⟨rest, rfl⟩
    rw [firstWord, List.takeWhile_append_of_pos hword]
    exact List.prefix_append _ _

theorem firstWord_append_gap_append (line : Text) :
    line = firstWord line ++ (gap line ++ (line.dropWhile isWord).dropWhile isGap) := by
  rw [firstWord, gap, List.takeWhile_append_dropWhile, List.takeWhile_append_dropWhile]

theorem isWord_of_mem_if : ∀ c ∈ "if".toList, isWord c = true :=
  List.all_eq_true.1 (by decide +kernel)

theorem isWord_of_mem_else : ∀ c ∈ "else".toList, isWord c = true :=
  List.all_eq_true.1 (by decide +kernel)

/-- A line begins with `else if` if `else` is its first word, a single space follows, and then a
word that begins with `if`. -/
theorem elseIf_prefix_iff :
    "else if".toList <+: line ↔
      firstWord line = "else".toList ∧ gap line = [' '] ∧ "if".toList <+: nextWord line := by
  have hspace : isWord ' ' = false := by decide +kernel
  constructor
  · rintro ⟨rest, rfl⟩
    have hsplit : "else if".toList ++ rest = "else".toList ++ ' ' :: ("if".toList ++ rest) := rfl
    have hdrop : ("else if".toList ++ rest).dropWhile isWord = ' ' :: ("if".toList ++ rest) := by
      rw [hsplit, dropWhile_append_of_stop hspace, List.dropWhile_eq_nil_iff.2 isWord_of_mem_else,
        List.nil_append]
    refine ⟨?_, ?_, ?_⟩
    · rw [firstWord, hsplit, takeWhile_append_of_stop hspace]
      exact List.takeWhile_eq_self_iff.2 isWord_of_mem_else
    · rw [gap, hdrop]
      rfl
    · rw [nextWord, hdrop, prefix_firstWord_iff _ isWord_of_mem_if]
      exact List.prefix_append _ rest
  · rintro ⟨hfirst, hgap, hnext⟩
    obtain ⟨rest, hrest⟩ := (prefix_firstWord_iff _ isWord_of_mem_if).1 hnext
    rw [firstWord_append_gap_append line, hfirst, hgap, ← hrest]
    exact ⟨rest, rfl⟩

/-- What the letters of a line come to, told by its words. -/
theorem letterKind?_eq (line : Text) :
    letterKind? line =
      if "if".toList <+: firstWord line ∨ firstWord line = "else".toList ∧ gap line = [' '] ∧
          "if".toList <+: nextWord line then some .conditional
      else if "else".toList <+: firstWord line then some .otherwise else none := by
  rw [letterKind?, header?_eq, apply_ite (Option.map kindOf), apply_ite (Option.map kindOf)]
  have hif := prefix_firstWord_iff line isWord_of_mem_if
  have helse := prefix_firstWord_iff line isWord_of_mem_else
  exact if_congr (or_congr hif.symm elseIf_prefix_iff) rfl (if_congr helse.symm rfl rfl)

/-- There is nothing if neither of two cases is met. -/
theorem ite_ite_eq_none_iff {α : Type} {p q : Prop} [Decidable p] [Decidable q] {a b : α} :
    (if p then some a else if q then some b else none) = none ↔ ¬ p ∧ ¬ q := by
  by_cases hp : p
  · simp [hp]
  · by_cases hq : q <;> simp [hp, hq]

theorem letterKind?_eq_none_iff (line : Text) :
    letterKind? line = none ↔
      ¬ "if".toList <+: firstWord line ∧ ¬ "else".toList <+: firstWord line := by
  rw [letterKind?_eq, ite_ite_eq_none_iff]
  constructor
  · rintro ⟨hif, helse⟩
    exact ⟨fun hbegins => hif (.inl hbegins), helse⟩
  · rintro ⟨hif, helse⟩
    have hword : firstWord line ≠ "else".toList := fun h => helse (h ▸ List.prefix_refl _)
    exact ⟨not_or.2 ⟨hif, fun h => hword h.1⟩, helse⟩

theorem keywordKind?_eq_none_iff (line : Text) :
    keywordKind? line = none ↔ firstWord line ≠ "if".toList ∧ firstWord line ≠ "else".toList := by
  rw [keywordKind?, ite_ite_eq_none_iff]
  constructor
  · rintro ⟨hif, helse⟩
    exact ⟨fun hword => hif (.inl hword), helse⟩
  · rintro ⟨hif, helse⟩
    exact ⟨not_or.2 ⟨hif, fun h => helse h.1⟩, helse⟩

/-- Nothing begins both like `else` and like `if`. -/
theorem not_if_prefix_of_else_prefix (h : "else".toList <+: line) : ¬ "if".toList <+: line := by
  intro hif
  rcases List.prefix_or_prefix_of_prefix h hif with hshort | hshort
  · exact absurd hshort (by decide)
  · exact absurd hshort (by decide)

/-- Two choices between the same different things agree if what they depend on does. -/
theorem ite_eq_ite_iff_of_ne {α : Type} {p q : Prop} [Decidable p] [Decidable q] {a b : α}
    (h : a ≠ b) : ((if p then a else b) = if q then a else b) ↔ (p ↔ q) := by
  by_cases hp : p
  · rw [if_pos hp, iff_true_left hp]
    exact ⟨fun heq => by_contra fun hq => h (heq.trans (if_neg hq)), fun hq => (if_pos hq).symm⟩
  · rw [if_neg hp, iff_false_left hp]
    exact ⟨fun heq hq => h ((if_pos hq).symm.trans heq.symm), fun hq => (if_neg hq).symm⟩

/-- After `else`, the letters look for a single space and the beginning of a word. -/
theorem letterKind?_of_else (h : firstWord line = "else".toList) :
    letterKind? line =
      if gap line = [' '] ∧ "if".toList <+: nextWord line then some .conditional
      else some .otherwise := by
  have hnot := not_if_prefix_of_else_prefix (List.prefix_refl "else".toList)
  rw [letterKind?_eq, h, if_pos (List.prefix_refl _)]
  refine if_congr ⟨fun hor => (hor.resolve_left hnot).2, fun hand => ?_⟩ rfl rfl
  exact .inr ⟨rfl, hand⟩

/-- After `else`, the keywords look for a word, whatever gap is before it. -/
theorem keywordKind?_of_else (h : firstWord line = "else".toList) :
    keywordKind? line =
      if nextWord line = "if".toList then some .conditional else some .otherwise := by
  rw [keywordKind?, h, if_pos rfl]
  refine if_congr ⟨fun hor => (hor.resolve_left (by decide)).2, fun hnext => ?_⟩ rfl rfl
  exact .inr ⟨rfl, hnext⟩

/-- **A line is read by its letters as by its keywords exactly if it is spelled out.** -/
theorem letterKind?_eq_keywordKind?_iff (line : Text) :
    letterKind? line = keywordKind? line ↔ SpelledOut line := by
  by_cases hif : firstWord line = "if".toList
  · -- both readings take the line for a condition
    have hletters : letterKind? line = some .conditional := by
      rw [letterKind?_eq, if_pos (.inl (hif ▸ List.prefix_refl _))]
    have hkeywords : keywordKind? line = some .conditional := by
      rw [keywordKind?, if_pos (.inl hif)]
    refine iff_of_true (hletters.trans hkeywords.symm) ⟨fun _ => hif, ?_, ?_⟩
    · rw [hif]
      exact fun h => absurd h (by decide)
    · rw [hif]
      exact fun h => absurd h (by decide)
  by_cases helse : firstWord line = "else".toList
  · -- the kind depends on what follows the word
    have hagree : letterKind? line = keywordKind? line ↔
        (gap line = [' '] ∧ "if".toList <+: nextWord line ↔ nextWord line = "if".toList) := by
      rw [letterKind?_of_else helse, keywordKind?_of_else helse]
      exact ite_eq_ite_iff_of_ne (by decide)
    have hbegins : nextWord line = "if".toList → "if".toList <+: nextWord line :=
      fun h => h ▸ List.prefix_refl _
    rw [hagree]
    constructor
    · intro h
      have hnot : ¬ "if".toList <+: firstWord line :=
        not_if_prefix_of_else_prefix (helse ▸ List.prefix_refl _)
      refine ⟨fun hp => absurd hp hnot, fun _ => helse, fun _ hnext => ?_⟩
      exact ⟨fun hgap => h.1 ⟨hgap, hnext⟩, fun hword => (h.2 hword).1⟩
    · intro h
      constructor
      · rintro ⟨hgap, hnext⟩
        exact (h.next_word helse hnext).1 hgap
      · intro hword
        exact ⟨(h.next_word helse (hbegins hword)).2 hword, hbegins hword⟩
  · -- by its keywords the line is no header
    rw [(keywordKind?_eq_none_iff line).2 ⟨hif, helse⟩, letterKind?_eq_none_iff]
    constructor
    · rintro ⟨hnotIf, hnotElse⟩
      exact ⟨fun h => absurd h hnotIf, fun h => absurd h hnotElse, fun h => absurd h helse⟩
    · intro h
      exact ⟨fun hp => hif (h.if_word hp), fun hp => helse (h.else_word hp)⟩

/-! ## The lines of a script -/

/-- Among lines that play their parts one after the other, one that is met at a place. -/
inductive Meets : Place → List Text → List Role → Place → Text → Role → Prop
  | here {place : Place} {line : Text} {rest : List Text} {role : Role} {roles : List Role} :
      Meets place (line :: rest) (role :: roles) place line role
  | later {start place : Place} {first line : Text} {rest : List Text} {role before : Role}
      {roles : List Role} (h : Meets before.next rest roles place line role) :
      Meets start (first :: rest) (before :: roles) place line role

/-- Whatever line a pass meets plays the part that it is read as there. -/
theorem reads_of_meets {start place : Place} {ls : List Text} {roles : List Role} {role : Role}
    (hpass : Pass start ls roles) (h : Meets start ls roles place line role) :
    Reads place line role := by
  induction h with
  | here =>
    cases hpass with
    | line hreads _ => exact hreads
  | later _ ih =>
    cases hpass with
    | line _ hlater => exact ih hlater

/-- A line outside every body, or one that ends a body, is read by its letters. -/
theorem kind?_of_reads {place : Place} {role : Role} (h : Reads place line role)
    (hfree : place = .outside ∨ '}' ∈ line) : role.kind? = letterKind? (examined line) := by
  rw [← (reads_iff place line role).1 h, roleAt_free hfree, letterKind?, header?_eq,
    apply_ite Role.kind?, apply_ite Role.kind?, apply_ite (Option.map kindOf),
    apply_ite (Option.map kindOf)]
  rfl

/-- How a line that may be a header is read. -/
structure Role.ByLetters (role : Role) (line : Text) : Prop where
  /-- It opens a branch under a condition if it begins with `if` or with `else if`. -/
  conditional_iff : role.kind? = some .conditional ↔
    "if".toList <+: line ∨ "else if".toList <+: line
  /-- It opens an `else` arm if it begins with `else` and not with `else if`. -/
  otherwise_iff : role.kind? = some .otherwise ↔
    "else".toList <+: line ∧ ¬ "else if".toList <+: line
  /-- Its keywords tell the same if its words are spelled out, and only then. -/
  keyword_iff : role.kind? = keywordKind? line ↔ SpelledOut line

theorem byLetters_of_kind? {role : Role} (h : role.kind? = letterKind? line) :
    role.ByLetters line where
  conditional_iff := by
    rw [h, letterKind?, header?_eq]
    split
    · next hif => exact iff_of_true rfl hif
    · next hif =>
      refine iff_of_false ?_ hif
      split <;> simp [kindOf]
  otherwise_iff := by
    rw [h, letterKind?, header?_eq]
    split
    · next hif =>
      refine iff_of_false (by simp [kindOf]) ?_
      rintro ⟨helse, hnot⟩
      exact not_if_prefix_of_else_prefix helse (hif.resolve_right hnot)
    · next hif =>
      split
      · next helse => exact iff_of_true rfl ⟨helse, fun h => hif (.inr h)⟩
      · next helse => exact iff_of_false (by simp) fun h => helse h.1
  keyword_iff := by
    rw [h, letterKind?_eq_keywordKind?_iff]

/-- **Headers are told by the letters a line begins with.**  The branches of a script are those that
the one pass over its lines opens.  A line that the pass meets outside every body, or that ends a
body, opens a branch by its letters, and that is by its keywords if its words are spelled out. -/
theorem headers_by_letters (text : Text) :
    ∃ roles : List Role,
      (∀ others, Pass .outside (lines (dropComments text)) others ↔ others = roles) ∧
      (parse text).branches.map (·.condition) = roles.filterMap Role.condition? ∧
      ∀ place line role, Meets .outside (lines (dropComments text)) roles place line role →
        place = .outside ∨ '}' ∈ line → role.ByLetters (examined line) := by
  refine ⟨rolesFrom .outside (lines (dropComments text)), fun others => ?_, ?_, ?_⟩
  · rw [pass_iff]
    exact eq_comm
  · have hrecord := foldl_record_roles_outside [] (lines (dropComments text))
    rw [List.nil_append] at hrecord
    rw [parse, ← hrecord, map_condition_foldl_record, List.map_nil, List.nil_append]
  · intro place line role hmeets hfree
    have hreads := reads_of_meets ((pass_iff _ _ _).2 rfl) hmeets
    exact byLetters_of_kind? (kind?_of_reads hreads hfree)

/-! ## Scripts that are not read by keywords -/

/-- That the lines of a script that may be headers are read by their keywords. -/
def ReadByKeywords (text : Text) : Prop :=
  ∀ roles, Pass .outside (lines (dropComments text)) roles →
    ∀ place line role, Meets .outside (lines (dropComments text)) roles place line role →
      place = .outside ∨ '}' ∈ line → role.kind? = keywordKind? (examined line)

/-- The first line of a script shows that it is not read by its keywords. -/
theorem not_readByKeywords_of_first {text : Text} (line : Text)
    (hfirst : (lines (dropComments text)).head? = some line)
    (hkinds : letterKind? (examined line) ≠ keywordKind? (examined line)) :
    ¬ ReadByKeywords text := by
  intro h
  obtain ⟨rest, hlines⟩ := List.head?_eq_some_iff.1 hfirst
  have hpass := (pass_iff .outside (lines (dropComments text)) _).2 rfl
  have hreads : Reads .outside line (roleAt .outside line) := (reads_iff _ _ _).2 rfl
  have hmeets : Meets .outside (lines (dropComments text))
      (rolesFrom .outside (lines (dropComments text))) .outside line (roleAt .outside line) := by
    rw [hlines]
    exact .here
  have hkeywords := h _ hpass _ _ _ hmeets (.inl rfl)
  rw [kind?_of_reads hreads (.inl rfl)] at hkeywords
  exact hkinds hkeywords

/-- An assignment to `ifEligible` is read as a condition, one to `elsewhere` as an `else` arm, and
so is `else  if` with two spaces. -/
theorem not_readByKeywords :
    ¬ ReadByKeywords "ifEligible = true;".toList ∧
    ¬ ReadByKeywords "elsewhere = 1;".toList ∧
    ¬ ReadByKeywords "else  if (a) \x7b\nx = 1;\n\x7d".toList := by
  refine ⟨?_, ?_, ?_⟩
  · exact not_readByKeywords_of_first "ifEligible = true;" (by decide +kernel) (by decide +kernel)
  · exact not_readByKeywords_of_first "elsewhere = 1;" (by decide +kernel) (by decide +kernel)
  · exact not_readByKeywords_of_first "else  if (a) \x7b" (by decide +kernel) (by decide +kernel)

end Script
end RuleReview
