import Mathlib.Data.List.Forall2
import RuleReview.Proofs.Script.Comments

/-!
# What is left of a text without its comments

The two passes over the comments of a text are described here by what they leave.  Block comments
part a text (`Parted`): each begins at the first opening that is left and goes to the first end
behind it, and they stop at an opening that nothing closes.  Of each line of what stands between
them the part before the first line comment is kept (`KeepsLine`).

A text parts in one way only (`Parted.unique`), so these two relations say what a text without its
comments is (`dropComments_exact`).  They do not say that it has no comments: see the file on
comments that are made by taking others out.

## What is here

* `exists_of_append_pair`, `eq_of_append_pair` — the first place of a pair of characters.
* `Parted`, `kept` — a text with its block comments, and without them.
* `HoldsComment` — a text with a block comment that is closed.
* `KeepsLine` — a line without its line comment.
-/

set_option autoImplicit false

namespace RuleReview
namespace Script

open Text

/-! ## The first place of a pair -/

section Pair

variable {p q : Char} {a b x y : Text}

/-- A pair of characters that is not in the front of a text stands in the rest of it. -/
theorem exists_of_append_pair (ha : ¬ [p, q] <:+: a)
    (hacross : a.getLast? = some p → x.head? ≠ some q) (h : a ++ x = b ++ ([p, q] ++ y)) :
    ∃ more, b = a ++ more ∧ x = more ++ ([p, q] ++ y) := by
  rcases List.append_eq_append_iff.1 h with ⟨more, hb, hx⟩ | ⟨more, rfl, hmore⟩
  · exact ⟨more, hb, hx⟩
  · -- the pair would begin in the front
    rcases more with _ | ⟨c, _ | ⟨d, more⟩⟩
    · exact ⟨[], by simp, by simpa using hmore.symm⟩
    · simp only [List.cons_append, List.nil_append, List.cons.injEq] at hmore
      obtain ⟨rfl, rfl⟩ := hmore
      simp at hacross
    · simp only [List.cons_append, List.nil_append, List.cons.injEq] at hmore
      obtain ⟨rfl, rfl, -⟩ := hmore
      exact absurd ⟨b, more, by simp⟩ ha

/-- A text is parted in one way at the first place of a pair of two different characters. -/
theorem eq_of_append_pair (hpq : p ≠ q) (ha : ¬ [p, q] <:+: a) (hb : ¬ [p, q] <:+: b)
    (h : a ++ ([p, q] ++ x) = b ++ ([p, q] ++ y)) : a = b ∧ x = y := by
  obtain ⟨more, rfl, -⟩ := exists_of_append_pair ha (by simp [hpq]) h
  obtain ⟨less, hless, -⟩ := exists_of_append_pair hb (by simp [hpq]) h.symm
  obtain rfl : more = [] := by
    have hlength := congrArg List.length hless
    simp only [List.length_append] at hlength
    exact List.eq_nil_of_length_eq_zero (by omega)
  simpa using h

end Pair

/-! ## Block comments -/

section Block

variable {t before body rest last : Text} {spans : List (Text × Text)}

/-- A text as its block comments part it.  `spans` holds, from left to right, what stands before
each comment together with what is within it; `last` is what stands behind all of them. -/
inductive Parted : Text → List (Text × Text) → Text → Prop
  /-- No comment opens. -/
  | plain {t : Text} (hopen : ¬ "/*".toList <:+: t) : Parted t [] t
  /-- The first comment that opens is never closed. -/
  | unclosed {before body : Text} (hopen : ¬ "/*".toList <:+: before)
      (hclose : ¬ "*/".toList <:+: body) :
      Parted (before ++ ("/*".toList ++ body)) [] (before ++ ("/*".toList ++ body))
  /-- The first comment that opens goes to the first end behind its opening. -/
  | comment {before body rest last : Text} {spans : List (Text × Text)}
      (hopen : ¬ "/*".toList <:+: before) (hclose : ¬ "*/".toList <:+: body)
      (h : Parted rest spans last) :
      Parted (before ++ ("/*".toList ++ (body ++ ("*/".toList ++ rest)))) ((before, body) :: spans)
        last

/-- What stands outside of the comments. -/
def kept (spans : List (Text × Text)) (last : Text) : Text := spans.flatMap (·.1) ++ last

/-- A text with a block comment that is closed. -/
def HoldsComment (t : Text) : Prop :=
  ∃ before body rest, t = before ++ ("/*".toList ++ (body ++ ("*/".toList ++ rest)))

theorem afterClose?_eq_none (hclose : ¬ "*/".toList <:+: body) : afterClose? body = none := by
  have hbody : afterClose? (body ++ []) = afterClose? [] := afterClose?_append hclose (by simp)
  rwa [List.append_nil] at hbody

/-- However the comments part a text, what stands outside of them is left. -/
theorem dropBlockComments_eq_kept (h : Parted t spans last) :
    dropBlockComments t = kept spans last := by
  induction h with
  | plain hopen => exact dropBlockComments_of_unopened hopen
  | unclosed hopen hclose =>
    rw [dropBlockComments_append_of_unopened hopen (by simp),
      dropBlockComments_of_afterClose?_eq_none (afterClose?_eq_none hclose)]
    rfl
  | comment hopen hclose _ ih =>
    rw [dropBlockComments_append_of_unopened hopen (by simp), dropBlockComments_comment hclose, ih,
      kept, kept, List.flatMap_cons, List.append_assoc]

theorem Parted.cons {c : Char} (hc : c = '/' → t.head? ≠ some '*') (h : Parted t spans last) :
    ∃ spans last, Parted (c :: t) spans last := by
  cases h with
  | plain hopen => exact ⟨_, _, .plain (unopened_cons hc List.prefix_rfl hopen)⟩
  | unclosed hopen hclose =>
    exact ⟨_, _, .unclosed (unopened_cons hc (List.prefix_append _ _) hopen) hclose⟩
  | comment hopen hclose hrest =>
    exact ⟨_, _,
      .comment (unopened_cons hc (List.prefix_append _ _) hopen) hclose hrest⟩

theorem exists_parted (t : Text) : ∃ spans last, Parted t spans last := by
  fun_induction dropBlockComments t with
  | case1 => exact ⟨[], [], .plain (by simp)⟩
  | case2 inside rest hafter ih =>
    obtain ⟨body, rfl, hclose⟩ := exists_of_afterClose?_eq_some hafter
    obtain ⟨spans, last, hrest⟩ := ih
    exact ⟨_, _, @Parted.comment [] body rest last spans (by simp) hclose hrest⟩
  | case3 inside hafter =>
    exact ⟨_, _, @Parted.unclosed [] inside (by simp) (not_infix_of_afterClose?_eq_none hafter)⟩
  | case4 c rest hpair ih =>
    obtain ⟨spans, last, hrest⟩ := ih
    refine hrest.cons ?_
    rintro rfl hhead
    obtain ⟨after, rfl⟩ := List.head?_eq_some_iff.1 hhead
    exact hpair after rfl rfl

theorem infix_opening (before inside : Text) :
    "/*".toList <:+: before ++ ("/*".toList ++ inside) :=
  ⟨before, inside, List.append_assoc _ _ _⟩

theorem infix_closing (body rest : Text) : "*/".toList <:+: body ++ ("*/".toList ++ rest) :=
  ⟨body, rest, List.append_assoc _ _ _⟩

/-- **The comments of a text part it in one way only.** -/
theorem Parted.unique {others : List (Text × Text)} {last' : Text} (h : Parted t spans last)
    (h' : Parted t others last') : others = spans ∧ last' = last := by
  induction h generalizing others last' with
  | plain hopen =>
    cases h' with
    | plain => exact ⟨rfl, rfl⟩
    | unclosed => exact absurd (infix_opening _ _) hopen
    | comment => exact absurd (infix_opening _ _) hopen
  | @unclosed before body hopen hclose =>
    generalize ht : before ++ ("/*".toList ++ body) = t at h'
    cases h' with
    | plain hopen' => exact absurd (ht ▸ infix_opening before body) hopen'
    | unclosed => exact ⟨rfl, rfl⟩
    | @comment before' body' rest' _ _ hopen' _ _ =>
      obtain ⟨-, rfl⟩ := eq_of_append_pair (by decide) hopen hopen' ht
      exact absurd (infix_closing body' rest') hclose
  | @comment before body rest last spans hopen hclose _ ih =>
    generalize ht : before ++ ("/*".toList ++ (body ++ ("*/".toList ++ rest))) = t at h'
    cases h' with
    | plain hopen' => exact absurd (ht ▸ infix_opening before _) hopen'
    | unclosed hopen' hclose' =>
      obtain ⟨-, rfl⟩ := eq_of_append_pair (by decide) hopen hopen' ht
      exact absurd (infix_closing body rest) hclose'
    | comment hopen' hclose' hrest =>
      obtain ⟨rfl, hinside⟩ := eq_of_append_pair (by decide) hopen hopen' ht
      obtain ⟨rfl, rfl⟩ := eq_of_append_pair (by decide) hclose hclose' hinside
      obtain ⟨rfl, rfl⟩ := ih hrest
      exact ⟨rfl, rfl⟩

/-- What follows any opening is the end of what follows the first one. -/
theorem suffix_of_first_opening {body front back : Text} (hopen : ¬ "/*".toList <:+: before)
    (h : before ++ ("/*".toList ++ body) = front ++ ("/*".toList ++ back)) : back <:+ body := by
  obtain ⟨more, -, hmore⟩ := exists_of_append_pair (p := '/') (q := '*') hopen (by simp) h
  have hback : back <:+ "/*".toList ++ body :=
    hmore ▸ (List.suffix_append _ back).trans (List.suffix_append more _)
  refine List.suffix_of_suffix_length_le hback (List.suffix_append _ body) ?_
  have hlength : body.length + 1 + 1 = more.length + (back.length + 1 + 1) := by
    simpa using congrArg List.length hmore
  omega

/-- A text holds a comment if it has one that it is parted by. -/
theorem holdsComment_iff (h : Parted t spans last) : HoldsComment t ↔ spans ≠ [] := by
  constructor
  · rintro ⟨before, body, rest, ht⟩ rfl
    cases h with
    | plain hopen => exact hopen (ht ▸ infix_opening before _)
    | unclosed hopen hclose =>
      have hsuffix := suffix_of_first_opening hopen ht
      exact hclose ((infix_closing body rest).trans hsuffix.isInfix)
  · intro hspans
    cases h with
    | plain => exact absurd rfl hspans
    | unclosed => exact absurd rfl hspans
    | @comment before body rest _ _ _ _ _ => exact ⟨before, body, rest, rfl⟩

theorem dropBlockComments_of_not_holdsComment (h : ¬ HoldsComment t) :
    dropBlockComments t = t := by
  obtain ⟨spans, last, hparted⟩ := exists_parted t
  rw [holdsComment_iff hparted, not_not] at h
  subst h
  rw [dropBlockComments_eq_kept hparted]
  cases hparted <;> rfl

/-- Nothing goes lost: outside of the comments and within them is all that a text has, besides
the openings and the ends. -/
theorem count_eq_of_parted {c : Char} (hslash : c ≠ '/') (hstar : c ≠ '*')
    (h : Parted t spans last) :
    t.count c = (kept spans last).count c + (spans.flatMap (·.2)).count c := by
  induction h with
  | plain => simp [kept]
  | unclosed => simp [kept]
  | comment _ _ _ ih =>
    simp only [kept, List.count_append, List.flatMap_cons] at ih ⊢
    rw [ih]
    have hopening : "/*".toList.count c = 0 := by simp [hslash.symm, hstar.symm]
    have hclosing : "*/".toList.count c = 0 := by simp [hslash.symm, hstar.symm]
    omega

end Block

/-! ## Line comments -/

section Line

/-- A line and what is kept of it: what stands before the first two slashes. -/
inductive KeepsLine : Text → Text → Prop
  /-- A line without a comment. -/
  | whole {line : Text} (h : ¬ "//".toList <:+: line) : KeepsLine line line
  /-- A line with one.  With the first slash of the comment the text before it holds none. -/
  | before {front : Text} (h : ¬ "//".toList <:+: front ++ "/".toList) (comment : Text) :
      KeepsLine (front ++ ("//".toList ++ comment)) front

theorem KeepsLine.cons {c : Char} {line front : Text} (hc : c = '/' → line.head? ≠ some '/')
    (h : KeepsLine line front) : KeepsLine (c :: line) (c :: front) := by
  have hpair : ∀ t : Text, t <+: line → ¬ "//".toList <:+: t → ¬ "//".toList <:+: c :: t := by
    intro t ht hnone
    rw [List.infix_cons_iff, not_or]
    refine ⟨?_, hnone⟩
    rintro ⟨more, hmore⟩
    obtain ⟨rfl, rfl⟩ := List.cons.inj hmore
    obtain ⟨later, rfl⟩ := ht
    exact hc rfl rfl
  cases h with
  | whole h => exact .whole (hpair _ List.prefix_rfl h)
  | before h comment =>
    exact @KeepsLine.before (c :: _) (hpair _ ⟨'/' :: comment, by simp⟩ h) comment

theorem keepsLine_dropLineComments {line : Text} (h : '\n' ∉ line) :
    KeepsLine line (dropLineComments line) := by
  fun_induction dropLineComments line with
  | case1 => exact .whole (by simp)
  | case2 rest ih =>
    simp only [List.mem_cons, not_or] at h
    rw [dropWhile_newline_eq_nil h.2.2, dropLineComments]
    exact @KeepsLine.before [] (fun h => absurd h.length_le (by decide)) rest
  | case3 c rest hpair ih =>
    refine (ih fun h' => h (List.mem_cons_of_mem c h')).cons ?_
    rintro rfl hhead
    obtain ⟨after, rfl⟩ := List.head?_eq_some_iff.1 hhead
    exact hpair after rfl rfl

/-- The lines of a text lose their comments one by one. -/
theorem exists_keepsLine (t : Text) :
    ∃ ls, List.Forall₂ KeepsLine (t.splitOn '\n') ls ∧
      dropLineComments t = ['\n'].intercalate ls := by
  have hline : ∀ line : Text, '\n' ∉ line → line.splitOn '\n' = [line] := by
    intro line hline
    refine List.splitOnP_eq_singleton fun c hc => ?_
    have hne : c ≠ '\n' := fun h => hline (h ▸ hc)
    simp [hne]
  induction hn : t.length using Nat.strong_induction_on generalizing t with
  | _ n ih =>
    by_cases hmem : '\n' ∈ t
    · -- the first line and the others
      obtain ⟨line, later, rfl, hfirst⟩ := List.eq_append_cons_of_mem hmem
      obtain ⟨ls, hkeeps, hlater⟩ := ih later.length (by simp [← hn]; omega) later rfl
      have hsplit : (line ++ '\n' :: later).splitOn '\n' = line :: later.splitOn '\n' := by
        have happend : (line ++ '\n' :: later).splitOn '\n' =
            line.splitOn '\n' ++ later.splitOn '\n' :=
          List.splitOnP_append_cons line later (by simp)
        rw [happend, hline line hfirst, List.singleton_append]
      refine ⟨dropLineComments line :: ls, ?_, ?_⟩
      · rw [hsplit]
        exact .cons (keepsLine_dropLineComments hfirst) hkeeps
      · rw [dropLineComments_append_newline, hlater]
        cases ls with
        | nil =>
          have hlength := hkeeps.length_eq
          exact absurd (List.eq_nil_of_length_eq_zero hlength) (List.splitOn_ne_nil _ _)
        | cons first ls => rw [List.intercalate_cons_cons, List.append_assoc, List.singleton_append]
    · refine ⟨[dropLineComments t], ?_, List.intercalate_singleton.symm⟩
      rw [hline t hmem]
      exact .cons (keepsLine_dropLineComments hmem) .nil

theorem count_newline_dropLineComments (t : Text) :
    (dropLineComments t).count '\n' = t.count '\n' := by
  fun_induction dropLineComments t with
  | case1 => rfl
  | case2 rest ih =>
    have htaken : (rest.takeWhile (· ≠ '\n')).count '\n' = 0 :=
      List.count_eq_zero.2 (newline_not_mem_takeWhile rest)
    have hrest := congrArg (List.count '\n')
      (List.takeWhile_append_dropWhile (p := (· ≠ '\n')) (l := rest))
    rw [List.count_append, htaken, Nat.zero_add] at hrest
    rw [ih, hrest]
    simp
  | case3 c rest _ ih => rw [List.count_cons, List.count_cons, ih]

/-- A character that is left was there, and what is left behind it was behind it. -/
theorem exists_of_dropLineComments_eq_cons {t more : Text} {d : Char} (hd : d ≠ '\n')
    (h : dropLineComments t = d :: more) :
    ∃ rest, t = d :: rest ∧ dropLineComments rest = more := by
  fun_induction dropLineComments t with
  | case1 => cases h
  | case2 rest ih =>
    obtain ⟨later, hlater, -⟩ := ih h
    have hhead := List.head?_dropWhile_not (· ≠ '\n') rest
    rw [hlater] at hhead
    simp [hd] at hhead
  | case3 c rest _ _ =>
    obtain ⟨rfl, rfl⟩ := List.cons.inj h
    exact ⟨rest, rfl, rfl⟩

/-- No line comment is left. -/
theorem not_infix_dropLineComments (t : Text) : ¬ "//".toList <:+: dropLineComments t := by
  fun_induction dropLineComments t with
  | case1 => simp
  | case2 rest ih => exact ih
  | case3 c rest hpair ih =>
    rw [List.infix_cons_iff, not_or]
    refine ⟨?_, ih⟩
    rintro ⟨more, hmore⟩
    obtain ⟨rfl, hslash⟩ := List.cons.inj hmore
    obtain ⟨later, rfl, -⟩ := exists_of_dropLineComments_eq_cons (by decide) hslash.symm
    exact hpair later rfl rfl

end Line

/-! ## Both -/

theorem dropComments_of_not_holdsComment {t : Text} (hline : ¬ "//".toList <:+: t)
    (hblock : ¬ HoldsComment t) : dropComments t = t := by
  rw [dropComments, dropBlockComments_of_not_holdsComment hblock,
    dropLineComments_of_not_infix hline]

/-- **What a text is without its comments.**  Its block comments part it in one way, and of each
line of what stands outside of them that is kept which stands before the first two slashes.  So no
line comment is left, no newline is lost but those within block comments, and a text without two
slashes and without a closed block comment is left as it is. -/
theorem dropComments_exact (t : Text) :
    (∃ spans last ls, Parted t spans last ∧
      (∀ others last', Parted t others last' → others = spans ∧ last' = last) ∧
      List.Forall₂ KeepsLine ((kept spans last).splitOn '\n') ls ∧
      dropComments t = ['\n'].intercalate ls ∧
      t.count '\n' = (dropComments t).count '\n' + (spans.flatMap (·.2)).count '\n') ∧
    ¬ "//".toList <:+: dropComments t ∧
    (¬ "//".toList <:+: t → ¬ HoldsComment t → dropComments t = t) := by
  refine ⟨?_, not_infix_dropLineComments _, dropComments_of_not_holdsComment⟩
  obtain ⟨spans, last, hparted⟩ := exists_parted t
  have hkept := dropBlockComments_eq_kept hparted
  obtain ⟨ls, hkeeps, hlines⟩ := exists_keepsLine (kept spans last)
  refine ⟨spans, last, ls, hparted, fun others last' h => hparted.unique h, hkeeps, ?_, ?_⟩
  · rw [dropComments, hkept, hlines]
  · rw [dropComments, hkept, count_newline_dropLineComments]
    exact count_eq_of_parted (by decide) (by decide) hparted

end Script
end RuleReview
