import RuleReview.Proofs.Text.Trim
import RuleReview.Script.Comment

/-!
# Comments and what stands beside them

A comment opens with one of two pairs of characters.  A text with neither pair in it is left as it
is (`dropComments_of_uncommented`).  A character that is part of no such pair parts a text into two
which can be looked at one by one (`uncommented_append_cons`).

Both passes go from left to right, so what a text does to what follows it is decided by the text
alone, as long as no pair is made of its last character and the next one.  For block comments a text
is closed, and then it can be looked at by itself (`dropBlockComments_append_of_closed`), or it ends
within a comment (`closed_or_open`).  For line comments only the last line matters
(`dropLineComments_append_newline`, `dropLineComments_append`).
-/

set_option autoImplicit false

namespace RuleReview
namespace Script

open Text

/-- A pair of characters stands on one side of a character that is neither of them. -/
theorem pair_infix_append_cons {x y c : Char} (hx : x ≠ c) (hy : y ≠ c) (a b : Text) :
    [x, y] <:+: a ++ c :: b ↔ [x, y] <:+: a ∨ [x, y] <:+: b := by
  induction a with
  | nil => simp [List.infix_cons_iff, hx]
  | cons d a ih =>
    have hhead : [x, y] <+: d :: (a ++ c :: b) ↔ [x, y] <+: d :: a := by
      cases a with
      | nil => simp [hy]
      | cons e a => simp
    rw [List.cons_append, List.infix_cons_iff, List.infix_cons_iff, hhead, ih, or_assoc]

/-- A text in which no comment opens. -/
structure Uncommented (t : Text) : Prop where
  /-- No line comment opens. -/
  line : ¬ "//".toList <:+: t
  /-- No block comment opens. -/
  block : ¬ "/*".toList <:+: t

instance (t : Text) : Decidable (Uncommented t) :=
  decidable_of_iff (¬ occursIn "//" t = true ∧ ¬ occursIn "/*" t = true) <| by
    rw [occursIn_iff, occursIn_iff]
    exact ⟨fun h => ⟨h.1, h.2⟩, fun h => ⟨h.line, h.block⟩⟩

theorem Uncommented.of_prefix {t whole : Text} (h : Uncommented whole) (ht : t <+: whole) :
    Uncommented t :=
  ⟨fun hline => h.line (hline.trans ht.isInfix), fun hblock => h.block (hblock.trans ht.isInfix)⟩

/-- A character that opens no comment parts a text for the search. -/
theorem uncommented_append_cons {c : Char} (hc : c ≠ '/' ∧ c ≠ '*') (a b : Text) :
    Uncommented (a ++ c :: b) ↔ Uncommented a ∧ Uncommented b := by
  have hline : "//".toList <:+: a ++ c :: b ↔ "//".toList <:+: a ∨ "//".toList <:+: b :=
    pair_infix_append_cons hc.1.symm hc.1.symm a b
  have hblock : "/*".toList <:+: a ++ c :: b ↔ "/*".toList <:+: a ∨ "/*".toList <:+: b :=
    pair_infix_append_cons hc.1.symm hc.2.symm a b
  constructor
  · rintro ⟨hnoline, hnoblock⟩
    rw [hline, not_or] at hnoline
    rw [hblock, not_or] at hnoblock
    exact ⟨⟨hnoline.1, hnoblock.1⟩, ⟨hnoline.2, hnoblock.2⟩⟩
  · rintro ⟨ha, hb⟩
    exact ⟨fun h => (hline.1 h).elim ha.line hb.line, fun h => (hblock.1 h).elim ha.block hb.block⟩

/-- No comment opens in lines when none opens in any of them. -/
theorem uncommented_flatMap_newline {ls : List Text} (h : ∀ line ∈ ls, Uncommented line) :
    Uncommented (ls.flatMap (· ++ ['\n'])) := by
  induction ls with
  | nil => decide
  | cons line ls ih =>
    obtain ⟨hline, hrest⟩ := List.forall_mem_cons.1 h
    rw [List.flatMap_cons, List.append_assoc, List.singleton_append,
      uncommented_append_cons (by decide)]
    exact ⟨hline, ih hrest⟩

theorem dropBlockComments_of_unopened {t : Text} (h : ¬ "/*".toList <:+: t) :
    dropBlockComments t = t := by
  fun_induction dropBlockComments t with
  | case1 => rfl
  | case2 rest => exact absurd (List.prefix_append "/*".toList rest).isInfix h
  | case3 rest => exact absurd (List.prefix_append "/*".toList rest).isInfix h
  | case4 c rest _ ih => rw [ih fun hpair => h (hpair.trans (List.suffix_cons c rest).isInfix)]

theorem dropLineComments_of_not_infix {t : Text} (h : ¬ "//".toList <:+: t) :
    dropLineComments t = t := by
  fun_induction dropLineComments t with
  | case1 => rfl
  | case2 rest => exact absurd (List.prefix_append "//".toList rest).isInfix h
  | case3 c rest _ ih => rw [ih fun hpair => h (hpair.trans (List.suffix_cons c rest).isInfix)]

/-- A text in which no comment opens has none to drop. -/
theorem dropComments_of_uncommented {t : Text} (h : Uncommented t) : dropComments t = t := by
  rw [dropComments, dropBlockComments_of_unopened h.block, dropLineComments_of_not_infix h.line]

/-! ## Block comments -/

section Block

variable {t before body rest : Text}

/-- The first end of a comment is looked for in what follows a text that does not hold one. -/
theorem afterClose?_append (hclose : ¬ "*/".toList <:+: body) (hrest : rest.head? ≠ some '/') :
    afterClose? (body ++ rest) = afterClose? rest := by
  induction body with
  | nil => rfl
  | cons c body ih =>
    have hlater : ¬ "*/".toList <:+: body :=
      fun h => hclose (h.trans (List.suffix_cons c body).isInfix)
    rw [List.cons_append, afterClose?, ih hlater]
    rintro after rfl hafter
    cases body with
    | nil => simp_all
    | cons d body =>
      obtain ⟨rfl, -⟩ := List.cons.inj hafter
      exact hclose (List.prefix_append "*/".toList body).isInfix

theorem afterClose?_append_close (hclose : ¬ "*/".toList <:+: body) (rest : Text) :
    afterClose? (body ++ ("*/".toList ++ rest)) = some rest := by
  rw [afterClose?_append hclose (by simp)]
  rfl

theorem exists_of_afterClose?_eq_some (h : afterClose? t = some rest) :
    ∃ body, t = body ++ ("*/".toList ++ rest) ∧ ¬ "*/".toList <:+: body := by
  fun_induction afterClose? t with
  | case1 => cases h
  | case2 after =>
    cases h
    exact ⟨[], rfl, by simp⟩
  | case3 c after hpair ih =>
    obtain ⟨body, rfl, hbody⟩ := ih h
    refine ⟨c :: body, rfl, ?_⟩
    rw [List.infix_cons_iff, not_or]
    refine ⟨?_, hbody⟩
    rintro ⟨more, hmore⟩
    obtain ⟨rfl, rfl⟩ := List.cons.inj hmore
    exact hpair _ rfl rfl

theorem not_infix_of_afterClose?_eq_none (h : afterClose? t = none) : ¬ "*/".toList <:+: t := by
  fun_induction afterClose? t with
  | case1 => simp
  | case2 after => cases h
  | case3 c after hpair ih =>
    rw [List.infix_cons_iff, not_or]
    refine ⟨?_, ih h⟩
    rintro ⟨more, hmore⟩
    obtain ⟨rfl, rfl⟩ := List.cons.inj hmore
    exact hpair _ rfl rfl

/-- A character that opens no comment stays. -/
theorem dropBlockComments_cons {c : Char} (h : c = '/' → t.head? ≠ some '*') :
    dropBlockComments (c :: t) = c :: dropBlockComments t := by
  rw [dropBlockComments]
  rintro after rfl rfl
  exact h rfl rfl

theorem dropBlockComments_append_of_unopened (hopen : ¬ "/*".toList <:+: before)
    (hrest : before.getLast? = some '/' → rest.head? ≠ some '*') :
    dropBlockComments (before ++ rest) = before ++ dropBlockComments rest := by
  induction before with
  | nil => rfl
  | cons c before ih =>
    rw [List.infix_cons_iff, not_or] at hopen
    rw [List.cons_append, dropBlockComments_cons, List.cons_append]
    · cases before with
      | nil => rfl
      | cons d before => rw [ih hopen.2 (by simpa using hrest)]
    · rintro rfl hhead
      cases before with
      | nil => exact hrest rfl hhead
      | cons d before =>
        obtain rfl : d = '*' := Option.some.inj hhead
        exact hopen.1 (List.prefix_append "/*".toList before)

/-- A comment is dropped with its opening and its end. -/
theorem dropBlockComments_of_afterClose?_eq_some (h : afterClose? t = some rest) :
    dropBlockComments ("/*".toList ++ t) = dropBlockComments rest := by
  change dropBlockComments ('/' :: '*' :: t) = _
  rw [dropBlockComments]
  split
  · next after hafter => rw [Option.some.inj (hafter.symm.trans h)]
  · next hafter => cases h.symm.trans hafter

theorem dropBlockComments_comment (hclose : ¬ "*/".toList <:+: body) (rest : Text) :
    dropBlockComments ("/*".toList ++ (body ++ ("*/".toList ++ rest))) = dropBlockComments rest :=
  dropBlockComments_of_afterClose?_eq_some (afterClose?_append_close hclose rest)

/-- What is within a comment that is never closed stays, and so does its opening. -/
theorem dropBlockComments_of_afterClose?_eq_none (h : afterClose? t = none) :
    dropBlockComments ("/*".toList ++ t) = "/*".toList ++ t := by
  change dropBlockComments ('/' :: '*' :: t) = _
  rw [dropBlockComments]
  split
  · next after hafter => cases h.symm.trans hafter
  · rfl

/-- A text of which every block comment is closed: no opening is left when the comments, each taken
from the first opening to the first end after it, are gone through. -/
inductive Closed : Text → Prop
  | plain {t : Text} (hopen : ¬ "/*".toList <:+: t) : Closed t
  | comment {before body rest : Text} (hopen : ¬ "/*".toList <:+: before)
      (hclose : ¬ "*/".toList <:+: body) (h : Closed rest) :
      Closed (before ++ ("/*".toList ++ (body ++ ("*/".toList ++ rest))))

theorem getLast?_comment (before body rest : Text) :
    (before ++ ("/*".toList ++ (body ++ ("*/".toList ++ rest)))).getLast? =
      rest.getLast?.or (some '/') := by
  rw [List.getLast?_append, List.getLast?_append, List.getLast?_append, List.getLast?_append]
  cases rest.getLast? <;> rfl

/-- A character that opens no comment before a text opens none before the beginning of it. -/
theorem unopened_cons {c : Char} (hc : c = '/' → t.head? ≠ some '*')
    (hbefore : before <+: t) (hopen : ¬ "/*".toList <:+: before) :
    ¬ "/*".toList <:+: c :: before := by
  rw [List.infix_cons_iff, not_or]
  refine ⟨?_, hopen⟩
  rintro ⟨more, hmore⟩
  obtain ⟨rfl, rfl⟩ := List.cons.inj hmore
  obtain ⟨later, rfl⟩ := hbefore
  exact hc rfl rfl

theorem Closed.cons {c : Char} (hc : c = '/' → t.head? ≠ some '*') (h : Closed t) :
    Closed (c :: t) := by
  cases h with
  | plain hopen => exact .plain (unopened_cons hc List.prefix_rfl hopen)
  | comment hopen hclose hrest =>
    exact .comment (unopened_cons hc (List.prefix_append _ _) hopen) hclose hrest

/-- A text is closed, or a closed text stands before an opening that nothing in the text closes. -/
theorem closed_or_open (t : Text) :
    Closed t ∨ ∃ front body, Closed front ∧ ¬ "*/".toList <:+: body ∧
      t = front ++ ("/*".toList ++ body) := by
  fun_induction dropBlockComments t with
  | case1 => exact .inl (.plain (by simp))
  | case2 inside rest hafter ih =>
    obtain ⟨body, rfl, hclose⟩ := exists_of_afterClose?_eq_some hafter
    have hcomment : ∀ {t}, Closed t →
        Closed ("/*".toList ++ (body ++ ("*/".toList ++ t))) :=
      fun h => @Closed.comment [] _ _ (by simp) hclose h
    rcases ih with hrest | ⟨front, open', hfront, hopen, rfl⟩
    · exact .inl (hcomment hrest)
    · exact .inr ⟨_, open', hcomment hfront, hopen, by simp⟩
  | case3 inside hafter =>
    exact .inr ⟨[], inside, .plain (by simp), not_infix_of_afterClose?_eq_none hafter, rfl⟩
  | case4 c rest hpair ih =>
    have hc : c = '/' → rest.head? ≠ some '*' := by
      rintro rfl hhead
      obtain ⟨after, rfl⟩ := List.head?_eq_some_iff.1 hhead
      exact hpair after rfl rfl
    rcases ih with hrest | ⟨front, body, hfront, hclose, rfl⟩
    · exact .inl (hrest.cons hc)
    · refine .inr ⟨c :: front, body, hfront.cons fun hslash hhead => hc hslash ?_, hclose, rfl⟩
      rw [List.head?_append, hhead]
      rfl

/-- What follows a closed text can be looked at by itself. -/
theorem dropBlockComments_append_of_closed (h : Closed t)
    (hrest : t.getLast? = some '/' → rest.head? ≠ some '*') :
    dropBlockComments (t ++ rest) = dropBlockComments t ++ dropBlockComments rest := by
  induction h with
  | plain hopen =>
    rw [dropBlockComments_append_of_unopened hopen hrest, dropBlockComments_of_unopened hopen]
  | comment hopen hclose _ ih =>
    simp only [List.append_assoc]
    rw [dropBlockComments_append_of_unopened hopen (by simp), dropBlockComments_comment hclose,
      ih fun hlast => hrest (by rw [getLast?_comment, hlast, Option.some_or]),
      dropBlockComments_append_of_unopened hopen (by simp), dropBlockComments_comment hclose,
      List.append_assoc]

/-- The newline after the last comment of a closed text stays. -/
theorem getLast?_dropBlockComments_of_closed (h : Closed t) (hlast : t.getLast? = some '\n') :
    (dropBlockComments t).getLast? = some '\n' := by
  induction h with
  | plain hopen => rwa [dropBlockComments_of_unopened hopen]
  | @comment before body rest hopen hclose _ ih =>
    rw [getLast?_comment, Option.or_eq_some_iff] at hlast
    have hrest : rest.getLast? = some '\n' := hlast.elim id fun h => absurd h.2 (by decide)
    rw [dropBlockComments_append_of_unopened hopen (by simp), dropBlockComments_comment hclose,
      List.getLast?_append, ih hrest]
    rfl

end Block

/-! ## Line comments -/

section Line

variable {x : Text}

/-- In a text without a newline the search for one goes to the end. -/
theorem dropWhile_newline_eq_nil (hline : '\n' ∉ x) : x.dropWhile (· ≠ '\n') = [] := by
  rw [List.dropWhile_eq_nil_iff]
  intro c hc
  have hne : c ≠ '\n' := fun h => hline (h ▸ hc)
  simp [hne]

theorem newline_not_mem_takeWhile (t : Text) : '\n' ∉ t.takeWhile (· ≠ '\n') :=
  fun h => by simpa using List.mem_takeWhile_imp h

/-- A line comment leaves nothing of its line. -/
theorem dropLineComments_slashes (hline : '\n' ∉ x) : dropLineComments ("//".toList ++ x) = [] := by
  change dropLineComments ('/' :: '/' :: x) = []
  rw [dropLineComments, dropWhile_newline_eq_nil hline, dropLineComments]

theorem dropLineComments_cons {c : Char} {t : Text} (h : c = '/' → t.head? ≠ some '/') :
    dropLineComments (c :: t) = c :: dropLineComments t := by
  rw [dropLineComments]
  rintro after rfl rfl
  exact h rfl rfl

theorem dropLineComments_sublist (t : Text) : (dropLineComments t).Sublist t := by
  fun_induction dropLineComments t with
  | case1 => exact .slnil
  | case2 rest ih =>
    exact (ih.trans (List.dropWhile_sublist _)).trans ((List.sublist_cons_self _ _).trans
      (List.sublist_cons_self _ _))
  | case3 c rest _ ih => exact ih.cons_cons c

/-- A line comment ends before the newline. -/
theorem dropLineComments_append_newline (a b : Text) :
    dropLineComments (a ++ '\n' :: b) = dropLineComments a ++ '\n' :: dropLineComments b := by
  fun_induction dropLineComments a with
  | case1 => exact dropLineComments_cons fun h => absurd h (by decide)
  | case2 rest ih =>
    rw [← ih, ← dropWhile_append_of_stop (by decide)]
    exact dropLineComments.eq_2 _
  | case3 c rest hpair ih =>
    rw [List.cons_append, dropLineComments_cons, ih, List.cons_append]
    rintro rfl hhead
    cases rest with
    | nil => cases hhead
    | cons d rest => exact hpair rest rfl (by rw [Option.some.inj hhead])

/-- What is put behind the last line of a text is part of its comment, or is looked at by
itself. -/
theorem dropLineComments_append (a : Text) (hline : '\n' ∉ x) (hhead : x.head? ≠ some '/') :
    dropLineComments (a ++ x) = dropLineComments a ∨
      dropLineComments (a ++ x) = dropLineComments a ++ dropLineComments x := by
  fun_induction dropLineComments a with
  | case1 => exact .inr rfl
  | case2 rest ih =>
    have hwhole : dropLineComments ('/' :: '/' :: rest ++ x) =
        dropLineComments ((rest ++ x).dropWhile (· ≠ '\n')) := dropLineComments.eq_2 _
    rw [hwhole, List.dropWhile_append]
    cases hrest : rest.dropWhile (· ≠ '\n') with
    | nil =>
      rw [dropWhile_newline_eq_nil hline]
      exact .inl rfl
    | cons c later => rwa [hrest] at ih
  | case3 c rest hpair ih =>
    have hcons : dropLineComments (c :: rest ++ x) = c :: dropLineComments (rest ++ x) := by
      refine dropLineComments_cons ?_
      rintro rfl hnext
      cases rest with
      | nil => exact hhead hnext
      | cons d rest => exact hpair rest rfl (by rw [Option.some.inj hnext])
    rw [hcons, List.cons_append, List.cons.injEq, List.cons.injEq]
    exact ih.imp (⟨rfl, ·⟩) (⟨rfl, ·⟩)

end Line

end Script
end RuleReview
