import RuleReview.Proofs.Script.Stripped
import RuleReview.Script.Parse

/-!
# Comments made by taking others out

When a block comment is taken out nothing is put in its place, so what stands before it meets what
stands behind it.  Where that is a slash and a star, a comment opens that the text did not open,
and the pass that made it has gone on already: in `//* */* a */` the comment `/* */` goes and
`/* a */` is left.  This file says exactly when that happens (`GluesComment`), that a second
stripping changes those texts and no others, and that the text which the scanner goes through holds
a comment in just these cases (`dropComments_dropComments_eq_iff`).

It takes a slash right before a block comment, so without one a second stripping changes nothing.

The second pass glues nothing: a line comment goes up to the end of its line, so the character
before it meets nothing but a newline.  That is why an opening that is left was there before the
line comments went (`exists_of_dropLineComments_eq_append_pair`), and why its slash and its star can
be looked for in what the block comments leave (`Parted.exists_split`).

## What is here

* `GluesComment` — a text in which two neighbours of a run of comments open another one.
* `holdsComment_dropComments_iff` — a comment is left of these texts and of no others.
* `length_dropComments_lt` — a text that holds a comment is not done, since it gets shorter.
-/

set_option autoImplicit false

namespace RuleReview
namespace Script

open Text

/-! ## Openings left by the line comments -/

section Line

variable {t before after front back : Text} {d p q : Char}

/-- A line comment is gone through up to the newline that ends it. -/
theorem dropLineComments_comment_newline {comment : Text} (hline : '\n' ∉ comment) (later : Text) :
    dropLineComments ("//".toList ++ comment ++ '\n' :: later) =
      '\n' :: dropLineComments later := by
  rw [dropLineComments_append_newline, dropLineComments_slashes hline, List.nil_append]

/-- A character that is left was there, and both sides of it can be looked at by themselves. -/
theorem exists_of_dropLineComments_eq_append (hd : d ≠ '\n')
    (h : dropLineComments t = before ++ d :: after) :
    ∃ front back, t = front ++ d :: back ∧
      dropLineComments (front ++ [d]) = before ++ [d] ∧ dropLineComments back = after := by
  fun_induction dropLineComments t generalizing before with
  | case1 => simp at h
  | case2 rest ih =>
    obtain ⟨front, back, hrest, hfront, hback⟩ := ih h
    -- what is left begins with the newline that ends the comment
    obtain ⟨front, rfl⟩ : ∃ more, front = '\n' :: more := by
      have hhead := List.head?_dropWhile_not (· ≠ '\n') rest
      rw [hrest] at hhead
      cases front with
      | nil => simp [hd] at hhead
      | cons c more =>
        obtain rfl : c = '\n' := by simpa using hhead
        exact ⟨more, rfl⟩
    have hwhole := List.takeWhile_append_dropWhile (p := (· ≠ '\n')) (l := rest)
    have hline := newline_not_mem_takeWhile rest
    rw [hrest] at hwhole
    generalize rest.takeWhile (· ≠ '\n') = comment at hwhole hline
    subst hwhole
    refine ⟨"//".toList ++ comment ++ '\n' :: front, back, by simp, ?_, hback⟩
    rw [List.append_assoc, List.cons_append, dropLineComments_comment_newline hline, ← hfront,
      List.cons_append, dropLineComments_cons fun hnewline => absurd hnewline (by decide)]
  | case3 c rest hpair ih =>
    have hnil : dropLineComments [d] = [d] := by
      rw [@dropLineComments_cons d [] (by simp), dropLineComments]
    cases before with
    | nil =>
      rw [List.nil_append, List.cons.injEq] at h
      obtain ⟨rfl, hafter⟩ := h
      exact ⟨[], rest, rfl, hnil, hafter⟩
    | cons _ before =>
      rw [List.cons_append, List.cons.injEq] at h
      obtain ⟨rfl, hlater⟩ := h
      obtain ⟨front, back, rfl, hfront, hback⟩ := ih hlater
      refine ⟨c :: front, back, rfl, ?_, hback⟩
      rw [List.cons_append, dropLineComments_cons, hfront, List.cons_append]
      rintro rfl hhead
      cases front with
      | nil => exact hpair back rfl (by rw [← Option.some.inj hhead]; rfl)
      | cons _ front => exact hpair (front ++ d :: back) rfl (by rw [← Option.some.inj hhead]; rfl)

/-- So were two of them that are left beside each other. -/
theorem exists_of_dropLineComments_eq_append_pair (hp : p ≠ '\n') (hq : q ≠ '\n')
    (h : dropLineComments t = before ++ p :: q :: after) :
    ∃ front back, t = front ++ p :: q :: back ∧
      dropLineComments (front ++ [p]) = before ++ [p] ∧ dropLineComments back = after := by
  obtain ⟨front, later, rfl, hfront, hlater⟩ := exists_of_dropLineComments_eq_append hp h
  obtain ⟨back, rfl, hback⟩ := exists_of_dropLineComments_eq_cons hq hlater
  exact ⟨front, back, rfl, hfront, hback⟩

/-- Behind a slash that is in no line comment, a star and what follows it are looked at by
themselves. -/
theorem dropLineComments_append_star (hslash : (dropLineComments front).getLast? = some '/')
    (back : Text) :
    dropLineComments (front ++ '*' :: back) =
      dropLineComments front ++ '*' :: dropLineComments back := by
  have hstar : dropLineComments ('*' :: back) = '*' :: dropLineComments back :=
    dropLineComments_cons (by simp)
  fun_induction dropLineComments front with
  | case1 => simp at hslash
  | case2 rest ih =>
    have hstop : rest.dropWhile (· ≠ '\n') ≠ [] := by
      intro hnil
      rw [hnil, dropLineComments] at hslash
      simp at hslash
    rw [← ih hslash, List.cons_append, List.cons_append, dropLineComments, List.dropWhile_append,
      if_neg (by simpa using hstop)]
  | case3 c rest hpair ih =>
    have hnext : c = '/' → (rest ++ '*' :: back).head? ≠ some '/' := by
      rintro rfl hhead
      cases rest with
      | nil => simp at hhead
      | cons d rest => exact hpair rest rfl (by rw [← Option.some.inj hhead])
    rw [List.cons_append, dropLineComments_cons hnext, List.cons_append]
    by_cases hrest : dropLineComments rest = []
    · -- the slash is the last character, since no line comment begins right behind it
      obtain rfl : c = '/' := by simpa [hrest] using hslash
      cases rest with
      | nil => rw [hrest, List.nil_append, hstar, List.nil_append]
      | cons d rest =>
        rw [dropLineComments] at hrest
        · exact absurd hrest (List.cons_ne_nil _ _)
        · rintro after rfl
          exact absurd rfl (hpair rest rfl)
    · rw [ih (by rwa [List.getLast?_cons_of_ne_nil hrest] at hslash)]

end Line

/-! ## Openings made by taking out block comments -/

section Block

variable {t last front back : Text} {spans : List (Text × Text)}

/-- An opening with an end behind it, in what stands outside of the comments, has its slash before
a comment that was taken out, and its star behind one. -/
theorem Parted.exists_split (h : Parted t spans last)
    (hkept : kept spans last = front ++ ("/*".toList ++ back)) (hback : "*/".toList <:+: back) :
    ∃ earlier later, spans = earlier ++ later ∧ earlier.flatMap (·.1) = front ++ ['/'] ∧
      kept later last = '*' :: back := by
  induction h generalizing front with
  | @plain t hopen =>
    obtain rfl : t = front ++ ("/*".toList ++ back) := hkept
    exact absurd (infix_opening front back) hopen
  | unclosed hopen hclose =>
    have hsuffix := suffix_of_first_opening hopen hkept
    exact absurd (hback.trans hsuffix.isInfix) hclose
  | @comment before body rest last spans hopen hclose _ ih =>
    have hparts : before ++ kept spans last = (front ++ ['/']) ++ '*' :: back := by
      rw [kept, List.flatMap_cons, List.append_assoc] at hkept
      rw [List.append_assoc]
      exact hkept
    rcases List.append_eq_append_iff.1 hparts with ⟨more, hfront, hlater⟩ | ⟨more, hbefore, hmore⟩
    · rcases List.eq_nil_or_concat' more with rfl | ⟨more, d, rfl⟩
      · -- the slash stands right before this comment
        exact ⟨[(before, body)], spans, rfl, by simpa using hfront.symm, hlater⟩
      · -- the slash stands behind it
        rw [← List.append_assoc] at hfront
        obtain ⟨rfl, hd⟩ := List.append_inj' hfront rfl
        obtain rfl : d = '/' := (List.cons.inj hd).1.symm
        have hopening : kept spans last = more ++ ("/*".toList ++ back) := by
          rw [hlater, List.append_assoc]
          rfl
        obtain ⟨earlier, later, rfl, hearlier, hstar⟩ := ih hopening
        exact ⟨(before, body) :: earlier, later, rfl, by simp [hearlier], hstar⟩
    · cases more with
      | nil => exact ⟨[(before, body)], spans, rfl, by simpa using hbefore, hmore.symm⟩
      | cons c more =>
        -- the whole opening would stand before this comment
        obtain ⟨rfl, -⟩ := List.cons.inj hmore
        exact absurd ⟨front, more, by simp [hbefore]⟩ hopen

/-- A slash at the end of what stands before some comments stands right before one of them. -/
theorem Parted.infix_slash {earlier later : List (Text × Text)}
    (h : Parted t (earlier ++ later) last) (hslash : earlier.flatMap (·.1) = front ++ ['/']) :
    "//*".toList <:+: t := by
  induction earlier generalizing t front with
  | nil => simp at hslash
  | cons span earlier ih =>
    cases h with
    | @comment before body rest _ _ _ _ hrest =>
      rw [List.flatMap_cons] at hslash
      by_cases hnext : earlier.flatMap (·.1) = []
      · obtain rfl : before = front ++ ['/'] := by simpa [hnext] using hslash
        exact ⟨front, body ++ ("*/".toList ++ rest), by simp⟩
      · obtain ⟨more, d, hmore⟩ := (List.eq_nil_or_concat' _).resolve_left hnext
        rw [hmore, ← List.append_assoc] at hslash
        obtain rfl : d = '/' := by simpa using (List.append_inj' hslash rfl).2
        refine (ih hrest hmore).trans (List.IsSuffix.isInfix ?_)
        exact ⟨before ++ ("/*".toList ++ (body ++ "*/".toList)), by simp⟩

/-- Each comment that is taken out makes a text shorter, by its opening and its end at least. -/
theorem Parted.length_le (h : Parted t spans last) :
    (kept spans last).length + 4 * spans.length ≤ t.length := by
  induction h with
  | plain => simp [kept]
  | unclosed => simp [kept]
  | @comment before body rest last spans _ _ _ ih =>
    have hopening : "/*".toList.length = 2 := rfl
    have hclosing : "*/".toList.length = 2 := rfl
    simp only [kept, List.flatMap_cons, List.length_append, List.length_cons] at ih ⊢
    omega

end Block

/-! ## A second stripping -/

section Twice

variable {t : Text}

/-- A text in which taking out block comments opens another one: a slash stands right before a run
of them and a star right behind it, the slash is in no line comment, and an end follows. -/
def GluesComment (t : Text) : Prop :=
  ∃ earlier later last front back, Parted t (earlier ++ later) last ∧
    earlier.flatMap (·.1) = front ++ ['/'] ∧ kept later last = '*' :: back ∧
    (dropLineComments (front ++ ['/'])).getLast? = some '/' ∧
    "*/".toList <:+: dropLineComments back

/-- A comment is left just if one was made by taking others out. -/
theorem holdsComment_dropComments_iff : HoldsComment (dropComments t) ↔ GluesComment t := by
  constructor
  · rintro ⟨before, body, rest, hleft⟩
    obtain ⟨spans, last, hparted⟩ := exists_parted t
    have hpairs : dropLineComments (kept spans last) =
        before ++ '/' :: '*' :: (body ++ '*' :: '/' :: rest) := by
      rwa [dropComments, dropBlockComments_eq_kept hparted] at hleft
    -- the opening and the end stood there before the line comments went
    obtain ⟨front, back, hkept, hfront, hback⟩ :=
      exists_of_dropLineComments_eq_append_pair (by decide) (by decide) hpairs
    obtain ⟨inside, after, hinside, -, -⟩ :=
      exists_of_dropLineComments_eq_append_pair (by decide) (by decide) hback
    obtain ⟨earlier, later, rfl, hslash, hstar⟩ :=
      hparted.exists_split hkept ⟨inside, after, by rw [hinside]; simp⟩
    refine ⟨earlier, later, last, front, back, hparted, hslash, hstar, ?_, ?_⟩
    · rw [hfront, List.getLast?_concat]
    · exact ⟨body, rest, by rw [hback]; simp⟩
  · rintro ⟨earlier, later, last, front, back, hparted, hslash, hstar, hline, hclose⟩
    have hkept : kept (earlier ++ later) last = (front ++ ['/']) ++ '*' :: back := by
      rw [kept, List.flatMap_append, hslash, List.append_assoc, ← kept, hstar]
    obtain ⟨before, hbefore⟩ := List.getLast?_eq_some_iff.1 hline
    obtain ⟨body, rest, hclose⟩ := hclose
    refine ⟨before, body, rest, ?_⟩
    rw [dropComments, dropBlockComments_eq_kept hparted, hkept, dropLineComments_append_star hline,
      hbefore, ← hclose]
    simp

/-- A text that holds a comment is not done: it gets shorter. -/
theorem length_dropComments_lt (h : HoldsComment t) : (dropComments t).length < t.length := by
  obtain ⟨spans, last, hparted⟩ := exists_parted t
  have hspans : 0 < spans.length := List.length_pos_iff.2 ((holdsComment_iff hparted).1 h)
  have hblock := hparted.length_le
  have hline := (dropLineComments_sublist (kept spans last)).length_le
  rw [dropComments, dropBlockComments_eq_kept hparted]
  omega

/-- **A second stripping.**  It changes what the first one left just if that still holds a comment,
and this is so just if the first one made it, by bringing together a slash before a run of comments
and a star behind it.  No comment is left of a text in which none opens right behind a slash. -/
theorem dropComments_dropComments_eq_iff (t : Text) :
    (dropComments (dropComments t) = dropComments t ↔ ¬ GluesComment t) ∧
    (HoldsComment (dropComments t) ↔ GluesComment t) ∧
    (¬ "//*".toList <:+: t → dropComments (dropComments t) = dropComments t) := by
  have hsame : ¬ GluesComment t → dropComments (dropComments t) = dropComments t := by
    intro h
    rw [← holdsComment_dropComments_iff] at h
    exact dropComments_of_not_holdsComment (not_infix_dropLineComments _) h
  refine ⟨⟨fun h hglues => ?_, hsame⟩, holdsComment_dropComments_iff, fun h => hsame ?_⟩
  · have hshorter := length_dropComments_lt (holdsComment_dropComments_iff.2 hglues)
    rw [h] at hshorter
    exact Nat.lt_irrefl _ hshorter
  · rintro ⟨earlier, later, last, front, back, hparted, hslash, -⟩
    exact h (hparted.infix_slash hslash)

/-- The neighbours of a comment can open another one when it is taken out.  What is left is
stripped again by a second stripping, and in a branch the scanner reads it as an action. -/
theorem dropComments_glues_neighbours :
    dropComments "//* */* a */".toList = "/* a */".toList ∧
    dropComments "/* a */".toList = [] ∧
    (parse "if (a) \x7b\n//* b */* y = 2; */\n\x7d".toList).branches.map (·.actions) =
      [["/* y = 2; */".toList]] ∧
    ¬ ∀ t, dropComments (dropComments t) = dropComments t := by
  have hfirst : dropComments "//* */* a */".toList = "/* a */".toList := by decide +kernel
  have hsecond : dropComments "/* a */".toList = [] := by decide +kernel
  refine ⟨hfirst, hsecond, by decide +kernel, fun h => ?_⟩
  have hsame := h "//* */* a */".toList
  rw [hfirst, hsecond] at hsame
  cases hsame

end Twice

end Script
end RuleReview
