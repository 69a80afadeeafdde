import Mathlib.Data.List.Pairwise
import Mathlib.Data.Set.List
import RuleReview.Proofs.Script.Mentions

/-!
# Identifiers are the maximal paths of a text

The scan for identifiers moves through a text by four rules: it passes over a character that is in
no word, it passes over a word that begins as no name, it takes a word that begins as one, and it
goes on behind a dot if a name begins there.  This file says what it finds without a scan.

A *mark* is an occurrence of a path that is not part of a longer one: no word character stands on
either side, and what follows is not a dot with a name behind it.  The identifiers are the texts of
the marks of a text, from left to right (`identifiers_marked`), and every word that begins as a name
lies in one of them.  That fixes the marks: a text has no other occurrences of this kind.

The proof goes through a text as the scan does.  A text falls into a front and a rest where no word
goes across, and the marks of the whole are those of the front with those of the rest behind them
(`Marks.append`, `Marks.of_append`).  The front is passed over (`Marked.skip`), or it is a path
(`Marked.path`), which is the first mark whatever the others are (`Marks.eq_cons_of_path`).

## What is here

* `IsSegment`, `IsPath` — the form of an identifier.
* `Occurrence`, `IsRun`, `IsMaximalPath` — words and paths with the places at which they stand.
* `Marks` — the places of all identifiers of a text.
-/

set_option autoImplicit false

namespace RuleReview
namespace Script

open Text

/-! ## Paths -/

/-- A text that begins as a name and goes on with word characters. -/
inductive IsSegment : Text → Prop
  | name {c : Char} {more : Text} (hc : isNameStart c = true)
      (hmore : ∀ d ∈ more, isWord d = true) : IsSegment (c :: more)

/-- One or more segments, with dots between them. -/
inductive IsPath : Text → Prop
  | segment {s : Text} (h : IsSegment s) : IsPath s
  | dot {s path : Text} (hs : IsSegment s) (h : IsPath path) : IsPath (s ++ '.' :: path)

/-- Whether the last character of a text is in a word. -/
def endsInWord (t : Text) : Bool := t.getLast?.any isWord

/-- Whether the first character of a text is in a word. -/
def beginsInWord (t : Text) : Bool := t.head?.any isWord

/-- Whether a text begins as a name does. -/
def beginsName (t : Text) : Bool := t.head?.any isNameStart

/-- Whether a path could go on with a text: with a dot and a name behind it. -/
def ContinuesPath (t : Text) : Prop := ∃ rest, t = '.' :: rest ∧ beginsName rest = true

theorem beginsInWord_of_beginsName {t : Text} (h : beginsName t = true) :
    beginsInWord t = true := by
  cases t with
  | nil => cases h
  | cons c t => exact isWord_of_isNameStart h

theorem endsInWord_append {b : Text} (hb : b ≠ []) (a : Text) :
    endsInWord (a ++ b) = endsInWord b := by
  rw [endsInWord, endsInWord, List.getLast?_append_of_ne_nil _ hb]

theorem IsSegment.isWord {s : Text} (h : IsSegment s) : ∀ c ∈ s, isWord c = true := by
  cases h with
  | name hc hmore => exact List.forall_mem_cons.2 ⟨isWord_of_isNameStart hc, hmore⟩

theorem IsSegment.beginsName {s : Text} (h : IsSegment s) : beginsName s = true := by
  cases h with
  | name hc _ => exact hc

theorem IsSegment.ne_nil {s : Text} (h : IsSegment s) : s ≠ [] := by
  cases h with
  | name => exact List.cons_ne_nil _ _

theorem IsPath.beginsName {path : Text} (h : IsPath path) : beginsName path = true := by
  cases h with
  | segment hs => exact hs.beginsName
  | dot hs _ =>
    cases hs with
    | name hc _ => exact hc

theorem IsPath.ne_nil {path : Text} (h : IsPath path) : path ≠ [] := by
  rintro rfl
  cases h.beginsName

/-- In a run of word characters no second word begins. -/
theorem eq_nil_of_run_split {run before back : Text} {c : Char}
    (hrun : ∀ d ∈ run, isWord d = true) (hsplit : run = before ++ c :: back)
    (hfront : endsInWord before = false) : before = [] := by
  rcases List.eq_nil_or_concat before with rfl | ⟨front, d, rfl⟩
  · rfl
  · have hd : isWord d = true := hrun d (by simp [hsplit])
    simp [endsInWord, hd] at hfront

theorem IsSegment.isNameStart_of_split {s before back : Text} {c : Char} (h : IsSegment s)
    (hs : s = before ++ c :: back) (hfront : endsInWord before = false) : isNameStart c = true := by
  obtain rfl := eq_nil_of_run_split h.isWord hs hfront
  cases h with
  | name hc _ =>
    obtain ⟨rfl, -⟩ := List.cons.inj hs
    exact hc

/-- Each word of a path begins as a name. -/
theorem IsPath.isNameStart_of_split {path before back : Text} {c : Char} (h : IsPath path)
    (hpath : path = before ++ c :: back) (hc : isWord c = true)
    (hfront : endsInWord before = false) : isNameStart c = true := by
  have hdot : Text.isWord '.' = false := by decide +kernel
  induction h generalizing before with
  | segment hs => exact hs.isNameStart_of_split hpath hfront
  | dot hs _ ih =>
    rcases List.append_eq_append_iff.1 hpath with ⟨more, rfl, hmore⟩ | ⟨more, rfl, hmore⟩
    · cases more with
      | nil =>
        obtain ⟨rfl, -⟩ := List.cons.inj hmore
        simp [hdot] at hc
      | cons d more =>
        obtain ⟨-, rfl⟩ := List.cons.inj hmore
        refine ih rfl ?_
        by_cases hmore : more = []
        · rw [hmore]
          rfl
        · rwa [List.append_cons, endsInWord_append hmore] at hfront
    · cases more with
      | nil =>
        obtain ⟨rfl, -⟩ := List.cons.inj hmore
        simp [hdot] at hc
      | cons d more =>
        obtain ⟨rfl, -⟩ := List.cons.inj hmore
        exact hs.isNameStart_of_split rfl hfront

/-- A run of word characters is known from a text that it begins. -/
theorem eq_of_run_append_eq {a b x y : Text} (ha : ∀ c ∈ a, isWord c = true)
    (hb : ∀ c ∈ b, isWord c = true) (hx : beginsInWord x = false) (hy : beginsInWord y = false)
    (h : a ++ x = b ++ y) : a = b ∧ x = y := by
  have htake : ∀ {run rest : Text}, (∀ c ∈ run, isWord c = true) → beginsInWord rest = false →
      (run ++ rest).takeWhile isWord = run := by
    intro run rest hrun hrest
    rw [List.takeWhile_append_of_pos hrun]
    cases rest with
    | nil => simp
    | cons c rest =>
      have hc : isWord c = false := hrest
      simp [hc]
  obtain rfl : a = b := by rw [← htake ha hx, h, htake hb hy]
  exact ⟨rfl, List.append_cancel_left h⟩

/-- **At one place there is at most one path that is not part of a longer one.** -/
theorem IsPath.eq_of_append_eq {a b x y : Text} (ha : IsPath a) (hb : IsPath b)
    (hx : beginsInWord x = false) (hy : beginsInWord y = false) (hxc : ¬ ContinuesPath x)
    (hyc : ¬ ContinuesPath y) (h : a ++ x = b ++ y) : a = b := by
  have hdot : ∀ t : Text, beginsInWord ('.' :: t) = false := fun t => by
    change Text.isWord '.' = false
    decide +kernel
  have hcontinues : ∀ {path t : Text}, IsPath path → ContinuesPath ('.' :: (path ++ t)) := by
    intro path t hpath
    refine ⟨path ++ t, rfl, ?_⟩
    have hbegins := hpath.beginsName
    cases path with
    | nil => cases hbegins
    | cons c path => exact hbegins
  induction ha generalizing b with
  | segment hs =>
    cases hb with
    | segment hs' => exact (eq_of_run_append_eq hs.isWord hs'.isWord hx hy h).1
    | dot hs' hpath =>
      rw [List.append_assoc, List.cons_append] at h
      obtain ⟨-, rfl⟩ := eq_of_run_append_eq hs.isWord hs'.isWord hx (hdot _) h
      exact absurd (hcontinues hpath) hxc
  | dot hs hpath ih =>
    rw [List.append_assoc, List.cons_append] at h
    cases hb with
    | segment hs' =>
      obtain ⟨-, rfl⟩ := eq_of_run_append_eq hs.isWord hs'.isWord (hdot _) hy h
      exact absurd (hcontinues hpath) hyc
    | dot hs' hpath' =>
      rw [List.append_assoc, List.cons_append] at h
      obtain ⟨rfl, hrest⟩ := eq_of_run_append_eq hs.isWord hs'.isWord (hdot _) (hdot _) h
      rw [ih hpath' (List.cons.inj hrest).2]

theorem beginsInWord_dropWhile (t : Text) : beginsInWord (t.dropWhile isWord) = false := by
  have hhead := List.head?_dropWhile_not isWord t
  rw [beginsInWord]
  cases hd : (t.dropWhile isWord).head? with
  | none => rfl
  | some d => simpa [hd] using hhead

/-- What `dotted` takes goes on with a path, and what it leaves does not. -/
theorem dotted_spec {t : Text} (h : beginsInWord t = false) :
    (dotted t).1 ++ (dotted t).2 = t ∧ beginsInWord (dotted t).2 = false ∧
      ¬ ContinuesPath (dotted t).2 ∧ ∀ s, IsSegment s → IsPath (s ++ (dotted t).1) := by
  fun_induction dotted t with
  | case1 c rest hc more ih =>
    obtain ⟨hsplit, hbegins, hcontinues, hpath⟩ := ih (beginsInWord_dropWhile rest)
    refine ⟨?_, hbegins, hcontinues, fun s hs => ?_⟩
    · have hrest : rest.takeWhile isWord ++ (more.1 ++ more.2) = rest := by
        rw [hsplit, List.takeWhile_append_dropWhile]
      simp [hrest]
    · have hsegment : IsSegment (c :: rest.takeWhile isWord) :=
        .name hc fun d hd => List.mem_takeWhile_imp hd
      exact .dot hs (hpath _ hsegment)
  | case2 c rest hc =>
    refine ⟨rfl, h, ?_, fun s hs => by simpa using IsPath.segment hs⟩
    rintro ⟨rest', hrest, hbegins⟩
    obtain ⟨-, rfl⟩ := List.cons.inj hrest
    exact hc hbegins
  | case3 t hshape =>
    refine ⟨rfl, h, ?_, fun s hs => by simpa using IsPath.segment hs⟩
    rintro ⟨rest, rfl, hbegins⟩
    cases rest with
    | nil => cases hbegins
    | cons c rest => exact hshape c rest rfl

/-! ## Places -/

/-- A stretch of a text with its place. -/
structure Occurrence where
  /-- The position of the first character. -/
  start : Nat
  /-- The characters. -/
  word : Text

namespace Occurrence

/-- The position behind the last character. -/
def stop (o : Occurrence) : Nat := o.start + o.word.length

/-- The same stretch in a text with `n` more characters in front. -/
def shift (n : Nat) (o : Occurrence) : Occurrence := ⟨n + o.start, o.word⟩

/-- One stretch lies in another. -/
def Within (o outer : Occurrence) : Prop := outer.start ≤ o.start ∧ o.stop ≤ outer.stop

/-- Two stretches have no position in common. -/
def Apart (o other : Occurrence) : Prop := o.stop ≤ other.start ∨ other.stop ≤ o.start

/-- A stretch stands between two texts, and no word goes on from it or into it. -/
structure Stands (o : Occurrence) (t before after : Text) : Prop where
  /-- The text is the stretch with what stands around it. -/
  text_eq : t = before ++ (o.word ++ after)
  /-- The place is right. -/
  start_eq : o.start = before.length
  /-- No word character stands before it. -/
  front : endsInWord before = false
  /-- No word character stands behind it. -/
  back : beginsInWord after = false

@[simp] theorem word_shift (n : Nat) (o : Occurrence) : (o.shift n).word = o.word := rfl
@[simp] theorem start_shift (n : Nat) (o : Occurrence) : (o.shift n).start = n + o.start := rfl

@[simp] theorem stop_shift (n : Nat) (o : Occurrence) : (o.shift n).stop = n + o.stop :=
  Nat.add_assoc _ _ _

theorem within_shift_iff (n : Nat) (o outer : Occurrence) :
    (o.shift n).Within (outer.shift n) ↔ o.Within outer := by
  simp [Within]

theorem apart_shift_iff (n : Nat) (o other : Occurrence) :
    (o.shift n).Apart (other.shift n) ↔ o.Apart other := by
  simp [Apart]

end Occurrence

open Occurrence

/-- A run of word characters that is as long as it can be. -/
def IsRun (t : Text) (o : Occurrence) : Prop :=
  o.word ≠ [] ∧ (∀ c ∈ o.word, isWord c = true) ∧ ∃ before after, o.Stands t before after

/-- A path that is as long as it can be. -/
def IsMaximalPath (t : Text) (o : Occurrence) : Prop :=
  IsPath o.word ∧ ∃ before after, o.Stands t before after ∧ ¬ ContinuesPath after

/-- The places of all identifiers of a text. -/
structure Marks (t : Text) (os : List Occurrence) : Prop where
  /-- Each is a path that is not part of a longer one. -/
  maximal : ∀ o ∈ os, IsMaximalPath t o
  /-- They go from left to right and have no position in common. -/
  ordered : os.Pairwise fun a b => a.stop ≤ b.start
  /-- A word that begins as a name lies in exactly one of them. -/
  named : ∀ run, IsRun t run → beginsName run.word = true → ∃! o, o ∈ os ∧ run.Within o
  /-- A word that begins otherwise has no position in any of them. -/
  passed : ∀ run, IsRun t run → beginsName run.word = false → ∀ o ∈ os, run.Apart o

/-! ## A text in two parts -/

section Parts

variable {front rest before after : Text} {o : Occurrence}

/-- No word goes on from one text into the next. -/
def PartsWords (front rest : Text) : Prop := endsInWord front = false ∨ beginsInWord rest = false

/-- What begins in the front of a text takes its first character from there. -/
theorem exists_split_of_lt {word : Text} (hword : word ≠ [])
    (h : front ++ rest = before ++ (word ++ after)) (hlt : before.length < front.length) :
    ∃ c back, front = before ++ c :: back ∧ word.head? = some c := by
  rcases List.append_eq_append_iff.1 h with ⟨more, rfl, -⟩ | ⟨more, rfl, hmore⟩
  · rw [List.length_append] at hlt
    omega
  · cases more with
    | nil => simp at hlt
    | cons c back =>
      refine ⟨c, back, rfl, ?_⟩
      cases word with
      | nil => exact absurd rfl hword
      | cons d word => rw [(List.cons.inj hmore).1, List.head?_cons]

theorem Occurrence.exists_shift {n : Nat} (h : n ≤ o.start) : ∃ o' : Occurrence, o = o'.shift n :=
  ⟨⟨o.start - n, o.word⟩, by
    cases o
    simp only [Occurrence.shift, Occurrence.mk.injEq, and_true] at h ⊢
    omega⟩

/-- What stands in the rest of a text stands in the text. -/
theorem Occurrence.Stands.shift (h : o.Stands rest before after) (hparts : PartsWords front rest)
    (hword : beginsInWord o.word = true) :
    (o.shift front.length).Stands (front ++ rest) (front ++ before) after := by
  refine ⟨by simp [h.text_eq], by simp [h.start_eq], ?_, h.back⟩
  by_cases hbefore : before = []
  · subst hbefore
    rw [List.append_nil]
    refine hparts.resolve_right fun hrest => ?_
    -- the rest begins with the word
    rw [h.text_eq, List.nil_append] at hrest
    cases hw : o.word with
    | nil => simp [hw, beginsInWord] at hword
    | cons c word => simp_all [beginsInWord]
  · rw [endsInWord_append hbefore]
    exact h.front

/-- What stands in a text behind its front stands in the rest. -/
theorem Occurrence.Stands.of_shift
    (h : (o.shift front.length).Stands (front ++ rest) before after) :
    ∃ before', o.Stands rest before' after := by
  have hlength : front.length ≤ before.length := by
    have hstart := h.start_eq
    rw [start_shift] at hstart
    omega
  obtain ⟨before', rfl⟩ : front <+: before :=
    List.prefix_of_prefix_length_le (List.prefix_append front rest)
      (h.text_eq ▸ List.prefix_append before _) hlength
  refine ⟨before', ?_, ?_, ?_, h.back⟩
  · have htext := h.text_eq
    rwa [List.append_assoc, List.append_cancel_left_eq] at htext
  · have hstart := h.start_eq
    rw [start_shift, List.length_append] at hstart
    omega
  · have hfront := h.front
    by_cases hbefore : before' = []
    · rw [hbefore]
      rfl
    · rwa [endsInWord_append hbefore] at hfront

/-- A word that begins in the front of a text ends there. -/
theorem IsRun.stop_le (h : IsRun (front ++ rest) o) (hparts : PartsWords front rest)
    (hlt : o.start < front.length) : o.stop ≤ front.length := by
  obtain ⟨-, hword, before, after, hstands⟩ := h
  by_contra hlong
  rw [not_le, Occurrence.stop, hstands.start_eq] at hlong
  rw [hstands.start_eq] at hlt
  -- the word would be two parts, one at the end of the front and one at the beginning of the rest
  rcases List.append_eq_append_iff.1 hstands.text_eq with ⟨more, rfl, -⟩ | ⟨left, rfl, hleft⟩
  · rw [List.length_append] at hlt
    omega
  rcases List.append_eq_append_iff.1 hleft with ⟨more, rfl, -⟩ | ⟨right, hright, rfl⟩
  · rw [List.length_append, List.length_append] at hlong
    omega
  rw [List.length_append] at hlt hlong
  rw [hright] at hword hlong
  rw [List.length_append] at hlong
  rcases hparts with hfront | hrest
  · rcases List.eq_nil_or_concat left with rfl | ⟨left, c, rfl⟩
    · simp at hlt
    · simp [endsInWord, hword c (by simp)] at hfront
  · cases right with
    | nil => simp at hlong
    | cons c right => simp [beginsInWord, hword c (by simp)] at hrest

theorem isRun_shift_iff (hparts : PartsWords front rest) :
    IsRun (front ++ rest) (o.shift front.length) ↔ IsRun rest o := by
  constructor
  · rintro ⟨hne, hword, before, after, hstands⟩
    obtain ⟨before', hstands'⟩ := hstands.of_shift
    exact ⟨hne, hword, before', after, hstands'⟩
  · rintro ⟨hne, hword, before, after, hstands⟩
    refine ⟨hne, hword, front ++ before, after, hstands.shift hparts ?_⟩
    cases hw : o.word with
    | nil => exact absurd hw hne
    | cons c word => exact hword c (by simp [hw])

theorem isMaximalPath_shift_iff (hparts : PartsWords front rest) :
    IsMaximalPath (front ++ rest) (o.shift front.length) ↔ IsMaximalPath rest o := by
  constructor
  · rintro ⟨hpath, before, after, hstands, hafter⟩
    obtain ⟨before', hstands'⟩ := hstands.of_shift
    exact ⟨hpath, before', after, hstands', hafter⟩
  · rintro ⟨hpath, before, after, hstands, hafter⟩
    exact ⟨hpath, front ++ before, after,
      hstands.shift hparts (beginsInWord_of_beginsName hpath.beginsName), hafter⟩

end Parts

/-! ## Marks -/

section Marks

variable {t front rest : Text} {os : List Occurrence}

/-- A word lies in one mark only, since marks have no position in common. -/
theorem existsUnique_within {run : Occurrence} (hrun : run.word ≠ [])
    (hordered : os.Pairwise fun a b => a.stop ≤ b.start) (h : ∃ o ∈ os, run.Within o) :
    ∃! o, o ∈ os ∧ run.Within o := by
  have hlength : run.start < run.stop := by
    have hpos := List.length_pos_iff.2 hrun
    rw [Occurrence.stop]
    omega
  obtain ⟨o, ho, hwithin⟩ := h
  refine ⟨o, ⟨ho, hwithin⟩, ?_⟩
  rintro other ⟨hother, hwithin'⟩
  by_contra hne
  have hapart : os.Pairwise Apart := hordered.imp fun h => .inl h
  have hsymm : Std.Symm Apart := ⟨fun _ _ => Or.symm⟩
  rcases hapart.forall hother ho hne with hbefore | hbehind
  · have := hwithin'.2
    have := hwithin.1
    omega
  · have := hwithin.2
    have := hwithin'.1
    omega

/-- The marks of a text that stand in its front. -/
structure MarksFront (front rest : Text) (os : List Occurrence) : Prop where
  /-- No word goes on from the front into the rest. -/
  parts : PartsWords front rest
  /-- Each is a maximal path of the whole text. -/
  maximal : ∀ o ∈ os, IsMaximalPath (front ++ rest) o
  /-- Each ends in the front. -/
  stop_le : ∀ o ∈ os, o.stop ≤ front.length
  /-- They go from left to right. -/
  ordered : os.Pairwise fun a b => a.stop ≤ b.start
  /-- A word in the front that begins as a name lies in one of them. -/
  named : ∀ run, IsRun (front ++ rest) run → run.start < front.length →
    beginsName run.word = true → ∃ o ∈ os, run.Within o
  /-- A word in the front that begins otherwise has no position in any of them. -/
  passed : ∀ run, IsRun (front ++ rest) run → run.start < front.length →
    beginsName run.word = false → ∀ o ∈ os, run.Apart o

/-- The marks of the front and those of the rest behind them are the marks of a text. -/
theorem Marks.append {os₀ : List Occurrence} (h : Marks rest os) (h₀ : MarksFront front rest os₀) :
    Marks (front ++ rest) (os₀ ++ os.map (shift front.length)) := by
  have hordered : (os₀ ++ os.map (shift front.length)).Pairwise fun a b => a.stop ≤ b.start := by
    refine List.pairwise_append.2 ⟨h₀.ordered, ?_, ?_⟩
    · refine List.pairwise_map.2 (h.ordered.imp fun hab => ?_)
      simpa using hab
    · intro a ha b hb
      obtain ⟨o, -, rfl⟩ := List.mem_map.1 hb
      exact (h₀.stop_le a ha).trans (Nat.le_add_right _ _)
  refine ⟨?_, hordered, ?_, ?_⟩
  · intro o ho
    rcases List.mem_append.1 ho with ho | ho
    · exact h₀.maximal o ho
    · obtain ⟨o, ho', rfl⟩ := List.mem_map.1 ho
      exact (isMaximalPath_shift_iff h₀.parts).2 (h.maximal o ho')
  · intro run hrun hname
    refine existsUnique_within hrun.1 hordered ?_
    rcases Nat.lt_or_ge run.start front.length with hlt | hle
    · obtain ⟨o, ho, hwithin⟩ := h₀.named run hrun hlt hname
      exact ⟨o, List.mem_append_left _ ho, hwithin⟩
    · obtain ⟨run, rfl⟩ := Occurrence.exists_shift hle
      obtain ⟨o, ⟨ho, hwithin⟩, -⟩ := h.named run ((isRun_shift_iff h₀.parts).1 hrun) hname
      exact ⟨o.shift front.length, List.mem_append_right _ (List.mem_map_of_mem ho),
        (within_shift_iff _ _ _).2 hwithin⟩
  · intro run hrun hname o ho
    rcases Nat.lt_or_ge run.start front.length with hlt | hle
    · rcases List.mem_append.1 ho with ho | ho
      · exact h₀.passed run hrun hlt hname o ho
      · obtain ⟨o, -, rfl⟩ := List.mem_map.1 ho
        exact .inl ((hrun.stop_le h₀.parts hlt).trans (Nat.le_add_right _ _))
    · rcases List.mem_append.1 ho with ho | ho
      · exact .inr ((h₀.stop_le o ho).trans hle)
      · obtain ⟨run, rfl⟩ := Occurrence.exists_shift hle
        obtain ⟨o, ho', rfl⟩ := List.mem_map.1 ho
        exact (apart_shift_iff _ _ _).2
          (h.passed run ((isRun_shift_iff h₀.parts).1 hrun) hname o ho')

/-- Those marks of a text that stand behind its front are the marks of the rest. -/
theorem Marks.of_append (os₀ : List Occurrence) (h : Marks (front ++ rest) (os₀ ++ os))
    (hparts : PartsWords front rest) (hstop : ∀ o ∈ os₀, o.stop ≤ front.length)
    (hstart : ∀ o ∈ os, front.length ≤ o.start) :
    ∃ os', os = os'.map (shift front.length) ∧ Marks rest os' := by
  have hshift : os ∈ Set.range (List.map (shift front.length)) := by
    rw [Set.range_list_map]
    exact fun o ho => (Occurrence.exists_shift (hstart o ho)).imp fun _ => Eq.symm
  obtain ⟨os', rfl⟩ := hshift
  have hbehind : ∀ {o}, o ∈ os' → o.shift front.length ∈ os₀ ++ os'.map (shift front.length) :=
    fun ho => List.mem_append_right _ (List.mem_map_of_mem ho)
  have hordered : os'.Pairwise fun a b => a.stop ≤ b.start := by
    have hlater := List.pairwise_map.1 (List.pairwise_append.1 h.ordered).2.1
    refine hlater.imp fun hab => ?_
    simpa using hab
  refine ⟨os', rfl, fun o ho => ?_, hordered, fun run hrun hname => ?_,
    fun run hrun hname o ho => ?_⟩
  · exact (isMaximalPath_shift_iff hparts).1 (h.maximal _ (hbehind ho))
  · refine existsUnique_within hrun.1 hordered ?_
    obtain ⟨o, ⟨ho, hwithin⟩, -⟩ :=
      h.named (run.shift front.length) ((isRun_shift_iff hparts).2 hrun) hname
    rcases List.mem_append.1 ho with ho | ho
    · -- a mark of the front would end before the word does
      have hstop := hstop o ho
      have hpos := List.length_pos_iff.2 hrun.1
      have hlong := hwithin.2
      rw [stop_shift, Occurrence.stop] at hlong
      omega
    · obtain ⟨o, ho', rfl⟩ := List.mem_map.1 ho
      exact ⟨o, ho', (within_shift_iff _ _ _).1 hwithin⟩
  · exact (apart_shift_iff _ _ _).1
      (h.passed (run.shift front.length) ((isRun_shift_iff hparts).2 hrun) hname _ (hbehind ho))

/-- The marks of a text are its only ones, and their texts are the given words. -/
def Marked (t : Text) (words : List Text) : Prop :=
  ∃ os, os.map Occurrence.word = words ∧ Marks t os ∧ ∀ others, Marks t others → others = os

/-- **A front in which no name begins is passed over.** -/
theorem Marked.skip (front : Text) {words : List Text} (h : Marked rest words)
    (hparts : PartsWords front rest)
    (hfront : ∀ before c back, front = before ++ c :: back → endsInWord before = false →
      isNameStart c = false) : Marked (front ++ rest) words := by
  obtain ⟨os, hwords, hmarks, hunique⟩ := h
  have hbehind : ∀ {o : Occurrence} {before after : Text}, o.Stands (front ++ rest) before after →
      beginsName o.word = true → front.length ≤ o.start := by
    intro o before after hstands hname
    by_contra hlt
    rw [not_le, hstands.start_eq] at hlt
    have hne : o.word ≠ [] := by
      intro hnil
      rw [hnil] at hname
      cases hname
    obtain ⟨c, back, hsplit, hhead⟩ := exists_split_of_lt hne hstands.text_eq hlt
    have hc := hfront before c back hsplit hstands.front
    rw [beginsName, hhead, Option.any_some, hc] at hname
    cases hname
  have hnone : MarksFront front rest [] := by
    refine ⟨hparts, by simp, by simp, .nil, fun run hrun hlt hname => ?_, by simp⟩
    obtain ⟨-, -, before, after, hstands⟩ := hrun
    exact absurd (hbehind hstands hname) (Nat.not_le.2 hlt)
  refine ⟨os.map (shift front.length), by rw [List.map_map]; exact hwords, hmarks.append hnone, ?_⟩
  intro others hothers
  obtain ⟨os', rfl, hos'⟩ := Marks.of_append [] hothers hparts (by simp) fun o ho => by
    obtain ⟨hpath, before, after, hstands, -⟩ := hothers.maximal o ho
    exact hbehind hstands hpath.beginsName
  rw [hunique os' hos']

/-- A path begins with a word, and the word begins as a name. -/
theorem IsPath.exists_run {path : Text} (h : IsPath path) (hrest : beginsInWord rest = false) :
    ∃ s, IsRun (path ++ rest) ⟨0, s⟩ ∧ Script.beginsName s = true := by
  cases h with
  | segment hs => exact ⟨_, ⟨hs.ne_nil, hs.isWord, [], rest, ⟨rfl, rfl, rfl, hrest⟩⟩, hs.beginsName⟩
  | @dot s later hs _ =>
    have hdot : beginsInWord ('.' :: (later ++ rest)) = false := by
      change Text.isWord '.' = false
      decide +kernel
    exact ⟨s, ⟨hs.ne_nil, hs.isWord, [], _, ⟨by simp, rfl, rfl, hdot⟩⟩, hs.beginsName⟩

/-- A path that is not part of a longer one is the mark of a front. -/
theorem marksFront_path {path : Text} (hpath : IsPath path) (hrest : beginsInWord rest = false)
    (hmaximal : ¬ ContinuesPath rest) : MarksFront path rest [⟨0, path⟩] := by
  have hstop : ∀ o ∈ [(⟨0, path⟩ : Occurrence)], o.stop ≤ path.length := by
    simp [Occurrence.stop]
  have hstands : Occurrence.Stands ⟨0, path⟩ (path ++ rest) [] rest := ⟨rfl, rfl, rfl, hrest⟩
  refine ⟨.inr hrest, ?_, hstop, List.pairwise_singleton _ _, ?_, ?_⟩
  · exact List.forall_mem_singleton.2 ⟨hpath, [], rest, hstands, hmaximal⟩
  · intro run hrun hlt _
    refine ⟨_, List.mem_singleton_self _, Nat.zero_le _, ?_⟩
    simpa [Occurrence.stop] using hrun.stop_le (.inr hrest) hlt
  · intro run hrun hlt hname
    -- each word of a path begins as a name
    obtain ⟨hne, hword, before, after, hrunStands⟩ := hrun
    rw [hrunStands.start_eq] at hlt
    obtain ⟨c, back, hsplit, hhead⟩ := exists_split_of_lt hne hrunStands.text_eq hlt
    have hc := hpath.isNameStart_of_split hsplit (hword c (List.mem_of_head? hhead))
      hrunStands.front
    rw [beginsName, hhead, Option.any_some, hc] at hname
    cases hname

/-- At the beginning of a text there is at most one maximal path. -/
theorem IsMaximalPath.eq_of_start {path : Text} {o : Occurrence}
    (h : IsMaximalPath (path ++ rest) o) (hstart : o.start = 0) (hpath : IsPath path)
    (hrest : beginsInWord rest = false) (hmaximal : ¬ ContinuesPath rest) : o = ⟨0, path⟩ := by
  obtain ⟨hpath', before, after, hstands, hmaximal'⟩ := h
  have hbefore : before = [] := by
    rw [← List.length_eq_zero_iff, ← hstands.start_eq, hstart]
  have htext := hstands.text_eq
  rw [hbefore, List.nil_append] at htext
  have hword := hpath.eq_of_append_eq hpath' hrest hstands.back hmaximal hmaximal' htext
  rw [hword, ← hstart]

/-- Whatever the marks of a text are, a maximal path at its beginning is the first one. -/
theorem Marks.eq_cons_of_path {path : Text} (h : Marks (path ++ rest) os) (hpath : IsPath path)
    (hrest : beginsInWord rest = false) (hmaximal : ¬ ContinuesPath rest) :
    ∃ later, os = ⟨0, path⟩ :: later ∧ ∀ o ∈ later, path.length ≤ o.start := by
  -- the first word lies in one of the marks, which begins where the word does
  obtain ⟨s, hrun, hname⟩ := hpath.exists_run hrest
  obtain ⟨o, ⟨ho, hwithin⟩, -⟩ := h.named _ hrun hname
  have hstart : o.start = 0 := Nat.le_zero.1 hwithin.1
  obtain rfl := (h.maximal o ho).eq_of_start hstart hpath hrest hmaximal
  cases os with
  | nil => cases ho
  | cons a later =>
    obtain ⟨hlater, -⟩ := List.pairwise_cons.1 h.ordered
    -- a mark before it would be empty
    obtain rfl : a = ⟨0, path⟩ := by
      refine ((List.mem_cons.1 ho).resolve_right fun hmem => ?_).symm
      have hempty := hlater _ hmem
      have hpos := List.length_pos_iff.2 (h.maximal a List.mem_cons_self).1.ne_nil
      simp only [Occurrence.stop] at hempty
      omega
    exact ⟨later, rfl, fun o ho => by simpa [Occurrence.stop] using hlater o ho⟩

/-- **A path that is not part of a longer one is the first mark.** -/
theorem Marked.path {path : Text} {words : List Text} (h : Marked rest words) (hpath : IsPath path)
    (hrest : beginsInWord rest = false) (hmaximal : ¬ ContinuesPath rest) :
    Marked (path ++ rest) (path :: words) := by
  obtain ⟨os, rfl, hmarks, hunique⟩ := h
  have hfirst := marksFront_path hpath hrest hmaximal
  refine ⟨⟨0, path⟩ :: os.map (shift path.length), ?_, hmarks.append hfirst, ?_⟩
  · rw [List.map_cons, List.map_map]
    rfl
  · intro others hothers
    obtain ⟨later, rfl, hlater⟩ := hothers.eq_cons_of_path hpath hrest hmaximal
    obtain ⟨os', rfl, hos'⟩ :=
      Marks.of_append [⟨0, path⟩] hothers hfirst.parts hfirst.stop_le hlater
    rw [hunique os' hos']

theorem marked_nil : Marked [] [] := by
  have hnone : ∀ {o before after}, Occurrence.Stands o [] before after → o.word = [] := by
    intro o before after hstands
    have htext := hstands.text_eq
    simp only [List.nil_eq, List.append_eq_nil_iff] at htext
    exact htext.2.1
  refine ⟨[], rfl, ⟨by simp, .nil, ?_, by simp⟩, fun others hothers => ?_⟩
  · rintro run ⟨hne, -, before, after, hstands⟩
    exact absurd (hnone hstands) hne
  · refine List.eq_nil_iff_forall_not_mem.2 fun o ho => ?_
    obtain ⟨hpath, before, after, hstands, -⟩ := hothers.maximal o ho
    exact hpath.ne_nil (hnone hstands)

end Marks

/-- **The identifiers of a text are its maximal paths, from left to right.**  Their places are
marks, and a text has no other marks: each identifier is a path of segments that stands between what
is in no word and is not gone on with by a dot and a name, they have no position in common, each
word that begins as a name lies in exactly one of them, and no other word reaches into one. -/
theorem identifiers_marked (t : Text) :
    ∃ os, os.map Occurrence.word = identifiers t ∧ Marks t os ∧
      ∀ others, Marks t others → others = os := by
  change Marked t (identifiers t)
  fun_induction identifiers t with
  | case1 => exact marked_nil
  | case2 c rest hword ih =>
    rw [Bool.not_eq_true'] at hword
    refine ih.skip [c] (.inl hword) fun before d back hsplit _ => ?_
    obtain rfl : d = c := by
      have hmem : d ∈ [c] := by simp [hsplit]
      exact List.mem_singleton.1 hmem
    exact Bool.eq_false_iff.2 fun hd => by simp [isWord_of_isNameStart hd] at hword
  | case3 c rest hword hstart ih =>
    rw [Bool.not_eq_true', Bool.not_eq_false] at hword
    rw [Bool.not_eq_true'] at hstart
    have hrun : ∀ d ∈ c :: rest.takeWhile isWord, isWord d = true :=
      List.forall_mem_cons.2 ⟨hword, fun d hd => List.mem_takeWhile_imp hd⟩
    have hskip := ih.skip (c :: rest.takeWhile isWord)
      (.inr (beginsInWord_dropWhile rest)) fun before d back hsplit hbefore => by
        obtain rfl := eq_nil_of_run_split hrun hsplit hbefore
        rw [← (List.cons.inj hsplit).1]
        exact hstart
    rwa [List.cons_append, List.takeWhile_append_dropWhile] at hskip
  | case4 c rest hword hstart more ih =>
    rw [Bool.not_eq_true', Bool.not_eq_false] at hstart
    obtain ⟨hsplit, hrest, hmaximal, hpath⟩ := dotted_spec (beginsInWord_dropWhile rest)
    have hsegment : IsSegment (c :: rest.takeWhile isWord) :=
      .name hstart fun d hd => List.mem_takeWhile_imp hd
    have hmarked := ih.path (hpath _ hsegment) hrest hmaximal
    rwa [List.append_assoc, hsplit, List.cons_append, List.takeWhile_append_dropWhile] at hmarked

end Script
end RuleReview
