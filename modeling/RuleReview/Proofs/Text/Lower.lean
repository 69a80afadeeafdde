import RuleReview.Proofs.Text.Trim
import RuleReview.Text.Case

/-!
# Small letters

What a character becomes in small letters depends on its neighbours only if it is a capital sigma.
A stretch of ASCII characters, of which none is, is therefore found again in the text in small
letters, whatever the text holds besides, and so is every stretch of a text that holds no capital
sigma.

A capital sigma looks for a cased character before and after it.  It looks past no character that
has no case and is not ignored, so such a character parts a text into two that are put into small
letters one by one.  Every blank is one of these, and its own small letter.

Two characters past ASCII stand out.  The dotted capital I becomes two characters, so a text grows
by the number of these in it, and the kelvin sign becomes the letter `k`.  No other character past
ASCII becomes an ASCII letter, so what a text in small letters was can be read off it.

## What is here

* `lowerAfter_append` — the end of a text in small letters, whatever stands before it.
* `map_toLower_infix_lower` — a stretch of ASCII characters, in the text in small letters.
* `lower_infix_lower` — a stretch of a text without capital sigmas, in the text in small letters.
* `StopsCase`, `lowerAfter_append_of_stop` — parting a text.
* `lower_append_blanks` — blanks at the end of a text stay as they are.
* `length_lower` — how long a text in small letters is.
* `plain`, `lower_eq_iff_of_ascii` — which texts become a given ASCII text.
-/

set_option autoImplicit false

namespace RuleReview
namespace Text

theorem lowerAfter_append (before front back : Text) :
    ∃ small, lowerAfter before (front ++ back) =
      small ++ lowerAfter (front.reverse ++ before) back := by
  induction front generalizing before with
  | nil => exact ⟨[], rfl⟩
  | cons c front ih =>
    obtain ⟨small, hsmall⟩ := ih (c :: before)
    rw [List.cons_append, lowerAfter, hsmall, ← List.append_assoc, List.reverse_cons,
      List.append_assoc front.reverse]
    exact ⟨_, rfl⟩

/-- An ASCII character becomes its small letter, whatever stands around it. -/
theorem lowerAfter_cons_of_ascii {c : Char} (hc : c.toNat < 0x80) (before rest : Text) :
    lowerAfter before (c :: rest) = c.toLower :: lowerAfter (c :: before) rest := by
  have hsigma : (c == capitalSigma) = false := by
    rw [beq_eq_false_iff_ne]
    rintro rfl
    exact absurd hc (by decide)
  rw [lowerAfter, hsigma, lowerChar, if_pos hc]
  rfl

theorem lowerAfter_append_of_ascii {front : Text} (h : ∀ c ∈ front, c.toNat < 0x80)
    (before back : Text) :
    lowerAfter before (front ++ back) =
      front.map Char.toLower ++ lowerAfter (front.reverse ++ before) back := by
  induction front generalizing before with
  | nil => rfl
  | cons c front ih =>
    obtain ⟨hc, hfront⟩ := List.forall_mem_cons.1 h
    rw [List.cons_append, lowerAfter_cons_of_ascii hc, ih hfront, List.reverse_cons,
      List.append_assoc front.reverse]
    rfl

/-- **A stretch of ASCII characters is found again in small letters.** -/
theorem map_toLower_infix_lower {part whole : Text} (hascii : ∀ c ∈ part, c.toNat < 0x80)
    (h : part <:+: whole) : part.map Char.toLower <:+: lower whole := by
  obtain ⟨front, back, rfl⟩ := h
  obtain ⟨small, hsmall⟩ := lowerAfter_append [] front (part ++ back)
  rw [lower, List.append_assoc, hsmall, lowerAfter_append_of_ascii hascii, ← List.append_assoc]
  exact ⟨small, _, rfl⟩

/-- Without a capital sigma each character is put into small letters by itself. -/
theorem lowerAfter_eq_flatMap {t : Text} (h : capitalSigma ∉ t) (before : Text) :
    lowerAfter before t = t.flatMap lowerChar := by
  induction t generalizing before with
  | nil => rfl
  | cons c t ih =>
    rw [List.mem_cons, not_or] at h
    have hsigma : (c == capitalSigma) = false := beq_eq_false_iff_ne.2 fun heq => h.1 heq.symm
    rw [lowerAfter, hsigma, ih h.2, List.flatMap_cons]
    rfl

/-- **Without a capital sigma every stretch of a text is found again in small letters.** -/
theorem lower_infix_lower {part whole : Text} (hsigma : capitalSigma ∉ whole)
    (h : part <:+: whole) : lower part <:+: lower whole := by
  have hpart : capitalSigma ∉ part := fun hmem => hsigma (h.subset hmem)
  obtain ⟨front, back, rfl⟩ := h
  rw [lower, lower, lowerAfter_eq_flatMap hpart, lowerAfter_eq_flatMap hsigma,
    List.flatMap_append, List.flatMap_append]
  exact List.infix_append _ _ _

/-! ## Parting a text -/

/-- Whether a capital sigma looks for a cased character no further than this character, and finds
none. -/
def StopsCase (c : Char) : Prop := isCaseIgnorable c = false ∧ isCased c = false

instance (c : Char) : Decidable (StopsCase c) := inferInstanceAs (Decidable (_ ∧ _))

theorem stopsCase_of_isBlank {c : Char} (h : isBlank c = true) : StopsCase c :=
  of_isBlank (P := StopsCase) (by decide +kernel) h

theorem meetsCased_append_of_stop {c : Char} (hc : StopsCase c) (a b : Text) :
    meetsCased (a ++ c :: b) = meetsCased a := by
  rw [meetsCased, meetsCased, dropWhile_append_of_stop hc.1]
  cases a.dropWhile isCaseIgnorable with
  | nil => exact hc.2
  | cons d rest => rfl

/-- **What stands after such a character does not matter to what stands before it.** -/
theorem lowerAfter_append_of_stop {c : Char} (hc : StopsCase c) (before a b : Text) :
    lowerAfter before (a ++ c :: b) =
      lowerAfter before a ++ lowerAfter (a.reverse ++ before) (c :: b) := by
  induction a generalizing before with
  | nil => rfl
  | cons d a ih =>
    rw [List.cons_append, lowerAfter, lowerAfter, meetsCased_append_of_stop hc, ih,
      List.reverse_cons, List.append_assoc a.reverse, List.append_assoc]
    rfl

theorem lower_prefix_lower_append {c : Char} (hc : StopsCase c) (a b : Text) :
    lower a <+: lower (a ++ c :: b) := by
  rw [lower, lower, lowerAfter_append_of_stop hc]
  exact List.prefix_append _ _

/-- Blanks have no other small letters than themselves. -/
theorem lowerAfter_blanks {t : Text} (h : ∀ c ∈ t, isBlank c = true) (before : Text) :
    lowerAfter before t = t := by
  induction t generalizing before with
  | nil => rfl
  | cons c t ih =>
    obtain ⟨hc, ht⟩ := List.forall_mem_cons.1 h
    have hsame : (c == capitalSigma) = false ∧ lowerChar c = [c] :=
      of_isBlank (P := fun c => (c == capitalSigma) = false ∧ lowerChar c = [c])
        (by decide +kernel) hc
    rw [lowerAfter, hsame.1, hsame.2, ih ht]
    rfl

theorem lower_append_blanks {back : Text} (h : ∀ c ∈ back, isBlank c = true) (t : Text) :
    lower (t ++ back) = lower t ++ back := by
  cases back with
  | nil => rw [List.append_nil, List.append_nil]
  | cons c back =>
    rw [lower, lower, lowerAfter_append_of_stop (stopsCase_of_isBlank (h c List.mem_cons_self)),
      lowerAfter_blanks h]

/-! ## Back from small letters -/

/-- The capital I with a dot above. -/
def dottedCapitalI : Char := Char.ofNat 0x130

/-- The kelvin sign, which looks like a capital K. -/
def kelvinSign : Char := Char.ofNat 0x212A

/-- Only the dotted capital I becomes two characters. -/
theorem length_lowerChar (c : Char) :
    (lowerChar c).length = if c = dottedCapitalI then 2 else 1 := by
  have hdotted : c = dottedCapitalI ↔ c.toNat = 0x130 := Char.toNat_inj.symm
  simp only [hdotted, lowerChar, beq_iff_eq]
  by_cases hascii : c.toNat < 0x80
  · rw [if_pos hascii, if_neg (by omega)]
    rfl
  · rw [if_neg hascii]
    split <;> rfl

/-- Each character becomes its small counterpart, but a capital sigma may become the final one. -/
theorem lowerAfter_cons (before rest : Text) (c : Char) :
    ∃ small, lowerAfter before (c :: rest) = small ++ lowerAfter (c :: before) rest ∧
      (small = lowerChar c ∨ c = capitalSigma ∧ small = [finalSigma]) := by
  refine ⟨_, rfl, ?_⟩
  by_cases hsigma : (c == capitalSigma) = true
  · obtain rfl := eq_of_beq hsigma
    by_cases hlast : (meetsCased before && !meetsCased rest) = true
    · exact .inr ⟨rfl, by rw [if_pos hsigma, if_pos hlast]⟩
    · refine .inl ?_
      rw [if_pos hsigma, if_neg hlast]
      decide +kernel
  · exact .inl (if_neg hsigma)

/-- A text in small letters is longer by the number of dotted capitals in it. -/
theorem length_lowerAfter (before t : Text) :
    (lowerAfter before t).length = t.length + t.count dottedCapitalI := by
  induction t generalizing before with
  | nil => rfl
  | cons c t ih =>
    obtain ⟨small, hlower, hsmall⟩ := lowerAfter_cons before t c
    have hlength : small.length = if c = dottedCapitalI then 2 else 1 := by
      rcases hsmall with rfl | ⟨rfl, rfl⟩
      · exact length_lowerChar c
      · rfl
    rw [hlower, List.length_append, hlength, ih, List.length_cons, List.count_cons]
    simp only [beq_iff_eq]
    split <;> omega

theorem length_lower (t : Text) : (lower t).length = t.length + t.count dottedCapitalI :=
  length_lowerAfter [] t

theorem toNat_ofNat_of_isValidChar {n : Nat} (h : n.isValidChar) : (Char.ofNat n).toNat = n := by
  rw [Char.ofNat, dif_pos h]
  rfl

/-- The capitals of a run become characters past ASCII, unless the run is the kelvin sign. -/
theorem of_mem_lowerRuns : ∀ run ∈ lowerRuns,
    run.first = 0x212A ∧ run.last = 0x212A ∨
      0x80 ≤ run.image ∧ (run.image + (run.last - run.first) < 0xD800 ∨
        0xE000 ≤ run.image ∧ run.image + (run.last - run.first) < 0x110000) := by
  decide +kernel

theorem CaseRun.le_of_image?_eq_some {run : CaseRun} {n m : Nat} (h : run.image? n = some m) :
    run.first ≤ n ∧ n ≤ run.last ∧ m = run.image + (n - run.first) := by
  rw [CaseRun.image?] at h
  split at h
  · next hin =>
    simp only [Bool.and_eq_true, decide_eq_true_eq] at hin
    exact ⟨hin.1.1, hin.1.2, (Option.some.inj h).symm⟩
  · cases h

/-- **Past ASCII only the kelvin sign becomes ASCII**; all others become something past it. -/
theorem exists_past_ascii_of_lowerChar {c : Char} (hc : 0x80 ≤ c.toNat) (hkelvin : c ≠ kelvinSign) :
    ∃ d ∈ lowerChar c, 0x80 ≤ d.toNat := by
  have hkelvin' : c.toNat ≠ 0x212A := fun h => hkelvin (Char.toNat_inj.1 h)
  rw [lowerChar, if_neg (by omega)]
  split
  · exact ⟨Char.ofNat 0x307, by simp, by decide⟩
  · refine ⟨_, List.mem_singleton_self _, ?_⟩
    cases himage : lowerRuns.findSome? (·.image? c.toNat) with
    | none => rwa [Option.getD_none, Char.ofNat_toNat]
    | some m =>
      obtain ⟨run, hrun, hm⟩ := List.exists_of_findSome?_eq_some himage
      obtain ⟨hfirst, hlast, rfl⟩ := CaseRun.le_of_image?_eq_some hm
      rcases of_mem_lowerRuns run hrun with ⟨hrunFirst, hrunLast⟩ | ⟨hlow, hvalid⟩
      · omega
      · rw [Option.getD_some, toNat_ofNat_of_isValidChar (by simp only [Nat.isValidChar]; omega)]
        omega

theorem exists_past_ascii_of_lowerAfter {t : Text} {c : Char} (hmem : c ∈ t)
    (hc : 0x80 ≤ c.toNat) (hkelvin : c ≠ kelvinSign) (before : Text) :
    ∃ d ∈ lowerAfter before t, 0x80 ≤ d.toNat := by
  induction t generalizing before with
  | nil => cases hmem
  | cons e t ih =>
    obtain ⟨small, hlower, hsmall⟩ := lowerAfter_cons before t e
    rw [hlower]
    rcases List.mem_cons.1 hmem with rfl | hlater
    · have hpast : ∃ d ∈ small, 0x80 ≤ d.toNat := by
        rcases hsmall with rfl | ⟨-, rfl⟩
        · exact exists_past_ascii_of_lowerChar hc hkelvin
        · exact ⟨finalSigma, List.mem_singleton_self _, by decide⟩
      obtain ⟨d, hd, hpast⟩ := hpast
      exact ⟨d, List.mem_append_left _ hd, hpast⟩
    · obtain ⟨d, hd, hpast⟩ := ih hlater (e :: before)
      exact ⟨d, List.mem_append_right _ hd, hpast⟩

/-- The small letter of an ASCII letter and of the kelvin sign; all else stays as it is. -/
def plain (c : Char) : Char := if c = kelvinSign then 'k' else c.toLower

theorem toNat_plain_lt_of_ascii {c : Char} (hc : c.toNat < 0x80) : (plain c).toNat < 0x80 := by
  have hall : ∀ n < 0x80, (plain (Char.ofNat n)).toNat < 0x80 := by decide +kernel
  have hplain := hall c.toNat hc
  rwa [Char.ofNat_toNat] at hplain

theorem toLower_of_past_ascii {c : Char} (hc : 0x80 ≤ c.toNat) : c.toLower = c := by
  refine dif_neg ?_
  rintro ⟨-, hZ⟩
  have hle : c.toNat ≤ 90 := UInt32.le_iff_toNat_le.1 hZ
  omega

/-- Where all characters are ASCII letters or kelvin signs, each becomes its plain letter. -/
theorem lowerAfter_eq_map_plain {t : Text} (h : ∀ c ∈ t, c.toNat < 0x80 ∨ c = kelvinSign)
    (before : Text) : lowerAfter before t = t.map plain := by
  induction t generalizing before with
  | nil => rfl
  | cons c t ih =>
    obtain ⟨hc, ht⟩ := List.forall_mem_cons.1 h
    rw [List.map_cons, ← ih ht (c :: before)]
    rcases hc with hascii | rfl
    · have hne : c ≠ kelvinSign := by
        rintro rfl
        exact absurd hascii (by decide)
      rw [lowerAfter_cons_of_ascii hascii, plain, if_neg hne]
    · have hkelvin : (kelvinSign == capitalSigma) = false ∧
          lowerChar kelvinSign = [plain kelvinSign] := by
        decide +kernel
      rw [lowerAfter, hkelvin.1, hkelvin.2]
      rfl

/-- **A text becomes an ASCII text in small letters exactly if its plain letters are that text.** -/
theorem lower_eq_iff_of_ascii {t word : Text} (hword : ∀ c ∈ word, c.toNat < 0x80) :
    lower t = word ↔ t.map plain = word := by
  constructor
  · rintro rfl
    refine (lowerAfter_eq_map_plain (fun c hc => ?_) []).symm
    by_contra hnot
    rw [not_or, Nat.not_lt] at hnot
    obtain ⟨d, hd, hpast⟩ := exists_past_ascii_of_lowerAfter hc hnot.1 hnot.2 []
    exact absurd (hword d hd) (Nat.not_lt.2 hpast)
  · rintro rfl
    refine lowerAfter_eq_map_plain (fun c hc => ?_) []
    by_contra hnot
    rw [not_or, Nat.not_lt] at hnot
    have hplain := hword _ (List.mem_map_of_mem hc)
    rw [plain, if_neg hnot.2, toLower_of_past_ascii hnot.1] at hplain
    omega

end Text
end RuleReview
