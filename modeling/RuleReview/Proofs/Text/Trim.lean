import Mathlib.Data.List.DropRight
import RuleReview.Text.Blank

/-!
# Blanks and trimming

A trimmed text is a stretch of the text it comes from, and what stands before and after the stretch
is blank (`trim_stretch`).  Blanks at the ends change nothing, and a text that neither begins nor
ends with one is trimmed (`trim_of_ends`).  A stretch that does not end with a blank is not lost
with the blanks at the end of a text (`infix_of_infix_append_blanks`).

`dropEndWhile` is the library's `List.rdropWhile`, so everything known about that one carries over.
What holds of all blanks is checked on their code points (`of_isBlank`).
-/

set_option autoImplicit false

namespace RuleReview
namespace Text

/-! ## The blank characters -/

/-- The code points of the blank characters. -/
def blankCodes : List Nat :=
  [0x9, 0xA, 0xB, 0xC, 0xD, 0x20, 0x85, 0xA0, 0x1680, 0x2000, 0x2001, 0x2002, 0x2003, 0x2004,
    0x2005, 0x2006, 0x2007, 0x2008, 0x2009, 0x200A, 0x2028, 0x2029, 0x202F, 0x205F, 0x3000]

theorem toNat_mem_blankCodes {c : Char} (h : isBlank c = true) : c.toNat ∈ blankCodes := by
  simp only [isBlank, Bool.or_eq_true, Bool.and_eq_true, decide_eq_true_eq, beq_iff_eq] at h
  simp only [blankCodes, List.mem_cons, List.not_mem_nil, or_false]
  omega

/-- What holds of the characters with these code points holds of every blank. -/
theorem of_isBlank {P : Char → Prop} (hcodes : ∀ n ∈ blankCodes, P (Char.ofNat n)) {c : Char}
    (h : isBlank c = true) : P c := by
  have hc := hcodes c.toNat (toNat_mem_blankCodes h)
  rwa [Char.ofNat_toNat] at hc

/-! ## A run of characters ends at any other -/

theorem takeWhile_append_of_stop {p : Char → Bool} {c : Char} (hc : p c = false) (a b : Text) :
    (a ++ c :: b).takeWhile p = a.takeWhile p := by
  induction a with
  | nil => simp [hc]
  | cons d a ih => simp only [List.cons_append, List.takeWhile_cons, ih]

theorem dropWhile_append_of_stop {p : Char → Bool} {c : Char} (hc : p c = false) (a b : Text) :
    (a ++ c :: b).dropWhile p = a.dropWhile p ++ c :: b := by
  induction a with
  | nil => simp [hc]
  | cons d a ih =>
    by_cases hd : p d = true
    · simp only [List.cons_append, List.dropWhile_cons_of_pos hd, ih]
    · simp only [List.cons_append, List.dropWhile_cons_of_neg hd]

/-! ## Trimming -/

theorem dropEndWhile_eq_rdropWhile (p : Char → Bool) (t : Text) :
    dropEndWhile p t = t.rdropWhile p := by
  induction t with
  | nil => rfl
  | cons c rest ih =>
    have hcons : (c :: rest).rdropWhile p =
        if rest.rdropWhile p = [] then (if p c then [] else [c]) else c :: rest.rdropWhile p := by
      rw [List.rdropWhile, List.reverse_cons, List.dropWhile_append, List.rdropWhile]
      by_cases hall : rest.reverse.dropWhile p = []
      · by_cases hc : p c = true <;> simp [hall, hc]
      · simp [hall]
    rw [hcons, dropEndWhile, ih]
    cases rest.rdropWhile p with
    | nil => rfl
    | cons d kept => rfl

/-- What is left off at the end stands after every character that stays. -/
theorem dropEndWhile_append_of_stop {p : Char → Bool} {c : Char} (hc : p c = false) (a b : Text) :
    dropEndWhile p (a ++ c :: b) = a ++ c :: dropEndWhile p b := by
  induction a with
  | nil =>
    rw [List.nil_append, List.nil_append, dropEndWhile]
    cases dropEndWhile p b with
    | nil => rw [if_neg (by simp [hc])]
    | cons d kept => rfl
  | cons d a ih =>
    rw [List.cons_append, dropEndWhile, ih]
    cases a <;> rfl

/-- A trimmed text is a stretch of the text, between blanks. -/
theorem trim_stretch (t : Text) :
    ∃ front back, t = front ++ (trim t ++ back) ∧ (∀ c ∈ front, isBlank c = true) ∧
      ∀ c ∈ back, isBlank c = true := by
  refine ⟨t.takeWhile isBlank, (trimStart t).rtakeWhile isBlank, ?_, ?_, ?_⟩
  · rw [trim, trimEnd, dropEndWhile_eq_rdropWhile, List.rdropWhile_append_rtakeWhile, trimStart,
      List.takeWhile_append_dropWhile]
  · exact fun c hc => List.mem_takeWhile_imp hc
  · exact fun c hc => List.mem_rtakeWhile_imp hc

/-- Trimming keeps every character that is not blank. -/
theorem mem_trim_iff (t : Text) (c : Char) (h : isBlank c = false) : c ∈ trim t ↔ c ∈ t := by
  obtain ⟨front, back, ht, hfront, hback⟩ := trim_stretch t
  have hf : c ∉ front := fun hc => by simp [hfront c hc] at h
  have hb : c ∉ back := fun hc => by simp [hback c hc] at h
  conv_rhs => rw [ht]
  simp [hf, hb]

theorem trim_cons_of_isBlank {c : Char} (h : isBlank c = true) (t : Text) :
    trim (c :: t) = trim t := by
  rw [trim, trim, trimStart, trimStart, List.dropWhile_cons_of_pos h]

/-- A text with no blank at either end is trimmed. -/
theorem trim_of_ends {a z : Char} (ha : isBlank a = false) (hz : isBlank z = false) (t : Text) :
    trim (a :: (t ++ [z])) = a :: (t ++ [z]) := by
  rw [trim, trimStart, List.dropWhile_cons_of_neg (by simp [ha]), trimEnd, ← List.cons_append,
    dropEndWhile_append_of_stop hz]
  rfl

theorem trimEnd_append_blanks {back : Text} (h : ∀ c ∈ back, isBlank c = true) (t : Text) :
    trimEnd (t ++ back) = trimEnd t := by
  have hback : ∀ c ∈ back.reverse, isBlank c = true := fun c hc => h c (List.mem_reverse.1 hc)
  rw [trimEnd, trimEnd, dropEndWhile_eq_rdropWhile, dropEndWhile_eq_rdropWhile, List.rdropWhile,
    List.rdropWhile, List.reverse_append, List.dropWhile_append_of_pos hback]

theorem trim_append_blanks {back : Text} (h : ∀ c ∈ back, isBlank c = true) (t : Text) :
    trim (t ++ back) = trim t := by
  induction t with
  | nil =>
    rw [List.nil_append, trim, trimStart, List.dropWhile_eq_nil_iff.2 h]
    rfl
  | cons c t ih =>
    rw [List.cons_append]
    by_cases hc : isBlank c = true
    · rw [trim_cons_of_isBlank hc, trim_cons_of_isBlank hc, ih]
    · rw [trim, trim, trimStart, trimStart, List.dropWhile_cons_of_neg hc,
        List.dropWhile_cons_of_neg hc, ← List.cons_append, trimEnd_append_blanks h]

theorem trim_blanks_append {front : Text} (h : ∀ c ∈ front, isBlank c = true) (t : Text) :
    trim (front ++ t) = trim t := by
  induction front with
  | nil => rfl
  | cons c front ih =>
    obtain ⟨hc, hfront⟩ := List.forall_mem_cons.1 h
    rw [List.cons_append, trim_cons_of_isBlank hc, ih hfront]

@[simp] theorem trim_trim (t : Text) : trim (trim t) = trim t := by
  obtain ⟨front, back, ht, hfront, hback⟩ := trim_stretch t
  conv_rhs => rw [ht]
  rw [trim_blanks_append hfront, trim_append_blanks hback]

theorem isAllBlank_iff (t : Text) : isAllBlank t = true ↔ ∀ c ∈ t, isBlank c = true := by
  rw [isAllBlank, List.isEmpty_iff]
  constructor
  · intro hnone c hc
    obtain ⟨front, back, ht, hfront, hback⟩ := trim_stretch t
    rw [ht, hnone, List.nil_append] at hc
    exact (List.mem_append.1 hc).elim (hfront c) (hback c)
  · intro hblank
    exact trim_append_blanks hblank []

/-- A text is what is left of it without the blanks at its end, and blanks. -/
theorem trimEnd_stretch (t : Text) :
    ∃ back, t = trimEnd t ++ back ∧ ∀ c ∈ back, isBlank c = true := by
  refine ⟨t.rtakeWhile isBlank, ?_, fun c hc => List.mem_rtakeWhile_imp hc⟩
  rw [trimEnd, dropEndWhile_eq_rdropWhile, List.rdropWhile_append_rtakeWhile]

/-- A trimmed text does not end with a blank. -/
theorem trimEnd_trim (t : Text) : trimEnd (trim t) = trim t := by
  rw [trim, trimEnd, trimEnd, dropEndWhile_eq_rdropWhile, dropEndWhile_eq_rdropWhile,
    List.rdropWhile_idempotent]

/-- A stretch of a text that does not end with a blank stands before the blanks at its end. -/
theorem infix_of_infix_append_blanks {part back : Text} (hpart : trimEnd part = part)
    (hback : ∀ c ∈ back, isBlank c = true) {t : Text} (h : part <:+: t ++ back) : part <:+: t := by
  induction back using List.reverseRecOn with
  | nil => rwa [List.append_nil] at h
  | append_singleton back c ih =>
    obtain ⟨hlater, hc⟩ := List.forall_mem_append.1 hback
    rw [← List.append_assoc] at h
    rcases List.infix_concat_iff.1 h with hsuffix | hinfix
    · rcases List.suffix_concat_iff.1 hsuffix with rfl | ⟨front, rfl, -⟩
      · exact List.nil_infix
      · -- a part that ends with the blank `c` would be shorter without the blanks at its end
        have hshort : (trimEnd (front ++ [c])).length ≤ front.length := by
          rw [trimEnd_append_blanks hc, trimEnd, dropEndWhile_eq_rdropWhile]
          exact (List.rdropWhile_prefix isBlank front).length_le
        rw [hpart, List.length_append, List.length_singleton] at hshort
        omega
    · exact ih hlater hinfix

theorem length_trim_le (t : Text) : (trim t).length ≤ t.length := by
  obtain ⟨front, back, ht, -, -⟩ := trim_stretch t
  have hlength := congrArg List.length ht
  simp only [List.length_append] at hlength
  omega

/-- A trimmed text begins with no blank. -/
theorem isBlank_of_trim_eq {c : Char} {t : Text} (h : trim (c :: t) = c :: t) :
    isBlank c = false := by
  by_contra hblank
  rw [Bool.not_eq_false] at hblank
  have hshort := length_trim_le t
  rw [← trim_cons_of_isBlank hblank, h, List.length_cons] at hshort
  omega

end Text
end RuleReview
