import RuleReview.Proofs.Knowledge.Quoting

/-!
# What becomes a term

Keywords and short names are kept out of the terms of a query, but before the terms are made.  What
is compared with the keywords is the whole identifier as it is written, and what is measured is a
name in bytes, before it is put into small letters.  So some come through: `TRUE` gives the term
`true`, `order.new` gives `new`, `né` has two characters in three bytes, and an `o` with a kelvin
sign behind it becomes `ok`.

This file says which come through, and that nothing else does (`queryTerms_exact`).  A name begins
with an ASCII character, so one that is long enough has a second character, and if it has no third,
the second is past ASCII (`isLongEnough_iff`).  Small letters keep the number of characters, but for
the dotted capital I.  A keyword is ASCII and without a dot, so only a segment can become one, and
its letters are those of the keyword, in any case, with the kelvin sign for a `k`.

## What is here

* `isPath_of_mem_identifiers`, `isSegment_of_mem_segments` — identifiers and segments as words.
* `IsShortName`, `short_mem_queryTerms_iff` — the names that give a term of two characters.
* `keyword_mem_queryTerms_iff` — the names that give a keyword.
* `ProperTerms` — that none come through; `queryTerms_exact` says when.
-/

set_option autoImplicit false

namespace RuleReview

open Text

namespace Utf8

/-! ## Length in bytes -/

theorem length_encodeChar_of_ascii {c : Char} (h : c.toNat < 0x80) : (encodeChar c).length = 1 := by
  simp only [encodeChar, if_pos h, List.length_singleton]

theorem two_le_length_encodeChar {c : Char} (h : 0x80 ≤ c.toNat) : 2 ≤ (encodeChar c).length := by
  simp only [encodeChar, if_neg (Nat.not_lt.2 h)]
  split
  · simp
  · split <;> simp

theorem length_encode_append (a b : Text) :
    (encode (a ++ b)).length = (encode a).length + (encode b).length := by
  rw [encode, List.flatMap_append, List.length_append, encode, encode]

theorem length_encode_cons (c : Char) (t : Text) :
    (encode (c :: t)).length = (encodeChar c).length + (encode t).length := by
  rw [encode, List.flatMap_cons, List.length_append, encode]

theorem length_encode_of_ascii {t : Text} (h : ∀ c ∈ t, c.toNat < 0x80) :
    (encode t).length = t.length := by
  induction t with
  | nil => rfl
  | cons c t ih =>
    obtain ⟨hc, ht⟩ := List.forall_mem_cons.1 h
    rw [length_encode_cons, length_encodeChar_of_ascii hc, ih ht, List.length_cons, Nat.add_comm]

theorem length_le_length_encode (t : Text) : t.length ≤ (encode t).length := by
  induction t with
  | nil => exact Nat.le_refl 0
  | cons c t ih =>
    have hc : 1 ≤ (encodeChar c).length := by
      by_cases h : c.toNat < 0x80
      · exact (length_encodeChar_of_ascii h).ge
      · exact (two_le_length_encodeChar (Nat.not_lt.1 h)).trans' (by omega)
    rw [length_encode_cons, List.length_cons]
    omega

/-- A text that is not ASCII takes more bytes than it has characters. -/
theorem length_lt_length_encode {t : Text} {c : Char} (hmem : c ∈ t) (hc : 0x80 ≤ c.toNat) :
    t.length < (encode t).length := by
  obtain ⟨before, after, rfl⟩ := List.append_of_mem hmem
  have hbefore := length_le_length_encode before
  have hafter := length_le_length_encode after
  have htwo := two_le_length_encodeChar hc
  rw [length_encode_append, length_encode_cons, List.length_append, List.length_cons]
  omega

end Utf8

namespace Script

/-! ## Identifiers and their segments -/

section Words

variable {identifier s t word : Text}

theorem isPath_of_mem_identifiers (h : identifier ∈ identifiers t) : IsPath identifier := by
  fun_induction identifiers t with
  | case1 => cases h
  | case2 _ _ _ ih => exact ih h
  | case3 _ _ _ _ ih => exact ih h
  | case4 c rest _ hstart more ih =>
    rw [Bool.not_eq_true', Bool.not_eq_false] at hstart
    rcases List.mem_cons.1 h with rfl | hlater
    · exact (dotted_spec (beginsInWord_dropWhile rest)).2.2.2 _
        (.name hstart fun d hd => List.mem_takeWhile_imp hd)
    · exact ih hlater

theorem IsSegment.not_mem_dot (h : IsSegment s) : '.' ∉ s := fun hmem =>
  absurd (h.isWord '.' hmem) (by decide +kernel)

theorem isAscii_of_mem_keywords (h : word ∈ keywords) : ∀ c ∈ word, c.toNat < 0x80 := by
  have hall : (keywords.all fun w => w.all (·.toNat < 0x80)) = true := by decide +kernel
  simpa using List.all_eq_true.1 hall word h

/-- Keywords are without dots and in small letters, and only `if` is short. -/
theorem of_mem_keywords : ∀ word ∈ keywords,
    '.' ∉ word ∧ word.map plain = word ∧ (word = "if".toList ∨ 3 ≤ word.length) := by
  decide +kernel

theorem isKeyword_eq_false_iff : isKeyword word = false ↔ word ∉ keywords := by
  rw [isKeyword, ← Bool.not_eq_true, List.contains_iff_mem]

end Words

end Script

namespace Knowledge

open Script

section Segments

variable {path s : Text}

/-- What stands before the first dot is put in front of the first segment. -/
theorem segments_append (h : '.' ∉ s) {first : Text} {others : List Text}
    (ht : segments path = first :: others) : segments (s ++ path) = (s ++ first) :: others := by
  induction s with
  | nil => exact ht
  | cons c s ih =>
    rw [List.mem_cons, not_or] at h
    rw [List.cons_append, segments, ih h.2]
    exact if_neg (Ne.symm h.1)

theorem segments_of_not_mem_dot (h : '.' ∉ s) : segments s = [s] := by
  have hsegments := segments_append h (show segments [] = [[]] from rfl)
  rwa [List.append_nil] at hsegments

theorem segments_append_dot (h : '.' ∉ s) (path : Text) :
    segments (s ++ '.' :: path) = s :: segments path := by
  obtain ⟨first, others, hpath, -⟩ := segments_spec path
  have hdot : segments ('.' :: path) = [] :: segments path := by
    rw [segments, hpath]
    exact if_pos rfl
  rw [segments_append h hdot, List.append_nil]

/-- The segments of a path are what it was put together from. -/
theorem isSegment_of_mem_segments (h : IsPath path) (hs : s ∈ segments path) : IsSegment s := by
  induction h with
  | segment hsegment =>
    rw [segments_of_not_mem_dot hsegment.not_mem_dot, List.mem_singleton] at hs
    rwa [hs]
  | dot hsegment _ ih =>
    rw [segments_append_dot hsegment.not_mem_dot] at hs
    rcases List.mem_cons.1 hs with rfl | hlater
    · exact hsegment
    · exact ih hlater

end Segments

/-! ## Names that are long enough -/

section Length

variable {part : Text}

/-- A name is long enough if it has three characters, or two and the second is past ASCII. -/
theorem isLongEnough_iff (h : beginsName part = true) :
    isLongEnough part = true ↔
      3 ≤ part.length ∨ ∃ c d, part = [c, d] ∧ 0x80 ≤ d.toNat := by
  rw [isLongEnough, decide_eq_true_eq, minTermLength]
  match part, h with
  | [c], hc =>
    have hone : (Utf8.encode [c]).length = 1 :=
      Utf8.length_encode_of_ascii (List.forall_mem_singleton.2 (isAscii_of_isNameStart hc))
    simp [hone]
  | [c, d], hc =>
    by_cases hd : d.toNat < 0x80
    · have htwo : (Utf8.encode [c, d]).length = 2 :=
        Utf8.length_encode_of_ascii (List.forall_mem_cons.2
          ⟨isAscii_of_isNameStart hc, List.forall_mem_singleton.2 hd⟩)
      simp [htwo, hd]
    · have hmore : 2 < (Utf8.encode [c, d]).length :=
        Utf8.length_lt_length_encode (List.mem_cons_of_mem c (List.mem_singleton_self d))
          (Nat.not_lt.1 hd)
      exact iff_of_true hmore (.inr ⟨c, d, rfl, Nat.not_lt.1 hd⟩)
  | c :: d :: e :: more, _ =>
    have hbytes := Utf8.length_le_length_encode (c :: d :: e :: more)
    simp only [List.length_cons] at hbytes ⊢
    exact iff_of_true (by omega) (.inl (by omega))

/-- A segment that gives a term of two characters: the second is past ASCII, so it takes more than
one byte, and it is not the dotted capital I, which becomes two characters. -/
def IsShortName (s : Text) : Prop := ∃ c d, s = [c, d] ∧ 0x80 ≤ d.toNat ∧ d ≠ dottedCapitalI

/-- Names that are long enough give terms of two characters or more. -/
theorem two_le_length_lower (h : beginsName part = true) (hlong : isLongEnough part = true) :
    2 ≤ (lower part).length := by
  rw [length_lower]
  rcases (isLongEnough_iff h).1 hlong with hthree | ⟨c, d, rfl, -⟩
  · omega
  · exact Nat.le_add_right 2 _

theorem IsShortName.length_lower (h : IsShortName part) (hbegins : beginsName part = true) :
    (lower part).length = 2 := by
  obtain ⟨c, d, rfl, -, hd⟩ := h
  have hstart : isNameStart c = true := hbegins
  have hc : c ≠ dottedCapitalI := by
    rintro rfl
    exact absurd (isAscii_of_isNameStart hstart) (by decide)
  have hcount : [c, d].count dottedCapitalI = 0 :=
    List.count_eq_zero.2 (by simp [hc.symm, hd.symm])
  rw [Text.length_lower, hcount]
  rfl

/-- **Among the names that are long enough, the short ones give the terms of two characters.** -/
theorem length_lower_lt_iff (h : beginsName part = true) (hlong : isLongEnough part = true) :
    (lower part).length < minTermLength ↔ IsShortName part := by
  constructor
  · intro hlt
    rw [length_lower, minTermLength] at hlt
    rcases (isLongEnough_iff h).1 hlong with hthree | ⟨c, d, rfl, hd⟩
    · omega
    · refine ⟨c, d, rfl, hd, ?_⟩
      rintro rfl
      have hcount : 0 < [c, dottedCapitalI].count dottedCapitalI := by simp
      simp only [List.length_cons, List.length_nil] at hlt
      omega
  · intro hshort
    rw [hshort.length_lower h, minTermLength]
    omega

/-- **Among the names that are long enough, those that end with a kelvin sign as the second
character give the terms that are not long enough.** -/
theorem isLongEnough_lower_eq_false_iff (h : beginsName part = true)
    (hlong : isLongEnough part = true) :
    isLongEnough (lower part) = false ↔ ∃ c, part = [c, kelvinSign] := by
  have hbytes := Utf8.length_le_length_encode (lower part)
  rw [isLongEnough, decide_eq_false_iff_not, Nat.not_le, minTermLength]
  rcases (isLongEnough_iff h).1 hlong with hthree | ⟨c, d, rfl, hd⟩
  · rw [length_lower] at hbytes
    refine iff_of_false (by omega) ?_
    rintro ⟨c, rfl⟩
    simp at hthree
  · have hc : c.toNat < 0x80 := isAscii_of_isNameStart h
    by_cases hkelvin : d = kelvinSign
    · -- both characters become ASCII letters
      subst hkelvin
      have hlower : lower [c, kelvinSign] = [plain c, 'k'] :=
        lowerAfter_eq_map_plain (by simp [hc]) []
      have htwo : (Utf8.encode [plain c, 'k']).length = 2 :=
        Utf8.length_encode_of_ascii (List.forall_mem_cons.2
          ⟨toNat_plain_lt_of_ascii hc, List.forall_mem_singleton.2 (by decide)⟩)
      rw [hlower, htwo]
      exact iff_of_true (by omega) ⟨c, rfl⟩
    · obtain ⟨e, he, hpast⟩ := exists_past_ascii_of_lowerAfter
        (List.mem_cons_of_mem c (List.mem_singleton_self d)) hd hkelvin []
      have hmore := Utf8.length_lt_length_encode he hpast
      have htwo := two_le_length_lower h hlong
      rw [lower] at hbytes htwo ⊢
      refine iff_of_false (by omega) ?_
      rintro ⟨c', hc'⟩
      simp [hkelvin] at hc'

end Length

/-! ## What comes through -/

section Terms

variable {query identifier part s t word : Text}

theorem beginsName_of_part (h : identifier ∈ identifiers query)
    (hpart : part ∈ segments identifier ∨ part = identifier) : beginsName part = true := by
  have hpath := isPath_of_mem_identifiers h
  rcases hpart with hsegment | rfl
  · exact (isSegment_of_mem_segments hpath hsegment).beginsName
  · exact hpath.beginsName

/-- What has no dot in it is a segment. -/
theorem mem_segments_of_part (hpart : part ∈ segments identifier ∨ part = identifier)
    (hdot : '.' ∉ part) : part ∈ segments identifier := by
  rcases hpart with hsegment | rfl
  · exact hsegment
  · rw [segments_of_not_mem_dot hdot]
    exact List.mem_singleton_self _

theorem IsShortName.not_mem_dot (h : IsShortName s) (hbegins : beginsName s = true) : '.' ∉ s := by
  obtain ⟨c, d, rfl, hd, -⟩ := h
  have hstart : isNameStart c = true := hbegins
  have hc : c ≠ '.' := by
    rintro rfl
    exact absurd hstart (by decide)
  have hd' : d ≠ '.' := by
    rintro rfl
    exact absurd hd (by decide)
  simp [hc.symm, hd'.symm]

/-- **The terms of fewer than three characters** are those of the short names. -/
theorem short_mem_queryTerms_iff :
    t ∈ queryTerms query ∧ t.length < minTermLength ↔
      ∃ identifier ∈ identifiers query, ∃ s ∈ segments identifier, IsShortName s ∧ lower s = t := by
  constructor
  · rintro ⟨ht, hlength⟩
    obtain ⟨identifier, hidentifier, -, part, hpart, hlong, rfl⟩ := mem_queryTerms_iff.1 ht
    have hbegins := beginsName_of_part hidentifier hpart
    have hshort := (length_lower_lt_iff hbegins hlong).1 hlength
    exact ⟨identifier, hidentifier, part,
      mem_segments_of_part hpart (hshort.not_mem_dot hbegins), hshort, rfl⟩
  · rintro ⟨identifier, hidentifier, s, hs, hshort, rfl⟩
    have hbegins := beginsName_of_part hidentifier (.inl hs)
    obtain ⟨c, d, rfl, hd, hdotted⟩ := hshort
    have hlong := (isLongEnough_iff hbegins).2 (.inr ⟨c, d, rfl, hd⟩)
    -- keywords are ASCII, and the second character is in the identifier too
    have hkeyword : isKeyword identifier = false := by
      refine isKeyword_eq_false_iff.2 fun hmem => ?_
      have hlater : d ∈ identifier := (infix_of_mem_segments hs).subset (by simp)
      exact absurd (isAscii_of_mem_keywords hmem d hlater) (Nat.not_lt.2 hd)
    exact ⟨mem_queryTerms_iff.2 ⟨identifier, hidentifier, hkeyword, _, .inl hs, hlong, rfl⟩,
      (length_lower_lt_iff hbegins hlong).2 ⟨c, d, rfl, hd, hdotted⟩⟩

/-- **The terms of fewer than three bytes** are those of the names that only a kelvin sign makes
long enough. -/
theorem not_isLongEnough_mem_queryTerms_iff :
    t ∈ queryTerms query ∧ isLongEnough t = false ↔
      ∃ identifier ∈ identifiers query, ∃ c, [c, kelvinSign] ∈ segments identifier ∧
        lower [c, kelvinSign] = t := by
  have hshort : ∀ c, IsShortName [c, kelvinSign] := fun c => ⟨c, _, rfl, by decide, by decide⟩
  constructor
  · rintro ⟨ht, hbytes⟩
    obtain ⟨identifier, hidentifier, -, part, hpart, hlong, rfl⟩ := mem_queryTerms_iff.1 ht
    have hbegins := beginsName_of_part hidentifier hpart
    obtain ⟨c, rfl⟩ := (isLongEnough_lower_eq_false_iff hbegins hlong).1 hbytes
    exact ⟨identifier, hidentifier, c,
      mem_segments_of_part hpart ((hshort c).not_mem_dot hbegins), rfl⟩
  · rintro ⟨identifier, hidentifier, c, hs, rfl⟩
    have hbegins := beginsName_of_part hidentifier (.inl hs)
    have hlong := (isLongEnough_iff hbegins).2 (.inr ⟨c, _, rfl, by decide⟩)
    refine ⟨?_, (isLongEnough_lower_eq_false_iff hbegins hlong).2 ⟨c, rfl⟩⟩
    exact (short_mem_queryTerms_iff.2 ⟨identifier, hidentifier, _, hs, hshort c, rfl⟩).1

/-- A name that is long enough does not spell the word `if`. -/
theorem map_plain_ne_if (h : beginsName part = true) (hlong : isLongEnough part = true) :
    part.map plain ≠ "if".toList := by
  intro hif
  have hlength : part.length = 2 := by simpa using congrArg List.length hif
  rcases (isLongEnough_iff h).1 hlong with hthree | ⟨c, d, rfl, hd⟩
  · omega
  · have hplain : plain d = 'f' := by simpa using congrArg List.getLast? hif
    rw [plain] at hplain
    split at hplain
    · exact absurd hplain (by decide)
    · rw [toLower_of_past_ascii hd] at hplain
      exact absurd (hplain ▸ hd) (by decide)

/-- **The keywords among the terms** are those that a segment spells, in any case and with the
kelvin sign for a `k`, unless the segment is the keyword and stands alone.  The word `if` is not
among them. -/
theorem keyword_mem_queryTerms_iff (hword : word ∈ keywords) :
    word ∈ queryTerms query ↔ word ≠ "if".toList ∧
      ∃ identifier ∈ identifiers query, identifier ≠ word ∧
        ∃ s ∈ segments identifier, s.map plain = word := by
  have hascii := isAscii_of_mem_keywords hword
  obtain ⟨hdot, -, hlength⟩ := of_mem_keywords word hword
  constructor
  · intro ht
    obtain ⟨identifier, hidentifier, hkeyword, part, hpart, hlong, hlower⟩ :=
      mem_queryTerms_iff.1 ht
    have hplain := (lower_eq_iff_of_ascii hascii).1 hlower
    have hbegins := beginsName_of_part hidentifier hpart
    have hnodot : '.' ∉ part := fun hmem => hdot (hplain ▸ List.mem_map_of_mem hmem)
    refine ⟨hplain ▸ map_plain_ne_if hbegins hlong, identifier, hidentifier, ?_, part,
      mem_segments_of_part hpart hnodot, hplain⟩
    rintro rfl
    exact isKeyword_eq_false_iff.1 hkeyword hword
  · rintro ⟨hif, identifier, hidentifier, hne, s, hs, hplain⟩
    have hbegins := beginsName_of_part hidentifier (.inl hs)
    have hthree : 3 ≤ s.length := by
      rw [← List.length_map, hplain]
      exact hlength.resolve_left hif
    have hkeyword : isKeyword identifier = false := by
      refine isKeyword_eq_false_iff.2 fun hmem => hne ?_
      obtain ⟨hnodot, hsame, -⟩ := of_mem_keywords identifier hmem
      rw [segments_of_not_mem_dot hnodot, List.mem_singleton] at hs
      rw [← hplain, hs, hsame]
    exact mem_queryTerms_iff.2 ⟨identifier, hidentifier, hkeyword, s, .inl hs,
      (isLongEnough_iff hbegins).2 (.inl hthree), (lower_eq_iff_of_ascii hascii).2 hplain⟩

end Terms

/-- That no term of a query is a keyword or has fewer than three characters. -/
def ProperTerms (query : Text) : Prop :=
  ∀ t ∈ queryTerms query, minTermLength ≤ t.length ∧ t ∉ keywords

instance (query : Text) : Decidable (ProperTerms query) :=
  inferInstanceAs (Decidable (∀ t ∈ (queryTerms query).names, _ ∧ _))

/-- The terms of a query are proper exactly if no segment of it is a short name, and each segment
that spells a keyword, but for `if`, is the keyword and stands alone. -/
theorem properTerms_iff (query : Text) :
    ProperTerms query ↔ ∀ identifier ∈ identifiers query, ∀ s ∈ segments identifier,
      ¬ IsShortName s ∧
        (s.map plain ∈ keywords → s.map plain = "if".toList ∨ identifier = s.map plain) := by
  constructor
  · intro hproper identifier hidentifier s hs
    refine ⟨fun hshort => ?_, fun hword => ?_⟩
    · obtain ⟨hterm, hlt⟩ :=
        short_mem_queryTerms_iff.2 ⟨identifier, hidentifier, s, hs, hshort, rfl⟩
      exact absurd (hproper _ hterm).1 (Nat.not_le.2 hlt)
    · by_contra hnot
      rw [not_or] at hnot
      have hterm := (keyword_mem_queryTerms_iff hword).2
        ⟨hnot.1, identifier, hidentifier, hnot.2, s, hs, rfl⟩
      exact (hproper _ hterm).2 hword
  · intro hnone t ht
    refine ⟨?_, fun hword => ?_⟩
    · by_contra hlt
      obtain ⟨identifier, hidentifier, s, hs, hshort, -⟩ :=
        short_mem_queryTerms_iff.1 ⟨ht, Nat.not_le.1 hlt⟩
      exact (hnone identifier hidentifier s hs).1 hshort
    · obtain ⟨hif, identifier, hidentifier, hne, s, hs, rfl⟩ :=
        (keyword_mem_queryTerms_iff hword).1 ht
      exact ((hnone identifier hidentifier s hs).2 hword).elim hif hne

-- Small letters of ASCII and keywords that stand alone are no harm.
example : ProperTerms "if (order.total > 9) \x7b return true; \x7d".toList := by decide +kernel

/-- **Which keywords and short names are terms.**  No term has fewer than two characters, and none
is the word `if`.  A term has two characters if and only if it is made of a segment whose second and
last character is past ASCII and not the dotted capital I, and it has two bytes if and only if that
character is the kelvin sign.  A keyword is a term if and only if a segment spells it, in any case
and with the kelvin sign for a `k`, that is in a longer path or spelled otherwise.  So the terms of
a query are proper exactly if there are no such segments. -/
theorem queryTerms_exact (query : Text) :
    (∀ t ∈ queryTerms query, 2 ≤ t.length ∧ t ≠ "if".toList) ∧
    (∀ t, t ∈ queryTerms query ∧ t.length < minTermLength ↔
      ∃ identifier ∈ identifiers query, ∃ s ∈ segments identifier,
        IsShortName s ∧ lower s = t) ∧
    (∀ t, t ∈ queryTerms query ∧ isLongEnough t = false ↔
      ∃ identifier ∈ identifiers query, ∃ c, [c, kelvinSign] ∈ segments identifier ∧
        lower [c, kelvinSign] = t) ∧
    (∀ word ∈ keywords, word ∈ queryTerms query ↔ word ≠ "if".toList ∧
      ∃ identifier ∈ identifiers query, identifier ≠ word ∧
        ∃ s ∈ segments identifier, s.map plain = word) ∧
    (ProperTerms query ↔ ∀ identifier ∈ identifiers query, ∀ s ∈ segments identifier,
      ¬ IsShortName s ∧
        (s.map plain ∈ keywords → s.map plain = "if".toList ∨ identifier = s.map plain)) := by
  refine ⟨fun t ht => ⟨?_, ?_⟩, fun t => short_mem_queryTerms_iff,
    fun t => not_isLongEnough_mem_queryTerms_iff, fun word => keyword_mem_queryTerms_iff,
    properTerms_iff query⟩
  · obtain ⟨identifier, hidentifier, -, part, hpart, hlong, rfl⟩ := mem_queryTerms_iff.1 ht
    exact two_le_length_lower (beginsName_of_part hidentifier hpart) hlong
  · rintro rfl
    exact ((keyword_mem_queryTerms_iff (by decide)).1 ht).1 rfl

/-- A document that holds a keyword and a short word. -/
def remark : List (Text × FileTree) := [("notes.md", .file (Utf8.encode "This is true, ok?"))]

/-- A keyword comes through in capitals and as a segment of a path, and a name of two characters if
the second is past ASCII, even one that becomes ASCII.  A document is quoted for such a term
alone. -/
theorem not_properTerms :
    ¬ ProperTerms "TRUE".toList ∧ ¬ ProperTerms "order.new".toList ∧
    ¬ ProperTerms "né".toList ∧ ¬ ProperTerms "o\u212a".toList ∧
    retrieve .standard (.folder [("kb", .folder remark)]) "kb" "TRUE" =
      .ok "[notes.md]\nThis is true, ok?".toList ∧
    retrieve .standard (.folder [("kb", .folder remark)]) "kb" "o\u212a" =
      .ok "[notes.md]\nThis is true, ok?".toList := by
  decide +kernel

end Knowledge
end RuleReview
