import Mathlib.Data.List.Forall2
import RuleReview.Proofs.Json.Assembly

/-!
# Which texts are arrays of strings

JSON that was written by others is not laid out as this library does it.  A string may have any of
its characters escaped, and blanks may stand where they like.  So it is said here by rules of its
own, without any reader, which texts write a string (`Writes`) and which write an array of strings
(`WritesItems`).  The reader finds these strings, and takes no other text for such an array
(`toList?_toText?_iff`).

The reader goes in three steps, and each is shown to lose nothing: the characters of a string give
its parts (`readString?_eq_some_iff`), the parts its text (`Writes.exists_parts`,
`HasParts.writes`), and the tokens of a text a tree (`ofTokens?_eq_some_iff`).  What the tokens tell
of the text that they were found in is told one token at a time (`exists_mark_of_tokens?`,
`exists_string_of_tokens?`).
-/

set_option autoImplicit false

namespace RuleReview
namespace Json

open Text

/-! ## Strings -/

/-- That a text, put between quotation marks, writes a string. -/
inductive Writes : Text → Text → Prop
  | nil : Writes [] []
  /-- A character that needs no escape. -/
  | plain {c : Char} {w t : Text} (hquote : c ≠ '"') (hslash : c ≠ '\\') (hlow : ¬ c.toNat < 0x20)
      (h : Writes w t) : Writes (c :: w) (c :: t)
  /-- A character by the letter for it. -/
  | letter {c d : Char} {w t : Text} (hletter : escaped? c = some d) (h : Writes w t) :
      Writes ('\\' :: c :: w) (d :: t)
  /-- A character by its code. -/
  | code {a b c d : Char} {u : Nat} {w t : Text} (hu : hexUnit? a b c d = some u)
      (halone : u < 0xD800 ∨ 0xE000 ≤ u) (h : Writes w t) :
      Writes ('\\' :: 'u' :: a :: b :: c :: d :: w) (Char.ofNat u :: t)
  /-- A character by the pair of codes for it. -/
  | pair {a b c d a' b' c' d' : Char} {u v : Nat} {w t : Text} (hu : hexUnit? a b c d = some u)
      (hv : hexUnit? a' b' c' d' = some v) (hhigh : 0xD800 ≤ u ∧ u < 0xDC00)
      (hlow : 0xDC00 ≤ v ∧ v < 0xE000) (h : Writes w t) :
      Writes ('\\' :: 'u' :: a :: b :: c :: d :: '\\' :: 'u' :: a' :: b' :: c' :: d' :: w)
        (Char.ofNat (0x10000 + (u - 0xD800) * 0x400 + (v - 0xDC00)) :: t)

/-- That a text, put between quotation marks, is a string of these parts. -/
inductive HasParts : Text → List StringPart → Prop
  | nil : HasParts [] []
  | plain {c : Char} {w : Text} {ps : List StringPart} (hquote : c ≠ '"') (hslash : c ≠ '\\')
      (hlow : ¬ c.toNat < 0x20) (h : HasParts w ps) : HasParts (c :: w) (.char c :: ps)
  | letter {c d : Char} {w : Text} {ps : List StringPart} (hletter : escaped? c = some d)
      (h : HasParts w ps) : HasParts ('\\' :: c :: w) (.char d :: ps)
  | code {a b c d : Char} {u : Nat} {w : Text} {ps : List StringPart}
      (hu : hexUnit? a b c d = some u) (h : HasParts w ps) :
      HasParts ('\\' :: 'u' :: a :: b :: c :: d :: w) (.unit u :: ps)

section String

variable {x w t after : Text} {ps : List StringPart}

theorem HasParts.readString?_append (h : HasParts w ps) (after : Text) :
    readString? (w ++ '"' :: after) = some (ps, after) := by
  induction h with
  | nil => rw [List.nil_append, readString?]
  | plain hquote hslash hlow _ ih => exact readString?_plain ih hquote hslash hlow
  | letter hletter _ ih => exact readString?_short ih hletter
  | code hu _ ih => exact readString?_code ih hu

/-- A string is read up to the first quotation mark that ends one. -/
theorem readString?_eq_some_iff :
    readString? x = some (ps, after) ↔ ∃ w, x = w ++ '"' :: after ∧ HasParts w ps := by
  constructor
  · intro h
    fun_induction readString? x generalizing ps with
    | case1 => cases h
    | case2 rest =>
      cases h
      exact ⟨[], rfl, .nil⟩
    | case3 a b c d rest ih =>
      simp only [Option.bind_eq_bind, Option.bind_eq_some_iff, Prod.exists] at h
      obtain ⟨u, hu, later, after', hread, heq⟩ := h
      cases heq
      obtain ⟨w, rfl, hparts⟩ := ih hread
      exact ⟨_, rfl, .code hu hparts⟩
    | case4 c rest _ ih =>
      simp only [Option.bind_eq_bind, Option.bind_eq_some_iff, Prod.exists] at h
      obtain ⟨d, hletter, later, after', hread, heq⟩ := h
      cases heq
      obtain ⟨w, rfl, hparts⟩ := ih hread
      exact ⟨_, rfl, .letter hletter hparts⟩
    | case5 => cases h
    | case6 c rest hquote _ _ hplain ih =>
      simp only [Option.bind_eq_bind, Option.bind_eq_some_iff, Prod.exists] at h
      obtain ⟨later, after', hread, heq⟩ := h
      cases heq
      obtain ⟨w, rfl, hparts⟩ := ih hread
      rw [not_or] at hplain
      exact ⟨_, rfl, .plain (fun heq => hquote heq) hplain.2 hplain.1 hparts⟩
  · rintro ⟨w, rfl, h⟩
    exact h.readString?_append after

theorem text?_pair {u v : Nat} (hhigh : isHighUnit u = true) (hlow : isLowUnit v = true)
    (ps : List StringPart) :
    text? (.unit u :: .unit v :: ps) =
      (text? ps).map (Char.ofNat (0x10000 + (u - 0xD800) * 0x400 + (v - 0xDC00)) :: ·) := by
  rw [text?, if_pos hhigh, if_pos hlow]

theorem isHighUnit_iff {u : Nat} : isHighUnit u = true ↔ 0xD800 ≤ u ∧ u < 0xDC00 := by
  simp [isHighUnit]

theorem isLowUnit_iff {u : Nat} : isLowUnit u = true ↔ 0xDC00 ≤ u ∧ u < 0xE000 := by
  simp [isLowUnit]

theorem map_cons_eq_ok {r : Except Fault Text} {c : Char} :
    r.map (c :: ·) = .ok t ↔ ∃ u, r = .ok u ∧ t = c :: u := by
  cases r with
  | error e => simp [Except.map]
  | ok u => simp [Except.map, eq_comm]

/-- A written string has parts, and they give its text. -/
theorem Writes.exists_parts (h : Writes w t) : ∃ ps, HasParts w ps ∧ text? ps = .ok t := by
  induction h with
  | nil => exact ⟨[], .nil, rfl⟩
  | plain hquote hslash hlow _ ih =>
    obtain ⟨ps, hparts, ht⟩ := ih
    exact ⟨_, .plain hquote hslash hlow hparts, by rw [text?, ht]; rfl⟩
  | letter hletter _ ih =>
    obtain ⟨ps, hparts, ht⟩ := ih
    exact ⟨_, .letter hletter hparts, by rw [text?, ht]; rfl⟩
  | code hu halone _ ih =>
    obtain ⟨ps, hparts, ht⟩ := ih
    exact ⟨_, .code hu hparts, by rw [text?_unit halone, ht]; rfl⟩
  | pair hu hv hhigh hlow _ ih =>
    obtain ⟨ps, hparts, ht⟩ := ih
    refine ⟨_, .code hu (.code hv hparts), ?_⟩
    rw [text?_pair (isHighUnit_iff.2 hhigh) (isLowUnit_iff.2 hlow), ht]
    rfl

/-- What has parts writes the text that they give. -/
theorem HasParts.writes (h : HasParts w ps) (ht : text? ps = .ok t) : Writes w t := by
  -- along the reading of the parts and not along `h`, since a pair takes two of them at once
  fun_induction text? ps generalizing w t with
  | case1 =>
    cases h
    cases ht
    exact .nil
  | case2 c ps ih =>
    obtain ⟨t, hlater, rfl⟩ := map_cons_eq_ok.1 ht
    cases h with
    | plain hquote hslash hlow h => exact .plain hquote hslash hlow (ih h hlater)
    | letter hletter h => exact .letter hletter (ih h hlater)
  | case3 u v ps hhigh hlow ih =>
    obtain ⟨t, hlater, rfl⟩ := map_cons_eq_ok.1 ht
    obtain _ | _ | _ | ⟨hu, _ | _ | _ | ⟨hv, h⟩⟩ := h
    exact .pair hu hv (isHighUnit_iff.1 hhigh) (isLowUnit_iff.1 hlow) (ih h hlater)
  | case4 | case5 => cases ht
  | case6 u v ps hhigh hlow ih =>
    obtain ⟨t, hlater, rfl⟩ := map_cons_eq_ok.1 ht
    obtain _ | _ | _ | ⟨hu, h⟩ := h
    rw [isHighUnit_iff] at hhigh
    rw [isLowUnit_iff] at hlow
    exact .code hu (by omega) (ih h hlater)
  | case7 u ps _ hhalf => cases ht
  | case8 u ps _ halone ih =>
    obtain ⟨t, hlater, rfl⟩ := map_cons_eq_ok.1 ht
    obtain _ | _ | _ | ⟨hu, h⟩ := h
    rw [Bool.or_eq_true, isHighUnit_iff, isLowUnit_iff] at halone
    exact .code hu (by omega) (ih h hlater)

/-- A text in which nothing needs an escape is written as it is. -/
theorem writes_self (h : t.all (fun c => c ≠ '"' ∧ c ≠ '\\' ∧ ¬ c.toNat < 0x20) = true) :
    Writes t t := by
  induction t with
  | nil => exact .nil
  | cons c t ih =>
    rw [List.all_cons, Bool.and_eq_true, decide_eq_true_eq] at h
    obtain ⟨⟨hquote, hslash, hlow⟩, ht⟩ := h
    exact .plain hquote hslash hlow (ih ht)

end String

/-! ## Tokens -/

/-- That a text begins with a token, after blanks, and what follows the token. -/
inductive Leads : Text → Token → Text → Prop
  | gap {c : Char} {x rest : Text} {tok : Token} (hc : isGap c = true) (h : Leads x tok rest) :
      Leads (c :: x) tok rest
  | mark {c : Char} {tok : Token} (hc : mark? c = some tok) (rest : Text) :
      Leads (c :: rest) tok rest
  | null (rest : Text) : Leads ("null" ++ rest) .null rest
  | bool (b : Bool) (rest : Text) : Leads ((if b then "true" else "false") ++ rest) (.bool b) rest
  | string {x rest : Text} {ps : List StringPart} (h : readString? x = some (ps, rest)) :
      Leads ('"' :: x) (.string ps) rest
  | number {x rest : Text} {n : Numeral} (h : readNumeral? x = some (n, rest)) :
      Leads x (.number n) rest

section Tokens

variable {x rest : Text} {tok : Token} {ts : List Token}

theorem map_cons_eq_some {r : Option (List Token)} {t : Token}
    (h : r.map (t :: ·) = some (tok :: ts)) : t = tok ∧ r = some ts := by
  obtain ⟨us, hr, heq⟩ := Option.map_eq_some_iff.1 h
  obtain ⟨rfl, rfl⟩ := List.cons.inj heq
  exact ⟨rfl, hr⟩

/-- A text begins with its first token, and the others are those of what follows. -/
theorem exists_leads (h : tokens? x = some (tok :: ts)) :
    ∃ rest, Leads x tok rest ∧ tokens? rest = some ts := by
  fun_induction tokens? x generalizing tok ts
  case case1 => cases h
  case case2 rest _ | case3 rest _ | case4 rest _ | case5 rest _ | case6 rest _ | case7 rest _ =>
    obtain ⟨rfl, hrest⟩ := map_cons_eq_some h
    exact ⟨rest, .mark rfl rest, hrest⟩
  case case8 rest _ =>
    obtain ⟨rfl, hrest⟩ := map_cons_eq_some h
    exact ⟨rest, .null rest, hrest⟩
  case case9 rest _ =>
    obtain ⟨rfl, hrest⟩ := map_cons_eq_some h
    exact ⟨rest, .bool true rest, hrest⟩
  case case10 rest _ =>
    obtain ⟨rfl, hrest⟩ := map_cons_eq_some h
    exact ⟨rest, .bool false rest, hrest⟩
  case case11 => cases h
  case case12 rest ps after hread _ =>
    obtain ⟨rfl, hrest⟩ := map_cons_eq_some h
    exact ⟨after, .string hread, hrest⟩
  case case13 c rest _ _ _ _ _ _ _ _ _ _ hgap ih =>
    obtain ⟨after, hleads, hrest⟩ := ih h
    exact ⟨after, .gap hgap hleads, hrest⟩
  case case14 => cases h
  case case15 c rest _ _ _ _ _ _ _ _ _ _ _ n after hread _ =>
    obtain ⟨rfl, hrest⟩ := map_cons_eq_some h
    exact ⟨after, .number hread, hrest⟩

/-- A text without tokens is blank. -/
theorem isGap_of_tokens?_nil (h : tokens? x = some []) : ∀ c ∈ x, isGap c = true := by
  fun_induction tokens? x with
  | case1 => exact fun c hc => absurd hc List.not_mem_nil
  | case13 c rest _ _ _ _ _ _ _ _ _ _ hgap ih => exact List.forall_mem_cons.2 ⟨hgap, ih h⟩
  | _ => simp at h

theorem mark?_injective {c d : Char} (hc : mark? c = some tok) (hd : mark? d = some tok) :
    c = d := by
  unfold mark? at hc hd
  split at hc <;> cases hc <;> split at hd <;> first | rfl | cases hd

/-- What comes before a mark is blank. -/
theorem Leads.exists_mark (h : Leads x tok rest) {c : Char} (hc : mark? c = some tok) :
    ∃ gap, x = gap ++ c :: rest ∧ ∀ d ∈ gap, isGap d = true := by
  induction h with
  | gap hgap _ ih =>
    obtain ⟨gap, rfl, hblank⟩ := ih hc
    exact ⟨_ :: gap, rfl, List.forall_mem_cons.2 ⟨hgap, hblank⟩⟩
  | mark hd rest =>
    obtain rfl := mark?_injective hc hd
    exact ⟨[], rfl, by simp⟩
  | _ =>
    unfold mark? at hc
    split at hc <;> cases hc

/-- What comes before a string is blank, and the string is written as its parts say. -/
theorem Leads.exists_string {ps : List StringPart} (h : Leads x (.string ps) rest) :
    ∃ gap w, x = gap ++ '"' :: (w ++ '"' :: rest) ∧ (∀ d ∈ gap, isGap d = true) ∧
      HasParts w ps := by
  generalize htok : Token.string ps = tok at h
  induction h with
  | gap hgap _ ih =>
    obtain ⟨gap, w, rfl, hblank, hparts⟩ := ih htok
    exact ⟨_ :: gap, w, rfl, List.forall_mem_cons.2 ⟨hgap, hblank⟩, hparts⟩
  | mark hd rest =>
    subst htok
    unfold mark? at hd
    split at hd <;> cases hd
  | string hread =>
    cases htok
    obtain ⟨w, rfl, hparts⟩ := readString?_eq_some_iff.1 hread
    exact ⟨[], w, rfl, by simp, hparts⟩
  | _ => cases htok

/-- A mark that is found first stands behind blanks. -/
theorem exists_mark_of_tokens? {c : Char} (hc : mark? c = some tok)
    (h : tokens? x = some (tok :: ts)) :
    ∃ gap rest, x = gap ++ c :: rest ∧ (∀ d ∈ gap, isGap d = true) ∧ tokens? rest = some ts := by
  obtain ⟨rest, hleads, hrest⟩ := exists_leads h
  obtain ⟨gap, rfl, hgap⟩ := hleads.exists_mark hc
  exact ⟨gap, rest, rfl, hgap, hrest⟩

/-- A string that is found first stands behind blanks. -/
theorem exists_string_of_tokens? {ps : List StringPart}
    (h : tokens? x = some (.string ps :: ts)) :
    ∃ gap w rest, x = gap ++ '"' :: (w ++ '"' :: rest) ∧ (∀ d ∈ gap, isGap d = true) ∧
      HasParts w ps ∧ tokens? rest = some ts := by
  obtain ⟨rest, hleads, hrest⟩ := exists_leads h
  obtain ⟨gap, w, rfl, hgap, hparts⟩ := hleads.exists_string
  exact ⟨gap, w, rest, rfl, hgap, hparts, hrest⟩

end Tokens

/-! ## Arrays of strings -/

/-- That a text, put between brackets, writes an array of these strings. -/
inductive WritesItems : Text → List Text → Prop
  /-- The last string. -/
  | last {before after w t : Text} (hbefore : ∀ c ∈ before, isGap c = true)
      (hafter : ∀ c ∈ after, isGap c = true) (h : Writes w t) :
      WritesItems (before ++ '"' :: (w ++ '"' :: after)) [t]
  /-- A string with others behind a comma. -/
  | more {before after w t rest : Text} {ts : List Text} (hbefore : ∀ c ∈ before, isGap c = true)
      (hafter : ∀ c ∈ after, isGap c = true) (h : Writes w t) (hrest : WritesItems rest ts) :
      WritesItems (before ++ '"' :: (w ++ '"' :: (after ++ ',' :: rest))) (t :: ts)

/-- That a text writes an array of these strings, of which there is one at least. -/
def WritesArray (json : Text) (ts : List Text) : Prop :=
  ∃ before inner after, json = before ++ '[' :: (inner ++ ']' :: after) ∧
    (∀ c ∈ before, isGap c = true) ∧ (∀ c ∈ after, isGap c = true) ∧ WritesItems inner ts

section Items

variable {x inner json : Text} {first : List StringPart} {pss : List (List StringPart)}
  {ts : List Text}

/-- That these are the parts of these strings. -/
abbrev Gives (pss : List (List StringPart)) (ts : List Text) : Prop :=
  List.Forall₂ (fun ps t => text? ps = .ok t) pss ts

/-- The tokens of an array of strings, from its first string on. -/
def stringTokens (first : List StringPart) (pss : List (List StringPart)) : List Token :=
  .string first :: (Tree.moreItems (pss.map .string) ++ [.endArray])

theorem stringTokens_cons (first next : List StringPart) (pss : List (List StringPart)) :
    stringTokens first (next :: pss) = .string first :: .comma :: stringTokens next pss := by
  simp [stringTokens, Tree.moreItems, Tree.tokens]

/-- Where the tokens of strings are found, the strings are written. -/
theorem exists_writesItems (h : tokens? x = some (stringTokens first pss))
    (hts : Gives (first :: pss) ts) :
    ∃ inner after, x = inner ++ ']' :: after ∧ WritesItems inner ts ∧
      ∀ c ∈ after, isGap c = true := by
  induction pss generalizing x first ts with
  | nil =>
    obtain ⟨before, w, rest, rfl, hbefore, hparts, hrest⟩ := exists_string_of_tokens? h
    obtain ⟨gap, after, rfl, hgap, hafter⟩ := exists_mark_of_tokens? (c := ']') rfl hrest
    cases hts with
    | cons hfirst hnone =>
      cases hnone
      refine ⟨_, after, ?_, .last hbefore hgap (hparts.writes hfirst), isGap_of_tokens?_nil hafter⟩
      simp
  | cons next pss ih =>
    rw [stringTokens_cons] at h
    obtain ⟨before, w, rest, rfl, hbefore, hparts, hrest⟩ := exists_string_of_tokens? h
    obtain ⟨gap, others, rfl, hgap, hothers⟩ := exists_mark_of_tokens? (c := ',') rfl hrest
    cases hts with
    | cons hfirst hmore =>
      obtain ⟨inner, after, rfl, hinner, hafter⟩ := ih hothers hmore
      refine ⟨_, after, ?_, .more hbefore hgap (hparts.writes hfirst) hinner, hafter⟩
      simp

/-- In front of blanks a text is read to its end. -/
theorem Spells.tokens?_append_blanks {t after : Text} {us : List Token} (h : Spells t us)
    (hafter : ∀ c ∈ after, isGap c = true) : tokens? (t ++ after) = some us := by
  have hblank := spells_nil.gap hafter [] [] endsNumeral_nil (by rw [tokens?])
  have hends := endsNumeral_nil.gap_append hafter
  simp only [List.append_nil] at hblank hends
  have hread := h after [] hends hblank
  rwa [List.append_nil] at hread

/-- A written string is found as its parts. -/
theorem spells_string {w : Text} {ps : List StringPart} (h : HasParts w ps) :
    Spells ('"' :: (w ++ ['"'])) [.string ps] := by
  intro rest others _ hrest
  rw [List.cons_append, List.append_assoc, List.singleton_append,
    tokens?_string (h.readString?_append rest), hrest]
  rfl

/-- Where strings are written, their tokens are found. -/
theorem WritesItems.exists_tokens (h : WritesItems inner ts) :
    ∃ first pss, Spells (inner ++ [']']) (stringTokens first pss) ∧ Gives (first :: pss) ts := by
  have hends : ∀ {gap : Text} {c : Char} {tok : Token} (rest : Text),
      (∀ d ∈ gap, isGap d = true) → mark? c = some tok → EndsNumeral (gap ++ c :: rest) :=
    fun rest hgap hc => .gap_append hgap (endsNumeral_mark hc rest)
  induction h with
  | @last before after w t hbefore hafter h =>
    obtain ⟨ps, hparts, ht⟩ := h.exists_parts
    refine ⟨ps, [], ?_, .cons ht .nil⟩
    have hclose : Spells (after ++ [']']) [.endArray] := (spells_nil.mark rfl).gap hafter
    have hall := ((spells_string hparts).append hclose (hends [] hafter rfl)).gap hbefore
    simpa [stringTokens, Tree.moreItems] using hall
  | @more before after w t rest ts hbefore hafter h _ ih =>
    obtain ⟨ps, hparts, ht⟩ := h.exists_parts
    obtain ⟨next, pss, hspells, hgives⟩ := ih
    refine ⟨ps, next :: pss, ?_, .cons ht hgives⟩
    have hothers : Spells (after ++ ',' :: (rest ++ [']'])) (.comma :: stringTokens next pss) :=
      (hspells.mark rfl).gap hafter
    have hall := ((spells_string hparts).append hothers (hends _ hafter rfl)).gap hbefore
    simpa [stringTokens_cons] using hall

theorem bind_eq_ok_iff {α β : Type} {r : Except Fault α} {f : α → Except Fault β} {b : β} :
    (r >>= f) = .ok b ↔ ∃ a, r = .ok a ∧ f a = .ok b := by
  cases r <;> simp [bind, Except.bind]

theorem mapM_eq_ok_iff {α β : Type} {f : α → Except Fault β} {l : List α} {bs : List β} :
    l.mapM f = .ok bs ↔ List.Forall₂ (fun a b => f a = .ok b) l bs := by
  induction l generalizing bs with
  | nil =>
    rw [List.mapM_nil, List.forall₂_nil_left_iff]
    exact ⟨fun h => (Except.ok.inj h).symm, fun h => congrArg _ h.symm⟩
  | cons a l ih =>
    simp only [List.mapM_cons, List.forall₂_cons_left_iff, bind_eq_ok_iff, ih]
    constructor
    · rintro ⟨b, hb, us, hus, heq⟩
      exact ⟨b, us, hb, hus, (Except.ok.inj heq).symm⟩
    · rintro ⟨b, us, hb, hus, rfl⟩
      exact ⟨b, hb, us, hus, rfl⟩

theorem toText?_eq_ok_iff {tree : Tree} {t : Text} :
    tree.toText? = .ok t ↔ ∃ ps, tree = .string ps ∧ text? ps = .ok t := by
  cases tree <;> simp [Tree.toText?]

/-- A tree is read as a list of texts if it is an array of strings with these texts. -/
theorem toList?_eq_ok_iff {tree : Tree} :
    tree.toList? Tree.toText? = .ok ts ↔
      ∃ pss, tree = .array (pss.map .string) ∧ Gives pss ts := by
  constructor
  · intro h
    unfold Tree.toList? at h
    split at h
    · next items =>
      rw [mapM_eq_ok_iff] at h
      induction h with
      | nil => exact ⟨[], rfl, .nil⟩
      | cons hitem _ ih =>
        obtain ⟨ps, rfl, ht⟩ := toText?_eq_ok_iff.1 hitem
        obtain ⟨pss, heq, hgives⟩ := ih
        exact ⟨ps :: pss, by rw [Tree.array.inj heq]; rfl, .cons ht hgives⟩
    · cases h
  · rintro ⟨pss, rfl, hgives⟩
    exact mapM_eq_ok_iff.2 (List.forall₂_map_left_iff.2 hgives)

/-- A text has a tree if its tokens are those of the tree. -/
theorem tree?_eq_ok_iff {tree : Tree} :
    tree? json = .ok tree ↔ tokens? json = some tree.tokens := by
  rw [tree?, Tree.parse?, Option.bind_eq_bind]
  cases htokens : tokens? json with
  | none => simp
  | some tokens =>
    rw [Option.bind_some, Option.some.injEq, ← ofTokens?_eq_some_iff]
    cases Tree.ofTokens? tokens <;> simp

theorem tokens_array_strings (first : List StringPart) (pss : List (List StringPart)) :
    (Tree.array ((first :: pss).map .string)).tokens = .beginArray :: stringTokens first pss := by
  rw [List.map_cons, Tree.tokens, Tree.tokens, stringTokens, List.singleton_append]

theorem WritesArray.ne_nil (h : WritesArray json ts) : ts ≠ [] := by
  obtain ⟨_, _, _, _, _, _, hitems⟩ := h
  cases hitems <;> simp

/-- **Read as an array of strings are the texts that write one.** -/
theorem toList?_toText?_iff :
    (do (← tree? json).toList? Tree.toText? : Except Fault (List Text)) = .ok ts ∧ ts ≠ [] ↔
      WritesArray json ts := by
  simp only [bind_eq_ok_iff, tree?_eq_ok_iff, toList?_eq_ok_iff]
  constructor
  · rintro ⟨⟨_, htokens, pss, rfl, hgives⟩, hne⟩
    cases pss with
    | nil =>
      cases hgives
      exact absurd rfl hne
    | cons first pss =>
      rw [tokens_array_strings] at htokens
      obtain ⟨before, rest, rfl, hbefore, hrest⟩ := exists_mark_of_tokens? (c := '[') rfl htokens
      obtain ⟨inner, after, rfl, hinner, hafter⟩ := exists_writesItems hrest hgives
      exact ⟨before, inner, after, rfl, hbefore, hafter, hinner⟩
  · intro h
    refine ⟨?_, h.ne_nil⟩
    obtain ⟨before, inner, after, rfl, hbefore, hafter, hinner⟩ := h
    obtain ⟨first, pss, hspells, hgives⟩ := hinner.exists_tokens
    refine ⟨_, ?_, first :: pss, rfl, hgives⟩
    have hspan : Spells (before ++ '[' :: (inner ++ [']'])) (.beginArray :: _) :=
      (hspells.mark rfl).gap hbefore
    have hread := hspan.tokens?_append_blanks hafter
    rw [tokens_array_strings, ← hread]
    simp

end Items

end Json
end RuleReview
