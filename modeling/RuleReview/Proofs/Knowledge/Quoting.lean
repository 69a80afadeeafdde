import RuleReview.Proofs.Knowledge.Ranking
import RuleReview.Proofs.Script.Paths
import RuleReview.Proofs.Text.Lower

/-!
# Documents that quote the query

A term of a query is cut out of it before it is put into small letters, and a document is put into
small letters as a whole.  Both come to the same unless a capital sigma is about, which looks at its
neighbours.  So a document in which the query stands as it is mentions all of its terms
(`score_of_infix`), and no document mentions more.  It is quoted, unless as many others as are
wanted mention all terms too and have smaller names.

## What is here

* `infix_of_mem_identifiers`, `infix_of_mem_segments` — names are cut out of a text.
* `mem_queryTerms_iff` — what the terms of a query are.
* `exists_infix_of_mem_queryTerms` — terms are parts of the query, in small letters.
* `quoting_document` — what becomes of a document that quotes the query.
-/

set_option autoImplicit false

namespace RuleReview

open Text

namespace Script

/-- Identifiers are stretches of the text. -/
theorem infix_of_mem_identifiers {identifier t : Text} (h : identifier ∈ identifiers t) :
    identifier <:+: t := by
  fun_induction identifiers t with
  | case1 => cases h
  | case2 c rest _ ih => exact List.infix_cons (ih h)
  | case3 c rest _ _ ih =>
    exact List.infix_cons ((ih h).trans (List.dropWhile_suffix isWord).isInfix)
  | case4 c rest _ _ more ih =>
    have hsplit : c :: rest = (c :: rest.takeWhile isWord ++ more.1) ++ more.2 := by
      rw [List.append_assoc, (dotted_spec (beginsInWord_dropWhile rest)).1, List.cons_append,
        List.takeWhile_append_dropWhile]
    rcases List.mem_cons.1 h with rfl | hlater
    · rw [hsplit]
      exact (List.prefix_append _ _).isInfix
    · rw [hsplit]
      exact (ih hlater).trans (List.suffix_append _ _).isInfix

end Script

namespace Knowledge

/-! ## Terms of a query -/

section Terms

variable {query content t : Text}

/-- The segments of a path begin with a prefix of it, and all others are stretches of it. -/
theorem segments_spec (path : Text) :
    ∃ first others, segments path = first :: others ∧ first <+: path ∧
      ∀ s ∈ others, s <:+: path := by
  induction path with
  | nil => exact ⟨[], [], rfl, List.prefix_refl _, by simp⟩
  | cons c rest ih =>
    obtain ⟨first, others, hsegments, hfirst, hothers⟩ := ih
    have hlater : ∀ s ∈ others, s <:+: c :: rest := fun s hs => List.infix_cons (hothers s hs)
    rw [segments, hsegments]
    by_cases hdot : c = '.'
    · exact ⟨[], first :: others, if_pos hdot, List.nil_prefix,
        List.forall_mem_cons.2 ⟨List.infix_cons hfirst.isInfix, hlater⟩⟩
    · exact ⟨c :: first, others, if_neg hdot, List.cons_prefix_cons.2 ⟨rfl, hfirst⟩, hlater⟩

theorem infix_of_mem_segments {s path : Text} (h : s ∈ segments path) : s <:+: path := by
  obtain ⟨first, others, hsegments, hfirst, hothers⟩ := segments_spec path
  rw [hsegments] at h
  rcases List.mem_cons.1 h with rfl | hlater
  · exact hfirst.isInfix
  · exact hothers s hlater

/-- A term is a segment of an identifier that is no keyword, or all of it, put into small letters if
it is long enough. -/
theorem mem_queryTerms_iff :
    t ∈ queryTerms query ↔ ∃ identifier ∈ Script.identifiers query,
      Script.isKeyword identifier = false ∧ ∃ part,
        (part ∈ segments identifier ∨ part = identifier) ∧ isLongEnough part = true ∧
          lower part = t := by
  simp [queryTerms, NameSet.mem_ofList, termsOf, and_assoc]

/-- The terms of a query are stretches of it, put into small letters. -/
theorem exists_infix_of_mem_queryTerms (h : t ∈ queryTerms query) :
    ∃ part, part <:+: query ∧ t = lower part := by
  obtain ⟨identifier, hidentifier, -, part, hpart, -, rfl⟩ := mem_queryTerms_iff.1 h
  have hinfix := Script.infix_of_mem_identifiers hidentifier
  refine ⟨part, ?_, rfl⟩
  rcases hpart with hsegment | rfl
  · exact (infix_of_mem_segments hsegment).trans hinfix
  · exact hinfix

theorem score_le (content : Text) (terms : NameSet) : score content terms ≤ terms.names.length :=
  List.length_filter_le _ _

/-- A document in which the query stands mentions all terms of the query. -/
theorem score_of_infix (hquery : query <:+: content) (hsigma : capitalSigma ∉ content) :
    score content (queryTerms query) = (queryTerms query).names.length := by
  rw [score, List.filter_eq_self.2]
  intro t ht
  obtain ⟨part, hpart, rfl⟩ := exists_infix_of_mem_queryTerms ht
  exact (occursIn_iff _ _).2 (lower_infix_lower hsigma (hpart.trans hquery))

end Terms

/-! ## What is quoted -/

section Quoted

variable {terms : NameSet} {documents : List (Text × Text)} {best left : List Scored} {k : Nat}

theorem score_of_mem_mentioning {d : Scored} (h : d ∈ mentioning terms documents) :
    d.score = score d.content terms := by
  obtain ⟨file, -, rfl⟩ := List.mem_map.1 (List.mem_of_mem_filter h)
  rfl

/-- Documents are left out only if as many as are wanted are quoted. -/
theorem Selects.length_eq (h : Selects k terms documents best left) (hleft : left ≠ []) :
    best.length = k := by
  have htotal := h.all.length_eq
  have hcount := h.count
  rw [List.length_append] at htotal
  have hpos := List.length_pos_iff.2 hleft
  omega

/-- What is quoted in the place of a document that mentions all terms does so too, and has a smaller
name. -/
theorem Selects.behind_full {d o : Scored} (h : Selects k terms documents best left) (hd : d ∈ left)
    (hfull : d.score = terms.names.length) (ho : o ∈ best) :
    o.score = terms.names.length ∧ o.name < d.name := by
  have hmentioned : o ∈ mentioning terms documents := h.all.mem_iff.1 (List.mem_append_left _ ho)
  have hle : o.score ≤ terms.names.length := by
    rw [score_of_mem_mentioning hmentioned]
    exact score_le _ _
  rcases h.behind o ho d hd with hlt | ⟨heq, hname⟩
  · omega
  · exact ⟨heq.trans hfull, hname⟩

end Quoted

/-- **A document that quotes the query mentions all of its terms**, and no document mentions more.
If there are terms, and documents are wanted, it is quoted unless as many as are wanted mention all
terms too and have smaller names. -/
theorem quoting_document (query content : Text) (hquery : query <:+: content)
    (hsigma : capitalSigma ∉ content) :
    score content (queryTerms query) = (queryTerms query).names.length ∧
    (∀ other, score other (queryTerms query) ≤ score content (queryTerms query)) ∧
    ∀ (topK maxChars : Nat) (tree : FileTree) (folder name : Text)
      (entries : List (Text × FileTree)), tree.Readable folder entries →
      ((documentsIn entries).map (·.1)).Nodup → (name, content) ∈ documentsIn entries →
      (queryTerms query).isEmpty = false →
      ∃ best left, Selects topK (queryTerms query) (documentsIn entries) best left ∧
        retrieve ⟨topK, maxChars⟩ tree folder query =
          .ok (List.intercalate "\n\n" (best.map (Scored.block maxChars))) ∧
        (⟨name, content, (queryTerms query).names.length⟩ ∈ best ∨
          best.length = topK ∧ ∀ other ∈ best,
            score other.content (queryTerms query) = (queryTerms query).names.length ∧
              other.name < name) := by
  have hall := score_of_infix hquery hsigma
  refine ⟨hall, fun other => hall ▸ score_le other _, ?_⟩
  intro topK maxChars tree folder name entries hfolder hnames hmem hterms
  have hselects := selects_take hnames topK (queryTerms query)
  refine ⟨_, _, hselects, retrieve_eq hfolder hnames, ?_⟩
  have hmentioned : (⟨name, content, (queryTerms query).names.length⟩ : Scored) ∈
      mentioning (queryTerms query) (documentsIn entries) := by
    refine List.mem_filter.2 ⟨List.mem_map.2 ⟨_, hmem, by rw [hall]⟩, ?_⟩
    rw [decide_eq_true_eq, List.length_pos_iff]
    intro hnil
    rw [NameSet.isEmpty, hnil] at hterms
    cases hterms
  rcases List.mem_append.1 (hselects.all.mem_iff.2 hmentioned) with hbest | hleft
  · exact .inl hbest
  · refine .inr ⟨hselects.length_eq (List.ne_nil_of_mem hleft), fun other hother => ?_⟩
    have hother' := hselects.all.mem_iff.1 (List.mem_append_left _ hother)
    rw [← score_of_mem_mentioning hother']
    exact hselects.behind_full hleft rfl hother

/-- A document that quotes a condition. -/
def zoneRule : Text := "Taken if (Δ.zone > 700), by law."

/-- A folder with the document, and one that mentions the same and has a smaller name. -/
def policies : List (Text × FileTree) :=
  [("zones.md", .file (Utf8.encode zoneRule)),
    ("about.md", .file (Utf8.encode "The ZONE of a case."))]

/-- The document mentions all terms of the condition, and is quoted or another in its place. -/
theorem quoting_document_policies :
    score zoneRule (queryTerms "(Δ.zone > 700)") = (queryTerms "(Δ.zone > 700)").names.length ∧
    ∃ best left, Selects 1 (queryTerms "(Δ.zone > 700)") (documentsIn policies) best left ∧
      retrieve ⟨1, 40⟩ (.folder [("kb", .folder policies)]) "kb" "(Δ.zone > 700)" =
        .ok (List.intercalate "\n\n" (best.map (Scored.block 40))) ∧
      (⟨"zones.md", zoneRule, (queryTerms "(Δ.zone > 700)").names.length⟩ ∈ best ∨
        best.length = 1 ∧ ∀ other ∈ best,
          score other.content (queryTerms "(Δ.zone > 700)") =
              (queryTerms "(Δ.zone > 700)").names.length ∧ other.name < "zones.md".toList) := by
  have hquery : "(Δ.zone > 700)".toList <:+: zoneRule := (occursIn_iff _ _).1 (by decide)
  obtain ⟨hall, -, hquoted⟩ := quoting_document "(Δ.zone > 700)" zoneRule hquery (by decide)
  refine ⟨hall, hquoted 1 40 (.folder [("kb", .folder policies)]) "kb" "zones.md" policies
    ⟨⟨none, rfl⟩, by decide⟩ ?_ ?_ ?_⟩
  · decide +kernel
  · decide +kernel
  · decide +kernel

end Knowledge
end RuleReview
