import Mathlib.Data.List.Sort
import RuleReview.Proofs.Knowledge.Reading

/-!
# Which documents are quoted

A document outranks another if it mentions more terms, or as many and its name comes first.  Names
in a folder are different, so of two documents one always outranks the other, and there is only one
order in which each outranks those behind it (`pairwise_outranks`, `eq_of_perm_of_outranks`).  From
this everything follows: the order in which a folder lists its files does not matter (`rank_congr`),
the quoted documents are determined by what is asked of them (`Selects.eq_take`), and with a greater
limit the text goes on where it ended (`quote_succ`).

Documents are read in the order of their names before they are ranked.  The ranking looks at names
itself, so that order is not seen in it.  What becomes of a look-up when they cannot be read is said
in `RuleReview.Proofs.Knowledge.Reading`.

## What is here

* `Scored.Outranks` — the order of the documents.
* `mentioning`, `Selects` — the documents that mention a term, and the best of them.
* `retrieve_exact` — the background for a query, whatever its folder lists first.
-/

set_option autoImplicit false

namespace RuleReview
namespace Knowledge

open Text

/-! ## The order of documents -/

section Order

variable {a b c : Scored} {l : List Scored}

/-- One document comes before another: it mentions more terms, or as many and its name is first. -/
def Scored.Outranks (a b : Scored) : Prop :=
  b.score < a.score ∨ a.score = b.score ∧ a.name < b.name

theorem Scored.before_iff : a.before b = true ↔
    b.score < a.score ∨ a.score = b.score ∧ ¬ b.name < a.name := by
  rw [Scored.before, Bool.or_eq_true, Bool.and_eq_true, decide_eq_true_eq, beq_iff_eq,
    Bool.not_eq_true', decide_eq_false_iff_not]

theorem Scored.before_trans (hab : a.before b = true) (hbc : b.before c = true) :
    a.before c = true := by
  rw [before_iff] at hab hbc ⊢
  rcases hab with hab | ⟨hab, hname⟩
  · exact .inl (by omega)
  · rcases hbc with hbc | ⟨hbc, hname'⟩
    · exact .inl (by omega)
    · refine .inr ⟨by omega, fun hca => ?_⟩
      -- a name that comes before the first one comes before the second one
      by_cases hab : a.name = b.name
      · exact hname' (hab ▸ hca)
      · exact hname' (List.lt_trans hca (Text.lt_of_not_lt_of_ne b.name a.name hname (Ne.symm hab)))

theorem Scored.before_total (a b : Scored) : (a.before b || b.before a) = true := by
  rw [Bool.or_eq_true, before_iff, before_iff]
  rcases Nat.lt_trichotomy a.score b.score with h | h | h
  · exact .inr (.inl h)
  · by_cases hname : a.name < b.name
    · exact .inl (.inr ⟨h, List.lt_asymm hname⟩)
    · exact .inr (.inr ⟨h.symm, hname⟩)
  · exact .inl (.inl h)

theorem Scored.Outranks.asymm (h : a.Outranks b) : ¬ b.Outranks a := by
  rintro (h' | ⟨hscore, hname⟩)
  · rcases h with h | ⟨h, -⟩ <;> omega
  · rcases h with h | ⟨-, h⟩
    · omega
    · exact List.lt_asymm h hname

/-- Documents with different names are put in the one order in which each outranks those behind
it. -/
theorem pairwise_outranks (hnames : (l.map Scored.name).Nodup) :
    (l.mergeSort Scored.before).Pairwise Scored.Outranks := by
  have hperm := List.mergeSort_perm l Scored.before
  have hsorted := @List.pairwise_mergeSort _ Scored.before
    (fun a b c hab hbc => Scored.before_trans hab hbc) Scored.before_total l
  have hdifferent : (l.mergeSort Scored.before).Pairwise fun a b => a.name ≠ b.name :=
    List.pairwise_map.1 ((hperm.map Scored.name).nodup_iff.2 hnames)
  refine (hsorted.and hdifferent).imp ?_
  rintro a b ⟨hbefore, hname⟩
  refine (Scored.before_iff.1 hbefore).imp_right ?_
  rintro ⟨hscore, hnot⟩
  exact ⟨hscore, Text.lt_of_not_lt_of_ne b.name a.name hnot hname.symm⟩

/-- Only one order of some documents is such that each outranks those behind it. -/
theorem eq_of_perm_of_outranks {others : List Scored} (hl : l.Pairwise Scored.Outranks)
    (hothers : others.Pairwise Scored.Outranks) (h : l.Perm others) : l = others :=
  List.Perm.eq_of_pairwise (fun _ _ _ _ hab hba => absurd hba hab.asymm) hl hothers h

end Order

/-! ## The documents that mention a term -/

section Selected

variable {k : Nat} {terms : NameSet} {documents others : List (Text × Text)}
variable {best left : List Scored}

/-- The documents that mention some of the terms, with the number of terms they mention. -/
def mentioning (terms : NameSet) (documents : List (Text × Text)) : List Scored :=
  (documents.map fun d => (⟨d.1, d.2, score d.2 terms⟩ : Scored)).filter (0 < ·.score)

theorem nodup_names_mentioning (hnames : (documents.map (·.1)).Nodup) :
    ((mentioning terms documents).map Scored.name).Nodup := by
  refine List.Nodup.sublist (List.filter_sublist.map Scored.name) ?_
  rwa [List.map_map]

theorem mentioning_perm (h : documents.Perm others) :
    (mentioning terms documents).Perm (mentioning terms others) :=
  (h.map _).filter _

theorem pairwise_rank (terms : NameSet) (hnames : (documents.map (·.1)).Nodup) :
    (rank terms documents).Pairwise Scored.Outranks :=
  pairwise_outranks (nodup_names_mentioning hnames)

theorem rank_perm (terms : NameSet) (documents : List (Text × Text)) :
    (rank terms documents).Perm (mentioning terms documents) :=
  List.mergeSort_perm _ _

/-- **The order in which documents are ranked does not depend on the order in which they come.** -/
theorem rank_congr (terms : NameSet) (hnames : (documents.map (·.1)).Nodup)
    (h : documents.Perm others) : rank terms documents = rank terms others := by
  have hnames' : (others.map (·.1)).Nodup := (h.map (·.1)).nodup_iff.1 hnames
  refine eq_of_perm_of_outranks (pairwise_rank terms hnames) (pairwise_rank terms hnames') ?_
  exact (rank_perm terms documents).trans ((mentioning_perm h).trans (rank_perm terms others).symm)

/-- The documents to be quoted when at most `k` are wanted, and those that are left out. -/
structure Selects (k : Nat) (terms : NameSet) (documents : List (Text × Text))
    (best left : List Scored) : Prop where
  /-- Together they are the documents that mention a term, each once. -/
  all : (best ++ left).Perm (mentioning terms documents)
  /-- As many are quoted as are wanted and there are. -/
  count : best.length = min k (mentioning terms documents).length
  /-- The best are first. -/
  ordered : best.Pairwise Scored.Outranks
  /-- What is left out ranks behind all that is quoted. -/
  behind : ∀ a ∈ best, ∀ b ∈ left, a.Outranks b

theorem selects_take (hnames : (documents.map (·.1)).Nodup) (k : Nat) (terms : NameSet) :
    Selects k terms documents ((rank terms documents).take k) ((rank terms documents).drop k) := by
  have hpairwise := pairwise_rank terms hnames
  rw [← List.take_append_drop k (rank terms documents), List.pairwise_append] at hpairwise
  refine ⟨?_, ?_, hpairwise.1, hpairwise.2.2⟩
  · rw [List.take_append_drop]
    exact rank_perm terms documents
  · rw [List.length_take, (rank_perm terms documents).length_eq]

/-- **The documents to be quoted are determined by what is asked of them.** -/
theorem Selects.eq_take (hnames : (documents.map (·.1)).Nodup)
    (h : Selects k terms documents best left) : best = (rank terms documents).take k := by
  -- with the others put in order too, all of them are the ranking
  have hleft := List.mergeSort_perm left Scored.before
  have hall : (best ++ left.mergeSort Scored.before).Perm (rank terms documents) :=
    (hleft.append_left best).trans (h.all.trans (rank_perm terms documents).symm)
  have hnames' : (left.map Scored.name).Nodup := by
    have hwhole := (h.all.map Scored.name).nodup_iff.2 (nodup_names_mentioning hnames)
    rw [List.map_append] at hwhole
    exact hwhole.of_append_right
  have hordered : (best ++ left.mergeSort Scored.before).Pairwise Scored.Outranks :=
    List.pairwise_append.2 ⟨h.ordered, pairwise_outranks hnames', fun a ha b hb =>
      h.behind a ha b (hleft.mem_iff.1 hb)⟩
  have htotal := h.all.length_eq
  have hcount := h.count
  rw [List.length_append] at htotal
  rw [← eq_of_perm_of_outranks hordered (pairwise_rank terms hnames) hall, List.take_append,
    List.take_of_length_le (by omega), List.self_eq_append_right, List.take_eq_nil_iff,
    ← List.length_eq_zero_iff, hleft.length_eq]
  omega

end Selected

/-! ## The text that is quoted -/

section Quoted

variable {k maxChars : Nat} {ranked : List Scored}

theorem intercalate_append_singleton {pieces : List Text} (h : pieces ≠ [])
    (separator last : Text) :
    List.intercalate separator (pieces ++ [last]) =
      List.intercalate separator pieces ++ (separator ++ last) := by
  induction pieces with
  | nil => exact absurd rfl h
  | cons first rest ih =>
    by_cases hrest : rest = []
    · simp [hrest]
    · have hmore : rest ++ [last] ≠ [] := List.append_ne_nil_of_left_ne_nil hrest _
      rw [List.cons_append, List.intercalate_cons_of_ne_nil hmore, ih hrest,
        List.intercalate_cons_of_ne_nil hrest, List.append_assoc (first ++ separator)]

/-- With a greater limit than there are documents nothing more is quoted. -/
theorem quote_of_length_le (h : ranked.length ≤ k) :
    quote ⟨k + 1, maxChars⟩ ranked = quote ⟨k, maxChars⟩ ranked := by
  simp only [quote]
  rw [List.take_of_length_le h, List.take_of_length_le (by omega)]

/-- One more document is quoted behind the others, after a blank line. -/
theorem quote_succ (hk : 1 ≤ k) (h : k < ranked.length) :
    quote ⟨k + 1, maxChars⟩ ranked =
      quote ⟨k, maxChars⟩ ranked ++ ("\n\n" ++ ranked[k].block maxChars) := by
  have hsome : (ranked.take k).map (Scored.block maxChars) ≠ [] := by
    rw [Ne, List.map_eq_nil_iff, List.take_eq_nil_iff, ← List.length_eq_zero_iff]
    omega
  simp only [quote]
  rw [List.take_succ_eq_append_getElem h, List.map_append, List.map_singleton,
    intercalate_append_singleton hsome]

end Quoted

/-! ## The background for a query -/

section Background

variable {limits : Limits} {tree : FileTree} {folder query : Text}
variable {entries : List (Text × FileTree)}

/-- The files among the entries of a folder, each with the text in it. -/
def documentsIn (entries : List (Text × FileTree)) : List (Text × Text) :=
  (FileTree.openFiles entries).map fun f => (f.1, Utf8.decodeLossy f.2)

theorem documentsIn_perm {others : List (Text × FileTree)} (h : entries.Perm others) :
    (documentsIn entries).Perm (documentsIn others) :=
  (h.filterMap _).map _

theorem readDocuments_of_readable (h : tree.Readable folder entries) :
    readDocuments tree folder =
      .ok ((documentsIn entries).mergeSort fun a b => !decide (b.1 < a.1)) := by
  rw [readDocuments, h.filesIn?_eq]
  rfl

theorem rank_of_isEmpty {terms : NameSet} {documents : List (Text × Text)}
    (h : terms.isEmpty = true) : rank terms documents = [] := by
  have hscore : ∀ content, score content terms = 0 := by
    intro content
    rw [score, List.isEmpty_iff.1 h]
    rfl
  have hnone : mentioning terms documents = [] := by
    refine List.filter_eq_nil_iff.2 fun d hd => ?_
    obtain ⟨file, -, rfl⟩ := List.mem_map.1 hd
    simp [hscore]
  exact (hnone ▸ rank_perm terms documents).eq_nil

/-- The background is quoted from the ranking, also where no document is looked at. -/
theorem retrieve_eq (hfolder : tree.Readable folder entries)
    (hnames : ((documentsIn entries).map (·.1)).Nodup) :
    retrieve limits tree folder query =
      .ok (quote limits (rank (queryTerms query) (documentsIn entries))) := by
  have hsorted := rank_congr (queryTerms query) hnames
    (List.mergeSort_perm (documentsIn entries) fun a b => !decide (b.1 < a.1)).symm
  simp only [retrieve, hfolder.isFolder_eq, readDocuments_of_readable hfolder, ← hsorted]
  split
  · next h =>
    -- no document is asked for, or none mentions anything
    rw [Bool.not_true, Bool.false_or, Bool.or_eq_true, beq_iff_eq] at h
    rcases h with hterms | hlimit
    · rw [rank_of_isEmpty hterms]
      simp [quote]
    · rw [quote, hlimit]
      simp
  · rfl

/-- **The background for a query** from a folder whose files can be read.  It is quoted from the
best documents that mention a term of the query, as many as are wanted, the best first, and no other
choice of documents is the best.  It does not depend on the order in which the folder lists its
entries.  When one document more is wanted, the text is the same if there are no more, and else the
best of those that were left out is quoted behind it after a blank line. -/
theorem retrieve_exact (topK maxChars : Nat) (tree : FileTree) (folder query : Text)
    (entries : List (Text × FileTree)) (hfolder : tree.Readable folder entries)
    (hnames : ((documentsIn entries).map (·.1)).Nodup) :
    (∃ best left, Selects topK (queryTerms query) (documentsIn entries) best left ∧
      retrieve ⟨topK, maxChars⟩ tree folder query =
        .ok (List.intercalate "\n\n" (best.map (Scored.block maxChars))) ∧
      ∀ others rest, Selects topK (queryTerms query) (documentsIn entries) others rest →
        others = best) ∧
    (∀ tree' folder' entries', tree'.Readable folder' entries' → entries'.Perm entries →
      retrieve ⟨topK, maxChars⟩ tree' folder' query =
        retrieve ⟨topK, maxChars⟩ tree folder query) ∧
    (1 ≤ topK →
      (mentioning (queryTerms query) (documentsIn entries)).length ≤ topK ∧
        retrieve ⟨topK + 1, maxChars⟩ tree folder query =
          retrieve ⟨topK, maxChars⟩ tree folder query ∨
      ∃ best next left text,
        Selects topK (queryTerms query) (documentsIn entries) best (next :: left) ∧
        Selects (topK + 1) (queryTerms query) (documentsIn entries) (best ++ [next]) left ∧
        retrieve ⟨topK, maxChars⟩ tree folder query = .ok text ∧
        retrieve ⟨topK + 1, maxChars⟩ tree folder query =
          .ok (text ++ ("\n\n" ++ next.block maxChars))) := by
  have hlength := (rank_perm (queryTerms query) (documentsIn entries)).length_eq
  refine ⟨⟨_, _, selects_take hnames topK _, retrieve_eq hfolder hnames, fun others rest h =>
    h.eq_take hnames⟩, fun tree' folder' entries' hfolder' hentries => ?_, fun hpositive => ?_⟩
  · have hdocuments := documentsIn_perm hentries
    have hnames' := (hdocuments.map (·.1)).nodup_iff.2 hnames
    rw [retrieve_eq hfolder hnames, retrieve_eq hfolder' hnames', rank_congr _ hnames' hdocuments]
  · rw [retrieve_eq hfolder hnames, retrieve_eq hfolder hnames, ← hlength]
    rcases Nat.lt_or_ge topK (rank (queryTerms query) (documentsIn entries)).length with hmore | hle
    · have hselects := selects_take hnames topK (queryTerms query)
      have hselects' := selects_take hnames (topK + 1) (queryTerms query)
      rw [List.drop_eq_getElem_cons hmore] at hselects
      rw [List.take_succ_eq_append_getElem hmore] at hselects'
      exact .inr ⟨_, _, _, _, hselects, hselects', rfl, by rw [quote_succ hpositive hmore]⟩
    · exact .inl ⟨hle, by rw [quote_of_length_le hle]⟩

/-- A folder of notes that does not list them in the order of their names. -/
def notes : List (Text × FileTree) :=
  [("tiers.md", .file (Utf8.encode "The decision.tier follows the score.")), ("old", .folder []),
    ("scores.md", .file (Utf8.encode "Every applicant.score is below 1000.")),
    ("fees.md", .file (Utf8.encode "Nothing is paid."))]

theorem retrieve_notes :
    (∃ best left, Selects 1 (queryTerms "if (score > 700)") (documentsIn notes) best left ∧
      retrieve ⟨1, 12⟩ (.folder [("kb", .folder notes)]) "kb" "if (score > 700)" =
        .ok (List.intercalate "\n\n" (best.map (Scored.block 12)))) ∧
    retrieve ⟨1, 12⟩ (.folder [("kb", .folder notes.reverse)]) "kb" "if (score > 700)" =
      retrieve ⟨1, 12⟩ (.folder [("kb", .folder notes)]) "kb" "if (score > 700)" := by
  obtain ⟨⟨best, left, hselects, htext, -⟩, horder, -⟩ :=
    retrieve_exact 1 12 (.folder [("kb", .folder notes)]) "kb" "if (score > 700)" notes
      ⟨⟨none, rfl⟩, by decide⟩ (by decide +kernel)
  exact ⟨⟨best, left, hselects, htext⟩,
    horder (.folder [("kb", .folder notes.reverse)]) "kb" notes.reverse ⟨⟨none, rfl⟩, by decide⟩
      notes.reverse_perm⟩

end Background

end Knowledge
end RuleReview
