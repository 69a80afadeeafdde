import Mathlib.Data.List.Basic
import RuleReview.Knowledge

/-!
# When documents cannot be read

The files of a folder are read while it is listed, so there are three points at which this can
fail: the folder is not opened, one of its files cannot be read, or the listing breaks off.  What
comes first decides, and it is what the failure names (`Unreadable`).  A file is named by its own
path; the other two are faults of the folder.

A look-up of background fails for no other reason (`retrieve_eq_error_iff`).  It reads nothing
without a term or without a wanted document, and a folder that is missing has no background.
Whether it fails has nothing to do with what the documents say: all of them are read before any is
chosen.

## What is here

* `FileTree.Unreadable`, `readFolder_eq_error_iff` — when the files of a folder cannot be read, and
  what is to blame.
* `FileTree.Readable` — a folder of which all files can be read.
* `Knowledge.Unavailable`, `retrieve_eq_error_iff` — when background cannot be had.
-/

set_option autoImplicit false

namespace RuleReview
namespace FileTree

variable {tree : FileTree} {path : Text} {entries : List (Text × FileTree)} {bars : Bars}

/-! ## The files of a folder -/

/-- Whether this is a file that cannot be read. -/
def isSealed : FileTree → Bool
  | sealed _ => true
  | _ => false

/-- The files among some entries that can be read, with their contents. -/
def openFiles (entries : List (Text × FileTree)) : List (Text × List UInt8) :=
  entries.filterMap fun e =>
    match e.2 with
    | .file bytes => some (e.1, bytes)
    | _ => none

theorem readFiles_of_open (h : ∀ e ∈ entries, e.2.isSealed = false) :
    readFiles path entries = .ok (openFiles entries) := by
  induction entries with
  | nil => rfl
  | cons e rest ih =>
    rw [List.forall_mem_cons] at h
    obtain ⟨name, entry⟩ := e
    cases entry with
    | file bytes =>
      rw [readFiles, ih h.2]
      rfl
    | sealed refusal => cases h.1
    | folder entries bars =>
      rw [readFiles, ih h.2]
      rfl

theorem readFiles_of_sealed {name : Text} {refusal : Refusal}
    (h : entries.find? (·.2.isSealed) = some (name, .sealed refusal)) :
    readFiles path entries = .error (joinPath path name, .refused refusal) := by
  induction entries with
  | nil => cases h
  | cons e rest ih =>
    obtain ⟨first, entry⟩ := e
    cases entry with
    | file bytes =>
      rw [List.find?_cons_of_neg Bool.false_ne_true] at h
      rw [readFiles, ih h]
      rfl
    | sealed refusal =>
      rw [List.find?_cons_of_pos rfl] at h
      cases h
      rfl
    | folder entries bars =>
      rw [List.find?_cons_of_neg Bool.false_ne_true] at h
      rw [readFiles, ih h]

theorem open_or_sealed (entries : List (Text × FileTree)) :
    (∀ e ∈ entries, e.2.isSealed = false) ∨
      ∃ name refusal, entries.find? (·.2.isSealed) = some (name, .sealed refusal) := by
  cases h : entries.find? (·.2.isSealed) with
  | none => exact .inl fun e he => Bool.eq_false_iff.2 (List.find?_eq_none.1 h e he)
  | some e =>
    have hsealed := List.find?_some h
    obtain ⟨name, entry⟩ := e
    cases entry with
    | sealed refusal => exact .inr ⟨name, refusal, rfl⟩
    | file bytes => cases hsealed
    | folder entries bars => cases hsealed

/-- Why the files of a folder cannot be read: the path that is to blame, and its fault. -/
inductive Unreadable (path : Text) (entries : List (Text × FileTree)) (bars : Bars) :
    Text → FileFault → Prop
  /-- The folder is not opened. -/
  | unopened {refusal : Refusal} (h : bars.opening = some refusal) :
      Unreadable path entries bars path (.refused refusal)
  /-- The folder is opened, and a file in it cannot be read.  It is the first one in the listing. -/
  | withheld {name : Text} {refusal : Refusal} (hopening : bars.opening = none)
      (hfirst : (shown entries bars).find? (·.2.isSealed) = some (name, .sealed refusal)) :
      Unreadable path entries bars (joinPath path name) (.refused refusal)
  /-- The folder is opened, and every file in it can be read until the listing breaks off. -/
  | unfinished {count : Nat} {refusal : Refusal} (hopening : bars.opening = none)
      (hopen : ∀ e ∈ shown entries bars, e.2.isSealed = false)
      (hlisting : bars.listing = some (count, refusal)) :
      Unreadable path entries bars path (.refused refusal)

theorem Unreadable.readFolder_eq {blamed : Text} {fault : FileFault}
    (h : Unreadable path entries bars blamed fault) :
    readFolder path entries bars = .error (blamed, fault) := by
  cases h with
  | unopened hopening => rw [readFolder, hopening]
  | withheld hopening hfirst =>
    rw [readFolder, hopening, readFiles_of_sealed hfirst]
    rfl
  | unfinished hopening hopen hlisting =>
    rw [readFolder, hopening, readFiles_of_open hopen, hlisting]
    rfl

theorem readFolder_of_open (hopening : bars.opening = none) (hlisting : bars.listing = none)
    (hopen : ∀ e ∈ shown entries bars, e.2.isSealed = false) :
    readFolder path entries bars = .ok (openFiles (shown entries bars)) := by
  rw [readFolder, hopening, readFiles_of_open hopen, hlisting]
  rfl

/-- **What is to blame when the files of a folder cannot be read** is what comes first: the folder
itself, a file in it, or the end of the listing. -/
theorem readFolder_eq_error_iff {blamed : Text} {fault : FileFault} :
    readFolder path entries bars = .error (blamed, fault) ↔
      Unreadable path entries bars blamed fault := by
  refine ⟨fun h => ?_, Unreadable.readFolder_eq⟩
  have hsame {blamed' : Text} {fault' : FileFault}
      (h' : Unreadable path entries bars blamed' fault') :
      Unreadable path entries bars blamed fault := by
    have heq := h'.readFolder_eq.symm.trans h
    cases heq
    exact h'
  cases hopening : bars.opening with
  | some refusal => exact hsame (.unopened hopening)
  | none =>
    rcases open_or_sealed (shown entries bars) with hopen | ⟨name, refusal, hfirst⟩
    · cases hlisting : bars.listing with
      | some broken => exact hsame (.unfinished hopening hopen hlisting)
      | none =>
        rw [readFolder_of_open hopening hlisting hopen] at h
        cases h
    · exact hsame (.withheld hopening hfirst)

theorem isFolder_iff :
    tree.isFolder path = true ↔ ∃ entries bars, tree.find? path = .ok (.folder entries bars) := by
  rw [isFolder]
  split
  · next entries bars h => exact ⟨fun _ => ⟨entries, bars, h⟩, fun _ => rfl⟩
  · next hno =>
    refine ⟨fun h => (Bool.false_ne_true h).elim, ?_⟩
    rintro ⟨entries, bars, h⟩
    exact absurd h (hno entries bars)

theorem filesIn?_of_folder (h : tree.find? path = .ok (.folder entries bars)) :
    tree.filesIn? path = readFolder path entries bars := by
  rw [filesIn?, h]

/-- A path leads to a folder with the given entries, and all of its files can be read. -/
structure Readable (tree : FileTree) (path : Text) (entries : List (Text × FileTree)) : Prop where
  /-- The path leads to the folder, of which nothing is refused but, at most, to add to it. -/
  leads : ∃ adding, tree.find? path = .ok (.folder entries { adding })
  /-- Each of its files can be read. -/
  opens : ∀ e ∈ entries, e.2.isSealed = false

theorem Readable.isFolder_eq (h : Readable tree path entries) : tree.isFolder path = true := by
  obtain ⟨adding, hleads⟩ := h.leads
  exact isFolder_iff.2 ⟨_, _, hleads⟩

theorem Readable.filesIn?_eq (h : Readable tree path entries) :
    tree.filesIn? path = .ok (openFiles entries) := by
  obtain ⟨adding, hleads⟩ := h.leads
  rw [filesIn?_of_folder hleads]
  exact readFolder_of_open rfl rfl h.opens

end FileTree

/-! ## Background that cannot be had -/

namespace Knowledge

open FileTree (Unreadable)

variable {limits : Limits} {tree : FileTree} {folder query : Text}
variable {entries : List (Text × FileTree)} {bars : Bars}

theorem readDocuments_eq_error_iff {blamed : Text} {fault : FileFault}
    (h : tree.find? folder = .ok (.folder entries bars)) :
    readDocuments tree folder = .error (blamed, fault) ↔
      Unreadable folder entries bars blamed fault := by
  rw [readDocuments, FileTree.filesIn?_of_folder h, ← FileTree.readFolder_eq_error_iff]
  cases FileTree.readFolder folder entries bars <;> simp [Except.map]

/-- Background cannot be had. -/
structure Unavailable (limits : Limits) (tree : FileTree) (folder query : Text) (e : Failure) :
    Prop where
  /-- The query has a term. -/
  asked : (queryTerms query).isEmpty = false
  /-- A document is wanted. -/
  wanted : limits.topK ≠ 0
  /-- The folder is there but its files cannot be read, and the failure says what is to blame. -/
  unread : ∃ entries bars blamed fault, tree.find? folder = .ok (.folder entries bars) ∧
    Unreadable folder entries bars blamed fault ∧ e = .file blamed fault

/-- **Looking up background fails exactly when there is something to look up** and the folder is
there but cannot be read with all of its files. -/
theorem retrieve_eq_error_iff {e : Failure} :
    retrieve limits tree folder query = .error e ↔ Unavailable limits tree folder query e := by
  constructor
  · intro h
    rw [retrieve] at h
    split at h
    · cases h
    · next hlooks =>
      rw [Bool.or_eq_true, Bool.or_eq_true, not_or, not_or, Bool.not_eq_true', Bool.not_eq_false,
        Bool.not_eq_true, beq_iff_eq] at hlooks
      obtain ⟨⟨hfolder, hasked⟩, hwanted⟩ := hlooks
      obtain ⟨entries, bars, hleads⟩ := FileTree.isFolder_iff.1 hfolder
      cases hread : readDocuments tree folder with
      | ok documents =>
        rw [hread] at h
        cases h
      | error blame =>
        rw [hread] at h
        cases h
        exact ⟨hasked, hwanted, entries, bars, blame.1, blame.2, hleads,
          (readDocuments_eq_error_iff hleads).1 hread, rfl⟩
  · rintro ⟨hasked, hwanted, entries, bars, blamed, fault, hleads, hunread, rfl⟩
    have hfolder := FileTree.isFolder_iff.2 ⟨entries, bars, hleads⟩
    rw [retrieve, hfolder, hasked, beq_eq_false_iff_ne.2 hwanted,
      (readDocuments_eq_error_iff hleads).2 hunread]
    rfl

-- A document that cannot be read is named, and a listing that breaks off before it hides it.
example :
    retrieve .standard
      (.folder [("kb", .folder [("a.md", .file []), ("b.md", .sealed ⟨13, "Permission denied"⟩)])])
      "kb" "score" =
      .error (.file "kb/b.md" (.refused ⟨13, "Permission denied"⟩)) := by
  decide +kernel
example :
    retrieve .standard
      (.folder [("kb", .folder [("a.md", .file []), ("b.md", .sealed ⟨13, "Permission denied"⟩)]
        { listing := some (1, ⟨5, "Input/output error"⟩) })])
      "kb" "score" =
      .error (.file "kb" (.refused ⟨5, "Input/output error"⟩)) := by
  decide +kernel

end Knowledge
end RuleReview
