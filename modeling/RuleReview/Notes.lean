import RuleReview.Failure
import RuleReview.Toml.Record

/-!
# Notes

What the user wants to be kept in mind in every run: preferences, and a glossary of the domain.
Notes are read from a file once in a run and become part of the background of explanations.  No file
means no notes.

## What is here

* `Notes`, `Notes.render` — notes, and how they are told.
* `Notes.load?` — the notes in a file.
-/

set_option autoImplicit false

namespace RuleReview

open Text

/-- What the user wants to be kept in mind. -/
structure Notes where
  /-- Preferences. -/
  preferences : Keyed Text
  /-- The meanings of terms. -/
  glossary : Keyed Text

namespace Notes

/-- No notes. -/
def empty : Notes := ⟨[], []⟩

/-- Whether there are no notes. -/
def isEmpty (n : Notes) : Bool := n.preferences.isEmpty && n.glossary.isEmpty

/-- A table of notes under a heading, if it has entries. -/
def block (heading : Text) (table : Keyed Text) : List Text :=
  if table.isEmpty then []
  else [heading ++ table.flatMap fun e => bullet (e.1 ++ ": " ++ e.2)]

/-- The notes as they are told. -/
def render (n : Notes) : Text :=
  List.intercalate "\n\n"
    (block "User preferences:" n.preferences ++ block "Domain glossary:" n.glossary)

/-- A table of texts. -/
def readTable? (span : Toml.Span) (v : Toml.Value) : Except Toml.Fault (Keyed Text) := do
  let entries ← Toml.atSpan span (v.toTable? span)
  entries.foldlM (fun (table : Keyed Text) (key, span, v) => do
    return table.put key (← Toml.atSpan span v.toText?)) []

/-- The notes in the entries of a document. -/
def ofEntries? (entries : Toml.Entries) : Except Toml.Fault Notes :=
  entries.foldlM (fun (n : Notes) (key, span, v) => do
    if key = "preferences" then return { n with preferences := ← readTable? span v }
    else if key = "glossary" then return { n with glossary := ← readTable? span v }
    else return n) empty

/-- The notes in a file; there are none if there is no file. -/
def load? (tree : FileTree) (path : Text) : Except Failure Notes :=
  if !tree.exists? path then .ok empty
  else do
    let t ← (tree.readText? path).mapError (.file path)
    ((Toml.parse? t).bind ofEntries?).mapError fun fault => .settings path (fault.render t)

end Notes
end RuleReview
