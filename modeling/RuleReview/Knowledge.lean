import RuleReview.Failure
import RuleReview.Script.Identifier
import RuleReview.Text.Blank
import RuleReview.Text.Case

/-!
# The knowledge base

Background for an explanation is looked up in a folder of documents.  A document scores one point
for each term of the query that it mentions, in any case; the best documents are quoted, each
shortened to a limit, ties in the order of their names.

The terms of a query are its identifiers and the segments of these, in small letters.  Keywords are
no terms as identifiers, and what takes fewer than three bytes is too short to be one.

All documents are read before any is chosen, so a single one that cannot be read ends the look-up,
and it is the one that is named.  Nothing is read for a query without terms, nor if no document is
wanted.

## What is here

* `Knowledge.queryTerms`, `Knowledge.score` — the terms of a query, and how many a text mentions.
* `Knowledge.rank` — the best documents.
* `Knowledge.readDocuments` — the documents of a folder.
* `Knowledge.retrieve` — the background for a query.
-/

set_option autoImplicit false

namespace RuleReview
namespace Knowledge

open Text

/-- How much background is quoted. -/
structure Limits where
  /-- The greatest number of documents. -/
  topK : Nat
  /-- The greatest number of characters of each document. -/
  maxChars : Nat

/-- How much is quoted unless something else is set. -/
def Limits.standard : Limits := ⟨3, 1200⟩

/-! ## Terms -/

/-- The least length of a term, in bytes. -/
def minTermLength : Nat := 3

/-- Whether a name is long enough to be a term. -/
def isLongEnough (t : Text) : Bool := minTermLength ≤ (Utf8.encode t).length

/-- The segments of a dotted path. -/
def segments : Text → List Text
  | [] => [[]]
  | c :: rest =>
    match segments rest with
    | [] => [[c]]
    | s :: others => if c = '.' then [] :: s :: others else (c :: s) :: others

/-- The terms that an identifier gives. -/
def termsOf (identifier : Text) : List Text :=
  ((segments identifier ++ [identifier]).filter isLongEnough).map lower

/-- The terms of a query. -/
def queryTerms (query : Text) : NameSet :=
  .ofList (((Script.identifiers query).filter (!Script.isKeyword ·)).flatMap termsOf)

/-- How many of the terms a text mentions. -/
def score (content : Text) (terms : NameSet) : Nat :=
  let haystack := lower content
  (terms.names.filter (occursIn · haystack)).length

/-! ## Documents -/

/-- A document with its score. -/
structure Scored where
  /-- The name of the file. -/
  name : Text
  /-- The text in it. -/
  content : Text
  /-- The number of terms it mentions. -/
  score : Nat

/-- Whether a document comes no later than another: it has the greater score, or the same score and
no greater name. -/
def Scored.before (a b : Scored) : Bool :=
  b.score < a.score || (a.score == b.score && !decide (b.name < a.name))

/-- The documents that mention some term, the best first. -/
def rank (terms : NameSet) (documents : List (Text × Text)) : List Scored :=
  ((documents.map fun d => (⟨d.1, d.2, score d.2 terms⟩ : Scored)).filter (0 < ·.score)).mergeSort
    Scored.before

/-- A document as it is quoted. -/
def Scored.block (maxChars : Nat) (d : Scored) : Text :=
  "[" ++ d.name ++ "]\n" ++ shorten maxChars (trim d.content)

/-- The best documents as they are quoted, with blank lines between them. -/
def quote (limits : Limits) (ranked : List Scored) : Text :=
  List.intercalate "\n\n" ((ranked.take limits.topK).map (Scored.block limits.maxChars))

/-- The documents of a folder: its files in the order of their names, each with the text in it.
What is no text in a file is replaced.  Instead of them, the first path that cannot be read and its
fault. -/
def readDocuments (tree : FileTree) (folder : Text) :
    Except (Text × FileFault) (List (Text × Text)) :=
  (tree.filesIn? folder).map fun files =>
    (files.map fun f => (f.1, Utf8.decodeLossy f.2)).mergeSort fun a b => !decide (b.1 < a.1)

/-- The background for a query from the documents of a folder.  A folder that is missing has none;
one that is there has to be readable, with all of its files, as soon as they are looked at. -/
def retrieve (limits : Limits) (tree : FileTree) (folder query : Text) : Except Failure Text :=
  let terms := queryTerms query
  if !tree.isFolder folder || terms.isEmpty || limits.topK == 0 then .ok []
  else
    match readDocuments tree folder with
    | .error (path, fault) => .error (.file path fault)
    | .ok documents => .ok (quote limits (rank terms documents))

end Knowledge
end RuleReview
