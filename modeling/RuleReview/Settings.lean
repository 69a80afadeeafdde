import RuleReview.Failure
import RuleReview.Knowledge
import RuleReview.Text.Blank
import RuleReview.Toml.Record

/-!
# Settings

What a run can be told beforehand: which model to ask, where traces are kept, how much background is
quoted, and where the notes are.  Settings are read from a file; whatever it leaves out has its
standard value, and whatever it says besides is passed over.

The file is the one that is named, or else `rulescribe.toml` if there is one.  The address of the
model may be given from outside, which counts more than the file.

## What is here

* `Settings`, and its parts.
* `Settings.parse?` — the settings in a text.
* `Settings.withUrl` — settings with an address from outside.
* `Settings.load?` — the settings of a run.
-/

set_option autoImplicit false

namespace RuleReview

open Text

/-- Which model to ask, and how. -/
structure ModelSettings where
  /-- The address of the chat server. -/
  baseUrl : Text := "http://127.0.0.1:11434"
  /-- The name of the model. -/
  model : Text := "llama3.1"
  /-- How freely the model chooses its words. -/
  temperature : Float32 := 0
  /-- How many seconds a reply may take. -/
  timeout : Nat := 120

/-- Whether and where traces are kept. -/
structure TraceSettings where
  /-- Whether traces are written. -/
  enabled : Bool := false
  /-- The folder of the trace files. -/
  folder : Text := "runs"

/-- Where background is looked up, and how much of it is quoted. -/
structure RetrievalSettings where
  /-- The folder of the documents. -/
  folder : Text := "kb"
  /-- How much is quoted. -/
  limits : Knowledge.Limits := .standard

/-- What a run can be told beforehand. -/
structure Settings where
  /-- Which model to ask. -/
  model : ModelSettings := {}
  /-- Where traces are kept. -/
  trace : TraceSettings := {}
  /-- Where background is looked up. -/
  retrieval : RetrievalSettings := {}
  /-- The path of the notes. -/
  notes : Text := "memory.toml"

namespace Settings

open Toml (field? record? Value)

/-- The settings in the entries of a document. -/
def ofEntries? (entries : Toml.Entries) : Except Toml.Fault Settings := do
  let standard : Settings := {}
  let llm ← record? entries "llm" ["base_url", "model", "temperature", "timeout_secs"]
  let baseUrl ← field? llm "base_url" standard.model.baseUrl Value.toText?
  let model ← field? llm "model" standard.model.model Value.toText?
  let temperature ← field? llm "temperature" standard.model.temperature Value.toFloat32?
  let timeout ← field? llm "timeout_secs" standard.model.timeout Value.toNat?
  let trace ← record? entries "trace" ["enabled", "dir"]
  let enabled ← field? trace "enabled" standard.trace.enabled Value.toBool?
  let folder ← field? trace "dir" standard.trace.folder Value.toText?
  let retrieval ← record? entries "retrieval" ["kb_dir", "top_k", "max_chars"]
  let library ← field? retrieval "kb_dir" standard.retrieval.folder Value.toText?
  let topK ← field? retrieval "top_k" standard.retrieval.limits.topK Value.toNat?
  let maxChars ← field? retrieval "max_chars" standard.retrieval.limits.maxChars Value.toNat?
  let memory ← record? entries "memory" ["path"]
  let notes ← field? memory "path" standard.notes Value.toText?
  return ⟨⟨baseUrl, model, temperature, timeout⟩, ⟨enabled, folder⟩, ⟨library, ⟨topK, maxChars⟩⟩,
    notes⟩

/-- The settings in a text, which stands in the file of the given path. -/
def parse? (path t : Text) : Except Failure Settings :=
  ((Toml.parse? t).bind ofEntries?).mapError fun fault => .settings path (fault.render t)

/-- The settings with an address from outside; a blank one does not count. -/
def withUrl (s : Settings) : (url : Option Text) → Settings
  | none => s
  | some url =>
    if isAllBlank url then s else { s with model := { s.model with baseUrl := trim url } }

/-- The path of the settings that are used if no other is named. -/
def standardPath : Text := "rulescribe.toml"

/-- The settings in a file. -/
def read? (tree : FileTree) (path : Text) : Except Failure Settings := do
  parse? path (← (tree.readText? path).mapError (.file path))

/-- The settings of a run: those of the file that is named, or else of the standard file if there is
one, with an address from outside. -/
def load? (tree : FileTree) (named url : Option Text) : Except Failure Settings := do
  let s ← match named with
    | some path => read? tree path
    | none => if tree.isFile standardPath then read? tree standardPath else .ok {}
  return s.withUrl url

end Settings
end RuleReview
