import RuleReview.Digest.Sha256
import RuleReview.Failure
import RuleReview.Json.Print

/-!
# Traces

A run keeps a trace: what it did, event by event, and at the end its output.  Events are always
recorded; whether the trace is also written to a file is decided by where it is kept.  The file is
named for the time of the run and for a digest of its inputs.

What the clock says is no part of the trace.  It is asked for when the file is written.

## What is here

* `Trace`, with `log` and `finish`.
* `Clock`, `Trace.render` — the trace as it is written.
* `TraceStore`, `TraceStore.save` — where traces are kept, and keeping one.
* `inputDigest` — the digest that names a run.
-/

set_option autoImplicit false

namespace RuleReview

/-- One recorded event. -/
structure TraceEvent where
  /-- The name of the event. -/
  step : Text
  /-- What is told about it. -/
  payload : Json

/-- What a run did. -/
structure Trace where
  /-- The events, in the order they were recorded in. -/
  events : List TraceEvent
  /-- The output of the run, once it has one. -/
  output : Option Text

namespace Trace

/-- The trace of a run that did nothing yet. -/
def empty : Trace := ⟨[], none⟩

/-- Record an event. -/
def log (t : Trace) (step : Text) (payload : Json) : Trace :=
  { t with events := t.events ++ [⟨step, payload⟩] }

/-- Record the output of a run. -/
def finish (t : Trace) (output : Text) : Trace :=
  { t.log "finish" (.object [("output_chars", .nat output.length)]) with output := some output }

/-- The names of the events. -/
def steps (t : Trace) : List Text := t.events.map (·.step)

end Trace

/-- What a clock says about a run. -/
structure Clock where
  /-- The start of the run, as it stands in the names of files. -/
  stamp : Text
  /-- The start of the run, as it is shown to a reader. -/
  startedAt : Text
  /-- The milliseconds since then. -/
  elapsed : Nat

/-- The first eight hexadecimal digits of the digest of all inputs, each followed by a null byte. -/
def inputDigest (inputs : List Text) : Text :=
  let message := inputs.flatMap fun t => Utf8.encode t ++ [0]
  ((Sha256.digest message).take 4).flatMap fun b =>
    [Text.hexDigit (b.toNat / 16), Text.hexDigit (b.toNat % 16)]

/-- Where the trace of a run is kept. -/
structure TraceStore where
  /-- Whether traces are written at all. -/
  enabled : Bool
  /-- The folder of the trace files. -/
  folder : Text
  /-- The digest of the inputs of the run. -/
  digest : Text
  /-- The time of the run. -/
  clock : Clock

namespace TraceStore

/-- The store for a run over some inputs. -/
def new (enabled : Bool) (folder : Text) (inputs : List Text) (clock : Clock) : TraceStore :=
  ⟨enabled, folder, inputDigest inputs, clock⟩

/-- The store that keeps nothing. -/
def disabled (clock : Clock) : TraceStore := new false "." [] clock

/-- The name of the run. -/
def runId (s : TraceStore) : Text := s.clock.stamp ++ "-" ++ s.digest

/-- The name of the trace file. -/
def fileName (s : TraceStore) : Text := "run-" ++ s.runId ++ ".json"

/-- The path of the trace file. -/
def path (s : TraceStore) : Text := FileTree.joinPath s.folder s.fileName

/-- An event as it is written. -/
def eventJson (s : TraceStore) (e : TraceEvent) : Json :=
  .object [("step", .string e.step), ("elapsed_ms", .nat s.clock.elapsed), ("payload", e.payload)]

/-- A trace as it is written. -/
def render (s : TraceStore) (t : Trace) : Text :=
  Json.pretty (.object [("run_id", .string s.runId), ("started_at", .string s.clock.startedAt),
    ("events", .array (t.events.map s.eventJson)),
    ("final_output", Json.nullable .string t.output)])

/-- Write a trace, if traces are written.  The folder is made if it is missing; what was made of it
stays, even if the trace cannot be written. -/
def save (s : TraceStore) (t : Trace) (tree : FileTree) : Except Failure Unit × FileTree :=
  if !s.enabled then (.ok (), tree)
  else
    match tree.makeFolders s.folder with
    | (.error fault, tree) => (.error (.file s.folder fault), tree)
    | (.ok (), tree) =>
      match tree.writeFile? s.folder s.fileName (Utf8.encode (s.render t)) with
      | .error fault => (.error (.file s.path fault), tree)
      | .ok tree => (.ok (), tree)

end TraceStore
end RuleReview
