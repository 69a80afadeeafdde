import RuleReview.CommandLine.Options
import RuleReview.Review

/-!
# The program

The program reads its options, its settings and one or two rules, reviews them, and prints the
result.  It ends in exactly one way, which decides its exit code and what it prints.

Everything it depends on is a parameter: the files, the address from outside, the clock, and what
carries requests to a chat server.

## What is here

* `CommandLine.Ending` — how the program ends, with its `code`, `output` and `complaint`.
* `CommandLine.Surroundings` — what the program depends on.
* `CommandLine.run` — the program.
-/

set_option autoImplicit false

namespace RuleReview
namespace CommandLine

open Text
open Review (World Analyst)

/-- How the program ends. -/
inductive Ending where
  /-- It printed its version or a word of help. -/
  | told (text : Text)
  /-- The command line cannot be understood. -/
  | misused (m : Misuse)
  /-- No rule was named. -/
  | noRule
  /-- A rule cannot be read. -/
  | unreadable (path : Text) (fault : FileFault)
  /-- The settings cannot be read, or the review failed. -/
  | failed (f : Failure)
  /-- The review succeeded. -/
  | reviewed (output : Text)

/-- How to call the program. -/
def usage : Text := "usage: rulescribe <path/to/rule.mvel> [model]"

/-- The name and the version of the program. -/
def version : Text := "rulescribe 0.1.0"

namespace Ending

/-- The exit code. -/
def code : Ending → Nat
  | told _ | reviewed _ => 0
  | misused _ => 2
  | noRule | unreadable _ _ | failed _ => 1

/-- What is printed as the result. -/
def output : Ending → Text
  | told text => text ++ "\n"
  | reviewed output => "\n" ++ output ++ "\n\n"
  | misused _ | noRule | unreadable _ _ | failed _ => []

/-- What is printed as a complaint, without the end of its line. -/
def complaint : Ending → Option Text
  | told _ | reviewed _ => none
  | misused m => some ("error: " ++ m.message)
  | noRule => some usage
  | unreadable path fault => some ("error: could not read " ++ quoted path ++ ": " ++ fault.message)
  | failed f => some ("error: " ++ f.message)

end Ending

/-- What the program depends on besides files. -/
structure Surroundings (σ : Type) where
  /-- The address of the chat server, if it is given from outside. -/
  url : Option Text
  /-- The clock. -/
  clock : Clock
  /-- What carries requests to a chat server. -/
  send : Chat.Transport σ

/-- The settings with what the command line says. -/
def Options.override (o : Options) (s : Settings) : Settings :=
  { s with
    model := { s.model with model := o.model.getD s.model.model }
    retrieval := { s.retrieval with folder := o.folder.getD s.retrieval.folder }
    trace := { s.trace with enabled := o.trace || s.trace.enabled } }

/-- The texts of rules, or the first one that cannot be read. -/
def readRules (tree : FileTree) (paths : List Text) : Except Ending (List Text) :=
  paths.mapM fun path => (tree.readText? path).mapError (.unreadable path)

variable {σ : Type}

/-- What the options ask for, without any change of the world: the settings and the rules. -/
def prepare (surroundings : Surroundings σ) (o : Options) (tree : FileTree) :
    Except Ending (Settings × List Text) := do
  match o.file with
  | none => .error .noRule
  | some file =>
    let s ← (Settings.load? tree o.settings surroundings.url).mapError .failed
    let rules ← readRules tree (file :: o.against.toList)
    return (o.override s, rules)

/-- Who reviews: templates, or the model behind the chat server of the settings. -/
def analystFor (surroundings : Surroundings σ) (o : Options) (s : Settings) : Analyst σ :=
  if o.offline then .template
  else .model ((Chat.Client.ofSettings s.model).generator surroundings.send)

/-- Carry out what the options ask for. -/
def review (surroundings : Surroundings σ) (o : Options) (w : World σ) : Ending × World σ :=
  match prepare surroundings o w.files with
  | .error ending => (ending, w)
  | .ok (s, rules) =>
    match Review.run s (analystFor surroundings o s) surroundings.clock (o.mode.getD .explain)
        rules w with
    | (.ok output, w) => (.reviewed output, w)
    | (.error f, w) => (.failed f, w)

/-- The program. -/
def run (surroundings : Surroundings σ) (arguments : List Text) (w : World σ) :
    Ending × World σ :=
  match parse? arguments with
  | .error .version => (.told version, w)
  | .error .help => (.told usage, w)
  | .error (.misuse m) => (.misused m, w)
  | .ok o => review surroundings o w

end CommandLine
end RuleReview
