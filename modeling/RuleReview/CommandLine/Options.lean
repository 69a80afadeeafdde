import RuleReview.Plan

/-!
# Command-line options

Arguments are read one after the other.  An option has a value, which follows after an equals sign
or as the next argument; a flag has none; neither may be given twice.  Up to two arguments that are
no options name the rule and the model.  After two dashes nothing is an option any more.

The first argument that decides the matter wins: a question for the version or for help, or a
misuse.

## What is here

* `CommandLine.Options` — what a command line asks for.
* `CommandLine.Misuse`, `CommandLine.Stop` — why there may be nothing to do.
* `CommandLine.parse?` — the options of a command line.
-/

set_option autoImplicit false

namespace RuleReview
namespace CommandLine

open Text

/-- What a command line asks for. -/
structure Options where
  /-- The path of the rule. -/
  file : Option Text := none
  /-- The model that counts more than the one in the settings. -/
  model : Option Text := none
  /-- The mode. -/
  mode : Option Mode := none
  /-- The path of the rule to compare with. -/
  against : Option Text := none
  /-- The path of the settings. -/
  settings : Option Text := none
  /-- The folder of documents that counts more than the one in the settings. -/
  folder : Option Text := none
  /-- Whether the trace is kept, whatever the settings say. -/
  trace : Bool := false
  /-- Whether templates are used instead of a model. -/
  offline : Bool := false
  /-- Whether the program may tell what it does. -/
  verbose : Bool := false

/-- A command line that cannot be understood. -/
inductive Misuse where
  /-- There is no such option. -/
  | unknown (argument : Text)
  /-- An option or a flag was given before. -/
  | repeated (argument : Text)
  /-- An option lacks its value. -/
  | noValue (argument : Text)
  /-- A flag has a value. -/
  | hasValue (argument : Text)
  /-- A value cannot be used. -/
  | badValue (argument value : Text)
  /-- There are more arguments than names to give. -/
  | tooMany (argument : Text)
  deriving DecidableEq

/-- A misuse as it is reported. -/
def Misuse.message : Misuse → Text
  | unknown a => "unexpected argument " ++ quoted a ++ " found"
  | repeated a => "the argument " ++ quoted a ++ " cannot be used multiple times"
  | noValue a => "a value is required for " ++ quoted a ++ " but none was supplied"
  | hasValue a => "unexpected value for " ++ quoted a ++ " found"
  | badValue a v => "invalid value " ++ quoted v ++ " for " ++ quoted a
  | tooMany a => "unexpected argument " ++ quoted a ++ " found"

/-- Why a command line asks for no run. -/
inductive Stop where
  /-- It asks for the version. -/
  | version
  /-- It asks for help. -/
  | help
  /-- It cannot be understood. -/
  | misuse (m : Misuse)
  deriving DecidableEq

/-- Set a field that must not have been set before. -/
def once {α : Type} (argument : Text) (old : Option α) (new : α) : Except Stop (Option α) :=
  match old with
  | none => .ok (some new)
  | some _ => .error (.misuse (.repeated argument))

/-- A value that is a path, and so not empty. -/
def path? (argument value : Text) : Except Stop Text :=
  if value.isEmpty then .error (.misuse (.noValue argument)) else .ok value

/-- The names of the options with a value. -/
def valued : List Text := ["--mode", "--against", "--config", "--kb-dir"]

/-- The names of the flags. -/
def flags : List Text := ["--trace", "--offline", "--verbose"]

/-- Set an option with a value. -/
def Options.setValue? (o : Options) (name value : Text) : Except Stop Options := do
  if name = "--mode" then
    match Mode.ofText value with
    | .ok mode => return { o with mode := ← once name o.mode mode }
    | .error _ => .error (.misuse (.badValue name value))
  else
    let path ← path? name value
    if name = "--against" then return { o with against := ← once name o.against path }
    else if name = "--config" then return { o with settings := ← once name o.settings path }
    else return { o with folder := ← once name o.folder path }

/-- Set a flag. -/
def Options.setFlag? (o : Options) (name : Text) : Except Stop Options :=
  let again : Except Stop Options := .error (.misuse (.repeated name))
  if name = "--trace" then if o.trace then again else .ok { o with trace := true }
  else if name = "--offline" then if o.offline then again else .ok { o with offline := true }
  else if o.verbose then again else .ok { o with verbose := true }

/-- Take an argument that is no option. -/
def Options.setName? (o : Options) (argument : Text) : Except Stop Options :=
  match o.file, o.model with
  | none, _ => do return { o with file := some (← path? argument argument) }
  | some _, none => .ok { o with model := some argument }
  | some _, some _ => .error (.misuse (.tooMany argument))

/-- Whether an argument looks like an option. -/
def isOption : Text → Bool
  | '-' :: _ :: _ => true
  | _ => false

/-- What a short option asks for; only its first letter is looked at. -/
def shortStop (argument : Text) : Stop :=
  match argument with
  | _ :: 'V' :: _ => .version
  | _ :: 'h' :: _ => .help
  | _ => .misuse (.unknown argument)

/-- A long option without a value of its own, other than those that take the next argument. -/
def Options.setLone? (o : Options) (name : Text) : Except Stop Options :=
  if flags.contains name then o.setFlag? name
  else if name = "--version" then .error .version
  else if name = "--help" then .error .help
  else .error (.misuse (.unknown name))

/-- A long option with a value after an equals sign. -/
def Options.setJoined? (o : Options) (name value : Text) : Except Stop Options :=
  if valued.contains name then o.setValue? name value
  else if flags.contains name ∨ name = "--version" ∨ name = "--help" then
    .error (.misuse (.hasValue name))
  else .error (.misuse (.unknown name))

/-- The options of a command line, added to those of the arguments before. -/
def Options.add? (o : Options) : List Text → Except Stop Options
  | [] => .ok o
  | argument :: rest =>
    if argument = "--" then rest.foldlM Options.setName? o
    else if !isOption argument then do (← o.setName? argument).add? rest
    else if (after? "--" argument).isNone then .error (shortStop argument)
    else
      match cut '=' argument with
      | some (name, value) => do (← o.setJoined? name value).add? rest
      | none =>
        if !valued.contains argument then do (← o.setLone? argument).add? rest
        else
          match rest with
          | [] => .error (.misuse (.noValue argument))
          | value :: rest =>
            if isOption value then .error (.misuse (.noValue argument))
            else do (← o.setValue? argument value).add? rest

/-- The options of a command line. -/
def parse? (arguments : List Text) : Except Stop Options := ({} : Options).add? arguments

end CommandLine
end RuleReview
