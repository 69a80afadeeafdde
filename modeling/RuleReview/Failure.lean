import RuleReview.Files.Tree

/-!
# Failures

What can end a run early: a file that cannot be used, settings that cannot be read, a model that
cannot be reached, and a reply that is not what was asked for.  That a step finds nothing to work on
is not among them; such a step takes a fallback.

## What is here

* `ReplyRole`, `ReplyFault` — what was asked of a model, and what is wrong with the reply.
* `Failure` and `Failure.message`.
* `Effect` — a computation that may fail and that keeps a state, also when it fails.
-/

set_option autoImplicit false

namespace RuleReview

open Text

/-- What a malformed reply was meant to be. -/
inductive ReplyRole where
  /-- A verdict. -/
  | verify
  /-- A list of test cases. -/
  | tests
  /-- The answer of the chat server itself. -/
  | chat
  deriving DecidableEq

/-- The word for a role. -/
def ReplyRole.name : ReplyRole → Text
  | verify => "verify"
  | tests => "tests"
  | chat => "ollama"

/-- What is wrong with a reply. -/
inductive ReplyFault where
  /-- It holds nothing that looks like JSON. -/
  | noJson (excerpt : Text)
  /-- Its JSON cannot be read. -/
  | unreadable (detail excerpt : Text)
  /-- The answer of the chat server cannot be read. -/
  | undecodable (detail : Text)
  /-- The answer of the chat server holds no message. -/
  | noMessage
  deriving DecidableEq

/-- A fault as it is reported. -/
def ReplyFault.message : ReplyFault → Text
  | noJson excerpt => "no JSON found in reply: " ++ excerpt
  | unreadable detail excerpt => detail ++ " in: " ++ excerpt
  | undecodable detail => "could not decode chat response: " ++ detail
  | noMessage => "chat response contained no message"

/-- What ends a run early. -/
inductive Failure where
  /-- A file or folder cannot be used. -/
  | file (path : Text) (fault : FileFault)
  /-- A file of settings or notes is there but cannot be read. -/
  | settings (path detail : Text)
  /-- The model could not be reached, or refused. -/
  | request (detail : Text)
  /-- The model answered, but not with what it was asked for. -/
  | malformed (role : ReplyRole) (fault : ReplyFault)
  deriving DecidableEq

/-- A failure as it is reported. -/
def Failure.message : Failure → Text
  | file path fault => "could not access " ++ quoted path ++ ": " ++ fault.message
  | settings path detail => "could not parse " ++ quoted path ++ ": " ++ detail
  | request detail => "LLM request failed: " ++ detail
  | malformed role fault => "malformed " ++ role.name ++ " response: " ++ fault.message

/-- A computation that may fail, and that keeps a state of type `σ` whether it fails or not. -/
abbrev Effect (σ α : Type) := ExceptT Failure (StateM σ) α

/-- The effect with a given outcome, which leaves the state alone. -/
def Effect.ofExcept {σ α : Type} (outcome : Except Failure α) : Effect σ α := fun s => (outcome, s)

/-- The effect of a state transition with an outcome. -/
def Effect.ofTransition {σ α : Type} (f : σ → Except Failure α × σ) : Effect σ α := f

/-- The outcome of an effect from a state, and the state it leaves. -/
def Effect.from {σ α : Type} (e : Effect σ α) (s : σ) : Except Failure α × σ := e s

end RuleReview
