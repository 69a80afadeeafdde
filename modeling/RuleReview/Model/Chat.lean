import RuleReview.Json.Print
import RuleReview.Model.Analyst
import RuleReview.Settings

/-!
# Asking a chat server

A prompt is sent to a chat server as one request: the instruction and the task are its two messages,
and the reply is asked for in one piece.  What carries requests and replies is a parameter; it may
fail, and what it answers may depend on all that was sent before.

The reply is a JSON record with a message, and the message a record with a content.  The server may
leave the message out or set it to `null`, which is a fault of its own.

## What is here

* `Chat.Client`, `Client.request` — a client, and what it sends for a prompt.
* `Chat.readReply` — what a reply says.
* `Client.generator` — the language model behind a chat server.
-/

set_option autoImplicit false

namespace RuleReview
namespace Chat

open Text
open Json (Tree)

/-- Who is asked, and how. -/
structure Client where
  /-- The address of the server, without a slash at its end. -/
  baseUrl : Text
  /-- The name of the model. -/
  model : Text
  /-- How freely the model chooses its words. -/
  temperature : Float32

/-- The client for some settings. -/
def Client.ofSettings (s : ModelSettings) : Client :=
  ⟨dropEndWhile (· == '/') s.baseUrl, s.model, s.temperature⟩

/-- The client for an address and a model, with standard settings otherwise. -/
def Client.new (baseUrl model : Text) : Client :=
  .ofSettings { baseUrl := baseUrl, model := model }

/-- A request to a server, which posts a JSON body. -/
structure Request where
  /-- The address. -/
  url : Text
  /-- The body. -/
  body : Json

/-- An answer of a server. -/
structure Answer where
  /-- The status code. -/
  status : Nat
  /-- The body. -/
  body : Text

/-- What carries requests to servers: an answer, or the reason why there is none. -/
abbrev Transport (σ : Type) := Request → StateM σ (Except Text Answer)

/-- A message of a conversation. -/
def message (role content : Text) : Json :=
  .object [("role", .string role), ("content", .string content)]

/-- The request for a prompt. -/
def Client.request (c : Client) (p : Prompt) : Request where
  url := c.baseUrl ++ "/api/chat"
  body := .object [("model", .string c.model),
    ("messages", .array [message "system" p.system, message "user" p.user]),
    ("stream", .bool false),
    ("options", .object [("temperature", .number (.single c.temperature))])]

/-- The content of a message. -/
def content? (t : Tree) : Except Json.Fault Text := do
  let r ← t.record? "a message" ["content"] 1
  r.required? "content" Tree.toText?

/-- The content of the message of a reply, if it has one. -/
def message? (t : Text) : Except Json.Fault (Option Text) := do
  let r ← (← Json.tree? t).record? "a reply" ["message"] 1
  r.optional? "message" none (Tree.toOption? content?)

/-- The body of an answer.  Some statuses say that there is none. -/
def Answer.content (a : Answer) : Text := if a.status = 204 ∨ a.status = 304 then [] else a.body

/-- Whether a status sends the client to another address. -/
def isRedirect (status : Nat) : Bool := [301, 302, 303, 307, 308].contains status

/-- Why an answer is not a reply, by its status alone.  No other address is followed. -/
def Answer.refusal? (a : Answer) : Option Text :=
  if 400 ≤ a.status then some ("http status: " ++ decimal a.status)
  else if isRedirect a.status then some "protocol: missing a location header"
  else none

/-- What an answer to a request says. -/
def readAnswer (r : Request) : Except Text Answer → Except Failure Text
  | .error reason => .error (.request ("POST " ++ r.url ++ " failed: " ++ reason))
  | .ok a =>
    match a.refusal?, message? a.content with
    | some reason, _ => .error (.request ("POST " ++ r.url ++ " failed: " ++ reason))
    | none, .error fault => .error (.malformed .chat (.undecodable fault.message))
    | none, .ok none => .error (.malformed .chat .noMessage)
    | none, .ok (some content) => .ok (trim content)

/-- The language model behind a chat server. -/
def Client.generator {σ : Type} (c : Client) (send : Transport σ) : Generator σ := fun p =>
  .ofTransition fun s =>
    let r := c.request p
    let (answer, s) := send r s
    (readAnswer r answer, s)

end Chat
end RuleReview
