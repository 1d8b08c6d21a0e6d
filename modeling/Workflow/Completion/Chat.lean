import Workflow.Http
/-!
# Chat completion

A model answers a list of messages. The answer is the content of its first choice.

## Main definitions

* `ChatMessage` — a message with the role that it is spoken in.
* `Chat.complete` — the answer to a request body.
-/

namespace Workflow

inductive ChatRole where
  | system
  | assistant
  | user
  deriving DecidableEq, Repr

def ChatRole.name : ChatRole → String
  | system => "system"
  | assistant => "assistant"
  | user => "user"

structure ChatMessage where
  role : ChatRole
  content : String
  deriving DecidableEq, Repr

namespace ChatMessage

def toJson (message : ChatMessage) : Json :=
  .object [("role", .string message.role.name), ("content", .string message.content)]

end ChatMessage

namespace Chat

/-- The members of every request body. -/
def members (model : String) (messages : List ChatMessage) : List (String × Json) :=
  [("model", .string model), ("messages", .array (messages.map ChatMessage.toJson))]

def body (model : String) (messages : List ChatMessage) : Json := .object (members model messages)

def call (base key : String) (body : Json) : HttpCall where
  address := HttpCall.below base "/chat/completions"
  headers := [HttpCall.bearer key]
  content := .json body

/-- The content of the first choice. -/
def content? (answer : Json) : Option String :=
  (answer.at? ["choices", "0", "message", "content"]).bind Json.string?

def service (patience : Nat) : Service := ⟨"OpenAI", patience⟩

/-- The answer to a request body. -/
def complete (base key : String) (body : Json) (patience : Nat := 120) : Action String := do
  match content? (← (service patience).json (call base key body)) with
  | some content => return content
  | none => Action.fail (.execution "OpenAI response had no message content")

end Chat

end Workflow
