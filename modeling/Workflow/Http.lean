import Workflow.Http.Call
import Workflow.Http.Status
import Workflow.Json.Reader
import Workflow.Node
/-!
# Services over HTTP

A service answers a call with JSON, or with a status alone. Whatever else happens is a failure that
names the service; if the service says what is wrong, the failure quotes it.

## Main definitions

* `Service` — a name for failures, and how long to wait.
* `Service.json` — the JSON that a call is answered with.
* `Service.success` — the status that a call is answered with.
-/

namespace Workflow

/-- A service that is called. -/
structure Service where
  name : String
  /-- How long to wait for an answer, in seconds. -/
  patience : Nat := 120
  deriving DecidableEq, Repr

namespace Service

/-- What stands in a failure for the cause that the connection knows. -/
def transport : String := "<transport>"

def unreachable (service : Service) : Failure :=
  .execution (service.name ++ " request failed: " ++ transport)

def unreadable (service : Service) : Failure :=
  .execution (service.name ++ " response unreadable: " ++ transport)

def invalidJson (service : Service) : Failure :=
  .execution (service.name ++ " returned invalid JSON: <json>")

/-- Text bare, all else as compact JSON. -/
def wording : Json → String
  | .string s => s
  | json => json.compact

/-- What a body says is wrong: an error's message, or a message, or an error; else all of it. -/
def complaint (body : String) : String :=
  match Json.parse body with
  | none => Text.trimString body
  | some json =>
    match (json.at? ["error", "message"] <|> json.member? "message" <|> json.member? "error") with
    | some found => wording found
    | none => Text.trimString body

def refused (service : Service) (status : Nat) (body : String) : Failure :=
  .execution (service.name ++ " returned HTTP " ++ toString status ++ ": " ++ complaint body)

/-- Send a call; one that cannot be sent is a lost connection. -/
def send (call : HttpCall) : Action HttpReply :=
  match call.request? with
  | some request => Action.onWorld (·.http request)
  | none => pure .connectionLost

/-- Status and body of the answer to a call; the body is missing if it ends too early. -/
def answer (service : Service) (call : HttpCall) : Action (Nat × Option String) := do
  match ← send call with
  | .answered status body => return (status, body)
  | .connectionLost => Action.fail service.unreachable
  | .timedOut => Action.fail (.timeout service.patience)

/-- The JSON that a call is answered with. -/
def json (service : Service) (call : HttpCall) : Action Json := do
  match ← service.answer call with
  | (_, none) => Action.fail service.unreadable
  | (status, some body) =>
    if ! HttpStatus.isSuccess status then Action.fail (service.refused status body)
    else match Json.parse body with
      | some json => return json
      | none => Action.fail service.invalidJson

/-- The status that a call is answered with. -/
def success (service : Service) (call : HttpCall) : Action Nat := do
  let (status, body) ← service.answer call
  if HttpStatus.isSuccess status then return status
  else Action.fail (service.refused status (body.getD ""))

end Service

end Workflow
