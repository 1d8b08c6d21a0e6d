import Workflow.Http
/-!
# Messages to Slack

## Main definitions

* `slack endpoint` — the node that posts a message to a channel.
-/

namespace Workflow

namespace Slack

def call (endpoint token channel text : String) : HttpCall where
  address := endpoint
  headers := [HttpCall.bearer token]
  content := .json (.object [("channel", .string channel), ("text", .string text)])

/-- The text to post: a parameter or else the previous output. -/
def textFor (params : Params) (state : State) : Except Failure String := do
  match ← params.filledString "message", state.outputText? with
  | some message, _ => return message
  | none, some text => return text
  | none, none => throw (.missingInput "No message to post")

def isAccepted (answer : Json) : Bool := (answer.member? "ok").bind Json.bool? == some true

def rejected (answer : Json) : Failure :=
  .execution ("Slack rejected message: " ++ (answer.text? "error").getD "unknown error")

/-- The node's work. The output stays as it is. -/
def run (endpoint : String) (context : Context) : Action Unit := do
  let state ← Action.state
  let token ← state.credentials.requiredString "slack"
  let channel ← context.params.requiredString "channel"
  let text ← textFor context.params state
  let answer ← Service.json ⟨"Slack", 120⟩ (call endpoint token channel text)
  if isAccepted answer then
    match answer.text? "ts" with
    | some stamp => Action.modifyState (·.withExtra "slack_ts" (.string stamp))
    | none => return ()
  else Action.fail (rejected answer)

def check (params : Params) : Except Failure Unit := do
  let _ ← params.requiredString "channel"
  let _ ← params.string "message"

end Slack

def slack (endpoint : String) : Node where
  id := "slack"
  run := Slack.run endpoint
  check := Slack.check
  description := {
    text := "Post a message to a Slack channel"
    category := "notification"
    params := [
      ⟨"channel", "Channel id or name", true⟩,
      ⟨"message", "Text to send instead of the previous output", false⟩] }

end Workflow
