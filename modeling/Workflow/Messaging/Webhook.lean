import Workflow.Http
/-!
# Webhooks

## Main definitions

* `webhook` — the node that sends the previous output to a URL among the credentials.
-/

namespace Workflow

namespace Webhook

/-- The previous output, an empty text if there is none, and the run it comes from. -/
def payload (state : State) : Json :=
  .object [("output", (state.output.getD (.string "")).toJson),
    ("metadata", .object [("workflow_id", (state.workflowId.map Json.string).getD .null)])]

def call (url : String) (payload : Json) : HttpCall where
  address := url
  content := .json payload

/-- The node's work. -/
def run (_ : Context) : Action Unit := do
  let state ← Action.state
  let url ← state.credentials.requiredString "webhook_url"
  Action.info ("POST " ++ url)
  match ← (Service.success ⟨"Webhook", 10⟩ (call url (payload state))).attempt with
  | .ok status =>
    Action.info ("Response status: " ++ toString status)
    Action.modifyState (·.withOutput (.string ("Webhook sent to " ++ url)))
  | .error failure => Action.fail (.execution ("Webhook failed: " ++ failure.detail))

end Webhook

def webhook : Node where
  id := "webhook"
  run := Webhook.run
  description := { text := "Send the previous output to api_keys.webhook_url", category := "http" }

end Workflow
