import Workflow.Http
/-!
# Completion with Claude

## Main definitions

* `claude base` — the node that puts the query to a model.
-/

namespace Workflow

namespace Claude

def defaultModel : String := "claude-3-opus-20240229"

def defaultMaxTokens : Nat := 1024

def body (model : String) (maxTokens : Nat) (query : String) : Json :=
  .object [("model", .string model), ("max_tokens", .int maxTokens),
    ("messages", .array [.object [("role", .string "user"), ("content", .string query)]])]

def call (base key : String) (body : Json) : HttpCall where
  address := HttpCall.below base "/messages"
  headers := [("x-api-key", key), ("anthropic-version", "2023-06-01")]
  content := .json body

/-- The node's work. -/
def run (base : String) (context : Context) : Action Unit := do
  let state ← Action.state
  let key ← state.credentials.requiredString "anthropic"
  let model := (← context.params.filledString "model").getD defaultModel
  let maxTokens := (← context.params.nat "max_tokens").getD defaultMaxTokens
  let body := body model maxTokens state.userQuery
  let answer ← Service.json ⟨"Anthropic", 120⟩ (call base key body)
  match (answer.at? ["content", "0", "text"]).bind Json.string? with
  | some text => Action.modifyState (·.withOutput (.string text))
  | none => Action.fail (.execution "Anthropic response had no text content")

def check (params : Params) : Except Failure Unit := do
  let _ ← params.string "model"
  let _ ← params.nat "max_tokens"

end Claude

def claude (base : String) : Node where
  id := "claude"
  run := Claude.run base
  check := Claude.check
  description := {
    text := "Answer the user query with Claude"
    category := "llm"
    params := [
      ⟨"model", "Model name (default claude-3-opus-20240229)", false⟩,
      ⟨"max_tokens", "Token limit (default 1024)", false⟩] }

end Workflow
