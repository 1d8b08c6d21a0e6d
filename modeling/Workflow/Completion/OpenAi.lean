import Workflow.Completion.Chat
import Workflow.Completion.Prompt
/-!
# Completion with OpenAI

## Main definitions

* `openAi base` — the node that puts the query to a model.
* `ChatOptions` — what the advanced node can be told.
* `openAiAdvanced base` — the node that takes these options.
-/

namespace Workflow

namespace OpenAi

def defaultModel : String := "gpt-4.1-mini"

/-- The work of the plain node. -/
def run (base : String) (context : Context) : Action Unit := do
  let state ← Action.state
  let key ← state.credentials.requiredString "openai"
  let model := (← context.params.filledString "model").getD defaultModel
  Action.info ("Requesting completion from " ++ model)
  let content ← Chat.complete base key (Chat.body model [⟨.user, state.userQuery⟩])
  Action.modifyState (·.withOutput (.string content))

end OpenAi

def openAi (base : String) : Node where
  id := "openai"
  run := OpenAi.run base
  check params := (params.string "model").map fun _ => ()
  description := {
    text := "Answer the user query with an OpenAI chat model"
    category := "llm"
    params := [⟨"model", "Model name (default gpt-4.1-mini)", false⟩] }

/-- What the advanced node can be told. -/
structure ChatOptions where
  model : String
  temperature : Binary64
  maxTokens : Option Nat
  topP : Binary64
  frequencyPenalty : Binary64
  presencePenalty : Binary64
  jsonMode : Bool
  stream : Bool
  /-- The key to use when there is no credential. -/
  key : Option String
  prompt : Prompt
  deriving DecidableEq, Repr

namespace ChatOptions

def defaultModel : String := "gpt-3.5-turbo"

def ofParams (params : Params) : Except Failure ChatOptions := do
  let model := (← params.filledString "model").getD defaultModel
  let temperature := (← params.numberBetween "temperature" 0 2).getD usualTemperature
  let maxTokens ← params.nat "max_tokens"
  let topP := (← params.numberBetween "top_p" 0 1).getD (.ofInt 1)
  let frequencyPenalty := (← params.numberBetween "frequency_penalty" (-2) 2).getD (.ofInt 0)
  let presencePenalty := (← params.numberBetween "presence_penalty" (-2) 2).getD (.ofInt 0)
  let jsonMode := (← params.bool "json_mode").getD false
  let stream := (← params.bool "stream").getD false
  let key ← params.filledString "api_key"
  let prompt ← Prompt.ofParams params
  return { model, temperature, maxTokens, topP, frequencyPenalty, presencePenalty, jsonMode
           stream, key, prompt }

/-- The messages for a query: instruction and context first, if there are any. -/
def messages (options : ChatOptions) (query : String) : List ChatMessage :=
  options.prompt.instruction.toList.map (⟨.system, ·⟩)
    ++ options.prompt.context.toList.map (⟨.assistant, ·⟩)
    ++ [⟨.user, options.prompt.question.getD query⟩]

/-- The request body for a query. -/
def body (options : ChatOptions) (query : String) : Json :=
  .object (Chat.members options.model (options.messages query)
    ++ [("temperature", options.temperature.toJson), ("top_p", options.topP.toJson),
      ("frequency_penalty", options.frequencyPenalty.toJson),
      ("presence_penalty", options.presencePenalty.toJson)]
    ++ options.maxTokens.toList.map (fun n => ("max_tokens", .int n))
    ++ if options.jsonMode then [("response_format", .object [("type", .string "json_object")])]
      else [])

/-- What the advanced node notes of itself. -/
def metadata (options : ChatOptions) : Value :=
  .ofFields [("provider", .string "openai"), ("model", .string options.model),
    ("json_mode", .bool options.jsonMode)]

end ChatOptions

namespace OpenAi

/-- The credential, or else the key among the parameters. -/
def keyFor (credentials : Credentials) (options : ChatOptions) : Except Failure String :=
  match credentials.string? "openai", options.key with
  | some key, _ => .ok key
  | none, some key => .ok key
  | none, none => .error (.missingCredential "openai")

/-- The work of the advanced node. A failed call is recorded before it is signalled. -/
def runAdvanced (base : String) (context : Context) : Action Unit := do
  let options ← ChatOptions.ofParams context.params
  let state ← Action.state
  let key ← keyFor state.credentials options
  if options.stream then Action.info "Streaming requested; collecting the full response"
  match ← (Chat.complete base key (options.body state.userQuery)).attempt with
  | .ok content => Action.modifyState fun state =>
      (state.withExtra "llm_metadata" options.metadata).withOutput (.string content)
  | .error failure =>
    Action.modifyState (·.withError ("OpenAI Error: " ++ failure.message))
    Action.fail failure

end OpenAi

def openAiAdvanced (base : String) : Node where
  id := "openai/advanced"
  run := OpenAi.runAdvanced base
  check params := (ChatOptions.ofParams params).map fun _ => ()
  description := {
    text := "OpenAI chat completion with extended options"
    category := "llm"
    params := [
      ⟨"model", "Model name (default gpt-3.5-turbo)", false⟩,
      ⟨"temperature", "Sampling temperature, 0 to 2", false⟩,
      ⟨"max_tokens", "Completion token limit", false⟩,
      ⟨"top_p", "Nucleus sampling, 0 to 1", false⟩,
      ⟨"frequency_penalty", "-2 to 2", false⟩,
      ⟨"presence_penalty", "-2 to 2", false⟩,
      ⟨"system_instruction", "System message", false⟩,
      ⟨"context", "Extra context sent before the prompt", false⟩,
      ⟨"user_prompt", "Prompt overriding the user query", false⟩,
      ⟨"json_mode", "Ask for a JSON object response", false⟩,
      ⟨"stream", "Accepted; the response is always collected whole", false⟩,
      ⟨"api_key", "Fallback key when api_keys.openai is absent", false⟩] }

end Workflow
