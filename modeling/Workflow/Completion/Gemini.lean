import Workflow.Completion.Prompt
import Workflow.Http
/-!
# Completion with Gemini

## Main definitions

* `gemini base` — the node that puts the query to a model.
* `GeminiOptions` — what the advanced node can be told.
* `geminiAdvanced base` — the node that takes these options.
-/

namespace Workflow

namespace Gemini

def defaultModel : String := "gemini-2.5-flash"

def call (base model key : String) (body : Json) : HttpCall where
  address := HttpCall.below base ("/models/" ++ model ++ ":generateContent")
  query := [("key", key)]
  content := .json body

/-- A text as the only part of a content. -/
def partsOf (text : String) : String × Json := ("parts", .array [.object [("text", .string text)]])

def contents (text : String) : String × Json :=
  ("contents", .array [.object [("role", .string "user"), partsOf text]])

/-- The text of the first candidate, its parts put together. -/
def text (answer : Json) : Except Failure String :=
  match (answer.at? ["candidates", "0", "content", "parts"]).bind Json.array? with
  | some parts => .ok (String.join (parts.filterMap (·.text? "text")))
  | none => .error (.execution "Gemini response had no candidates")

/-- The answer to a request body, with its text. -/
def generate (base model key : String) (body : Json) : Action (Json × String) := do
  let answer ← Service.json ⟨"Gemini", 120⟩ (call base model key body)
  return (answer, ← text answer)

def plainBody (query : String) : Json :=
  .object [contents query,
    ("generationConfig", .object [("temperature", usualTemperature.toJson)])]

/-- The work of the plain node. -/
def run (base : String) (_ : Context) : Action Unit := do
  let state ← Action.state
  let key ← state.credentials.requiredString "gemini"
  Action.info ("Requesting generation from " ++ defaultModel)
  let (_, text) ← generate base defaultModel key (plainBody state.userQuery)
  Action.modifyState (·.withOutput (.string text))

end Gemini

def gemini (base : String) : Node where
  id := "gemini"
  run := Gemini.run base
  description := { text := "Answer the user query with Gemini", category := "llm" }

/-- What the advanced node can be told. -/
structure GeminiOptions where
  model : String
  temperature : Binary64
  maxOutputTokens : Option Nat
  prompt : Prompt
  deriving DecidableEq, Repr

namespace GeminiOptions

def defaultModel : String := "gemini-1.5-flash"

def supportedModels : List String :=
  ["gemini-1.5-flash", "gemini-1.5-pro", "gemini-2.5-flash", "gemini-2.5-pro"]

def unsupported : Failure :=
  .invalidParam "model"
    ("unsupported model, choose from: " ++ String.intercalate ", " supportedModels)

def ofParams (params : Params) : Except Failure GeminiOptions := do
  let model := (← params.filledString "model").getD defaultModel
  if ! supportedModels.contains model then throw unsupported
  let temperature := (← params.numberBetween "temperature" 0 2).getD usualTemperature
  let maxOutputTokens ← params.nat "max_output_tokens"
  let prompt ← Prompt.ofParams params
  return { model, temperature, maxOutputTokens, prompt }

/-- The question for a query, behind the context if there is one. -/
def question (options : GeminiOptions) (query : String) : String :=
  let question := options.prompt.question.getD query
  match options.prompt.context with
  | some context => "Context: " ++ context ++ "\n\nQuestion: " ++ question
  | none => question

/-- The request body for a query. -/
def body (options : GeminiOptions) (query : String) : Json :=
  .object ([Gemini.contents (options.question query),
      ("generationConfig", .object (("temperature", options.temperature.toJson)
        :: options.maxOutputTokens.toList.map (fun (n : Nat) => ("maxOutputTokens", .int n))))]
    ++ options.prompt.instruction.toList.map (fun instruction =>
      ("systemInstruction", .object [Gemini.partsOf instruction])))

/-- What the advanced node notes of itself and of the usage that the answer reports. -/
def metadata (options : GeminiOptions) (answer : Json) : Value :=
  .ofFields ([("provider", .string "gemini"), ("model", .string options.model)]
    ++ (answer.member? "usageMetadata").toList.map (fun usage => ("usage", .ofJson usage)))

end GeminiOptions

namespace Gemini

/-- The work of the advanced node. A failed call is recorded before it is signalled. -/
def runAdvanced (base : String) (context : Context) : Action Unit := do
  let options ← GeminiOptions.ofParams context.params
  let state ← Action.state
  let key ← state.credentials.requiredString "gemini"
  match ← (generate base options.model key (options.body state.userQuery)).attempt with
  | .ok (answer, text) => Action.modifyState fun state =>
      (state.withExtra "llm_metadata" (options.metadata answer)).withOutput (.string text)
  | .error failure =>
    Action.modifyState (·.withError ("Gemini API error: " ++ failure.message))
    Action.fail failure

end Gemini

def geminiAdvanced (base : String) : Node where
  id := "gemini/advanced"
  run := Gemini.runAdvanced base
  check params := (GeminiOptions.ofParams params).map fun _ => ()
  description := {
    text := "Gemini generation with extended options"
    category := "llm"
    params := [
      ⟨"model", "One of the supported Gemini models", false⟩,
      ⟨"temperature", "Sampling temperature, 0 to 2", false⟩,
      ⟨"max_output_tokens", "Output token limit", false⟩,
      ⟨"system_instruction", "System instruction", false⟩,
      ⟨"context", "Context prepended to the question", false⟩,
      ⟨"user_prompt", "Prompt overriding the user query", false⟩] }

end Workflow
