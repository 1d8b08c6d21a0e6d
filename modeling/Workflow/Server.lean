import Workflow.Engine
import Workflow.Server.JsonBody
import Workflow.Server.Settings
import Workflow.Url.Percent
/-!
# The server

The engine behind HTTP: chains are run on request, the nodes are listed, and an assistant answers
questions about the tool. A request that no chain can be built from is answered with 400, a chain
that fails with 500 and the place of the failure.

## Main definitions

* `Server` — an engine with settings.
* `Server.answer` — the answer to a request, with what it leaves behind.
* `FeedMessage`, `Feed.replies` — the live feed of events.
-/

namespace Workflow

/-- A request to the server. -/
structure WebRequest where
  method : String
  /-- The path, with a query or without. -/
  target : String
  contentType : Option String := none
  body : String := ""
  deriving DecidableEq, Repr

/-- An answer of the server. -/
structure WebReply where
  status : Nat
  body : Option Json := none
  deriving Repr

/-- What there is to be asked for. -/
inductive Route where
  | index
  | health
  | query
  | nodes
  | feed
  | chat
  deriving DecidableEq, Repr

namespace Route

/-- Method, path and route. -/
def table : List ((String × String) × Route) := [
  (("GET", "/"), index),
  (("GET", "/health"), health),
  (("POST", "/query"), query),
  (("GET", "/api/nodes"), nodes),
  (("GET", "/api/events"), feed),
  (("POST", "/chat"), chat)]

/-- The path of a request, without query and fragment. Its escapes are resolved, but for those of
three signs that would be taken for something else. -/
def path (request : WebRequest) : String :=
  let cs := request.target.toList.takeWhile fun c => c ≠ '?' && c ≠ '#'
  String.ofList (Utf8.decode (Percent.decodeExcept (Percent.oneOf "%/+") cs))

/-- The route of a request. -/
def of? (request : WebRequest) : Option Route := table.lookup (request.method, path request)

end Route

/-- An answer, the world it leaves, and the events that an observer has seen. -/
structure Exchange where
  reply : WebReply
  world : World
  events : List Event := []

structure Server where
  engine : Engine
  settings : ServerSettings

namespace Server

/-- The server over the standard nodes, with files below its output directory. -/
def standard (settings : ServerSettings) : Except DuplicateNode Server := do
  let registry ← standardRegistry { root := some settings.outputDirectory }
  return ⟨{ registry, policy := settings.policy }, settings⟩

def detail (status : Nat) (message : String) : WebReply :=
  ⟨status, some (.object [("detail", .string message)])⟩

/-- The contents of a JSON body, once it has been handed on; `read` gives what they stand for. -/
def readBody {α : Type} (reader : JsonReader) (request : WebRequest) (read : String → Option α) :
    Except WebReply α :=
  match reader.handOn request.contentType request.body with
  | .error complaint => .error (detail 400 complaint)
  | .ok body =>
    match read body with
    | some a => .ok a
    | none => .error (detail 400 (reader.unreadable body))

def indexReply : WebReply := ⟨200, some (.object [("message", .string "working")])⟩

def healthReply : WebReply :=
  ⟨200, some (.object [("status", .string "healthy"), ("version", .string "0.1.0"),
    ("service", .string "chainserver")])⟩

/-- The answer for the outcome of a chain. -/
def outcomeReply : Except InvocationError Value → WebReply
  | .ok output => ⟨200, some (.object [("result", output.toJson)])⟩
  | .error (.build error) => detail 400 error.message
  | .error (.run error) => ⟨500, some (.object [("detail", .string error.message),
      ("node_id", .string error.nodeId), ("position", .int error.position)])⟩

/-- Run a chain. -/
def runChain (server : Server) (reader : JsonReader) (request : WebRequest) (world : World) :
    Exchange :=
  match readBody reader request Request.parse with
  | .error reply => { reply, world }
  | .ok chain =>
    let invocation := server.engine.run chain world
    ⟨outcomeReply invocation.result, invocation.world, invocation.events⟩

def noteJson (note : ParamNote) : Json :=
  .object [("name", .string note.name), ("description", .string note.description),
    ("required", .bool note.required)]

/-- What is told of the node under an identifier. -/
def nodeJson (nodeId : String) (description : Description) : Json :=
  .object [("type", .string nodeId), ("description", .string description.text),
    ("category", .string description.category),
    ("params", .array (description.params.map noteJson))]

/-- The nodes, in order of their identifiers. -/
def nodesReply (registry : Registry) : WebReply :=
  ⟨200, some (.array (registry.nodeIds.map fun nodeId =>
    nodeJson nodeId ((registry.description? nodeId).getD {})))⟩

def assistantModel : String := "gpt-3.5-turbo"

def assistantPatience : Nat := 60

def assistantInstruction : String :=
  "You are a friendly assistant for a workflow automation tool. Your job is to:\n\n"
    ++ "1. Explain where to find nodes in the interface\n"
    ++ "2. Teach how to connect nodes to build workflows\n"
    ++ "3. Describe what each node does in simple terms\n"
    ++ "4. Answer general questions about the tool\n\n"
    ++ "Rules:\n"
    ++ "- Speak conversationally (no code/json)\n"
    ++ "- Never mention API keys or technical details\n"
    ++ "- If unsure, say \"I'll check with the team\"\n"

def assistantBody (question : String) : Json :=
  .object (Chat.members assistantModel [⟨.system, assistantInstruction⟩, ⟨.user, question⟩]
    ++ [("temperature", usualTemperature.toJson)])

/-- The question in the body of a request to the assistant. -/
def question? (body : String) : Option String := do
  match ← Json.Record.parse ["user_message"] body with
  | [some (.string question)] => some question
  | _ => none

/-- Ask the assistant. -/
def ask (server : Server) (reader : JsonReader) (request : WebRequest) (world : World) :
    Exchange :=
  match readBody reader request question? with
  | .error reply => { reply, world }
  | .ok question =>
    match server.settings.assistantKey with
    | none => { reply := detail 503 "Chat assistant is not configured", world }
    | some key =>
      let answer := Chat.complete server.settings.assistantBase key (assistantBody question)
        assistantPatience
      match answer { state := { userQuery := question }, world } with
      | (.ok reply, scene) =>
        { reply := ⟨200, some (.object [("reply", .string reply)])⟩, world := scene.world }
      | (.error failure, scene) => { reply := detail 500 failure.message, world := scene.world }

/-- The answer to a request. The feed is not to be had without an upgrade of the connection. -/
def answer (server : Server) (request : WebRequest) (world : World)
    (reader : JsonReader := .standard) : Exchange :=
  match Route.of? request with
  | none => { reply := ⟨404, none⟩, world }
  | some .index => { reply := indexReply, world }
  | some .health => { reply := healthReply, world }
  | some .nodes => { reply := nodesReply server.engine.registry, world }
  | some .feed => { reply := ⟨400, none⟩, world }
  | some .query => server.runChain reader request world
  | some .chat => server.ask reader request world

end Server

/-- What a client sends over the live feed. -/
inductive FeedMessage where
  | text (content : String)
  | ping (content : String)
  | close
  deriving DecidableEq, Repr

/-- What the server sends over the live feed. -/
inductive FeedReply where
  | pong (content : String)
  | event (event : Event)
  | closed
  deriving Repr

namespace Feed

/-- What a message is answered with. -/
def replies : FeedMessage → List FeedReply
  | .text _ => []
  | .ping content => [.pong content]
  | .close => [.closed]

/-- What an exchange sends to every client of the feed. -/
def broadcast (exchange : Exchange) : List FeedReply := exchange.events.map .event

end Feed

end Workflow
