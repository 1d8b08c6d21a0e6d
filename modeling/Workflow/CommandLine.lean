import Workflow.CommandLine.Command
import Workflow.Engine
import Workflow.StandardNodes
/-!
# The command line

Runs a request file, checks one, lists the nodes, or writes an example of a request.

## Main definitions

* `Console` — the lines that a command prints, and how it ends.
* `CommandLine.perform` — carry out what arguments ask for.
-/

namespace Workflow

/-- How a command fails. -/
inductive CommandFailure where
  /-- The arguments spell no command. -/
  | usage
  | failed (message : String)
  deriving DecidableEq, Repr

namespace CommandFailure

def exitCode : CommandFailure → Nat
  | usage => 2
  | failed _ => 1

end CommandFailure

/-- The lines that a command prints, and how it ends. -/
structure Console where
  lines : List String := []
  failure : Option CommandFailure := none
  deriving DecidableEq, Repr

namespace Console

def exitCode (console : Console) : Nat := (console.failure.map CommandFailure.exitCode).getD 0

/-- What is printed, as one text. -/
def text (console : Console) : String := String.join (console.lines.map (· ++ "\n"))

/-- Print more. -/
def print (console : Console) (lines : List String) : Console :=
  { console with lines := console.lines ++ lines }

def fail (console : Console) (message : String) : Console :=
  { console with failure := some (.failed message) }

end Console

namespace CommandLine

def arrows (nodeIds : List String) : String := String.intercalate " → " nodeIds

/-- The request in a file. -/
def load (world : World) (file : String) : Except String Request :=
  match world.files.read? file with
  | none => .error ("cannot read " ++ file)
  | some text =>
    match Request.parse text with
    | some request => .ok request
    | none => .error (file ++ " is not a valid request")

/-- The line on an event. Times are given as `elapsed`. -/
def eventLine (elapsed : String) : Event → String
  | .runStarted .. => "▶️  Chain started"
  | .nodeStarted nodeId position => "  ⚡ Starting node " ++ toString position ++ ": " ++ nodeId
  | .nodeCompleted nodeId .. => "  ✅ Node " ++ nodeId ++ " completed in " ++ elapsed ++ "ms"
  | .nodeFailed nodeId _ error => "  ❌ Node " ++ nodeId ++ " failed: " ++ error
  | .noticed nodeId _ (.info message) => "     ℹ️  [" ++ nodeId ++ "] " ++ message
  | .noticed nodeId _ (.warning message) => "     ⚠️  [" ++ nodeId ++ "] " ++ message
  | .runCompleted true => "✨ Chain completed successfully in " ++ elapsed ++ "ms"
  | .runCompleted false => "💥 Chain failed after " ++ elapsed ++ "ms"

/-- A request with its query replaced, if another is given. -/
def asking (request : Request) (query : Option String) : Request :=
  { request with userQuery := query.getD request.userQuery }

/-- Run a request file. -/
def run (registry : Registry) (elapsed file : String) (query : Option String) (policy : Policy)
    (world : World) : Console × World :=
  let console : Console := { lines := ["🚀 Loading request from: " ++ file] }
  match load world file with
  | .error message => (console.fail message, world)
  | .ok request =>
    let console := console.print ["📋 Chain: " ++ arrows request.nodeIds, ""]
    let invocation := Engine.run { registry, policy } (asking request query) world
    let console := console.print (invocation.events.map (eventLine elapsed))
    match invocation.result with
    | .error error => (console.fail error.message, invocation.world)
    | .ok output =>
      (console.print ["", "📤 Result:", output.toJson.pretty], invocation.world)

/-- The line on the credentials of a request, if it has any. -/
def credentialLines (request : Request) : List String :=
  let providers := request.credentials.providers
  if providers.isEmpty then [] else ["   Credentials for: " ++ String.intercalate ", " providers]

/-- Check a request file. -/
def validate (registry : Registry) (file : String) (world : World) : Console :=
  let console : Console := { lines := ["🔍 Validating request: " ++ file] }
  match load world file with
  | .error message => console.fail message
  | .ok request =>
    match Engine.build { registry } request.nodeIds request.nodeParams with
    | .error error => console.fail error.message
    | .ok chain => console.print (["✅ Request is valid:", "   Nodes: " ++ arrows chain.nodeIds]
        ++ credentialLines request)

def noteLine (note : ParamNote) : String :=
  "      " ++ (if note.required then "*" else " ") ++ note.name ++ ": " ++ note.description

def nodeLines (node : Node) : List String :=
  ["  • " ++ node.id ++ " (" ++ node.description.category ++ ")", "    " ++ node.description.text]
    ++ node.description.params.map noteLine

/-- List the nodes. -/
def nodes (registry : Registry) : Console :=
  { lines := ["📦 Available Node Types:", ""] ++ registry.nodes.flatMap nodeLines }

/-- The example that a request file is started from. -/
def exampleRequest : Request where
  nodeIds := ["openai/advanced", "text"]
  userQuery := "Explain how a linear node chain passes state between steps."
  credentials := Credentials.insert {} "openai" (.string "sk-your-key")
  nodeParams := some (Fields.ofList [
    ("openai/advanced", Params.ofList [
      ("model", .string "gpt-4.1-mini"),
      ("temperature", .number (.ofDecimal false 3 (-1))),
      ("system_instruction", .string "Answer in three short paragraphs.")]),
    ("text", Params.ofList [("filename", .string "answer.md"), ("format", .string "markdown")])])

/-- Write the example to a file. -/
def init (output : String) (world : World) : Console × World :=
  match world.files.write output exampleRequest.toJson.pretty with
  | .error error => (Console.fail {} error.message, world)
  | .ok files =>
    ({ lines := ["✨ Created example request: " ++ output, "",
        "Fill in your API key, then run it with:", "  chain run --file " ++ output] },
      { world with files })

/-- Carry out a command with the nodes of a registry. -/
def carryOut (registry : Registry) (elapsed : String) (command : Command) (world : World) :
    Console × World :=
  match command with
  | .run file query policy => run registry elapsed file query policy world
  | .validate file => (validate registry file world, world)
  | .nodes => (nodes registry, world)
  | .init output => init output world
  | .help lines => ({ lines }, world)

/-- Carry out what arguments ask for. -/
def perform (registry : Registry) (elapsed : String) (arguments : List String) (world : World) :
    Console × World :=
  match Command.parse arguments with
  | some command => carryOut registry elapsed command world
  | none => ({ failure := some .usage }, world)

end CommandLine

end Workflow
