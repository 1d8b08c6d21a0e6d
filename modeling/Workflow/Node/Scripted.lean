import Workflow.Node
/-!
# Scripted nodes

Nodes whose work is a list of instructions, for rehearsing chains without the outside world.

## Main definitions

* `Instruction` — one thing to do to the scene.
* `Scripted.node` — the node that follows a script.
-/

namespace Workflow

/-- One thing a scripted node does. -/
inductive Instruction where
  | setOutput (value : Value)
  /-- Put text behind the output's text. -/
  | append (text : String)
  | takeOutput
  | setError (message : String)
  | clearError
  | setExtra (name : String) (value : Value)
  | echoQuery
  | echoWorkflowId
  | echoParam (name : String)
  | requireParam (name : String)
  | requireCredential (provider : String)
  | echoContext
  | notice (notice : Notice)
  | fail (failure : Failure)
  deriving Repr

namespace Instruction

def put (value : Value) : Action Unit := Action.modifyState (·.withOutput value)

/-- The context as a value. -/
def contextValue (context : Context) : Value :=
  .ofFields [
    ("node_id", .string context.nodeId),
    ("position", .ofNat context.position),
    ("params", context.params.toValue)]

/-- Follow an instruction. -/
def run (context : Context) : Instruction → Action Unit
  | setOutput value => put value
  | append text => do put (.string ((← Action.state).outputText?.getD "" ++ text))
  | takeOutput => Action.modifyState State.withoutOutput
  | setError message => Action.modifyState (·.withError message)
  | clearError => Action.modifyState fun state => { state with error := none }
  | setExtra name value => Action.modifyState (·.withExtra name value)
  | echoQuery => do put (.string (← Action.state).userQuery)
  | echoWorkflowId => do put (.string ((← Action.state).workflowId.getD "none"))
  | echoParam name => put ((context.params.get? name).getD .null)
  | requireParam name => do put (.string (← context.params.requiredString name))
  | requireCredential provider => do
    put (.string (← (← Action.state).credentials.requiredString provider))
  | echoContext => put (contextValue context)
  | notice n => Action.notice n
  | fail failure => Action.fail failure

/-- Follow instructions up to the first that fails. -/
def runAll (context : Context) : List Instruction → Action Unit
  | [] => pure ()
  | instruction :: rest => do
    instruction.run context
    runAll context rest

end Instruction

namespace Scripted

/-- The node that follows a script; it may require a filled string parameter when a chain is
built. -/
def node (id : String) (script : List Instruction) (required : Option String)
    (description : Description) : Node where
  id := id
  run context := Instruction.runAll context script
  check params := match required with
    | none => .ok ()
    | some name => (params.requiredString name).map fun _ => ()
  description := description

end Scripted

end Workflow
