import Workflow.Params
/-!
# The state of a run

The record that is handed from node to node.

## Main definitions

* `State` — what a run was given, and what its nodes have left so far.
* `State.outputText?` — the output as text, unless it is blank.
-/

namespace Workflow

/-- The record handed from node to node. Nodes write `output`, `error` and `extras`. -/
structure State where
  userQuery : String
  credentials : Credentials := {}
  nodeParams : Fields Params := []
  workflowId : Option String := none
  /-- What the last node put out. -/
  output : Option Value := none
  /-- A failure that a node recorded while it returned normally. -/
  error : Option String := none
  /-- Side notes of the nodes; no node reads them. -/
  extras : Fields Value := []
  deriving Repr, Inhabited

namespace State

/-- The parameters kept for a node, none by default. -/
def paramsFor (state : State) (nodeId : String) : Params :=
  (Fields.get? state.nodeParams nodeId).getD {}

def withOutput (state : State) (value : Value) : State := { state with output := some value }

def withError (state : State) (message : String) : State := { state with error := some message }

def withExtra (state : State) (name : String) (value : Value) : State :=
  { state with extras := state.extras.insert name value }

def withoutOutput (state : State) : State := { state with output := none }

/-- The output as text, unless it is absent, null or blank. -/
def outputText? (state : State) : Option String :=
  Params.filled ((state.output.filter (! ·.isNull)).map Value.text)

end State

end Workflow
