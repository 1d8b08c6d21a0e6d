import Workflow.Value
/-!
# Events of a run

## Main definitions

* `Notice` — what a node reports while it runs.
* `Event` — what an observer of a run sees, in order.
-/

namespace Workflow

/-- A report of a node that is running. -/
inductive Notice where
  | info (message : String)
  | warning (message : String)
  deriving DecidableEq, Repr

/-- What an observer of a run sees. -/
inductive Event where
  | runStarted (workflowId : Option String) (nodeIds : List String)
  | nodeStarted (nodeId : String) (position : Nat)
  | noticed (nodeId : String) (position : Nat) (notice : Notice)
  | nodeCompleted (nodeId : String) (position : Nat) (output : Option Value)
  | nodeFailed (nodeId : String) (position : Nat) (error : String)
  | runCompleted (success : Bool)
  deriving Repr

end Workflow
