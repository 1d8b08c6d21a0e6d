/-!
# Failures

What can go wrong, from a single node up to a whole invocation, and the wording of each case.

## Main definitions

* `Failure` — a node's own failure.
* `BuildError` — a request that no chain can be built from; nothing has run.
* `RunError` — a node that stopped a running chain.
* `InvocationError` — either of the two.
-/

namespace Workflow

/-- A failure that a node signals. -/
inductive Failure where
  | missingInput (what : String)
  | missingCredential (name : String)
  | missingParam (name : String)
  | invalidParam (param reason : String)
  | configuration (what : String)
  | execution (what : String)
  | timeout (seconds : Nat)
  deriving DecidableEq, Repr, Inhabited

namespace Failure

/-- The full wording. -/
def message : Failure → String
  | missingInput what => "Missing required input: " ++ what
  | missingCredential name => "Missing credential: " ++ name
  | missingParam name => "Missing required parameter: " ++ name
  | invalidParam param reason => "Invalid parameter '" ++ param ++ "': " ++ reason
  | configuration what => "Configuration error: " ++ what
  | execution what => "Execution failed: " ++ what
  | timeout seconds => "Timeout after " ++ toString seconds ++ "s"

/-- The wording for a state's error: what failed, without saying that it is an execution. -/
def detail : Failure → String
  | execution what => what
  | failure => failure.message

@[simp] theorem detail_execution (what : String) : (execution what).detail = what := rfl

end Failure

/-- Why no chain can be built from a request. -/
inductive BuildError where
  | emptySequence
  | unknownNode (nodeId : String)
  | invalidParams (nodeId : String) (position : Nat) (source : Failure)
  deriving DecidableEq, Repr

/-- The wording. -/
def BuildError.message : BuildError → String
  | emptySequence => "Node sequence is empty"
  | unknownNode nodeId => "Unknown node: " ++ nodeId
  | invalidParams nodeId position source =>
    "Invalid parameters for node '" ++ nodeId ++ "' at position " ++ toString position ++ ": "
      ++ source.message

/-- Why a running chain stopped: a node signalled a failure, or it recorded one and the policy is
to stop at that. -/
inductive RunError where
  | nodeFailed (nodeId : String) (position : Nat) (source : Failure)
  | softFailure (nodeId : String) (position : Nat) (reason : String)
  deriving DecidableEq, Repr

namespace RunError

def nodeId : RunError → String
  | nodeFailed nodeId .. => nodeId
  | softFailure nodeId .. => nodeId

def position : RunError → Nat
  | nodeFailed _ position _ => position
  | softFailure _ position _ => position

/-- The wording. -/
def message : RunError → String
  | nodeFailed nodeId position source =>
    "Node '" ++ nodeId ++ "' at position " ++ toString position ++ " failed: " ++ source.message
  | softFailure nodeId position reason =>
    "Node '" ++ nodeId ++ "' at position " ++ toString position ++ " reported an error: " ++ reason

end RunError

/-- Whom an error blames. -/
inductive Side where
  /-- The request was malformed; nothing ran. -/
  | badRequest
  /-- A node failed while the chain was running. -/
  | internal
  deriving DecidableEq, Repr

/-- Why an invocation gave no output. -/
inductive InvocationError where
  | build (error : BuildError)
  | run (error : RunError)
  deriving DecidableEq, Repr

namespace InvocationError

def side : InvocationError → Side
  | build _ => .badRequest
  | run _ => .internal

def message : InvocationError → String
  | build error => error.message
  | run error => error.message

end InvocationError

end Workflow
