import Workflow.Registry
import Workflow.Text.Quoted
/-!
# Chains

A chain is a sequence of registered nodes with their parameters, all checked. Identifiers are looked
up before any parameters are checked.

## Main definitions

* `Step` — a node at a position, with the parameters bound to it.
* `Chain` — the steps in order.
* `Registry.build` — the chain for a sequence of identifiers.
-/

namespace Workflow

/-- A node at a position of a chain. -/
structure Step where
  nodeId : String
  position : Nat
  node : Node
  params : Params

/-- What a step tells its node. -/
def Step.context (step : Step) : Context := ⟨step.nodeId, step.position, step.params⟩

/-- Steps ready to run. -/
structure Chain where
  steps : List Step

namespace Chain

/-- The identifiers in order of execution. -/
def nodeIds (chain : Chain) : List String := chain.steps.map Step.nodeId

/-- The parameters bound at a position. -/
def params? (chain : Chain) (position : Nat) : Option Params :=
  chain.steps[position]?.map Step.params

/-- The chain for diagnostics: its identifiers. -/
def diagnostics (chain : Chain) : String :=
  "Pipeline \x7b node_sequence: " ++ Text.quotedList chain.nodeIds ++ " \x7d"

end Chain

namespace Registry

/-- Each identifier with its node; the first unknown one is an error. -/
def resolve (registry : Registry) : List String → Except BuildError (List (String × Node))
  | [] => .ok []
  | nodeId :: rest =>
    match registry.lookup nodeId with
    | none => .error (.unknownNode nodeId)
    | some node => (registry.resolve rest).map ((nodeId, node) :: ·)

/-- Steps from a position on, with the parameters kept for each identifier; the first parameters
that a node refuses are an error. -/
def bindFrom (nodeParams : Fields Params) (position : Nat) :
    List (String × Node) → Except BuildError (List Step)
  | [] => .ok []
  | (nodeId, node) :: rest =>
    let params := (Fields.get? nodeParams nodeId).getD {}
    match node.check params with
    | .error source => .error (.invalidParams nodeId position source)
    | .ok () =>
      (bindFrom nodeParams (position + 1) rest).map (⟨nodeId, position, node, params⟩ :: ·)

/-- The chain for a sequence of identifiers. -/
def build (registry : Registry) (nodeIds : List String) (nodeParams : Fields Params) :
    Except BuildError Chain :=
  if nodeIds.isEmpty then .error .emptySequence
  else do
    let resolved ← registry.resolve nodeIds
    return ⟨← bindFrom nodeParams 0 resolved⟩

end Registry

end Workflow
