import Workflow.Proofs.Chain.Lockstep
import Workflow.Proofs.Chain.Registration
import Workflow.Proofs.Engine.Invocation
import Workflow.Proofs.Node.Ownership

/-!
# Least privilege

A chain of standard nodes is given everything that a request brings, but goes by what is its own
alone: the query, the credentials that its nodes own, and the parameters for its nodes. Two runs
that agree on that cannot be told apart. They have the same result and the same events, the peers
get the same messages in the same order, and the same files are written.

One step on states that are alike leaves states that are alike, so the same is true of a run; and
building goes by no parameters but those for the nodes of the chain.

## Main definitions

* `ownedByAll` — the providers whose credentials the nodes of a chain own.
* `State.AlikeFor` — two states agree on all that is a chain's own.
* `Engine.run_eq_of_alikeFor` — requests that agree on all that is the chain's own.
-/

namespace Workflow

/-- The providers whose credentials the nodes of a chain own. -/
def ownedByAll (nodeIds : List String) (nodeParams : Fields Params) : List String :=
  nodeIds.flatMap fun nodeId => ownedBy nodeId (Registry.boundTo nodeParams nodeId)

/-- Two states agree on all that is the own of a chain of these nodes. They may differ in the
credentials of other providers, in the parameters for other nodes, and in their side notes. -/
structure State.AlikeFor (nodeIds : List String) (first second : State) : Prop
    extends State.Alike (ownedByAll nodeIds first.nodeParams) first second where
  nodeParams : ∀ nodeId ∈ nodeIds,
    Registry.boundTo first.nodeParams nodeId = Registry.boundTo second.nodeParams nodeId

/-! ## Two runs of a chain -/

open Workflow.Action

variable {owned : List String} {first second : State}

theorem State.faithful_alike (owned : List String) : Faithful (State.Alike owned) where
  workflowId _ _ := State.Alike.workflowId
  output _ _ := State.Alike.output
  error _ _ := State.Alike.error

/-- A step whose node goes by the owned credentials cannot tell states that are alike apart. -/
theorem Step.alike_of_goesBy {step : Step} (goes : GoesBy owned (step.node.run step.context)) :
    step.Alike (State.Alike owned) step where
  nodeId := rfl
  position := rfl
  ends first second world alike := by
    obtain ⟨result, left, -⟩ := goes ⟨first, world, []⟩ ⟨second, world, []⟩ ⟨alike, rfl, rfl⟩
    exact ⟨result, left.state, left.world, left.notices⟩

namespace Chain

/-- The nodes of a chain of standard nodes go by the credentials that the chain owns. -/
theorem goesBy_of_build {place : OutputPlace} {endpoints : Endpoints} {registry : Registry}
    (standard : standardRegistry place endpoints = .ok registry) {nodeIds : List String}
    {nodeParams : Fields Params} {chain : Chain}
    (built : registry.build nodeIds nodeParams = .ok chain) :
    ∀ step ∈ chain.steps,
      GoesBy (ownedByAll nodeIds nodeParams) (step.node.run step.context) := by
  intro step member
  obtain ⟨asked, registered, named, bound, -⟩ := Registry.step_of_build built member
  refine goesBy_run_of_standard (Registry.mem_of_ofNodes standard registered) ?_
  intro provider owns
  refine List.mem_flatMap.mpr ⟨step.nodeId, asked, ?_⟩
  rw [← bound, ← named]
  exact owns

end Chain

/-! ## Two invocations -/

namespace Engine

variable {engine : Engine} {place : OutputPlace} {endpoints : Endpoints}

/-- On states that agree on all that is the chain's own either both chains are refused, or the same
chain is built, and it goes by nothing else. -/
theorem builds_alike (standard : standardRegistry place endpoints = .ok engine.registry)
    {nodeIds : List String} (agree : first.AlikeFor nodeIds second) :
    SameOutcome (Chain.Alike (State.Alike (ownedByAll nodeIds first.nodeParams)))
      (engine.build nodeIds (some first.nodeParams))
      (engine.build nodeIds (some second.nodeParams)) := by
  have sameBuild : engine.build nodeIds (some first.nodeParams) =
      engine.build nodeIds (some second.nodeParams) := Registry.build_congr agree.nodeParams
  rw [← sameBuild]
  cases built : engine.build nodeIds (some first.nodeParams) with
  | error error => exact .error error
  | ok chain =>
      have goes := Chain.goesBy_of_build standard built
      exact .ok (List.forall₂_same.mpr fun step member => Step.alike_of_goesBy (goes step member))

/-- Neither can the invocations be told apart. -/
theorem execute_alike {α : Type}
    (standard : standardRegistry place endpoints = .ok engine.registry) {nodeIds : List String}
    (agree : first.AlikeFor nodeIds second) (world : World) {f : State → α}
    (same : ∀ one other, State.Alike (ownedByAll nodeIds first.nodeParams) one other →
      f one = f other) :
    let one := engine.execute nodeIds first world
    let other := engine.execute nodeIds second world
    one.result.map f = other.result.map f ∧ one.world = other.world ∧
      one.events = other.events := by
  intro one other
  have alike : one.Alike _ other := execute_alike_of_builds (State.faithful_alike _)
    agree.toAlike (builds_alike standard agree) world
  exact ⟨alike.result.map_eq same, alike.world, alike.events⟩

end Engine

end Workflow
