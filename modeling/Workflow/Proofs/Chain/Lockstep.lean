import Mathlib.Data.List.Forall2
import Workflow.Chain.Run
import Workflow.Proofs.Except

/-!
# Two runs in lockstep

Two runs are compared step by step. The states that they have got to need not be the same, only
related, in such a way that what a run tells of its state is no different. If each pair of steps
leads from related states to related states and does all else the same, so do the runs: they end
with one error or in states that are related, in one world, and with the same events.

## Main definitions

* `Faithful R` — related states have the same to tell.
* `Step.Alike R`, `Chain.Alike R`, `Progress.Alike R` — steps, chains and runs that cannot be told
  apart.
* `Chain.run_alike` — chains that cannot be told apart make such runs.
-/

namespace Workflow

/-- Related states have the same to tell. -/
structure Faithful (R : State → State → Prop) : Prop where
  workflowId : ∀ first second, R first second → first.workflowId = second.workflowId
  output : ∀ first second, R first second → first.output = second.output
  error : ∀ first second, R first second → first.error = second.error

variable {R : State → State → Prop}

/-- Two runs cannot be told apart by how they end, by the world they leave or by their events. -/
structure Progress.Alike (R : State → State → Prop) (first second : Progress) : Prop where
  outcome : SameOutcome R first.outcome second.outcome
  world : first.world = second.world
  events : first.events = second.events

/-- Two steps at one place. On states that are related their nodes have one result, and leave states
that are related, one world and the same notices. -/
structure Step.Alike (R : State → State → Prop) (one other : Step) : Prop where
  nodeId : one.nodeId = other.nodeId
  position : one.position = other.position
  ends : ∀ first second world, R first second →
    let left := one.node.run one.context ⟨first, world, []⟩
    let right := other.node.run other.context ⟨second, world, []⟩
    left.1 = right.1 ∧ R left.2.state right.2.state ∧ left.2.world = right.2.world ∧
      left.2.notices = right.2.notices

theorem Step.run_alike (faithful : Faithful R) {one other : Step} (alike : one.Alike R other)
    {first second : State} (related : R first second) (policy : Policy) (world : World) :
    (one.run policy first world).Alike R (other.run policy second world) := by
  have parts := alike.ends first second world related
  unfold Step.run
  rw [alike.nodeId, alike.position]
  generalize one.node.run one.context ⟨first, world, []⟩ = left at parts ⊢
  generalize other.node.run other.context ⟨second, world, []⟩ = right at parts ⊢
  obtain ⟨result, state, world, notices⟩ := left
  obtain ⟨result', state', world', notices'⟩ := right
  obtain ⟨same, stays, sameWorld, sameNotices⟩ := parts
  dsimp only at same stays sameWorld sameNotices
  subst same sameWorld sameNotices
  -- the policy goes by the errors before and after, and these are the same
  have fresh : freshError first state = freshError second state' := by
    simp only [freshError, faithful.error _ _ related, faithful.error _ _ stays]
  cases result with
  | error failure => exact ⟨.error _, rfl, rfl⟩
  | ok _ =>
      simp only [fresh, faithful.output _ _ stays]
      cases freshError second state' with
      | none => exact ⟨.ok stays, rfl, rfl⟩
      | some reason =>
          cases policy with
          | goOn => exact ⟨.ok stays, rfl, rfl⟩
          | abort => exact ⟨.error _, rfl, rfl⟩

namespace Chain

/-- Two chains whose steps cannot be told apart, one by one. -/
def Alike (R : State → State → Prop) (one other : Chain) : Prop :=
  List.Forall₂ (Step.Alike R) one.steps other.steps

theorem runSteps_alike (faithful : Faithful R) {steps others : List Step}
    (alike : List.Forall₂ (Step.Alike R) steps others) {first second : State}
    (related : R first second) (policy : Policy) (world : World) :
    (runSteps policy steps first world).Alike R (runSteps policy others second world) := by
  induction alike generalizing first second world with
  | nil => exact ⟨.ok related, rfl, rfl⟩
  | @cons one other steps others here later ih =>
      have stepped := Step.run_alike faithful here related policy world
      simp only [runSteps]
      generalize one.run policy first world = left at stepped ⊢
      generalize other.run policy second world = right at stepped ⊢
      obtain ⟨outcome, world, events⟩ := left
      obtain ⟨outcome', world', events'⟩ := right
      obtain ⟨ends, sameWorld, sameEvents⟩ := stepped
      dsimp only at ends sameWorld sameEvents
      subst sameWorld sameEvents
      cases ends with
      | error error => exact ⟨.error error, rfl, rfl⟩
      | ok stays =>
          have rest := ih stays world
          exact ⟨rest.outcome, rest.world, congrArg (events ++ ·) rest.events⟩

theorem nodeIds_eq {one other : Chain} (alike : one.Alike R other) :
    one.nodeIds = other.nodeIds := by
  have named : List.Forall₂ (fun one other => Step.nodeId one = Step.nodeId other)
      one.steps other.steps := alike.imp fun _ _ here => here.nodeId
  simpa [nodeIds, ← List.forall₂_eq_eq_eq] using named

theorem run_alike (faithful : Faithful R) {one other : Chain} (alike : one.Alike R other)
    {first second : State} (related : R first second) (policy : Policy) (world : World) :
    (one.run policy first world).Alike R (other.run policy second world) := by
  obtain ⟨ends, sameWorld, sameEvents⟩ := runSteps_alike faithful alike related policy world
  refine ⟨ends, sameWorld, ?_⟩
  simp only [run, sameEvents, nodeIds_eq alike, ends.isOk_eq, faithful.workflowId _ _ related]

end Chain

end Workflow
