import Workflow.Proofs.Chain.Course

/-!
# What nodes mean for a run

A run does nothing but let nodes act. So a failure that stops it is the failure of a node at one of
its steps, and what the action of every node leaves intact is intact after the run.

## Main definitions

* `Chain.run_of_nodeFailed` — the failure that a run stops with is that of a node on some scene.
* `Chain.world_of_run` — a relation between worlds that every step keeps is kept by the run.
-/

namespace Workflow.Chain

/-- Every turn of a course is the turn of one of its steps. -/
theorem exists_turn_of_mem_course {steps : List Step} {state : State} {world : World} {turn : Turn}
    (member : turn ∈ course steps state world) :
    ∃ step ∈ steps, ∃ state world, turn = step.turn state world := by
  induction steps generalizing state world with
  | nil => cases member
  | cons step rest ih =>
      rcases List.mem_cons.mp member with rfl | member
      · exact ⟨step, List.mem_cons_self, state, world, rfl⟩
      · obtain ⟨later, inside, found⟩ := ih member
        exact ⟨later, List.mem_cons_of_mem step inside, found⟩

/-- The failure that a run stops with is that of the node at a step, on the scene it found. -/
theorem run_of_nodeFailed {chain : Chain} {policy : Policy} {state : State} {world : World}
    {nodeId : String} {position : Nat} {failure : Failure}
    (failed : (chain.run policy state world).outcome =
      .error (.nodeFailed nodeId position failure)) :
    ∃ step ∈ chain.steps, step.nodeId = nodeId ∧ step.position = position ∧
      ∃ scene, (step.node.run step.context scene).1 = .error failure := by
  rw [run_eq] at failed
  obtain ⟨turn, last, stop⟩ := stop?_of_ending failed
  have executed : turn ∈ chain.turns policy state world := List.mem_of_getLast? last
  have begins := executed_prefix policy (course chain.steps state world)
  obtain ⟨step, member, before, world, rfl⟩ :=
    exists_turn_of_mem_course (begins.subset executed)
  rcases Turn.stop?_eq_some_iff.mp stop with ⟨other, signalled, same⟩ | ⟨_, _, _, _, _, same⟩
  · cases same
    exact ⟨step, member, rfl, rfl, ⟨before, world, []⟩, signalled⟩
  · cases same

/-- A relation between worlds that the node of every step keeps is kept by a run of the steps. -/
theorem world_of_runSteps {R : World → World → Prop} (refl : ∀ world, R world world)
    (trans : ∀ {a b c}, R a b → R b c → R a c) {steps : List Step}
    (keeps : ∀ step ∈ steps, ∀ scene,
      R scene.world (step.node.run step.context scene).2.world)
    (policy : Policy) (state : State) (world : World) :
    R world (runSteps policy steps state world).world := by
  induction steps generalizing state world with
  | nil => exact refl world
  | cons step rest ih =>
      have first := keeps step List.mem_cons_self ⟨state, world, []⟩
      simp only [runSteps, Step.run_eq]
      cases (step.turn state world).stop? policy with
      | some error => exact first
      | none =>
          have later := ih (fun step member => keeps step (List.mem_cons_of_mem _ member))
            (step.turn state world).after.state (step.turn state world).after.world
          exact trans first later

theorem world_of_run {R : World → World → Prop} (refl : ∀ world, R world world)
    (trans : ∀ {a b c}, R a b → R b c → R a c) {chain : Chain}
    (keeps : ∀ step ∈ chain.steps, ∀ scene,
      R scene.world (step.node.run step.context scene).2.world)
    (policy : Policy) (state : State) (world : World) :
    R world (chain.run policy state world).world :=
  world_of_runSteps refl trans keeps policy state world

end Workflow.Chain
