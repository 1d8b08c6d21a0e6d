import Mathlib.Data.List.Basic
import Workflow.Proofs.Chain.Trace

/-!
# Which recorded errors count

A node that returns normally with an error in the state has failed softly if the text is not the
one that stood there before its step. A node that records the very text it finds is taken for one
that recorded nothing: the run goes on without a warning, whatever the policy.

## Main definitions

* `Governed` — the policy has been applied to a step as to one that failed softly.
* `Chain.governed_iff` — it is applied exactly to the steps that change the recorded text.
-/

namespace Workflow

/-- The policy has been applied to the step of a block, for a reason that its node recorded: the run
warns of it once and closes the step, or it ends there. -/
def Governed (policy : Policy) (reason : String) (block : Block)
    (outcome : Except RunError State) : Prop :=
  match policy with
  | .goOn => block.verdict =
      [.noticed block.nodeId block.position (.warning ("Continuing after error: " ++ reason)),
        block.closingEvent]
  | .abort => outcome = .error (.softFailure block.nodeId block.position reason)

theorem freshError_of_recorded {before after : State} {reason : String}
    (recorded : after.error = some reason) :
    freshError before after = if before.error = some reason then none else some reason := by
  simp [freshError, recorded, eq_comm]

namespace Turn

variable {turn : Turn} {reason : String}

/-- Under the policy to go on, a recorded error is warned of exactly if it is new. -/
theorem warning?_of_recorded (ok : turn.result = .ok ())
    (recorded : turn.after.state.error = some reason) :
    turn.warning? .goOn =
      if turn.before.error = some reason then none else some reason := by
  simp only [warning?, ok, freshError_of_recorded recorded]

/-- Under the policy to abort, a recorded error stops the run exactly if it is new. -/
theorem stop?_of_recorded (ok : turn.result = .ok ())
    (recorded : turn.after.state.error = some reason) :
    turn.stop? .abort =
      if turn.before.error = some reason then none
      else some (.softFailure turn.step.nodeId turn.step.position reason) := by
  simp only [stop?, ok, freshError_of_recorded recorded]
  split <;> rfl

/-- A node that records the text it found passes for one without an error. -/
theorem block_of_repeated (ok : turn.result = .ok ())
    (recorded : turn.after.state.error = some reason) (repeated : turn.before.error = some reason)
    (policy : Policy) :
    (turn.block policy).warning = none ∧
      (turn.block policy).closing = .completed turn.after.state.output := by
  cases policy with
  | goOn =>
      have warned := warning?_of_recorded ok recorded
      have goes : turn.stop? .goOn = none := by simp [stop?, ok]
      rw [if_pos repeated] at warned
      exact ⟨warned, closing_of_goes goes⟩
  | abort =>
      have goes := stop?_of_recorded ok recorded
      rw [if_pos repeated] at goes
      exact ⟨by simp [block, warning?, ok], closing_of_goes goes⟩

end Turn

namespace Chain

/-- Of the executed steps whose node returns normally with an error recorded, the policy governs
exactly those before which another text, or none, stood there. The others pass for steps without
an error. -/
theorem governed_iff {registry : Registry} {nodeIds : List String} {nodeParams : Fields Params}
    {chain : Chain} (built : registry.build nodeIds nodeParams = .ok chain)
    (policy : Policy) (state : State) (world : World) :
    let progress := chain.run policy state world
    ∃ blocks : List Block,
      progress.events = .runStarted state.workflowId nodeIds
        :: blocks.flatMap Block.events ++ [.runCompleted progress.outcome.isOk] ∧
      Tells blocks nodeIds (course chain.steps state world) progress.outcome ∧
      ∀ (i : Nat) block turn reason, blocks[i]? = some block →
        (course chain.steps state world)[i]? = some turn →
        turn.result = .ok () → turn.after.state.error = some reason →
        (Governed policy reason block progress.outcome ↔ turn.before.error ≠ some reason) ∧
        (turn.before.error = some reason →
          block.warning = none ∧ block.closing = .completed turn.after.state.output) := by
  intro progress
  have run : progress = _ := run_of_build built policy state world
  have numbered := numbered_of_build built state world
  refine ⟨(chain.turns policy state world).map (Turn.block policy), ?_, ?_, ?_⟩
  · rw [run]
  · rw [run]
    exact tells_blocks built policy state world
  · intro i block turn reason here there ok recorded
    obtain ⟨executed, member, rfl⟩ := Option.map_eq_some_iff.mp (List.getElem?_map ▸ here)
    have same : executed = turn :=
      Option.some.inj ((getElem?_of_executed member).symm.trans there)
    subst same
    refine ⟨?_, fun repeated => Turn.block_of_repeated ok recorded repeated policy⟩
    rw [run]
    cases policy with
    | goOn =>
        refine Block.verdict_eq_warned_iff.trans ?_
        change executed.warning? .goOn = some reason ↔ _
        rw [Turn.warning?_of_recorded ok recorded]
        split <;> simp_all
    | abort =>
        change ending .abort state (Chain.executed .abort _) = _ ↔ _
        rw [← stop?_iff_ending numbered member rfl]
        rw [Turn.stop?_of_recorded ok recorded]
        split <;> simp_all

/-- Of two steps that record the same text, the first is governed and the second is not. -/
theorem governed_first_flaky :
    ∃ chain, Registry.rehearsal.build ["flaky", "flaky"] [] = .ok chain ∧
      let progress := chain.run .goOn { userQuery := "" } default
      ∃ first second, progress.events =
          [.runStarted none ["flaky", "flaky"]] ++ Block.events first ++ Block.events second
            ++ [.runCompleted true] ∧
        Governed .goOn "quota exceeded" first progress.outcome ∧
        ¬ Governed .goOn "quota exceeded" second progress.outcome := by
  have built : Registry.rehearsal.build ["flaky", "flaky"] [] =
      .ok ⟨Registry.rehearsal.stepsFrom [] 0 ["flaky", "flaky"]⟩ := rfl
  obtain ⟨blocks, told, tells, governed⟩ :=
    governed_iff built .goOn { userQuery := "" } default
  obtain ⟨_, _, complete, _⟩ := tells.ends
  obtain ⟨first, second, rfl⟩ := List.length_eq_two.mp complete
  refine ⟨_, built, first, second, ?_, ?_, ?_⟩
  · rw [told]
    simp only [List.flatMap_cons, List.flatMap_nil, List.append_nil, List.append_assoc,
      List.cons_append, List.nil_append]
    rfl
  · exact (governed 0 first _ _ rfl rfl rfl rfl).1.mpr (by decide)
  · exact fun h => (governed 1 second _ _ rfl rfl rfl rfl).1.mp h rfl

/-- The second of two nodes that record the same text is not warned of, and neither does it stop a
run under the policy to abort. -/
theorem repeated_error_passes :
    ∃ chain, Registry.rehearsal.build ["flaky", "flaky"] [] = .ok chain ∧
      (chain.run .goOn { userQuery := "" } default).events = [
        .runStarted none ["flaky", "flaky"],
        .nodeStarted "flaky" 0,
        .noticed "flaky" 0 (.warning "Continuing after error: quota exceeded"),
        .nodeCompleted "flaky" 0 (some (.string "failed")),
        .nodeStarted "flaky" 1,
        .nodeCompleted "flaky" 1 (some (.string "failed")),
        .runCompleted true] ∧
      (chain.run .abort { userQuery := "", error := some "quota exceeded" } default).outcome.isOk :=
  ⟨_, rfl, rfl, rfl⟩

end Chain

end Workflow
