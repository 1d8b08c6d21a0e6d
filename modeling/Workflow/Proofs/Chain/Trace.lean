import Workflow.Engine
import Workflow.Proofs.Chain.Course

/-!
# The events of a run

An observer of a run sees one event at its start, then a block for each executed step, then one
event at its end. The blocks are those of the positions from zero on, without gaps, and they tell
all that the run gives: every block but the last closes with the output of its step, and the last
one with the final output or with the failure that the run returns.

## Main definitions

* `Tells` — blocks tell a run of requested identifiers and its outcome.
* `Event.isFailure` — an event says that a step has failed.
* `Chain.run_events` — the events of a run.
-/

namespace Workflow

/-- A last block tells the outcome of a run; a run without an error has to be complete. -/
def Block.Concludes (last : Block) (complete : Prop) : Except RunError State → Prop
  | .ok final => complete ∧ last.closing = .completed final.output
  | .error error => last.nodeId = error.nodeId ∧ last.position = error.position ∧
      last.closing = .failed error.cause

/-- Blocks tell a run of requested identifiers that follows a course up to an outcome. -/
structure Tells (blocks : List Block) (nodeIds : List String) (course : List Turn)
    (outcome : Except RunError State) : Prop where
  started : blocks ≠ []
  /-- A block stands at the place of its step. -/
  placed : ∀ (i : Nat) block, blocks[i]? = some block →
    nodeIds[i]? = some block.nodeId ∧ block.position = i
  /-- A block has its node's notices, and closes with the output of the step, or, if it is the last
  one, with what the outcome says. -/
  closes : ∀ (i : Nat) block, blocks[i]? = some block →
    ∃ turn, course[i]? = some turn ∧ block.notices = turn.after.notices ∧
      (block.closing = .completed turn.after.state.output ∨
        i + 1 = blocks.length ∧
          ∃ error, outcome = .error error ∧ block.closing = .failed error.cause)
  /-- The run warns only of an error that a node has left though it returned normally. -/
  warned : ∀ (i : Nat) block reason, blocks[i]? = some block → block.warning = some reason →
    ∃ turn, course[i]? = some turn ∧ turn.result = .ok () ∧ turn.after.state.error = some reason
  /-- The last block tells the outcome; without an error every position has its block. -/
  ends : ∃ last, blocks.getLast? = some last ∧
    last.Concludes (blocks.length = nodeIds.length) outcome

namespace Event

/-- An event says that a step has failed. -/
def isFailure : Event → Bool
  | nodeFailed .. => true
  | _ => false

theorem countP_isFailure_block (block : Block) :
    block.events.countP isFailure =
      match block.closing with
      | .completed _ => 0
      | .failed _ => 1 := by
  have quiet : ∀ event ∈ block.opening ++ block.warnings, ¬ isFailure event := by
    rw [List.forall_mem_append]
    constructor <;> simp [Block.opening, Block.warnings, isFailure]
  rw [Block.events, Block.verdict, ← List.append_assoc, List.countP_append,
    List.countP_eq_zero.mpr quiet, Block.closingEvent]
  cases block.closing <;> simp [isFailure]

end Event

namespace Turn

theorem closing_of_stop? {policy : Policy} {turn : Turn} {error : RunError}
    (stop : turn.stop? policy = some error) :
    (turn.block policy).closing = .failed error.cause := by
  simp [block, stop]

theorem closing_of_goes {policy : Policy} {turn : Turn} (goes : turn.stop? policy = none) :
    (turn.block policy).closing = .completed turn.after.state.output := by
  simp [block, goes]

theorem recorded_of_warning {policy : Policy} {turn : Turn} {reason : String}
    (warned : (turn.block policy).warning = some reason) :
    turn.result = .ok () ∧ turn.after.state.error = some reason := by
  change turn.warning? policy = some reason at warned
  cases result : turn.result with
  | error failure => simp [warning?, result] at warned
  | ok _ =>
      cases policy with
      | abort => simp [warning?, result] at warned
      | goOn =>
          simp only [warning?, result, freshError_eq_some_iff] at warned
          exact ⟨rfl, warned.1⟩

end Turn

namespace Chain

/-- A failure is told once if the run ends with an error, and else not at all. -/
theorem countP_isFailure_executed (policy : Policy) (state : State) (turns : List Turn) :
    ((executed policy turns).flatMap fun turn => (turn.block policy).events).countP
        Event.isFailure =
      if (ending policy state (executed policy turns)).isOk then 0 else 1 := by
  induction turns generalizing state with
  | nil => rfl
  | cons turn rest ih =>
      cases stop : turn.stop? policy with
      | some error =>
          simp [executed, stop, ending, Event.countP_isFailure_block, Turn.closing_of_stop? stop,
            Except.isOk, Except.toBool]
      | none =>
          simp [executed, stop, ending_cons stop, ih turn.after.state, List.countP_append,
            Event.countP_isFailure_block, Turn.closing_of_goes stop]

/-- A run of a built chain puts a block for every executed turn between two events. -/
theorem run_of_build {registry : Registry} {nodeIds : List String} {nodeParams : Fields Params}
    {chain : Chain} (built : registry.build nodeIds nodeParams = .ok chain)
    (policy : Policy) (state : State) (world : World) :
    let turns := chain.turns policy state world
    let outcome := ending policy state turns
    chain.run policy state world =
      ⟨outcome, worldAfter world turns,
       .runStarted state.workflowId nodeIds
         :: (turns.map (Turn.block policy)).flatMap Block.events
         ++ [.runCompleted outcome.isOk]⟩ := by
  simp [run_eq, Registry.nodeIds_of_build built, List.flatMap_map]

theorem numbered_of_build {registry : Registry} {nodeIds : List String}
    {nodeParams : Fields Params} {chain : Chain}
    (built : registry.build nodeIds nodeParams = .ok chain) (state : State) (world : World) :
    (course chain.steps state world).map
      (fun turn => (turn.step.nodeId, turn.step.position)) = nodeIds.zipIdx := by
  obtain ⟨_, accepted, steps⟩ := Registry.build_eq_ok_iff.mp built
  rw [steps, map_course accepted]

/-- The blocks of the executed turns tell the run. -/
theorem tells_blocks {registry : Registry} {nodeIds : List String} {nodeParams : Fields Params}
    {chain : Chain} (built : registry.build nodeIds nodeParams = .ok chain)
    (policy : Policy) (state : State) (world : World) :
    let turns := chain.turns policy state world
    Tells (turns.map (Turn.block policy)) nodeIds (course chain.steps state world)
      (ending policy state turns) := by
  obtain ⟨nonempty, _, _⟩ := Registry.build_eq_ok_iff.mp built
  have numbered := numbered_of_build built state world
  intro turns
  have nonempty' : turns ≠ [] := by
    refine executed_ne_nil policy fun h => nonempty ?_
    rw [h, List.map_nil, eq_comm, List.zipIdx_eq_nil_iff] at numbered
    exact numbered
  obtain ⟨last, found⟩ := Option.isSome_iff_exists.mp (List.getLast?_isSome.mpr nonempty')
  constructor
  case started => simpa using nonempty'
  case placed =>
    intro i block h
    obtain ⟨turn, member, rfl⟩ := Option.map_eq_some_iff.mp (List.getElem?_map ▸ h)
    exact place_of_getElem? numbered (getElem?_of_executed member)
  case closes =>
    intro i block h
    obtain ⟨turn, member, rfl⟩ := Option.map_eq_some_iff.mp (List.getElem?_map ▸ h)
    refine ⟨turn, getElem?_of_executed member, rfl, ?_⟩
    cases stop : turn.stop? policy with
    | none => exact .inl (Turn.closing_of_goes stop)
    | some error =>
        obtain ⟨position, failed⟩ := ending_of_stop? member stop state
        refine .inr ⟨?_, error, failed, Turn.closing_of_stop? stop⟩
        rw [List.length_map]
        exact position
  case warned =>
    intro i block reason h warned
    obtain ⟨turn, member, rfl⟩ := Option.map_eq_some_iff.mp (List.getElem?_map ▸ h)
    exact ⟨turn, getElem?_of_executed member, Turn.recorded_of_warning warned⟩
  case ends =>
    refine ⟨last.block policy, by simp [found], ?_⟩
    rw [ending_of_getLast? found]
    cases stop : last.stop? policy with
    | some error =>
        obtain ⟨named, placed⟩ := Turn.place_of_stop? stop
        exact ⟨named.symm, placed.symm, Turn.closing_of_stop? stop⟩
    | none =>
        have whole : turns = course chain.steps state world := executed_eq_of_last_goes found stop
        have count := congrArg List.length numbered
        rw [List.length_map, List.length_zipIdx, ← whole] at count
        exact ⟨by simpa using count, Turn.closing_of_goes stop⟩

/-- The events of a run of a built chain: a start, the blocks that tell the run, and an end. A
failure is told exactly if the run returns an error, and then once. An invocation of the same chain
has these events and gives the final output. -/
theorem run_events {registry : Registry} {nodeIds : List String} {nodeParams : Fields Params}
    {chain : Chain} (built : registry.build nodeIds nodeParams = .ok chain)
    (policy : Policy) (state : State) (world : World) :
    let progress := chain.run policy state world
    ∃ blocks : List Block,
      progress.events = .runStarted state.workflowId nodeIds
        :: blocks.flatMap Block.events ++ [.runCompleted progress.outcome.isOk] ∧
      Tells blocks nodeIds (course chain.steps state world) progress.outcome ∧
      progress.events.countP Event.isFailure = (if progress.outcome.isOk then 0 else 1) ∧
      (nodeParams = state.nodeParams →
        let answer := Engine.runFrom ⟨registry, policy⟩ nodeIds state world
        answer.events = progress.events ∧
          answer.result =
            (progress.outcome.map fun final => final.output.getD .null).mapError .run) := by
  intro progress
  have run : progress = _ := run_of_build built policy state world
  refine ⟨(chain.turns policy state world).map (Turn.block policy), ?_, ?_, ?_, ?_⟩
  · rw [run]
  · rw [run]
    exact tells_blocks built policy state world
  · rw [run]
    simp only [List.cons_append, List.countP_cons, List.countP_append, List.flatMap_map, turns,
      countP_isFailure_executed policy state]
    simp only [Event.isFailure, Bool.false_eq_true, if_false, List.countP_nil, Nat.add_zero]
    rfl
  · rintro rfl
    have built' : Engine.build ⟨registry, policy⟩ nodeIds (some state.nodeParams) = .ok chain :=
      built
    simp only [Engine.runFrom, Engine.execute, built']
    refine ⟨rfl, ?_⟩
    change ((chain.run policy state world).outcome.mapError InvocationError.run).map
      Engine.output = ((chain.run policy state world).outcome.map Engine.output).mapError
        InvocationError.run
    cases (chain.run policy state world).outcome <;> rfl

/-- A node that writes and one that fails softly: a run that goes on warns once and tells no
failure, and one that aborts tells a failure and gives no warning. -/
theorem run_events_flaky :
    ∃ chain, Registry.rehearsal.build ["writer", "flaky"] [] = .ok chain ∧
      let state : State := { userQuery := "" }
      let going := chain.run .goOn state default
      let aborting := chain.run .abort state default
      going.events = [
        .runStarted none ["writer", "flaky"],
        .nodeStarted "writer" 0,
        .noticed "writer" 0 (.info "writing"),
        .nodeCompleted "writer" 0 (some (.string "draft")),
        .nodeStarted "flaky" 1,
        .noticed "flaky" 1 (.warning "Continuing after error: quota exceeded"),
        .nodeCompleted "flaky" 1 (some (.string "failed")),
        .runCompleted true] ∧
      aborting.events = [
        .runStarted none ["writer", "flaky"],
        .nodeStarted "writer" 0,
        .noticed "writer" 0 (.info "writing"),
        .nodeCompleted "writer" 0 (some (.string "draft")),
        .nodeStarted "flaky" 1,
        .nodeFailed "flaky" 1 "quota exceeded",
        .runCompleted false] ∧
      (∃ blocks : List Block,
        going.events = .runStarted none ["writer", "flaky"]
          :: blocks.flatMap Block.events ++ [.runCompleted true] ∧
        Tells blocks ["writer", "flaky"] (course chain.steps state default) going.outcome) ∧
      (∃ blocks : List Block,
        aborting.events = .runStarted none ["writer", "flaky"]
          :: blocks.flatMap Block.events ++ [.runCompleted false] ∧
        Tells blocks ["writer", "flaky"] (course chain.steps state default) aborting.outcome) ∧
      going.events.countP Event.isFailure = 0 ∧ aborting.events.countP Event.isFailure = 1 := by
  have built : Registry.rehearsal.build ["writer", "flaky"] [] =
      .ok ⟨Registry.rehearsal.stepsFrom [] 0 ["writer", "flaky"]⟩ := rfl
  obtain ⟨blocks, told, tells, never, _⟩ := run_events built .goOn { userQuery := "" } default
  obtain ⟨blocks', told', tells', once, _⟩ := run_events built .abort { userQuery := "" } default
  exact ⟨_, built, rfl, rfl, ⟨blocks, told, tells⟩, ⟨blocks', told', tells'⟩, never, once⟩

end Chain

end Workflow
