import Workflow.Chain.Run
import Workflow.Proofs.Chain.Building

/-!
# The course of a run

The course of steps is the reference for every run: each node acts on what the one before it left,
whatever it signalled. It knows no policy and never stops. A run of the same steps is the part of
the course up to the first turn that stops it, and its events are a block for each of these turns.

## Main definitions

* `Turn` — a step with what its node found and what it left.
* `Chain.course` — the turns of steps in order.
* `Turn.Stops`, `Turn.stop?` — whether and how a turn ends a run.
* `Block`, `Turn.block` — the events of a turn.
* `Chain.executed` — the turns up to the first that stops a run.
* `Chain.runSteps_eq` — a run is the executed part of the course.
-/

namespace Workflow

/-- A step with what its node found and what it left. -/
structure Turn where
  step : Step
  /-- The state that the node found. -/
  before : State
  result : Except Failure Unit
  /-- What the node left, with its notices. -/
  after : Scene

/-- The turn of a step: its node acts once, on a state and a world, with no notices yet. It is told
its identifier, its position and the parameters bound to it. -/
def Step.turn (step : Step) (state : State) (world : World) : Turn :=
  let context : Context :=
    { nodeId := step.nodeId, position := step.position, params := step.params }
  let (result, after) := step.node.run context ⟨state, world, []⟩
  ⟨step, state, result, after⟩

/-- How the block of a step closes. -/
inductive Closing where
  | completed (output : Option Value)
  | failed (text : String)

/-- The events of one step. -/
structure Block where
  nodeId : String
  position : Nat
  /-- The node's own notices. -/
  notices : List Notice
  /-- The error after which the run goes on, with a warning of its own. -/
  warning : Option String
  closing : Closing

namespace Block

def closingEvent (block : Block) : Event :=
  match block.closing with
  | .completed output => .nodeCompleted block.nodeId block.position output
  | .failed text => .nodeFailed block.nodeId block.position text

/-- The warning of the run, if it gives one. -/
def warnings (block : Block) : List Event :=
  block.warning.toList.map fun reason =>
    .noticed block.nodeId block.position (.warning ("Continuing after error: " ++ reason))

/-- The events up to the end of the node's work. -/
def opening (block : Block) : List Event :=
  .nodeStarted block.nodeId block.position
    :: block.notices.map (.noticed block.nodeId block.position)

/-- What the run adds to them: its warning, if it gives one, and one event that closes the step. -/
def verdict (block : Block) : List Event := block.warnings ++ [block.closingEvent]

/-- The events in order. -/
def events (block : Block) : List Event := block.opening ++ block.verdict

variable {block : Block} {reason : String}

theorem warning_mem_verdict_iff :
    .noticed block.nodeId block.position (.warning ("Continuing after error: " ++ reason))
        ∈ block.verdict ↔ block.warning = some reason := by
  have closes : ∀ notice : Notice,
      .noticed block.nodeId block.position notice ≠ block.closingEvent := by
    intro notice
    unfold closingEvent
    split <;> simp
  cases warned : block.warning <;> simp [verdict, warnings, closes, warned, eq_comm]

/-- A run warns of a step for one reason and does no more but to close it, or it gives no such
warning. -/
theorem verdict_eq_warned_iff :
    block.verdict =
        [.noticed block.nodeId block.position (.warning ("Continuing after error: " ++ reason)),
          block.closingEvent] ↔ block.warning = some reason := by
  cases warned : block.warning <;> simp [verdict, warnings, warned]

end Block

/-- What an error that stops a run says of its cause. -/
def RunError.cause : RunError → String
  | .nodeFailed _ _ failure => failure.message
  | .softFailure _ _ reason => reason

namespace Turn

/-- The turn ends a run: its node signals a failure, or it records an error that did not stand
there before and the policy is to stop at that. -/
def Stops (policy : Policy) (turn : Turn) : Prop :=
  (∃ failure, turn.result = .error failure) ∨
    (policy = .abort ∧ turn.result = .ok () ∧
      turn.after.state.error ≠ none ∧ turn.after.state.error ≠ turn.before.error)

/-- The error that a turn ends a run with, if it does. -/
def stop? (policy : Policy) (turn : Turn) : Option RunError :=
  match turn.result, policy with
  | .error failure, _ => some (.nodeFailed turn.step.nodeId turn.step.position failure)
  | .ok (), .goOn => none
  | .ok (), .abort => (freshError turn.before turn.after.state).map
      (.softFailure turn.step.nodeId turn.step.position)

/-- The error of a turn after which a run goes on with a warning. -/
def warning? (policy : Policy) (turn : Turn) : Option String :=
  match turn.result, policy with
  | .ok (), .goOn => freshError turn.before turn.after.state
  | _, _ => none

/-- The events of a turn. -/
def block (policy : Policy) (turn : Turn) : Block where
  nodeId := turn.step.nodeId
  position := turn.step.position
  notices := turn.after.notices
  warning := turn.warning? policy
  closing := match turn.stop? policy with
    | some error => .failed error.cause
    | none => .completed turn.after.state.output

@[simp] theorem block_nodeId (policy : Policy) (turn : Turn) :
    (turn.block policy).nodeId = turn.step.nodeId := rfl
@[simp] theorem block_position (policy : Policy) (turn : Turn) :
    (turn.block policy).position = turn.step.position := rfl

theorem freshError_eq_some_iff {before after : State} {reason : String} :
    freshError before after = some reason ↔
      after.error = some reason ∧ before.error ≠ some reason := by
  simp only [freshError]
  split
  · rename_i same
    simp [same]
  · rename_i differs
    constructor
    · intro h
      exact ⟨h, fun before => differs (by rw [h, before])⟩
    · exact And.left

/-- The two ways to stop a run. -/
theorem stop?_eq_some_iff {policy : Policy} {turn : Turn} {error : RunError} :
    turn.stop? policy = some error ↔
      (∃ failure, turn.result = .error failure ∧
        error = .nodeFailed turn.step.nodeId turn.step.position failure) ∨
      (policy = .abort ∧ turn.result = .ok () ∧ ∃ reason,
        turn.after.state.error = some reason ∧ turn.before.error ≠ some reason ∧
          error = .softFailure turn.step.nodeId turn.step.position reason) := by
  obtain ⟨step, before, result, after⟩ := turn
  cases result with
  | error failure => simp [stop?, eq_comm]
  | ok _ =>
      cases policy with
      | goOn => simp [stop?]
      | abort =>
          simp only [stop?, Option.map_eq_some_iff, freshError_eq_some_iff, and_assoc]
          simp [eq_comm]

/-- The error of a turn names its step. -/
theorem place_of_stop? {policy : Policy} {turn : Turn} {error : RunError}
    (stop : turn.stop? policy = some error) :
    error.nodeId = turn.step.nodeId ∧ error.position = turn.step.position := by
  rcases stop?_eq_some_iff.mp stop with ⟨_, _, rfl⟩ | ⟨_, _, _, _, _, rfl⟩ <;> exact ⟨rfl, rfl⟩

/-- A turn stops a run exactly if there is an error to stop it with. -/
theorem stops_iff {policy : Policy} {turn : Turn} :
    turn.Stops policy ↔ ∃ error, turn.stop? policy = some error := by
  simp only [Stops, stop?_eq_some_iff]
  constructor
  · rintro (⟨failure, failed⟩ | ⟨aborts, ok, recorded, fresh⟩)
    · exact ⟨_, .inl ⟨failure, failed, rfl⟩⟩
    · obtain ⟨reason, recorded⟩ := Option.ne_none_iff_exists'.mp recorded
      rw [recorded] at fresh
      exact ⟨_, .inr ⟨aborts, ok, reason, recorded, fresh.symm, rfl⟩⟩
  · rintro ⟨_, ⟨failure, failed, rfl⟩ | ⟨aborts, ok, reason, recorded, fresh, rfl⟩⟩
    · exact .inl ⟨failure, failed⟩
    · exact .inr ⟨aborts, ok, by simp [recorded], by rw [recorded]; exact fresh.symm⟩

theorem not_stops_iff {policy : Policy} {turn : Turn} :
    ¬ turn.Stops policy ↔ turn.stop? policy = none := by
  rw [stops_iff]
  cases turn.stop? policy <;> simp

end Turn

/-! ## A single step -/

theorem Step.run_eq (policy : Policy) (step : Step) (state : State) (world : World) :
    let turn := step.turn state world
    step.run policy state world =
      ⟨match turn.stop? policy with
        | some error => .error error
        | none => .ok turn.after.state,
       turn.after.world, (turn.block policy).events⟩ := by
  rcases acts : step.node.run step.context ⟨state, world, []⟩ with ⟨result, after⟩
  have turned : step.turn state world = ⟨step, state, result, after⟩ := by
    rw [Step.context] at acts
    simp [Step.turn, acts]
  simp only [turned, Step.run, acts]
  cases result with
  | error failure =>
      simp [Turn.stop?, Turn.warning?, Turn.block, Block.events, Block.opening, Block.verdict,
        Block.warnings, Block.closingEvent, RunError.cause]
  | ok _ =>
      cases fresh : freshError state after.state <;> cases policy <;>
        simp [Turn.stop?, Turn.warning?, Turn.block, Block.events, Block.opening, Block.verdict,
          Block.warnings, Block.closingEvent, RunError.cause, Step.continuing, fresh]

namespace Chain

/-! ## A run of steps -/

/-- The turns of steps in order, each from what the one before it left. -/
def course : List Step → State → World → List Turn
  | [], _, _ => []
  | step :: rest, state, world =>
    let turn := step.turn state world
    turn :: course rest turn.after.state turn.after.world

/-- The turns up to the first that stops a run, that one included. -/
def executed (policy : Policy) : List Turn → List Turn
  | [] => []
  | turn :: rest => if (turn.stop? policy).isSome then [turn] else turn :: executed policy rest

/-- How a run from a state ends whose executed turns are these. -/
def ending (policy : Policy) (state : State) (turns : List Turn) : Except RunError State :=
  match turns.getLast? with
  | none => .ok state
  | some turn =>
    match turn.stop? policy with
    | some error => .error error
    | none => .ok turn.after.state

/-- The world that turns leave of a world. -/
def worldAfter (world : World) (turns : List Turn) : World :=
  (turns.getLast?.map fun turn => turn.after.world).getD world

theorem ending_cons {policy : Policy} {turn : Turn} (goes : turn.stop? policy = none)
    (state : State) (turns : List Turn) :
    ending policy state (turn :: turns) = ending policy turn.after.state turns := by
  cases turns with
  | nil => simp [ending, goes]
  | cons next rest => simp [ending, List.getLast?_cons]

theorem ending_of_getLast? {turns : List Turn} {last : Turn}
    (found : turns.getLast? = some last) (policy : Policy) (state : State) :
    ending policy state turns =
      match last.stop? policy with
      | some error => .error error
      | none => .ok last.after.state := by
  simp [ending, found]

theorem worldAfter_of_getLast? {turns : List Turn} {last : Turn}
    (found : turns.getLast? = some last) (world : World) :
    worldAfter world turns = last.after.world := by
  simp [worldAfter, found]

theorem worldAfter_cons (world : World) (turn : Turn) (turns : List Turn) :
    worldAfter world (turn :: turns) = worldAfter turn.after.world turns := by
  cases turns with
  | nil => rfl
  | cons next rest => simp [worldAfter, List.getLast?_cons]

/-- A run is the executed part of the course of its steps. -/
theorem runSteps_eq (policy : Policy) (steps : List Step) (state : State) (world : World) :
    let turns := executed policy (course steps state world)
    runSteps policy steps state world =
      ⟨ending policy state turns, worldAfter world turns,
       turns.flatMap fun turn => (turn.block policy).events⟩ := by
  induction steps generalizing state world with
  | nil => rfl
  | cons step rest ih =>
      simp only [course, executed, runSteps, Step.run_eq]
      cases stop : (step.turn state world).stop? policy with
      | some error => simp [ending, worldAfter, stop]
      | none => simp [ih, ending_cons stop, worldAfter_cons]

/-- The executed turns of a chain. -/
def turns (chain : Chain) (policy : Policy) (state : State) (world : World) : List Turn :=
  executed policy (course chain.steps state world)

/-- A run puts a block for every executed turn between its first and its last event. -/
theorem run_eq (chain : Chain) (policy : Policy) (state : State) (world : World) :
    let turns := chain.turns policy state world
    let outcome := ending policy state turns
    chain.run policy state world =
      ⟨outcome, worldAfter world turns,
       .runStarted state.workflowId chain.nodeIds
         :: turns.flatMap (fun turn => (turn.block policy).events)
         ++ [.runCompleted outcome.isOk]⟩ := by
  simp [run, turns, runSteps_eq]

/-! ## The turns of a course -/

@[simp] theorem map_step_course (steps : List Step) (state : State) (world : World) :
    (course steps state world).map Turn.step = steps := by
  induction steps generalizing state world with
  | nil => rfl
  | cons step rest ih => simp [course, ih, Step.turn]

/-- The turns of the steps for accepted identifiers are theirs, in order and numbered. -/
theorem map_course {registry : Registry} {nodeParams : Fields Params} {nodeIds : List String}
    (accepted : ∀ nodeId ∈ nodeIds, registry.Accepts nodeParams nodeId)
    (state : State) (world : World) :
    (course (registry.stepsFrom nodeParams 0 nodeIds) state world).map
      (fun turn => (turn.step.nodeId, turn.step.position)) = nodeIds.zipIdx := by
  calc
    _ = ((course (registry.stepsFrom nodeParams 0 nodeIds) state world).map Turn.step).map
        (fun step => (step.nodeId, step.position)) := by
      rw [List.map_map]
      rfl
    _ = nodeIds.zipIdx := by rw [map_step_course, Registry.map_stepsFrom accepted]

/-- Of turns that are numbered, the one at a place has that place's identifier and number. -/
theorem place_of_getElem? {turns : List Turn} {nodeIds : List String}
    (numbered : turns.map (fun turn => (turn.step.nodeId, turn.step.position)) = nodeIds.zipIdx)
    {k : Nat} {turn : Turn} (found : turns[k]? = some turn) :
    nodeIds[k]? = some turn.step.nodeId ∧ turn.step.position = k := by
  have h := congrArg (·[k]?) numbered
  simp only [List.getElem?_map, found, Option.map_some, List.getElem?_zipIdx] at h
  obtain ⟨nodeId, named, same⟩ := Option.map_eq_some_iff.mp h.symm
  simp only [Prod.mk.injEq] at same
  exact ⟨by rw [named, same.1], by omega⟩

/-! ## The executed part -/

variable {policy : Policy} {turns : List Turn}

theorem executed_prefix (policy : Policy) (turns : List Turn) :
    executed policy turns <+: turns := by
  induction turns with
  | nil => exact List.nil_prefix
  | cons turn rest ih =>
      simp only [executed]
      split
      · exact ⟨rest, rfl⟩
      · exact (List.prefix_cons_inj turn).mpr ih

theorem getElem?_of_executed {i : Nat} {turn : Turn}
    (found : (executed policy turns)[i]? = some turn) : turns[i]? = some turn := by
  obtain ⟨later, whole⟩ := executed_prefix policy turns
  obtain ⟨hi, _⟩ := List.getElem?_eq_some_iff.mp found
  rw [← whole, List.getElem?_append_left hi, found]

theorem executed_ne_nil (policy : Policy) (h : turns ≠ []) : executed policy turns ≠ [] := by
  cases turns with
  | nil => exact absurd rfl h
  | cons turn rest =>
      simp only [executed]
      split <;> simp

/-- Only the last executed turn can stop the run. -/
theorem goes_of_executed {i : Nat} {turn : Turn} (found : (executed policy turns)[i]? = some turn)
    (h : i + 1 < (executed policy turns).length) : turn.stop? policy = none := by
  induction turns generalizing i with
  | nil => simp [executed] at h
  | cons first rest ih =>
      by_cases stops : (first.stop? policy).isSome
      · simp [executed, stops] at h
      · simp only [executed, stops, Bool.false_eq_true, if_false, List.length_cons] at h found
        cases i with
        | zero =>
            simp only [List.getElem?_cons_zero, Option.some.injEq] at found
            simpa [found] using stops
        | succ i => exact ih (by simpa using found) (by omega)

/-- An executed turn that stops is the last one. -/
theorem getLast?_of_stop? {i : Nat} {turn : Turn} {error : RunError}
    (found : (executed policy turns)[i]? = some turn) (stop : turn.stop? policy = some error) :
    i + 1 = (executed policy turns).length ∧ (executed policy turns).getLast? = some turn := by
  obtain ⟨hi, _⟩ := List.getElem?_eq_some_iff.mp found
  have position : i + 1 = (executed policy turns).length := by
    rcases Nat.lt_or_ge (i + 1) (executed policy turns).length with inside | outside
    · rw [goes_of_executed found inside] at stop
      cases stop
    · omega
  exact ⟨position, by rw [List.getLast?_eq_getElem?, ← position, Nat.add_sub_cancel, found]⟩

/-- An executed turn that stops is the last one, and the run ends with its error. -/
theorem ending_of_stop? {i : Nat} {turn : Turn} {error : RunError}
    (found : (executed policy turns)[i]? = some turn) (stop : turn.stop? policy = some error)
    (state : State) :
    i + 1 = (executed policy turns).length ∧
      ending policy state (executed policy turns) = .error error := by
  obtain ⟨position, last⟩ := getLast?_of_stop? found stop
  exact ⟨position, by rw [ending_of_getLast? last, stop]⟩

/-- A run ends with the error of its last executed turn. -/
theorem stop?_of_ending {state : State} {turns : List Turn} {error : RunError}
    (ends : ending policy state turns = .error error) :
    ∃ turn, turns.getLast? = some turn ∧ turn.stop? policy = some error := by
  cases found : turns.getLast? with
  | none => simp [ending, found] at ends
  | some turn =>
      rw [ending_of_getLast? found] at ends
      cases stop : turn.stop? policy with
      | none => simp [stop] at ends
      | some other =>
          simp only [stop, Except.error.injEq] at ends
          exact ⟨turn, rfl, by rw [stop, ends]⟩

/-- A run ends with an error about an executed turn exactly if the turn stops it with that error. -/
theorem stop?_iff_ending {nodeIds : List String}
    (numbered : turns.map (fun turn => (turn.step.nodeId, turn.step.position)) = nodeIds.zipIdx)
    {i : Nat} {turn : Turn} (found : (executed policy turns)[i]? = some turn)
    {error : RunError} (about : error.position = turn.step.position) (state : State) :
    turn.stop? policy = some error ↔
      ending policy state (executed policy turns) = .error error := by
  constructor
  · intro stop
    exact (ending_of_stop? found stop state).2
  · intro ends
    obtain ⟨last, last_found, stop⟩ := stop?_of_ending ends
    rw [List.getLast?_eq_getElem?] at last_found
    have here := (place_of_getElem? numbered (getElem?_of_executed found)).2
    have there := (place_of_getElem? numbered (getElem?_of_executed last_found)).2
    have same : i = (executed policy turns).length - 1 := by
      rw [← here, ← there, ← about, (Turn.place_of_stop? stop).2]
    rw [← same, found, Option.some.injEq] at last_found
    rw [last_found, stop]

/-- A course without a turn that stops is executed to its end. -/
theorem executed_of_goes (goes : ∀ turn ∈ turns, turn.stop? policy = none) :
    executed policy turns = turns := by
  induction turns with
  | nil => rfl
  | cons turn rest ih =>
      have first := goes turn (by simp)
      have later := ih fun other member => goes other (by simp [member])
      simp [executed, first, later]

/-- The first turn that stops is the last to be executed. -/
theorem executed_of_stop {k : Nat} (h : k < turns.length)
    (stops : turns[k].stop? policy ≠ none)
    (goes : ∀ i (hi : i < k), turns[i].stop? policy = none) :
    executed policy turns = turns.take (k + 1) := by
  induction turns generalizing k with
  | nil => simp at h
  | cons turn rest ih =>
      cases k with
      | zero =>
          have stops : (turn.stop? policy).isSome := by
            simpa [Option.isSome_iff_ne_none] using stops
          simp [executed, stops]
      | succ k =>
          have first : turn.stop? policy = none := goes 0 (by omega)
          have later := ih (k := k) (by simpa using h) (by simpa using stops)
            fun i hi => by simpa using goes (i + 1) (by omega)
          simp [executed, first, later]

/-- A run whose last executed turn does not stop has executed the whole course. -/
theorem executed_eq_of_last_goes {last : Turn}
    (found : (executed policy turns).getLast? = some last) (goes : last.stop? policy = none) :
    executed policy turns = turns := by
  induction turns with
  | nil => rfl
  | cons turn rest ih =>
      by_cases stops : (turn.stop? policy).isSome
      · simp only [executed, stops, if_true, List.getLast?_singleton, Option.some.injEq] at found
        rw [found, goes] at stops
        cases stops
      · simp only [executed, stops, Bool.false_eq_true, if_false] at found ⊢
        cases rest with
        | nil => rfl
        | cons next rest =>
            obtain ⟨other, ends⟩ := Option.isSome_iff_exists.mp
              (List.getLast?_isSome.mpr (executed_ne_nil policy (List.cons_ne_nil next rest)))
            rw [List.getLast?_cons, ends, Option.getD_some] at found
            rw [ih (ends.trans found)]

end Chain

end Workflow
