import Workflow.Engine
import Workflow.Proofs.Chain.Building
import Workflow.Proofs.Chain.Course

/-!
# Invocations follow the course

An invocation of accepted identifiers runs the course of their steps up to the first turn that
stops it. What it gives is fixed by that turn, or by the last one if none stops, and no node behind
it is asked to act.

## Main definitions

* `Event.starts` — the steps that events say have started.
* `Engine.execute_of_accepted` — an invocation in terms of the executed turns.
* `Engine.execute_eq_course` — what an invocation gives, by the first turn that stops.
-/

namespace Workflow

namespace Event

/-- The step that an event says has started. -/
def started? : Event → Option (String × Nat)
  | nodeStarted nodeId position => some (nodeId, position)
  | _ => none

/-- The steps that events say have started, in order. -/
def starts (events : List Event) : List (String × Nat) := events.filterMap started?

@[simp] theorem starts_nil : starts [] = [] := rfl

@[simp] theorem starts_cons (event : Event) (events : List Event) :
    starts (event :: events) = event.started?.toList ++ starts events := by
  cases h : event.started? <;> simp [starts, h]

@[simp] theorem starts_append (first second : List Event) :
    starts (first ++ second) = starts first ++ starts second := List.filterMap_append

/-- A block is about one step. -/
@[simp] theorem starts_block (block : Block) :
    starts block.events = [(block.nodeId, block.position)] := by
  have opened : starts block.opening = [(block.nodeId, block.position)] := by
    simp [Block.opening, starts, started?]
  have warned : starts block.warnings = [] := by simp [Block.warnings, starts, started?]
  have closed : starts [block.closingEvent] = [] := by
    cases h : block.closing <;> simp [starts, started?, Block.closingEvent, h]
  simp only [Block.events, Block.verdict, starts_append, opened, warned, closed, List.append_nil]

theorem starts_turns (policy : Policy) (turns : List Turn) :
    starts (turns.flatMap fun turn => (turn.block policy).events) =
      turns.map fun turn => (turn.step.nodeId, turn.step.position) := by
  induction turns with
  | nil => rfl
  | cons turn rest ih => simp [ih]

end Event

namespace Engine
open Chain

variable {engine : Engine} {nodeIds : List String} {state : State}

/-- The course of the steps for identifiers, with the parameters that a state keeps for them. -/
def course (engine : Engine) (nodeIds : List String) (state : State) (world : World) : List Turn :=
  Chain.course (engine.registry.stepsFrom state.nodeParams 0 nodeIds) state world

/-- Every turn is of the node registered under its identifier, with the parameters kept for it. -/
theorem bound_of_mem_course {world : World} {turn : Turn}
    (member : turn ∈ engine.course nodeIds state world) :
    engine.registry.lookup turn.step.nodeId = some turn.step.node ∧
      turn.step.params = state.paramsFor turn.step.nodeId := by
  have h : turn.step ∈ (engine.course nodeIds state world).map Turn.step :=
    List.mem_map_of_mem member
  rw [course, map_step_course] at h
  exact Registry.bound_of_mem_stepsFrom h

/-- An invocation of accepted identifiers in terms of the executed turns. -/
theorem execute_of_accepted (nonempty : nodeIds ≠ [])
    (accepted : ∀ nodeId ∈ nodeIds, engine.registry.Accepts state.nodeParams nodeId)
    (world : World) :
    let turns := executed engine.policy (engine.course nodeIds state world)
    let outcome := ending engine.policy state turns
    engine.execute nodeIds state world =
      ⟨outcome.mapError .run, worldAfter world turns,
       .runStarted state.workflowId nodeIds
         :: turns.flatMap (fun turn => (turn.block engine.policy).events)
         ++ [.runCompleted outcome.isOk]⟩ := by
  let chain : Chain := ⟨engine.registry.stepsFrom state.nodeParams 0 nodeIds⟩
  have built : engine.build nodeIds (some state.nodeParams) = .ok chain :=
    Registry.build_eq_ok_iff.mpr ⟨nonempty, accepted, rfl⟩
  simp only [execute, built, run_eq, Registry.nodeIds_of_build built]
  rfl

section
variable (nonempty : nodeIds ≠ [])
  (accepted : ∀ nodeId ∈ nodeIds, engine.registry.Accepts state.nodeParams nodeId)
include nonempty accepted

theorem starts_execute (world : World) :
    Event.starts (engine.execute nodeIds state world).events =
      (executed engine.policy (engine.course nodeIds state world)).map
        fun turn => (turn.step.nodeId, turn.step.position) := by
  rw [execute_of_accepted nonempty accepted world]
  simp [Event.starts_turns, Event.started?]

/-- If no turn stops it, an invocation gives what the last turn leaves. -/
theorem execute_of_goes {world : World}
    (goes : ∀ turn ∈ engine.course nodeIds state world, turn.stop? engine.policy = none) :
    ∃ last, (engine.course nodeIds state world).getLast? = some last ∧
      (engine.execute nodeIds state world).result = .ok last.after.state ∧
      (engine.execute nodeIds state world).world = last.after.world ∧
      Event.starts (engine.execute nodeIds state world).events = nodeIds.zipIdx := by
  have nonempty' : engine.course nodeIds state world ≠ [] := by
    intro h
    have := map_course accepted state world
    rw [← course, h, List.map_nil, eq_comm, List.zipIdx_eq_nil_iff] at this
    exact nonempty this
  obtain ⟨last, found⟩ := Option.isSome_iff_exists.mp (List.getLast?_isSome.mpr nonempty')
  have all := executed_of_goes goes
  have last_goes := goes last (List.mem_of_getLast? found)
  refine ⟨last, found, ?_, ?_, ?_⟩
  · have ends : ending engine.policy state (engine.course nodeIds state world) =
        .ok last.after.state := by
      simp [ending_of_getLast? found, last_goes]
    rw [execute_of_accepted nonempty accepted, all]
    exact congrArg (Except.mapError InvocationError.run) ends
  · simp [execute_of_accepted nonempty accepted, all, worldAfter_of_getLast? found]
  · rw [starts_execute nonempty accepted, all, course, map_course accepted]

/-- The first turn that stops an invocation fixes its error, and nothing behind it has started. -/
theorem execute_of_stop {world : World} {k : Nat} {error : RunError}
    (hk : k < (engine.course nodeIds state world).length)
    (stop : (engine.course nodeIds state world)[k].stop? engine.policy = some error)
    (goes : ∀ i (hi : i < k),
      (engine.course nodeIds state world)[i].stop? engine.policy = none) :
    (engine.execute nodeIds state world).result = .error (.run error) ∧
      (engine.execute nodeIds state world).world =
        (engine.course nodeIds state world)[k].after.world ∧
      Event.starts (engine.execute nodeIds state world).events = nodeIds.zipIdx.take (k + 1) := by
  have part := executed_of_stop hk (by simp [stop]) goes
  have found : ((engine.course nodeIds state world).take (k + 1)).getLast? =
      some (engine.course nodeIds state world)[k] := by
    simp [List.getLast?_take, hk]
  refine ⟨?_, ?_, ?_⟩
  · have ends : ending engine.policy state ((engine.course nodeIds state world).take (k + 1)) =
        .error error := by
      simp [ending_of_getLast? found, stop]
    rw [execute_of_accepted nonempty accepted, part]
    exact congrArg (Except.mapError InvocationError.run) ends
  · simp [execute_of_accepted nonempty accepted, part, worldAfter_of_getLast? found]
  · rw [starts_execute nonempty accepted, part, List.map_take, course, map_course accepted]

end

/-- An invocation of accepted identifiers follows the course of their steps: to its end if no turn
stops it, and else up to the first turn that does. The error names that turn, and exactly the steps
up to it have started and have left their mark on the world. -/
theorem execute_eq_course (nonempty : nodeIds ≠ [])
    (accepted : ∀ nodeId ∈ nodeIds, engine.registry.Accepts state.nodeParams nodeId)
    (world : World) :
    let turns := engine.course nodeIds state world
    let invocation := engine.execute nodeIds state world
    let answer := engine.runFrom nodeIds state world
    (turns.map (fun turn => (turn.step.nodeId, turn.step.position)) = nodeIds.zipIdx ∧
      ∀ turn ∈ turns, engine.registry.lookup turn.step.nodeId = some turn.step.node ∧
        turn.step.params = state.paramsFor turn.step.nodeId) ∧
    ((∀ turn ∈ turns, ¬ turn.Stops engine.policy) →
      ∃ last, turns.getLast? = some last ∧
        invocation.result = .ok last.after.state ∧
        answer.result = .ok (last.after.state.output.getD .null) ∧
        invocation.world = last.after.world ∧
        Event.starts invocation.events = nodeIds.zipIdx) ∧
    ∀ k (hk : k < turns.length), turns[k].Stops engine.policy →
      (∀ i (hi : i < k), ¬ turns[i].Stops engine.policy) →
      ∃ nodeId error, nodeIds[k]? = some nodeId ∧
        invocation.result = .error (.run error) ∧
        answer.result = .error (.run error) ∧
        (∀ failure, turns[k].result = .error failure → error = .nodeFailed nodeId k failure) ∧
        (turns[k].result = .ok () → ∃ reason, turns[k].after.state.error = some reason ∧
          error = .softFailure nodeId k reason) ∧
        invocation.world = turns[k].after.world ∧
        Event.starts invocation.events = nodeIds.zipIdx.take (k + 1) := by
  intro turns invocation answer
  have named : turns.map (fun turn => (turn.step.nodeId, turn.step.position)) = nodeIds.zipIdx :=
    map_course accepted state world
  refine ⟨⟨named, fun turn member => bound_of_mem_course member⟩, ?_, ?_⟩
  · intro goes
    obtain ⟨last, found, result, left, starts⟩ := execute_of_goes nonempty accepted
      fun turn member => Turn.not_stops_iff.mp (goes turn member)
    refine ⟨last, found, result, ?_, left, starts⟩
    simp only [answer, runFrom, result, Except.map, output]
  · intro k hk stops goes
    obtain ⟨error, stop⟩ := Turn.stops_iff.mp stops
    obtain ⟨result, left, starts⟩ := execute_of_stop nonempty accepted hk stop
      fun i hi => Turn.not_stops_iff.mp (goes i hi)
    have placed := place_of_getElem? named (List.getElem?_eq_getElem hk)
    refine ⟨turns[k].step.nodeId, error, placed.1, result, ?_, ?_, ?_, left, starts⟩
    · simp only [answer, runFrom, result, Except.map]
    · intro failure failed
      rcases Turn.stop?_eq_some_iff.mp stop with ⟨other, same, rfl⟩ | ⟨_, ok, _⟩
      · rw [show turns[k].result = .error other from same] at failed
        cases failed
        exact congrArg (RunError.nodeFailed _ · _) placed.2
      · rw [show turns[k].result = .ok () from ok] at failed
        cases failed
    · intro ok
      rcases Turn.stop?_eq_some_iff.mp stop with ⟨other, same, _⟩ | ⟨_, _, reason, recorded, _, rfl⟩
      · rw [show turns[k].result = .error other from same] at ok
        cases ok
      · exact ⟨reason, recorded, congrArg (RunError.softFailure _ · _) placed.2⟩

/-- Of a node that writes and two that fail softly, a run that aborts starts the first two. -/
theorem execute_eq_course_flaky :
    let engine : Engine := ⟨Registry.rehearsal, .abort⟩
    let nodeIds := ["writer", "flaky", "flaky"]
    let state : State := { userQuery := "" }
    nodeIds ≠ [] ∧
      (∀ nodeId ∈ nodeIds, engine.registry.Accepts state.nodeParams nodeId) ∧
      (engine.execute nodeIds state default).result =
        .error (.run (.softFailure "flaky" 1 "quota exceeded")) ∧
      Event.starts (engine.execute nodeIds state default).events =
        [("writer", 0), ("flaky", 1)] := by
  intro engine nodeIds state
  have nonempty : nodeIds ≠ [] := by decide
  have accepted : ∀ nodeId ∈ nodeIds, engine.registry.Accepts state.nodeParams nodeId := by
    intro nodeId member
    exact Registry.accepts_rehearsal (by simpa [nodeIds] using member) _
  have stops : ((engine.course nodeIds state default).get ⟨1, by decide⟩).Stops engine.policy :=
    .inr ⟨rfl, rfl, by decide, by decide⟩
  obtain ⟨nodeId, error, named, result, _, _, soft, _, starts⟩ :=
    (execute_eq_course nonempty accepted default).2.2 1 (by decide) stops fun i hi => by
      obtain rfl : i = 0 := by omega
      exact Turn.not_stops_iff.mpr rfl
  obtain ⟨reason, recorded, rfl⟩ := soft rfl
  cases named
  cases recorded
  exact ⟨nonempty, accepted, result, starts⟩

end Engine

end Workflow
