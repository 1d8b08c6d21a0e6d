import Workflow.Proofs.Chain.Reference
import Workflow.Proofs.Engine.Invocation

/-!
# Runs that abort at recorded errors

A soft failure is an error that has changed, not one that is there. A run that starts without an
error and aborts at soft failures makes no difference between the two: no step is left with an error
on record and passed by, so every node finds none when it starts, and any error it leaves is new.

## Main definitions

* `Turn.stop?_abort_eq_none_iff` — what lets a run that aborts go on.
* `Chain.clean_of_executed` — every node of such a run starts without an error.
* `Engine.runFrom_abort` — when such a run succeeds, and how it ends otherwise.
-/

namespace Workflow

namespace Turn

/-- A turn that starts without an error lets a run that aborts go on exactly if its node returns
normally and leaves no error. -/
theorem stop?_abort_eq_none_iff {turn : Turn} (clean : turn.before.error = none) :
    turn.stop? .abort = none ↔ turn.result = .ok () ∧ turn.after.state.error = none := by
  cases result : turn.result with
  | error failure => simp [stop?, result]
  | ok _ =>
      simp only [stop?, result, Option.map_eq_none_iff, freshError, clean, true_and]
      by_cases recorded : turn.after.state.error = none <;> simp [recorded]

/-- An error that a turn leaves and did not find stops a run that aborts. -/
theorem stop?_abort_of_recorded {turn : Turn} {reason : String} (clean : turn.before.error = none)
    (ok : turn.result = .ok ()) (recorded : turn.after.state.error = some reason) :
    turn.stop? .abort = some (.softFailure turn.step.nodeId turn.step.position reason) :=
  stop?_eq_some_iff.mpr (.inr ⟨rfl, ok, reason, recorded, by simp [clean], rfl⟩)

end Turn

namespace Chain

/-- In a run that aborts and starts without an error, so does every node. -/
theorem clean_of_executed {steps : List Step} {state : State} (clean : state.error = none)
    (world : World) :
    ∀ turn ∈ executed .abort (course steps state world), turn.before.error = none := by
  induction steps generalizing state world with
  | nil => simp [course, executed]
  | cons step rest ih =>
      intro turn member
      simp only [course, executed] at member
      split at member
      · rw [List.mem_singleton] at member
        rw [member]
        exact clean
      · rename_i goes
        rcases List.mem_cons.mp member with rfl | member
        · exact clean
        · have goes : (step.turn state world).stop? .abort = none := by simpa using goes
          exact ih ((Turn.stop?_abort_eq_none_iff clean).mp goes).2 _ turn member

/-- A run succeeds exactly if no executed turn stops it. -/
theorem isOk_ending_iff {policy : Policy} {state : State} {turns : List Turn} :
    (ending policy state (executed policy turns)).isOk = true ↔
      ∀ turn ∈ executed policy turns, turn.stop? policy = none := by
  induction turns generalizing state with
  | nil => simp [executed, ending, Except.isOk, Except.toBool]
  | cons turn rest ih =>
      cases stop : turn.stop? policy with
      | some error => simp [executed, ending, stop, Except.isOk, Except.toBool]
      | none => simp [executed, stop, ending_cons stop, ih]

/-- A run that succeeds has executed the whole course. -/
theorem executed_of_isOk {policy : Policy} {state : State} {turns : List Turn}
    (ok : (ending policy state (executed policy turns)).isOk = true) :
    executed policy turns = turns := by
  have goes := isOk_ending_iff.mp ok
  cases found : (executed policy turns).getLast? with
  | some last => exact executed_eq_of_last_goes found (goes last (List.mem_of_getLast? found))
  | none =>
      have empty := List.getLast?_eq_none_iff.mp found
      by_cases h : turns = []
      · rw [empty, h]
      · exact absurd empty (executed_ne_nil policy h)

/-- A run that aborts and starts without an error succeeds exactly if every node that acts returns
normally and leaves no error. -/
theorem isOk_abort_iff {steps : List Step} {state : State} (clean : state.error = none)
    (world : World) :
    (ending .abort state (executed .abort (course steps state world))).isOk = true ↔
      ∀ turn ∈ executed .abort (course steps state world),
        turn.result = .ok () ∧ turn.after.state.error = none := by
  rw [isOk_ending_iff]
  exact forall₂_congr fun turn member =>
    Turn.stop?_abort_eq_none_iff (clean_of_executed clean world turn member)

/-- What such a run leaves has no error. -/
theorem error_of_ending_abort {steps : List Step} {state : State} (clean : state.error = none)
    {world : World} {final : State}
    (ends : ending .abort state (executed .abort (course steps state world)) = .ok final) :
    final.error = none := by
  cases found : (executed .abort (course steps state world)).getLast? with
  | none =>
      simp only [ending, found, Except.ok.injEq] at ends
      rw [← ends, clean]
  | some last =>
      have started := clean_of_executed clean world last (List.mem_of_getLast? found)
      rw [ending_of_getLast? found] at ends
      cases stop : last.stop? .abort with
      | some error => simp [stop] at ends
      | none =>
          simp only [stop, Except.ok.injEq] at ends
          rw [← ends]
          exact ((Turn.stop?_abort_eq_none_iff started).mp stop).2

end Chain

/-- A node that records a failure, takes it back and records it again, and a node beside it. -/
def Registry.wavering : Registry where
  nodes := [
    Scripted.node "waver" [.setError "busy", .clearError, .setError "busy"] none {},
    Scripted.node "writer" [.setOutput (.string "draft")] none {}]
  ascending := by decide

namespace Engine
open Chain

/-- A run that aborts at soft failures and starts without an error, as requests and plain runs of
nodes do. Every node that acts finds no error. The run succeeds exactly if every one of them returns
normally and leaves none; then all nodes have acted, and the final state has no error. A node that
returns normally with an error on record is the last to act, and the run ends with a soft failure
that names both. -/
theorem runFrom_abort {registry : Registry} {nodeIds : List String} {state : State} {chain : Chain}
    (built : registry.build nodeIds state.nodeParams = .ok chain) (clean : state.error = none)
    (world : World) :
    let engine : Engine := ⟨registry, .abort⟩
    let turns := chain.turns .abort state world
    let invocation := engine.execute nodeIds state world
    let answer := engine.runFrom nodeIds state world
    Event.starts answer.events = turns.map (fun turn => (turn.step.nodeId, turn.step.position)) ∧
    (∀ turn ∈ turns, turn.before.error = none) ∧
    (answer.result.isOk = true ↔
      ∀ turn ∈ turns, turn.result = .ok () ∧ turn.after.state.error = none) ∧
    (answer.result.isOk = true → turns = Chain.course chain.steps state world) ∧
    (∀ final, invocation.result = .ok final → final.error = none) ∧
    (∀ turn ∈ turns, ∀ reason, turn.result = .ok () → turn.after.state.error = some reason →
      turns.getLast? = some turn ∧
        answer.result =
          .error (.run (.softFailure turn.step.nodeId turn.step.position reason))) ∧
    ∀ request : Request, request.nodeIds = nodeIds → request.initialState = state →
      engine.run request world = answer := by
  intro engine turns invocation answer
  have cleans : ∀ turn ∈ turns, turn.before.error = none :=
    clean_of_executed clean world
  have built : engine.build nodeIds (some state.nodeParams) = .ok chain := built
  have gives : invocation.result = (ending .abort state turns).mapError .run := by
    simp only [invocation, execute_of_built built, run_eq]
    rfl
  have answers : answer.result = ((ending .abort state turns).map output).mapError .run := by
    simp only [answer, runFrom_of_built built, run_eq]
    rfl
  have succeeds : answer.result.isOk = (ending .abort state turns).isOk := by
    rw [answers]
    cases ending .abort state turns <;> rfl
  refine ⟨?_, cleans, ?_, ?_, ?_, ?_, ?_⟩
  · simp only [answer, runFrom_of_built built, run_eq]
    simp [turns, engine, Event.starts_turns, Event.started?]
  · rw [succeeds]
    exact isOk_abort_iff clean world
  · rw [succeeds]
    exact executed_of_isOk
  · intro final ends
    rw [gives, mapError_eq_ok_iff] at ends
    exact error_of_ending_abort clean ends
  · intro turn member reason ok recorded
    have stop := Turn.stop?_abort_of_recorded (cleans turn member) ok recorded
    obtain ⟨i, found⟩ := List.mem_iff_getElem?.mp member
    refine ⟨(getLast?_of_stop? found stop).2, ?_⟩
    rw [answers]
    exact congrArg (fun outcome : Except RunError State =>
      (outcome.map output).mapError InvocationError.run) (ending_of_stop? found stop state).2
  · rintro request rfl rfl
    rfl

/-- A text that is recorded, taken back and recorded again stops the run: what counts is what the
node leaves. -/
theorem runFrom_abort_wavering :
    let engine : Engine := ⟨.wavering, .abort⟩
    let request : Request := { nodeIds := ["writer", "waver", "writer"], userQuery := "" }
    let state := request.initialState
    state.error = none ∧
      (∃ chain, Registry.wavering.build request.nodeIds state.nodeParams = .ok chain) ∧
      (engine.run request default).result = .error (.run (.softFailure "waver" 1 "busy")) ∧
      Event.starts (engine.run request default).events = [("writer", 0), ("waver", 1)] := by
  intro engine request state
  have built : Registry.wavering.build request.nodeIds state.nodeParams =
      .ok ⟨Registry.wavering.stepsFrom [] 0 request.nodeIds⟩ := rfl
  obtain ⟨starts, _, _, _, _, stops, asked⟩ := runFrom_abort built rfl default
  obtain ⟨_, ends⟩ := stops _ (List.mem_of_getElem? (i := 1) rfl) "busy" rfl rfl
  rw [asked request rfl rfl]
  exact ⟨rfl, ⟨_, built⟩, ends, starts⟩

end Engine

end Workflow
