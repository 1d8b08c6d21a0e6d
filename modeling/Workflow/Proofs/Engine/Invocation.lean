import Workflow.Proofs.Chain.Lockstep
import Workflow.Proofs.Chain.Trace

/-!
# What an invocation gives

An invocation either comes to nothing, because no chain can be built, or it is the run of the chain.
Which of the two it is can be told from what it gives: an error of building comes from nowhere else,
and an error of the run names a step of the request.

## Main definitions

* `Engine.runFrom_of_built`, `Engine.runFrom_of_refused` — the two cases.
* `Engine.runFrom_eq_build_iff` — an error of building is given exactly if building fails.
* `Engine.place_of_run` — where an error of the run is.
* `Engine.execute_alike_of_builds` — two invocations whose chains cannot be told apart.
-/

namespace Workflow

/-- Two invocations give results that are related or one error, one world and the same events. -/
structure Invocation.Alike {α : Type} (R : α → α → Prop) (first second : Invocation α) : Prop where
  result : SameOutcome R first.result second.result
  world : first.world = second.world
  events : first.events = second.events

namespace Engine

variable {engine : Engine} {nodeIds : List String} {state : State} {chain : Chain}
  {error : BuildError}

theorem execute_of_built (built : engine.build nodeIds (some state.nodeParams) = .ok chain)
    (world : World) :
    let progress := chain.run engine.policy state world
    engine.execute nodeIds state world =
      ⟨progress.outcome.mapError .run, progress.world, progress.events⟩ := by
  simp [execute, built]

theorem execute_of_refused (refused : engine.build nodeIds (some state.nodeParams) = .error error)
    (world : World) :
    engine.execute nodeIds state world = ⟨.error (.build error), world, []⟩ := by
  simp [execute, refused]

theorem runFrom_of_built (built : engine.build nodeIds (some state.nodeParams) = .ok chain)
    (world : World) :
    let progress := chain.run engine.policy state world
    engine.runFrom nodeIds state world =
      ⟨(progress.outcome.map output).mapError .run, progress.world, progress.events⟩ := by
  simp only [runFrom, execute_of_built built, map_mapError]

theorem runFrom_of_refused (refused : engine.build nodeIds (some state.nodeParams) = .error error)
    (world : World) :
    engine.runFrom nodeIds state world = ⟨.error (.build error), world, []⟩ := by
  simp only [runFrom, execute_of_refused refused]
  rfl

/-- An invocation gives an error of building exactly if building fails, and it gives that error. -/
theorem runFrom_eq_build_iff {world : World} :
    (engine.runFrom nodeIds state world).result = .error (.build error) ↔
      engine.build nodeIds (some state.nodeParams) = .error error := by
  cases built : engine.build nodeIds (some state.nodeParams) with
  | error other => simp [runFrom_of_refused built]
  | ok chain =>
      rw [runFrom_of_built built]
      simp [mapError_eq_error_iff]

/-- An error of the run names a position of the request and the identifier that stands there. -/
theorem place_of_run {world : World} {failure : RunError}
    (failed : (engine.runFrom nodeIds state world).result = .error (.run failure)) :
    nodeIds[failure.position]? = some failure.nodeId := by
  cases built : engine.build nodeIds (some state.nodeParams) with
  | error other => simp [runFrom_of_refused built] at failed
  | ok chain =>
      have tells := Chain.tells_blocks built engine.policy state world
      rw [runFrom_of_built built, Chain.run_eq] at failed
      obtain ⟨stop, ended, same⟩ := mapError_eq_error_iff.mp failed
      cases same
      have ends : Chain.ending engine.policy state (chain.turns engine.policy state world) =
          .error failure := map_eq_error_iff.mp ended
      obtain ⟨last, found, concludes⟩ := tells.ends
      rw [ends] at concludes
      obtain ⟨named, placed, _⟩ := concludes
      rw [List.getLast?_eq_getElem?] at found
      obtain ⟨here, position⟩ := tells.placed _ _ found
      rw [← named, ← placed, position]
      exact here

/-! ## Two invocations -/

/-- If for two states both chains are refused, or both are built and cannot be told apart, then
neither can the invocations. -/
theorem execute_alike_of_builds {R : State → State → Prop} (faithful : Faithful R)
    {first second : State} (related : R first second)
    (builds : SameOutcome (Chain.Alike R) (engine.build nodeIds (some first.nodeParams))
      (engine.build nodeIds (some second.nodeParams)))
    (world : World) :
    (engine.execute nodeIds first world).Alike R (engine.execute nodeIds second world) := by
  generalize built : engine.build nodeIds (some first.nodeParams) = one at builds
  generalize built' : engine.build nodeIds (some second.nodeParams) = other at builds
  cases builds with
  | error error =>
      rw [execute_of_refused built, execute_of_refused built']
      exact ⟨.error _, rfl, rfl⟩
  | ok chains =>
      have alike := Chain.run_alike faithful chains related engine.policy world
      rw [execute_of_built built, execute_of_built built']
      exact ⟨alike.outcome.mapError InvocationError.run, alike.world, alike.events⟩

/-- With all that a run tells of its state, the output is the same. -/
theorem runFrom_eq_of_alike {R : State → State → Prop} (faithful : Faithful R)
    {first second : State} {world : World}
    (alike : (engine.execute nodeIds first world).Alike R (engine.execute nodeIds second world)) :
    engine.runFrom nodeIds first world = engine.runFrom nodeIds second world := by
  have outputs : (engine.execute nodeIds first world).result.map output =
      (engine.execute nodeIds second world).result.map output :=
    alike.result.map_eq fun _ _ related => congrArg (·.getD .null) (faithful.output _ _ related)
  simp only [runFrom, outputs, alike.world, alike.events]

end Engine

end Workflow
