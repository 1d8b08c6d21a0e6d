import Workflow.Database
import Workflow.Proofs.Except
import Workflow.Proofs.Node.Actions

/-!
# How a database node runs

A run reads its options, and then the credential for the kind of database that they name. If that
leads to a database the operation is tried there, and all that is left to do is to put out its
result or to record its failure.

## Main definitions

* `DatabaseOptions.of_ofParams` — what is known of options that were read.
* `Database.conclude options` — how a run ends that has got as far as the database.
* `Database.run_of_leads`, `Database.run_of_not_leads` — what is left of a run with a credential.
-/

namespace Workflow

open Workflow.Action

/-- Options name the kind of database that the parameters name, and the query of a document database
has been checked. -/
theorem DatabaseOptions.of_ofParams {params : Params} {options : DatabaseOptions}
    (read : ofParams params = .ok options) :
    kindOf params = .ok options.kind ∧ (options.kind = .mongodb →
      checkDocumentQuery options.operation options.query options.collection = .ok ()) := by
  unfold ofParams at read
  obtain ⟨kind, named, read⟩ := bind_eq_ok_iff.mp read
  obtain ⟨operation, -, read⟩ := bind_eq_ok_iff.mp read
  obtain ⟨query, -, read⟩ := bind_eq_ok_iff.mp read
  obtain ⟨parameters, -, read⟩ := bind_eq_ok_iff.mp read
  obtain ⟨collection, -, read⟩ := bind_eq_ok_iff.mp read
  dsimp only at read
  split at read
  · obtain ⟨_, checked, read⟩ := bind_eq_ok_iff.mp read
    cases read
    exact ⟨named, fun _ => checked⟩
  · rename_i other
    cases read
    exact ⟨named, fun kind => absurd kind other⟩

namespace Database

/-- How a run ends that has got as far as the database. -/
def conclude (options : DatabaseOptions) : Except Failure DatabaseResult → Action Unit
  | .ok result => modifyState fun state =>
      (state.withExtra "db_metadata" (metadata options result)).withOutput result.toValue
  | .error failure => do
      modifyState (·.withError failure.detail)
      fail failure

variable {context : Context} {scene : Scene} {options : DatabaseOptions} {credential : Value}
  (read : DatabaseOptions.ofParams context.params = .ok options)
  (known : scene.state.credentials.get? options.kind.name = some credential)
include read known

/-- A run with a credential gives notice, looks for the database and tries the operation there. -/
theorem run_of_credential : run context scene =
    (do let operation ← operationOn credential context.params options
        conclude options (← operation.attempt) : Action Unit)
      (scene.told ("Running " ++ options.operation.name ++ " on " ++ options.kind.name)) := by
  unfold run
  rw [lift_bind_of_ok read, state_bind_apply]
  simp only [known]
  rw [info_bind_apply]
  refine congrFun (bind_congr fun operation => bind_congr fun outcome => ?_) _
  cases outcome <;> rfl

/-- A credential that leads nowhere fails the run. -/
theorem run_of_not_leads {failure : Failure}
    (fails : operationOn credential context.params options = .error failure) :
    (run context scene).1 = .error failure := by
  rw [run_of_credential read known, lift_bind_of_error fails]
  rfl

/-- With a credential that leads to a database, the outcome of the operation decides. -/
theorem run_of_leads {operation : Action DatabaseResult}
    (leads : operationOn credential context.params options = .ok operation) :
    run context scene = (operation.attempt >>= conclude options)
      (scene.told ("Running " ++ options.operation.name ++ " on " ++ options.kind.name)) := by
  rw [run_of_credential read known, lift_bind_of_ok leads]

end Database

end Workflow
