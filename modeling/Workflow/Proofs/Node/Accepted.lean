import Workflow.Engine
import Workflow.Proofs.Chain.Outcome
import Workflow.Proofs.Chain.Registration
import Workflow.Proofs.Database.Settled
import Workflow.Proofs.Node.Standard

/-!
# Runs of accepted parameters

Parameters that a chain was built with are good for its run: what is wrong with a parameter comes
out before any node has acted. Only a document database can blame a parameter later, and does so in
some scene exactly if what it reads late cannot be read.

## Main definitions

* `InvocationError.failure?` — the failure of a node that an error tells of.
* `standard_sparesParams_iff` — which accepted parameters a run may still blame, and what follows
  for invocations.
-/

namespace Workflow

open Workflow.Action

/-- The failure of a node that an error tells of, if it does. -/
def InvocationError.failure? : InvocationError → Option Failure
  | build (.invalidParams _ _ failure) => some failure
  | run (.nodeFailed _ _ failure) => some failure
  | _ => none

/-- A standard node that has accepted its parameters blames none in its run; a database node has to
be settled for that. -/
theorem sparesParams_of_accepted {place : OutputPlace} {endpoints : Endpoints} {node : Node}
    (member : node ∈ standardNodes place endpoints) {context : Context}
    (accepted : node.check context.params = .ok ())
    (settled : node.id = "database" → Database.IsSettled context.params) :
    SparesParams (node.run context) := by
  cases isStandard_iff.mpr member with
  | openAi => exact OpenAi.sparesParams_run accepted
  | openAiAdvanced => exact OpenAi.sparesParams_runAdvanced accepted
  | gemini => exact Gemini.sparesParams_run _ context
  | geminiAdvanced => exact Gemini.sparesParams_runAdvanced accepted
  | claude => exact Claude.sparesParams_run accepted
  | hashnode => exact Hashnode.sparesParams_run accepted
  | email => exact Email.sparesParams_run accepted
  | webhook => exact Webhook.sparesParams_run context
  | database => exact Database.sparesParams_run accepted (settled rfl)
  | textEditor => exact sparesParams_runTextEditor accepted
  | textFile => exact TextFile.sparesParams_run accepted
  | pdfFile => exact PdfFile.sparesParams_run accepted
  | whatsApp => exact WhatsApp.sparesParams_run accepted
  | slack => exact Slack.sparesParams_run accepted
  | videoSummary => exact VideoSummary.sparesParams_run accepted

/-- A chain of standard nodes whose databases are settled does not stop because of a parameter. -/
theorem sparesParams_of_build {place : OutputPlace} {endpoints : Endpoints} {registry : Registry}
    (standard : standardRegistry place endpoints = .ok registry) {nodeIds : List String}
    {nodeParams : Fields Params} {chain : Chain}
    (built : registry.build nodeIds nodeParams = .ok chain)
    (settled : "database" ∈ nodeIds →
      Database.IsSettled (Registry.boundTo nodeParams "database"))
    {policy : Policy} {state : State} {world : World} {nodeId : String} {position : Nat}
    {failure : Failure}
    (failed : (chain.run policy state world).outcome =
      .error (.nodeFailed nodeId position failure)) :
    failure.blamesParams = false := by
  obtain ⟨step, member, -, -, scene, signalled⟩ := Chain.run_of_nodeFailed failed
  obtain ⟨asked, registered, named, bound, checked⟩ := Registry.step_of_build built member
  have ready : step.node.id = "database" → Database.IsSettled step.context.params := by
    intro isDatabase
    have same : step.nodeId = "database" := named.symm.trans isDatabase
    change Database.IsSettled step.params
    rw [bound, same]
    exact settled (same ▸ asked)
  have spares : SparesParams (step.node.run step.context) :=
    sparesParams_of_accepted (Registry.mem_of_ofNodes standard registered) checked ready
  exact spares scene failure signalled

/-- A standard node that has accepted its parameters blames none in its run, whatever it finds there
and is answered; a database node exactly if its parameters are settled. With settled databases an
invocation blames a parameter only as a bad request, before any node has acted. -/
theorem standard_sparesParams_iff (place : OutputPlace) (endpoints : Endpoints) :
    (∀ node ∈ standardNodes place endpoints, ∀ context : Context,
      node.check context.params = .ok () →
        (SparesParams (node.run context) ↔
          (node.id = "database" → Database.IsSettled context.params))) ∧
    ∀ engine : Engine, standardRegistry place endpoints = .ok engine.registry →
      ∀ nodeIds state world error failure,
        ("database" ∈ nodeIds →
          Database.IsSettled (Registry.boundTo state.nodeParams "database")) →
        (engine.execute nodeIds state world).result = .error error →
        error.failure? = some failure → failure.blamesParams = true →
          error.side = .badRequest ∧ (engine.execute nodeIds state world).world = world ∧
            (engine.execute nodeIds state world).events = [] := by
  refine ⟨fun node member context accepted => ⟨fun spares named => ?_, ?_⟩, ?_⟩
  · cases (isStandard_iff.mpr member).eq_of_id .database named
    exact (Database.sparesParams_run_iff accepted).mp spares
  · exact sparesParams_of_accepted member accepted
  · intro engine standard nodeIds state world error failure settled failed tells blames
    unfold Engine.execute at failed ⊢
    cases built : engine.build nodeIds (some state.nodeParams) with
    | error refusal =>
        simp only [built] at failed
        cases failed
        exact ⟨rfl, rfl, rfl⟩
    | ok chain =>
        -- a chain that was built would have to stop because of a parameter
        exfalso
        simp only [built] at failed
        cases ended : (chain.run engine.policy state world).outcome with
        | ok final =>
            rw [ended] at failed
            cases failed
        | error stop =>
            rw [ended] at failed
            cases failed
            cases stop with
            | softFailure => cases tells
            | nodeFailed nodeId position source =>
                cases tells
                have spares := sparesParams_of_build standard built settled ended
                rw [spares] at blames
                cases blames

/-- A statement is settled, and a model that is no text is a bad request though a statement stands
before it. -/
theorem standard_sparesParams_iff_statement :
    ∃ engine : Engine, standardRegistry {} {} = .ok engine.registry ∧
      let context : Context := ⟨"database", 0, ⟨[("query", .string "SELECT 1")]⟩⟩
      let state : State := { userQuery := "", nodeParams := [
        ("claude", ⟨[("model", .array [])]⟩), ("database", context.params)] }
      let invocation := engine.execute ["database", "claude"] state default
      let error := InvocationError.build
        (.invalidParams "claude" 1 (.invalidParam "model" "expected string"))
      database.check context.params = .ok () ∧ Database.IsSettled context.params ∧
        SparesParams (database.run context) ∧ invocation.result = .error error ∧
        error.side = .badRequest ∧ invocation.world = default ∧ invocation.events = [] := by
  refine ⟨⟨_, .goOn⟩, rfl, ?_⟩
  intro context state invocation error
  obtain ⟨runs, invocations⟩ := standard_sparesParams_iff {} {}
  have member : database ∈ standardNodes {} {} := by simp [standardNodes]
  have settled : Database.IsSettled context.params := by
    intro options read kind
    cases read
    cases kind
  have refused : invocation.result = .error error := rfl
  exact ⟨rfl, settled, (runs database member context rfl).mpr fun _ => settled, refused,
    invocations ⟨_, .goOn⟩ rfl ["database", "claude"] state default error _ (fun _ => settled)
      refused rfl rfl⟩

namespace Database

/-- The name of a database that is a number passes the check and is blamed in the run, and so is a
query that is a marked datum and no document. -/
theorem accepted_then_blamed :
    let misnamed : Params := ⟨[("collection", .string "c"), ("database", .int 5),
      ("db_type", .string "mongodb"), ("query", .string "\x7b\x7d")]⟩
    let marked : Params := ⟨[("collection", .string "c"), ("db_type", .string "mongodb"),
      ("query", .string "\x7b\"$symbol\": \"x\"\x7d")]⟩
    database.check misnamed = .ok () ∧
      (database.run ⟨"database", 0, misnamed⟩ (scene bareUri)).1 =
        .error (.invalidParam "database" "expected string") ∧
      database.check marked = .ok () ∧
      (database.run ⟨"database", 0, marked⟩ (scene fullCredential)).1 =
        .error (.invalidParam "query"
          "Could not be serialized to Document, got Symbol instead") := by
  intro misnamed marked
  have readMisnamed : DatabaseOptions.ofParams misnamed =
      .ok ⟨.mongodb, .select, "\x7b\x7d", [], some "c"⟩ := by
    unfold DatabaseOptions.ofParams
    rw [kindOf_mongodb rfl]
    rfl
  have readMarked : DatabaseOptions.ofParams marked =
      .ok ⟨.mongodb, .select, "\x7b\"$symbol\": \"x\"\x7d", [], some "c"⟩ := by
    unfold DatabaseOptions.ofParams
    rw [kindOf_mongodb rfl]
    rfl
  have parses : DocumentQuery.parse .select "\x7b\"$symbol\": \"x\"\x7d" =
      .ok (.find (.object [("$symbol", .string "x")])) := rfl
  refine ⟨?_, run_of_string_eq_error readMisnamed rfl rfl, ?_,
    run_of_operation_eq_error readMarked rfl parses rfl⟩
  · exact map_eq_ok_iff.mpr ⟨_, readMisnamed, rfl⟩
  · exact map_eq_ok_iff.mpr ⟨_, readMarked, rfl⟩

end Database

end Workflow
