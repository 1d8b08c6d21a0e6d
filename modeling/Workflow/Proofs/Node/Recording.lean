import Workflow.Proofs.Database.Settled

/-!
# Failures on record

Three nodes put a failure on record before they signal it: the two advanced models, each behind a
prefix of its own, and the database. With a credential at hand, all that can still fail is the call
to the outside, so no failure gets past the record. What a database records is the failure itself.
It starts as the complaint of a database does, unless the documents of a query cannot be made: that
is found out as late as the rest, but it is put down to a parameter.

## Main definitions

* `Action.recorded_of_bind_attempt` — work that is attempted and whose failure is recorded.
* `Database.FailsAt` — a run that has got as far as the database fails.
* `Database.MakesDocuments` — the documents of a query can be made.
* `recorded_before_signalled` — what the three nodes leave on record.
-/

namespace Workflow

open Workflow.Action

namespace Action
variable {α : Type}

/-- If all that follows an attempt is to record a failure and signal it, then a failure of the whole
is the failure of the attempt, and it is on record. -/
theorem recorded_of_bind_attempt {work : Action α} {next : Except Failure α → Action Unit}
    {scene : Scene} {failure : Failure} (wording : Failure → String)
    (returns : ∀ a scene, (next (.ok a) scene).1 = .ok ())
    (records : ∀ failure, next (.error failure) = (do
      modifyState (·.withError (wording failure))
      fail failure))
    (failed : ((work.attempt >>= next) scene).1 = .error failure) :
    (work scene).1 = .error failure ∧
      ((work.attempt >>= next) scene).2.state.error = some (wording failure) := by
  rw [attempt_bind_apply] at failed ⊢
  cases outcome : (work scene).1 with
  | ok a =>
      rw [outcome, returns] at failed
      cases failed
  | error other =>
      rw [outcome, records] at failed
      rw [records]
      cases failed
      exact ⟨rfl, rfl⟩

end Action

/-! ## Models -/

theorem OpenAi.recorded_of_fails {base : String} {context : Context} {scene : Scene}
    {options : ChatOptions} {key : String} {failure : Failure}
    (read : ChatOptions.ofParams context.params = .ok options)
    (known : keyFor scene.state.credentials options = .ok key)
    (failed : (runAdvanced base context scene).1 = .error failure) :
    (runAdvanced base context scene).2.state.error =
      some ("OpenAI Error: " ++ failure.message) := by
  let wording (failure : Failure) : String := "OpenAI Error: " ++ failure.message
  change _ = some (wording failure)
  unfold runAdvanced at failed ⊢
  rw [lift_bind_of_ok read, state_bind_apply, lift_bind_of_ok known] at failed ⊢
  generalize Chat.complete base key (options.body scene.state.userQuery) = work at failed ⊢
  by_cases streams : options.stream = true
  · rw [if_pos streams, info_bind_apply] at failed ⊢
    exact (recorded_of_bind_attempt wording (by intros; rfl) (by intros; rfl) failed).2
  · rw [if_neg streams] at failed ⊢
    exact (recorded_of_bind_attempt wording (by intros; rfl) (by intros; rfl) failed).2

theorem Gemini.recorded_of_fails {base key : String} {context : Context} {scene : Scene}
    {options : GeminiOptions} {failure : Failure}
    (read : GeminiOptions.ofParams context.params = .ok options)
    (known : scene.state.credentials.requiredString "gemini" = .ok key)
    (failed : (runAdvanced base context scene).1 = .error failure) :
    (runAdvanced base context scene).2.state.error =
      some ("Gemini API error: " ++ failure.message) := by
  let wording (failure : Failure) : String := "Gemini API error: " ++ failure.message
  change _ = some (wording failure)
  unfold runAdvanced at failed ⊢
  rw [lift_bind_of_ok read, state_bind_apply, lift_bind_of_ok known] at failed ⊢
  generalize generate base options.model key (options.body scene.state.userQuery) = work
    at failed ⊢
  exact (recorded_of_bind_attempt wording (by intros; rfl) (by intros; rfl) failed).2

/-! ## Databases -/

namespace Database
variable {context : Context} {options : DatabaseOptions}

/-- A run that has got as far as the database, with a credential that leads there, fails. -/
def FailsAt (context : Context) (options : DatabaseOptions) (scene : Scene) (failure : Failure) :
    Prop :=
  ∃ credential operation, scene.state.credentials.get? options.kind.name = some credential ∧
    operationOn credential context.params options = .ok operation ∧
    (database.run context scene).1 = .error failure

/-- The documents of a query for a document database can be made. -/
def MakesDocuments (options : DatabaseOptions) : Prop :=
  options.kind = .mongodb → ∀ query,
    DocumentQuery.parse options.operation options.query = .ok query →
      ∃ operation, query.operation = .ok operation

/-- What a run that got as far as the database fails with is what the operation there fails with,
and it is on record. -/
theorem recorded_of_failsAt {scene : Scene} {failure : Failure} {credential : Value}
    {operation : Action DatabaseResult}
    (read : DatabaseOptions.ofParams context.params = .ok options)
    (known : scene.state.credentials.get? options.kind.name = some credential)
    (leads : operationOn credential context.params options = .ok operation)
    (failed : (run context scene).1 = .error failure) :
    (∃ started, (operation started).1 = .error failure) ∧
      (run context scene).2.state.error = some failure.detail := by
  rw [run_of_leads read known leads] at failed ⊢
  obtain ⟨attempted, recorded⟩ :=
    recorded_of_bind_attempt Failure.detail (by intros; rfl) (by intros; rfl) failed
  exact ⟨⟨_, attempted⟩, recorded⟩

/-- If the documents of its query can be made, an operation fails with nothing but the complaint of
the database. -/
theorem eq_broken_of_makesDocuments {credential : Value} {operation : Action DatabaseResult}
    (read : DatabaseOptions.ofParams context.params = .ok options)
    (makes : MakesDocuments options)
    (leads : operationOn credential context.params options = .ok operation) :
    FailsWith (· = broken) operation := by
  unfold operationOn at leads
  split at leads
  · rename_i kind
    obtain ⟨query, parses⟩ := parse_of_ofParams read kind
    obtain ⟨asked, made⟩ := makes kind query parses
    obtain ⟨⟨uri, name⟩, -, rfl⟩ := map_eq_ok_iff.mp leads
    exact failsWith_runDocuments (by rfl) uri name (errorIs_documentOperation (by rfl) parses made)
  · obtain ⟨url, -, rfl⟩ := map_eq_ok_iff.mp leads
    exact failsWith_runStatement (by rfl) url options

/-- The complaint of a database is no complaint about a parameter. -/
theorem detail_ne_of_blames {failure : Failure} (blames : failure.blamesParams = true)
    (what : String) : failure.detail ≠ "Database error: " ++ what := by
  intro same
  have first := congrArg (·.toList.head?) same
  cases failure with
  | missingParam name =>
      change ("Missing required parameter: " ++ name).toList.head? = _ at first
      simp at first
  | invalidParam param reason =>
      change ("Invalid parameter '" ++ param ++ "': " ++ reason).toList.head? = _ at first
      simp at first
  | _ => cases blames

/-- All failures of an operation start as the complaint of a database does exactly if the documents
of the query can be made. -/
theorem complains_iff (read : DatabaseOptions.ofParams context.params = .ok options) :
    (∀ scene failure, FailsAt context options scene failure →
      ∃ what, failure.detail = "Database error: " ++ what) ↔ MakesDocuments options := by
  constructor
  · intro complains kind query parses
    cases made : query.operation with
    | ok operation => exact ⟨operation, rfl⟩
    | error failure =>
        exfalso
        -- with a credential that leads to a database the documents are the first thing to fail
        have fails : FailsAt context options (scene fullCredential) failure := by
          refine ⟨fullCredential, runDocuments "mongodb://db.test/" "orders" options, ?_, ?_,
            run_of_operation_eq_error read kind parses made⟩
          · rw [kind]
            rfl
          · unfold operationOn
            rw [kind]
            rfl
        obtain ⟨what, same⟩ := complains _ failure fails
        exact detail_ne_of_blames (blames_of_operation query failure made) what same
  · intro makes scene failure fails
    obtain ⟨credential, operation, known, leads, failed⟩ := fails
    obtain ⟨⟨started, attempted⟩, -⟩ := recorded_of_failsAt read known leads failed
    cases eq_broken_of_makesDocuments read makes leads started failure attempted
    exact ⟨"<db>", rfl⟩

end Database

/-! ## All three -/

/-- With a credential at hand, the advanced models and the database record whatever they fail with.
A model has a prefix of its own before the whole wording of the failure. A database notes the
detail, which starts as the complaint of a database does exactly if the documents of the query can
be made. -/
theorem recorded_before_signalled (context : Context) :
    (∀ base scene options key failure,
      ChatOptions.ofParams context.params = .ok options →
        OpenAi.keyFor scene.state.credentials options = .ok key →
          ((openAiAdvanced base).run context scene).1 = .error failure →
            ((openAiAdvanced base).run context scene).2.state.error =
              some ("OpenAI Error: " ++ failure.message)) ∧
    (∀ base scene options key failure,
      GeminiOptions.ofParams context.params = .ok options →
        scene.state.credentials.requiredString "gemini" = .ok key →
          ((geminiAdvanced base).run context scene).1 = .error failure →
            ((geminiAdvanced base).run context scene).2.state.error =
              some ("Gemini API error: " ++ failure.message)) ∧
    ∀ options, DatabaseOptions.ofParams context.params = .ok options →
      (∀ scene failure, Database.FailsAt context options scene failure →
        (database.run context scene).2.state.error = some failure.detail) ∧
      ((∀ scene failure, Database.FailsAt context options scene failure →
          ∃ what, failure.detail = "Database error: " ++ what) ↔
        Database.MakesDocuments options) := by
  refine ⟨?_, ?_, ?_⟩
  · intro base scene options key failure read known failed
    exact OpenAi.recorded_of_fails read known failed
  · intro base scene options key failure read known failed
    exact Gemini.recorded_of_fails read known failed
  · intro options read
    refine ⟨fun scene failure fails => ?_, Database.complains_iff read⟩
    obtain ⟨credential, operation, known, leads, failed⟩ := fails
    exact (Database.recorded_of_failsAt read known leads failed).2

/-- A credential for each of the three, and nobody to answer. -/
def deserted : Scene where
  state := { userQuery := "", credentials := ⟨[("gemini", .string "key"),
    ("openai", .string "key"), ("postgresql", .string "postgres://db.test/orders")]⟩ }
  world := default

/-- Two bases that are no URLs and a database that nobody knows: three failures, three records. -/
theorem recorded_before_signalled_deserted :
    let context : Context := ⟨"advanced", 0, ⟨[("query", .string "SELECT 1")]⟩⟩
    let chat := (openAiAdvanced "nowhere").run context deserted
    let generated := (geminiAdvanced "nowhere").run context deserted
    let found := database.run context deserted
    let unsent (what : String) : Failure := .execution (what ++ " request failed: <transport>")
    chat.1 = .error (unsent "OpenAI") ∧
      chat.2.state.error = some ("OpenAI Error: " ++ (unsent "OpenAI").message) ∧
      generated.1 = .error (unsent "Gemini") ∧
      generated.2.state.error = some ("Gemini API error: " ++ (unsent "Gemini").message) ∧
      found.1 = .error Database.broken ∧ found.2.state.error = some "Database error: <db>" := by
  intro context chat generated found unsent
  obtain ⟨chats, generates, finds⟩ := recorded_before_signalled context
  have chatFailed : chat.1 = .error (unsent "OpenAI") := by rfl
  have generationFailed : generated.1 = .error (unsent "Gemini") := by rfl
  have foundBroken : found.1 = .error Database.broken := rfl
  obtain ⟨_, chatRead⟩ : ∃ options, ChatOptions.ofParams context.params = .ok options := ⟨_, rfl⟩
  obtain ⟨_, generationRead⟩ : ∃ options, GeminiOptions.ofParams context.params = .ok options :=
    ⟨_, rfl⟩
  have databaseRead : DatabaseOptions.ofParams context.params =
      .ok ⟨.postgresql, .select, "SELECT 1", [], none⟩ := rfl
  exact ⟨chatFailed, chats _ deserted _ "key" _ chatRead rfl chatFailed,
    generationFailed, generates _ deserted _ "key" _ generationRead rfl generationFailed,
    foundBroken, (finds _ databaseRead).1 deserted _ ⟨_, _, rfl, rfl, foundBroken⟩⟩

/-- A number that no document of the database can hold is accepted, and goes on record as a wrong
parameter. -/
theorem Database.recorded_as_parameter :
    let overflowing : Params := ⟨[("collection", .string "c"), ("db_type", .string "mongodb"),
      ("query", .string "\x7b\"n\":18446744073709551615\x7d")]⟩
    let left := database.run ⟨"database", 0, overflowing⟩ (scene fullCredential)
    let failure : Failure := .invalidParam "query" "<bson>"
    database.check overflowing = .ok () ∧ left.1 = .error failure ∧
      left.2.state.error = some failure.detail ∧
      ¬ ∃ what, failure.detail = "Database error: " ++ what := by
  intro overflowing left failure
  have read : DatabaseOptions.ofParams overflowing =
      .ok ⟨.mongodb, .select, "\x7b\"n\":18446744073709551615\x7d", [], some "c"⟩ := by
    unfold DatabaseOptions.ofParams
    rw [kindOf_mongodb rfl]
    rfl
  have parses : DocumentQuery.parse .select "\x7b\"n\":18446744073709551615\x7d" =
      .ok (.find (.object [("n", .int 18446744073709551615)])) := rfl
  have failed : left.1 = .error failure :=
    run_of_operation_eq_error read rfl parses rfl
  refine ⟨map_eq_ok_iff.mpr ⟨_, read, rfl⟩, failed, (recorded_of_failsAt read rfl rfl failed).2, ?_⟩
  intro ⟨what, same⟩
  exact detail_ne_of_blames rfl what same

end Workflow
