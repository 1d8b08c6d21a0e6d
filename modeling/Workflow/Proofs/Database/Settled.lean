import Workflow.Proofs.Database.Running
import Workflow.Proofs.Node.Parameters

/-!
# What a document database reads late

The check of a database node leaves two things to the run. The name of the database is read only if
the credential has none, and the documents of a query are made only when they are to be sent. A run
blames a parameter exactly if one of the two cannot be read.

## Main definitions

* `Database.IsSettled` — what is left to the run can be read.
* `Database.sparesParams_run_iff` — a database node that has accepted its parameters never blames
  one exactly if they are settled.
-/

namespace Workflow

open Workflow.Action

namespace Database

variable {params : Params} {options : DatabaseOptions}

/-- What a document database reads only in its run can be read: the name of the database, which is
needed if the credential has none, and the documents that the query is made of. -/
def IsSettled (params : Params) : Prop :=
  ∀ options, DatabaseOptions.ofParams params = .ok options → options.kind = .mongodb →
    (∃ name, params.string "database" = .ok name) ∧
      ∀ query, DocumentQuery.parse options.operation options.query = .ok query →
        ∃ operation, query.operation = .ok operation

/-- The check reads the query of a document database, but makes no documents of it. -/
theorem parse_of_ofParams (read : DatabaseOptions.ofParams params = .ok options)
    (kind : options.kind = .mongodb) :
    ∃ query, DocumentQuery.parse options.operation options.query = .ok query := by
  have checked := (DatabaseOptions.of_ofParams read).2 kind
  unfold DatabaseOptions.checkDocumentQuery at checked
  split at checked
  · cases checked
  · obtain ⟨query, parses, -⟩ := map_eq_ok_iff.mp checked
    exact ⟨query, parses⟩

theorem blamesNoParam_need {α : Type} {failure : Failure}
    (spares : failure.blamesParams = false) (found : Option α) :
    BlamesNoParam (Connection.need failure found) := by
  cases found with
  | some a => exact errorIs_ok a
  | none => exact errorIs_error spares

theorem blamesNoParam_url (kind : DatabaseKind) (credential : Value) :
    BlamesNoParam (Connection.url kind credential) := by
  unfold Connection.url
  split
  · split
    · exact errorIs_error rfl
    · exact errorIs_ok _
  · split
    · exact errorIs_ok _
    · refine .bind (errorIs_mapError ?isSpared _) fun port _ => ?_
      case isSpared => exact fun _ => rfl
      refine (blamesNoParam_need rfl _).bind fun user _ => ?_
      refine (blamesNoParam_need rfl _).bind fun database _ => ?_
      refine (blamesNoParam_need rfl _).bind fun url _ => ?_
      refine (blamesNoParam_need rfl _).bind fun url _ => ?_
      refine (blamesNoParam_need rfl _).bind fun url _ => ?_
      refine (blamesNoParam_need rfl _).bind fun url _ => ?_
      exact errorIs_ok _
  · exact errorIs_error rfl

/-- Where a document database is does not depend on a parameter that cannot be read. -/
theorem blamesNoParam_documents {credential : Value} {name : Option String}
    (read : params.string "database" = .ok name) :
    BlamesNoParam (Connection.documents credential params) := by
  unfold Connection.documents
  refine (blamesNoParam_need rfl _).bind fun uri _ => ?_
  split
  · exact errorIs_ok _
  · rw [Params.filledString_of_string read]
    exact (blamesNoParam_need rfl _).bind fun database _ => errorIs_ok _

section
variable {P : Failure → Prop} (holds : P broken)
include holds

theorem errorIs_ofDocumentReply (operation : DocumentOperation) (reply : DocumentReply) :
    ErrorIs P (ofDocumentReply operation reply) := by
  unfold ofDocumentReply
  split
  case h_5 => exact errorIs_error holds
  all_goals exact errorIs_ok _

/-- An operation fails as its documents do, or with the complaint of the database. -/
theorem failsWith_runDocuments (uri database : String)
    (made : ErrorIs P (documentOperation options)) :
    FailsWith P (runDocuments uri database options) := by
  refine (failsWith_onWorld _).bind fun known => ?_
  refine FailsWith.bind_if (failsWith_fail holds) ?_
  refine (failsWith_lift made).bind fun operation => ?_
  refine (failsWith_onWorld _).bind fun reply => ?_
  exact failsWith_lift (errorIs_ofDocumentReply holds operation reply)

/-- A query whose documents can be made is at most one that the database cannot take. -/
theorem errorIs_documentOperation {query : DocumentQuery} {operation : DocumentOperation}
    (parses : DocumentQuery.parse options.operation options.query = .ok query)
    (made : query.operation = .ok operation) :
    ErrorIs P (documentOperation options) := by
  unfold documentOperation
  rw [parses]
  refine (errorIs_ok query).bind fun _ same => ?_
  cases same
  rw [made]
  refine (errorIs_ok operation).bind fun _ same => ?_
  cases same
  split
  · exact errorIs_ok operation
  · exact errorIs_error holds

end

/-- A settled database finds fault with the credential or fails in its work, but blames no
parameter. -/
theorem sparesParams_operationOn (settled : IsSettled params)
    (read : DatabaseOptions.ofParams params = .ok options) (credential : Value) :
    BlamesNoParam (operationOn credential params options) ∧
      ∀ operation, operationOn credential params options = .ok operation →
        SparesParams operation := by
  unfold operationOn
  split
  · rename_i kind
    obtain ⟨⟨name, named⟩, makes⟩ := settled options read kind
    obtain ⟨query, parses⟩ := parse_of_ofParams read kind
    obtain ⟨operation, made⟩ := makes query parses
    refine ⟨(blamesNoParam_documents named).map _, fun work leads => ?_⟩
    obtain ⟨⟨uri, database⟩, -, rfl⟩ := map_eq_ok_iff.mp leads
    exact failsWith_runDocuments (by rfl) uri database
      (errorIs_documentOperation (by rfl) parses made)
  · refine ⟨(blamesNoParam_url _ credential).map _, fun work leads => ?_⟩
    obtain ⟨url, -, rfl⟩ := map_eq_ok_iff.mp leads
    exact failsWith_runStatement (by rfl) url options

theorem sparesParams_run {context : Context} (accepted : database.check context.params = .ok ())
    (settled : IsSettled context.params) : SparesParams (run context) := by
  obtain ⟨options, read, -⟩ := map_eq_ok_iff.mp accepted
  unfold run
  rw [lift_bind_of_ok read]
  refine failsWith_state.bind fun state => ?_
  cases state.credentials.get? options.kind.name with
  | none => exact failsWith_fail rfl
  | some credential =>
      obtain ⟨spared, works⟩ := sparesParams_operationOn settled read credential
      refine (failsWith_info _).bind fun _ => ?_
      cases made : operationOn credential context.params options with
      | error failure =>
          rw [lift_bind_of_error rfl]
          exact failsWith_fail (spared failure made)
      | ok operation =>
          rw [lift_bind_of_ok rfl]
          refine (works operation made).bind_attempt fun outcome spared => ?_
          cases outcome with
          | ok result => exact failsWith_modifyState _
          | error failure => exact sparesParams_record (spared failure rfl) _

/-! ## Databases that are not settled -/

/-- A scene in which a document database is known by a credential. -/
def scene (credential : Value) : Scene where
  state := { userQuery := "", credentials := ⟨[("mongodb", credential)]⟩ }
  world := { peers := { (default : Peers) with documentUri := fun _ => true } }

/-- A credential without the name of the database. -/
def bareUri : Value := .string "mongodb://db.test/"

/-- A credential with all that is needed. -/
def fullCredential : Value :=
  .object [("connection_string", .string "mongodb://db.test/"), ("database", .string "orders")]

theorem kindOf_mongodb {params : Params}
    (named : params.filledString "db_type" = .ok (some "mongodb")) :
    DatabaseOptions.kindOf params = .ok .mongodb := by
  have parses : DatabaseKind.parse? "mongodb" = some .mongodb := by decide +kernel
  simp [DatabaseOptions.kindOf, DatabaseOptions.named, named, parses, bind, Except.bind, pure,
    Except.pure]

/-- What a query becomes is the query's own fault. -/
theorem blames_of_operation (query : DocumentQuery) :
    ErrorIs (fun failure => failure.blamesParams = true) query.operation := by
  have each : ∀ json, ErrorIs (fun failure => failure.blamesParams = true)
      (Document.ofJson json) := by
    intro json
    unfold Document.ofJson
    split
    · exact errorIs_error rfl
    · split
      · exact errorIs_ok _
      · exact errorIs_error rfl
  cases query with
  | find filter => exact (each filter).bind fun _ _ => errorIs_ok _
  | insert documents => exact (ErrorIs.mapM each documents).bind fun _ _ => errorIs_ok _
  | update filter change =>
      exact (each filter).bind fun _ _ => (each change).bind fun _ _ => errorIs_ok _
  | delete filter => exact (each filter).bind fun _ _ => errorIs_ok _

/-- A name that cannot be read is blamed when the credential has none. -/
theorem run_of_string_eq_error {context : Context} {failure : Failure}
    (read : DatabaseOptions.ofParams context.params = .ok options) (kind : options.kind = .mongodb)
    (unread : context.params.string "database" = .error failure) :
    (run context (scene bareUri)).1 = .error failure := by
  have leads : operationOn bareUri context.params options = .error failure := by
    unfold operationOn
    rw [kind]
    simp [Connection.documents, Connection.documentParts, bareUri, Connection.need,
      Params.filledString_eq, unread, Except.map, bind, Except.bind]
  have credential : (scene bareUri).state.credentials.get? options.kind.name = some bareUri := by
    rw [kind]
    rfl
  exact run_of_not_leads read credential leads

theorem runDocuments_eq_error {uri database : String} {scene : Scene} {failure : Failure}
    (known : scene.world.peers.documentUri uri = true)
    (unasked : documentOperation options = .error failure) :
    runDocuments uri database options scene = (.error failure, scene) := by
  unfold runDocuments
  simp only [bind_apply, onWorld, known, Bool.not_true, Bool.false_eq_true, if_false, unasked]
  rfl

/-- Documents that cannot be made of a query are blamed when it is sent. -/
theorem run_of_operation_eq_error {context : Context} {query : DocumentQuery} {failure : Failure}
    (read : DatabaseOptions.ofParams context.params = .ok options) (kind : options.kind = .mongodb)
    (parses : DocumentQuery.parse options.operation options.query = .ok query)
    (unmade : query.operation = .error failure) :
    (run context (scene fullCredential)).1 = .error failure := by
  have leads : operationOn fullCredential context.params options =
      .ok (runDocuments "mongodb://db.test/" "orders" options) := by
    unfold operationOn
    rw [kind]
    rfl
  have unasked : documentOperation options = .error failure := by
    unfold documentOperation
    rw [parses]
    simp [unmade, bind, Except.bind]
  have credential : (scene fullCredential).state.credentials.get? options.kind.name =
      some fullCredential := by
    rw [kind]
    rfl
  rw [run_of_leads read credential leads, attempt_bind_apply, runDocuments_eq_error rfl unasked]
  rfl

/-- A database node that has accepted its parameters blames none, wherever it runs, exactly if they
are settled. -/
theorem sparesParams_run_iff {context : Context}
    (accepted : database.check context.params = .ok ()) :
    SparesParams (run context) ↔ IsSettled context.params := by
  refine ⟨fun spares options read kind => ⟨?_, fun query parses => ?_⟩, sparesParams_run accepted⟩
  -- for each of the two there is a scene in which the run gets as far as reading it
  · cases found : context.params.string "database" with
    | ok name => exact ⟨name, rfl⟩
    | error failure =>
        have spared : failure.blamesParams = false :=
          spares _ _ (run_of_string_eq_error read kind found)
        rw [Params.blames_of_string found] at spared
        cases spared
  · cases made : query.operation with
    | ok operation => exact ⟨operation, rfl⟩
    | error failure =>
        have spared : failure.blamesParams = false :=
          spares _ _ (run_of_operation_eq_error read kind parses made)
        rw [blames_of_operation query failure made] at spared
        cases spared

end Database

end Workflow
