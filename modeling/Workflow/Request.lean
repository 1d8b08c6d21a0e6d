import Workflow.Json.Record
import Workflow.State
/-!
# Requests

One invocation as a client writes it down.

## Main definitions

* `Request` — the nodes to run and what they get.
* `Request.parse`, `Request.toJson` — from and to JSON.
-/

namespace Workflow

/-- One invocation. -/
structure Request where
  nodeIds : List String
  userQuery : String
  credentials : Credentials := {}
  nodeParams : Option (Fields Params) := none
  workflowId : Option String := none
  deriving Repr, Inhabited

namespace Request

/-- The fields, in the order of an array. -/
def fieldNames : List String :=
  ["node_ids", "user_query", "api_keys", "node_params", "workflow_id"]

/-- A content or, for null, none. -/
def optional {α : Type} (read : Json → Option α) : Json → Option (Option α)
  | .null => some none
  | json => (read json).map some

/-- The fields of an object, as values. -/
def fields? (json : Json) : Option (Fields Value) := (Value.untagged? json).bind Value.object?

/-- The parameters of one node. -/
def member? : String × Json → Option (String × Params)
  | (nodeId, content) => (fields? content).map fun fields => (nodeId, ⟨fields⟩)

/-- The parameters of several nodes; of a repeated node the last ones count, but all must be
parameters. -/
def nodeParams? (json : Json) : Option (Fields Params) := do
  some (Fields.ofList (← (← json.object?).mapM member?))

/-- The request that the contents of the fields make up. -/
def ofContents? (contents : List (Option Json)) : Option Request :=
  match contents with
  | [some ids, some query, keys, params, workflow] => do
    let nodeIds ← (← ids.array?).mapM Json.string?
    let userQuery ← query.string?
    let credentials ← match keys with
      | none => some []
      | some json => fields? json
    let nodeParams ← match params with
      | none => some none
      | some json => optional nodeParams? json
    let workflowId ← match workflow with
      | none => some none
      | some json => optional Json.string? json
    some { nodeIds, userQuery, credentials := ⟨credentials⟩, nodeParams, workflowId }
  | _ => none

/-- The request that a text spells. -/
def parse (text : String) : Option Request := do ofContents? (← Json.Record.parse fieldNames text)

def nodeParamsValue (params : Fields Params) : Value :=
  .object (params.map fun (nodeId, params) => (nodeId, params.toValue))

/-- A content as JSON or, without one, null. -/
def orNull {α : Type} (write : α → Json) : Option α → Json
  | some a => write a
  | none => .null

/-- The request as JSON, the fields in their own order. -/
def toJson (request : Request) : Json :=
  .object [
    ("node_ids", .array (request.nodeIds.map .string)),
    ("user_query", .string request.userQuery),
    ("api_keys", request.credentials.toValue.toJson),
    ("node_params", orNull (fun params => (nodeParamsValue params).toJson) request.nodeParams),
    ("workflow_id", orNull .string request.workflowId)]

/-- The state that a run of the request starts from. -/
def initialState (request : Request) : State where
  userQuery := request.userQuery
  credentials := request.credentials
  nodeParams := request.nodeParams.getD []
  workflowId := request.workflowId

end Request

end Workflow
