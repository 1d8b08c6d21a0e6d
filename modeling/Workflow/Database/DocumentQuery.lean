import Workflow.Database.Document
import Workflow.Database.Kind
import Workflow.Json.Reader
import Workflow.World.Peers
/-!
# Queries to document databases

A query is JSON; what it has to look like depends on the operation.

## Main definitions

* `DocumentQuery.parse` — the query that a text spells.
* `DocumentQuery.operation` — what a query asks of a collection.
-/

namespace Workflow

/-- A query as it is spelled: all that has to be an object is one. -/
inductive DocumentQuery where
  | find (filter : Json)
  | insert (documents : List Json)
  | update (filter change : Json)
  | delete (filter : Json)
  deriving Repr

namespace DocumentQuery

def invalid (reason : String) : Failure := .invalidParam "query" reason

/-- Documents to insert: one, or an array of one or more. -/
def insertion (json : Json) : Except Failure DocumentQuery :=
  match json with
  | .object _ => .ok (insert [json])
  | .array documents =>
    if documents.isEmpty || ! documents.all Json.isObject then .error invalidInsertion
    else .ok (insert documents)
  | _ => .error invalidInsertion
where
  invalidInsertion : Failure := invalid "insert expects an object or a non-empty array of objects"

/-- A filter and the change for what it finds. -/
def change (json : Json) : Except Failure DocumentQuery :=
  let object? (name : String) : Option Json := (json.member? name).filter Json.isObject
  match object? "filter", object? "update" with
  | some filter, some change => .ok (update filter change)
  | _, _ => .error
    (invalid "update expects \x7b\"filter\": \x7b...\x7d, \"update\": \x7b...\x7d\x7d")

/-- The query that a JSON value spells. -/
def ofJson (operation : DatabaseOperation) (json : Json) : Except Failure DocumentQuery :=
  match operation with
  | .select =>
    if json.isObject then .ok (find json) else .error (invalid "find filter must be an object")
  | .insert => insertion json
  | .update => change json
  | .delete =>
    if json.isObject then .ok (delete json) else .error (invalid "delete filter must be an object")

/-- The query that a text spells. -/
def parse (operation : DatabaseOperation) (query : String) : Except Failure DocumentQuery :=
  match Json.parse query with
  | some json => ofJson operation json
  | none => .error (invalid "not valid JSON: <json>")

/-- What a query asks of a collection. -/
def operation : DocumentQuery → Except Failure DocumentOperation
  | find filter => do return .find (← Document.ofJson filter)
  | insert documents => do return .insert (← documents.mapM Document.ofJson)
  | update filter change => do
    return .update (← Document.ofJson filter) (← Document.ofJson change)
  | delete filter => do return .delete (← Document.ofJson filter)

end DocumentQuery

namespace DocumentOperation

/-- The documents that go into the database. -/
def documents : DocumentOperation → List Document
  | find filter => [filter]
  | insert documents => documents
  | update filter change => [filter, change]
  | delete filter => [filter]

/-- A change has to name an operator first. -/
def isChange : Document → Bool
  | (name, _) :: _ => name.startsWith "$"
  | [] => false

/-- Whether a database can take an operation at all. -/
def isSendable (operation : DocumentOperation) : Bool :=
  operation.documents.all Document.isWritable && match operation with
    | update _ change => isChange change
    | _ => true

end DocumentOperation

end Workflow
