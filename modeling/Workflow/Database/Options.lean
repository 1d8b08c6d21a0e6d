import Workflow.Database.DocumentQuery
import Workflow.Params
/-!
# What a database node can be told

## Main definitions

* `DatabaseOptions` — the options, read and checked as a whole.
-/

namespace Workflow

structure DatabaseOptions where
  kind : DatabaseKind
  operation : DatabaseOperation
  query : String
  /-- Bound to the placeholders of a statement. -/
  parameters : List Value := []
  collection : Option String := none
  deriving Repr

namespace DatabaseOptions

def isScalar : Value → Bool
  | .array _ => false
  | .object _ => false
  | _ => true

/-- A name read by `parse?`, or a default if it is left out. -/
def named {α : Type} (params : Params) (name : String) (default : α) (parse? : String → Option α)
    (reason : String) : Except Failure α := do
  match ← params.filledString name with
  | none => return default
  | some s =>
    match parse? s with
    | some a => return a
    | none => throw (.invalidParam name reason)

def kindOf (params : Params) : Except Failure DatabaseKind :=
  named params "db_type" .postgresql DatabaseKind.parse? "expected postgresql, mysql or mongodb"

def operationOf (params : Params) : Except Failure DatabaseOperation :=
  named params "operation" .select DatabaseOperation.parse?
    "expected select, insert, update or delete"

/-- The query; for a document database it may be any value, which then stands for its JSON. -/
def queryOf (params : Params) (kind : DatabaseKind) : Except Failure String :=
  match params.get? "query" with
  | none => .error (.missingParam "query")
  | some (.string s) => if Text.blankString s then .error (.missingParam "query") else .ok s
  | some value =>
    if kind = .mongodb then .ok value.toJson.compact
    else .error (.invalidParam "query" "expected a SQL string")

/-- The parameters; they have to be scalars. -/
def parametersOf (params : Params) : Except Failure (List Value) := do
  let parameters := (← params.array "parameters").getD []
  match parameters.findIdx? (! isScalar ·) with
  | some index =>
    throw (.invalidParam "parameters" ("entry " ++ toString index ++ " must be a scalar"))
  | none => return parameters

/-- A document database needs a collection and a query that it can read. -/
def checkDocumentQuery (operation : DatabaseOperation) (query : String)
    (collection : Option String) : Except Failure Unit :=
  match collection with
  | none => .error (.missingParam "collection")
  | some _ => (DocumentQuery.parse operation query).map fun _ => ()

def ofParams (params : Params) : Except Failure DatabaseOptions := do
  let kind ← kindOf params
  let operation ← operationOf params
  let query ← queryOf params kind
  let parameters ← parametersOf params
  let collection ← params.filledString "collection"
  if kind = .mongodb then checkDocumentQuery operation query collection
  return { kind, operation, query, parameters, collection }

end DatabaseOptions

end Workflow
