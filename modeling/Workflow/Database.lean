import Workflow.Database.Connection
import Workflow.Database.Options
import Workflow.Node
/-!
# Databases

One statement or one operation on a collection. A failure of the database is recorded before it is
signalled.

## Main definitions

* `DatabaseResult` — rows, or how many rows there were.
* `database` — the node.
-/

namespace Workflow

/-- What an operation gives. -/
inductive DatabaseResult where
  | rows (columns : List String) (rows : List (List SqlCell))
  | touched (count : Nat)
  | found (documents : List Value)
  | inserted (ids : List Value)
  | modified (count : Nat)
  | deleted (count : Nat)

namespace SqlCell

def toValue : SqlCell → Value
  | null => .null
  | bool b => .bool b
  | int n => .int n
  | real x => .number x
  | text s => .string s
  | other => .null

end SqlCell

namespace DatabaseResult

/-- A row by the names of its columns; of columns with one name the last counts. -/
def record (columns : List String) (row : List SqlCell) : Value :=
  .ofFields (columns.zip (row.map SqlCell.toValue))

def toValue : DatabaseResult → Value
  | rows columns all => .ofFields [
      ("columns", .array (columns.map .string)),
      ("data", .array (all.map (record columns)))]
  | touched count => .object [("rows_affected", .ofNat count)]
  | found documents => .object [("data", .array documents)]
  | inserted ids => .object [("inserted_ids", .array ids)]
  | modified count => .object [("modified_count", .ofNat count)]
  | deleted count => .object [("deleted_count", .ofNat count)]

/-- The number of rows or documents that an operation touched. -/
def affected : DatabaseResult → Nat
  | rows _ all => all.length
  | touched count => count
  | found documents => documents.length
  | inserted ids => ids.length
  | modified count => count
  | deleted count => count

end DatabaseResult

namespace Database

/-- What the database says is wrong. -/
def broken : Failure := .execution "Database error: <db>"

/-- What a reply to a statement gives; columns that no row has are not named. -/
def ofSqlReply (operation : DatabaseOperation) : SqlReply → Except Failure DatabaseResult
  | .completed columns rows affected =>
    if operation = .select then .ok (.rows (if rows.isEmpty then [] else columns) rows)
    else .ok (.touched affected)
  | _ => .error broken

/-- Run a statement over a connection. -/
def runStatement (url : String) (options : DatabaseOptions) : Action DatabaseResult := do
  let statement : SqlStatement := ⟨options.query, options.parameters⟩
  ofSqlReply options.operation (← Action.onWorld (·.sql url statement))

/-- The identifier that a document has. -/
def identifier (document : Document) : Value :=
  .ofJson (match document.lookup "_id" with
    | some datum => datum.relaxed
    | none => .null)

/-- What a reply to an operation on a collection gives. -/
def ofDocumentReply (operation : DocumentOperation) (reply : DocumentReply) :
    Except Failure DatabaseResult :=
  match operation, reply with
  | .find _, .found documents => .ok (.found (documents.map fun d => .ofJson d.relaxed))
  | .insert documents, .changed _ => .ok (.inserted (documents.map identifier))
  | .update .., .changed count => .ok (.modified count)
  | .delete _, .changed count => .ok (.deleted count)
  | _, _ => .error broken

/-- The operation that the options ask of a collection, if the database can take it. -/
def documentOperation (options : DatabaseOptions) : Except Failure DocumentOperation := do
  let query ← DocumentQuery.parse options.operation options.query
  let operation ← query.operation
  if operation.isSendable then return operation else throw broken

/-- Run an operation on a collection. -/
def runDocuments (uri database : String) (options : DatabaseOptions) : Action DatabaseResult := do
  if ! (← Action.onWorld fun world => (world.peers.documentUri uri, world)) then Action.fail broken
  let operation ← documentOperation options
  let collection := options.collection.getD ""
  let reply ← Action.onWorld (·.document uri { database, collection, operation })
  ofDocumentReply operation reply

/-- The connection that a credential leads to, as an action that runs the operation there. -/
def operationOn (credential : Value) (params : Params) (options : DatabaseOptions) :
    Except Failure (Action DatabaseResult) :=
  match options.kind with
  | .mongodb => (Connection.documents credential params).map fun (uri, database) =>
      runDocuments uri database options
  | kind => (Connection.url kind credential).map fun url => runStatement url options

/-- What the node notes of an operation. -/
def metadata (options : DatabaseOptions) (result : DatabaseResult) : Value :=
  .ofFields [("db_type", .string options.kind.name), ("operation", .string options.operation.name),
    ("rows_affected", .ofNat result.affected)]

/-- The node's work. -/
def run (context : Context) : Action Unit := do
  let options ← DatabaseOptions.ofParams context.params
  let state ← Action.state
  match state.credentials.get? options.kind.name with
  | none => Action.fail (.missingCredential options.kind.name)
  | some credential =>
    Action.info ("Running " ++ options.operation.name ++ " on " ++ options.kind.name)
    let operation ← operationOn credential context.params options
    match ← operation.attempt with
    | .ok result => Action.modifyState fun state =>
        (state.withExtra "db_metadata" (metadata options result)).withOutput result.toValue
    | .error failure =>
      Action.modifyState (·.withError failure.detail)
      Action.fail failure

end Database

def database : Node where
  id := "database"
  run := Database.run
  check params := (DatabaseOptions.ofParams params).map fun _ => ()
  description := {
    text := "Run a query against PostgreSQL, MySQL or MongoDB"
    category := "data"
    params := [
      ⟨"db_type", "postgresql (default), mysql or mongodb", false⟩,
      ⟨"operation", "select (default), insert, update or delete", false⟩,
      ⟨"query", "SQL statement, or JSON filter/document for MongoDB", true⟩,
      ⟨"parameters", "Positional values bound to SQL placeholders", false⟩,
      ⟨"collection", "MongoDB collection (required for mongodb)", false⟩,
      ⟨"database", "MongoDB database when not in the credential", false⟩] }

end Workflow
