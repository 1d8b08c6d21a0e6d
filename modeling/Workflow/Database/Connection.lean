import Workflow.Database.Kind
import Workflow.Params
import Workflow.Port
import Workflow.Url
/-!
# Connections to databases

A credential is a connection string, or an object that holds one, or an object whose fields make one
up. User, password and database name are escaped, so that each comes out of the URL as it went in.

## Main definitions

* `Connection.url` — the URL of an SQL database.
* `Connection.documents` — the URI of a document database, and the database there.
-/

namespace Workflow.Connection

/-- A text among the fields of a credential that is not empty. -/
def field (fields : Fields Value) (name : String) : Option String :=
  ((Fields.get? fields name).bind Value.string?).filter (· ≠ "")

/-- A text under the first of two names. -/
def eitherField (fields : Fields Value) (name other : String) : Option String :=
  field fields name <|> field fields other

def invalid (kind : DatabaseKind) (what : String) : Failure :=
  .configuration (kind.name ++ ": invalid " ++ what)

def need {α : Type} (failure : Failure) : Option α → Except Failure α
  | some a => .ok a
  | none => .error failure

/-- The URL that the fields of a credential make up. -/
def assembled (kind : DatabaseKind) (fields : Fields Value) : Except Failure String := do
  let missing : Failure := .missingCredential kind.name
  let host := (field fields "host").getD "localhost"
  let port ← (Port.field fields "port" kind.defaultPort).mapError fun _ => invalid kind "port"
  let user ← need missing (eitherField fields "user" "username")
  let database ← need missing (eitherField fields "database" "dbname")
  let url ← need (invalid kind "host") (Url.parse (kind.scheme ++ "://" ++ host))
  let url ← need (invalid kind "port") (url.withPort? port)
  let url ← need (invalid kind "user") (url.withUser? user)
  let url ← need (invalid kind "password") (url.withPassword? (field fields "password"))
  return (url.push database).text

/-- The URL of an SQL database. -/
def url (kind : DatabaseKind) (credential : Value) : Except Failure String :=
  match credential with
  | .string url =>
    if Text.blankString url then .error (.missingCredential kind.name) else .ok url
  | .object fields =>
    match field fields "url" with
    | some url => .ok url
    | none => assembled kind fields
  | _ => .error (.missingCredential kind.name)

def missingPart (what : String) : Failure := .missingCredential ("mongodb." ++ what)

/-- The URI and the database in a credential, as far as they are there. -/
def documentParts (credential : Value) : Option String × Option String :=
  match credential with
  | .string uri => (some uri, none)
  | .object fields => (eitherField fields "connection_string" "url", field fields "database")
  | _ => (none, none)

/-- The URI of a document database, and the database there; the latter may be a parameter. -/
def documents (credential : Value) (params : Params) : Except Failure (String × String) := do
  let (uri, database) := documentParts credential
  let uri ← need (missingPart "connection_string") uri
  match database with
  | some database => return (uri, database)
  | none => return (uri, ← need (missingPart "database") (← params.filledString "database"))

end Workflow.Connection
