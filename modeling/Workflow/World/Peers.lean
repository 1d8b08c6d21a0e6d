import Workflow.Database.Datum
import Workflow.Value
/-!
# Peers

The outside that nodes talk to: services over HTTP, databases, a mail server. A peer sees what has
been delivered so far and the message at hand, and answers; nothing else is known of it. A message
that does not reach its peer is not delivered.

## Main definitions

* `Delivery` — a message that arrived at a peer.
* `Peers` — how the outside answers.
-/

namespace Workflow

inductive Method where
  | get
  | post
  deriving DecidableEq, Repr

def Method.name : Method → String
  | get => "GET"
  | post => "POST"

/-- A request as it arrives. -/
structure HttpRequest where
  method : Method
  url : String
  headers : List (String × String)
  body : String
  deriving DecidableEq, Repr

/-- What a service does with a request. -/
inductive HttpReply where
  /-- A status and a body; no body if it ends too early. -/
  | answered (status : Nat) (body : Option String)
  | connectionLost
  | timedOut
  deriving DecidableEq, Repr

/-- A statement with the values bound to its placeholders. -/
structure SqlStatement where
  text : String
  parameters : List Value
  deriving Repr

/-- A cell of a result, in the types that can be told apart. -/
inductive SqlCell where
  | null
  | bool (b : Bool)
  | int (n : Int64)
  | real (x : Binary64)
  | text (s : String)
  | other
  deriving DecidableEq, Repr

/-- What a database server does with a statement. -/
inductive SqlReply where
  | unreachable
  /-- Refused before it ran. -/
  | refused
  /-- Given up while it ran. -/
  | failed
  /-- The rows it gives and the number of rows it touched. -/
  | completed (columns : List String) (rows : List (List SqlCell)) (affected : Nat)
  deriving Repr

/-- An operation on a collection. -/
inductive DocumentOperation where
  | find (filter : Document)
  | insert (documents : List Document)
  | update (filter change : Document)
  | delete (filter : Document)
  deriving Repr

structure DocumentCommand where
  database : String
  collection : String
  operation : DocumentOperation
  deriving Repr

/-- What a document database does with a command. -/
inductive DocumentReply where
  | unreachable
  | refused
  | found (documents : List Document)
  | changed (count : Nat)
  deriving Repr

structure Mail where
  sender : String
  recipient : String
  subject : String
  body : String
  deriving DecidableEq, Repr

/-- A mail with the server it goes to and the login there. -/
structure MailSession where
  server : String
  port : Nat
  username : String
  password : String
  mail : Mail
  deriving DecidableEq, Repr

/-- How far a mail gets. -/
inductive MailReply where
  | unreachable
  /-- The login was taken, the mail was not. -/
  | loggedIn
  | accepted
  deriving DecidableEq, Repr

/-- A message that arrived at a peer. -/
inductive Delivery where
  | http (request : HttpRequest)
  | sql (statement : SqlStatement)
  | document (command : DocumentCommand)
  | login (username password : String)
  | mail (mail : Mail)
  deriving Repr

/-- How the outside answers, given what has been delivered before. -/
structure Peers where
  /-- No reply: the request does not arrive. -/
  http : List Delivery → HttpRequest → Option HttpReply
  /-- A statement over a connection with the given URL. -/
  sql : List Delivery → String → SqlStatement → SqlReply
  /-- Whether a URI names a document database at all. -/
  documentUri : String → Bool
  document : List Delivery → String → DocumentCommand → DocumentReply
  mail : List Delivery → MailSession → MailReply

/-- An outside without any peer. -/
def Peers.none : Peers where
  http _ _ := Option.none
  sql _ _ _ := .unreachable
  documentUri _ := false
  document _ _ _ := .unreachable
  mail _ _ := .unreachable

instance : Inhabited Peers := ⟨Peers.none⟩

end Workflow
