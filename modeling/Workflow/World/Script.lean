import Workflow.Bytes.Utf16
import Workflow.Database.Target
import Workflow.Text.Blank
import Workflow.World
/-!
# Scripted peers

Peers that answer by a script: the requests over HTTP get the scripted replies in turn, a database
and a mail server on the own machine behave as laid down.

## Main definitions

* `ScriptedReply` — what the HTTP peer does with one request.
* `PeerScript` — the whole script.
* `PeerScript.peers` — the peers that follow it.
-/

namespace Workflow

/-- What the HTTP peer does with one request. -/
inductive ScriptedReply where
  | answer (status : Nat) (body : List UInt8) (truncated : Bool)
  | drop
  | hang
  deriving Repr

namespace ScriptedReply

/-- Statuses that go without a body. -/
def hasNoBody (status : Nat) : Bool := status = 101 || status = 204 || status = 304

/-- Statuses that end an exchange. One of fewer or more than three digits is none, and those from
100 on only announce another, but for the change of protocol. -/
def isFinal (status : Nat) : Bool := status = 101 || (200 ≤ status && status < 1000)

def reply : ScriptedReply → HttpReply
  | answer status body truncated =>
    if ! isFinal status then .connectionLost
    else if hasNoBody status then .answered status (some "")
    else if truncated then .answered status none
    else .answered status (some (String.ofList (Utf16.decodeMarked body)))
  | drop => .connectionLost
  | hang => .timedOut

end ScriptedReply

/-- A column of a scripted result. -/
structure ScriptedColumn where
  name : String
  type : String
  deriving Repr

/-- The script of the peers. A port of zero stands for a peer that is not there. -/
structure PeerScript where
  replies : List ScriptedReply := []
  sqlPort : Nat := 0
  columns : List ScriptedColumn := []
  rows : List (List Value) := []
  affected : Option Nat := none
  refusesStatement : Bool := false
  failsStatement : Bool := false
  documentPort : Nat := 0
  documents : List Document := []
  matched : Nat := 0
  modified : Option Nat := none
  refusesCommand : Bool := false
  mailPort : Nat := 0
  refusedVerb : Option String := none
  startsTls : Bool := true
  deriving Repr

namespace PeerScript

def isHttp : Delivery → Bool
  | .http _ => true
  | _ => false

/-- Requests get the replies in turn; behind the last one every connection is lost. Nothing arrives
over an encrypted connection. -/
def http (script : PeerScript) (before : List Delivery) (request : HttpRequest) :
    Option HttpReply :=
  if request.url.startsWith "https:" then none
  else some (match script.replies[(before.filter isHttp).length]? with
    | some scripted => scripted.reply
    | none => .connectionLost)

/-- Whether a host is the own machine. -/
def isOwn (host : String) : Bool := host = "127.0.0.1" || host = "localhost"

/-- Whether a URL leads to the SQL peer, which takes no encrypted connection. -/
def leadsToSql (script : PeerScript) (url : String) : Bool :=
  match (Url.parse url).filter (["postgres", "postgresql"].contains ·.scheme) with
  | some url => (SqlTarget.ofUrl? url).any fun target =>
      isOwn target.host && target.port = script.sqlPort && ! target.isEncrypted
  | none => false

/-- Whether a URI leads to the document peer. -/
def leadsToDocuments (script : PeerScript) (uri : String) : Bool :=
  (DocumentTarget.parse? uri).any fun target =>
    target.hosts.any fun (host, port) => isOwn host && port = script.documentPort

/-- A cell of a column type. -/
def cell (type : String) (value : Value) : SqlCell :=
  match value with
  | .null => .null
  | .bool b => .bool b
  | .int n =>
    if type = "float4" then .real (Binary64.ofInt n.toInt).toSingle
    else if type = "float8" then .real (.ofInt n.toInt)
    else .int n
  | .number x => .real (if type = "float4" then x.toSingle else x)
  | .string s => if type = "bytea" then .other else .text s
  | _ => .other

/-- Column types that cannot be carried. -/
def isUncarried (type : String) : Bool := type = "date" || type = "json"

def sql (script : PeerScript) (_ : List Delivery) (url : String) (_ : SqlStatement) : SqlReply :=
  if ! script.leadsToSql url then .unreachable
  else if script.refusesStatement then .refused
  else if script.failsStatement then .failed
  else if ! script.rows.isEmpty && script.columns.any (isUncarried ·.type) then .failed
  else .completed (script.columns.map (·.name))
    (script.rows.map fun row => List.zipWith (fun column => cell column.type) script.columns row)
    (script.affected.getD script.rows.length)

/-- A URI that names a document database. -/
def documentUri (uri : String) : Bool := (DocumentTarget.parse? uri).isSome

def document (script : PeerScript) (_ : List Delivery) (uri : String) (command : DocumentCommand) :
    DocumentReply :=
  if ! script.leadsToDocuments uri then .unreachable
  else if script.refusesCommand then .refused
  else match command.operation with
    | .find _ => .found script.documents
    | .insert documents => .changed documents.length
    | .update .. => .changed (script.modified.getD script.matched)
    | .delete _ => .changed script.matched

/-- Commands of a mail session before the login is taken. -/
def beforeLogin : List String := ["EHLO", "STARTTLS", "AUTH"]

/-- The server takes addresses in ASCII alone. -/
def isPlain (mail : Mail) : Bool :=
  (mail.sender ++ mail.recipient).toList.all fun c => c.toNat < 0x80

def mail (script : PeerScript) (_ : List Delivery) (session : MailSession) : MailReply :=
  if script.mailPort = 0 || session.port ≠ script.mailPort
      || ! isOwn session.server then .unreachable
  else if ! script.startsTls then .unreachable
  else match script.refusedVerb with
    | none => if isPlain session.mail then .accepted else .loggedIn
    | some verb =>
      if beforeLogin.contains verb then .unreachable
      else if ["MAIL", "RCPT", "DATA"].contains verb || ! isPlain session.mail then .loggedIn
      else .accepted

/-- A body as a mailbox keeps it: line ends of one character, no blanks at its end. -/
def keptBody (s : String) : String :=
  String.ofList (Text.trimEnd (drop s.toList))
where
  /-- Without the returns in front of line ends. -/
  drop : List Char → List Char
    | '\r' :: '\n' :: rest => '\n' :: drop rest
    | c :: rest => c :: drop rest
    | [] => []

/-- The peers that follow the script. -/
def peers (script : PeerScript) : Peers where
  http := script.http
  sql := script.sql
  documentUri := documentUri
  document := script.document
  mail := script.mail

end PeerScript

end Workflow
