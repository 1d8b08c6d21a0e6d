import Workflow.Port
import Workflow.Url
/-!
# Where connection strings lead

The URL of an SQL database names a host and a port, and pairs in its query may name others or ask
for encryption. The URI of a document database names one or more hosts; its options are pairs of
known names.

## Main definitions

* `SqlTarget.ofUrl?` — where the URL of an SQL database leads.
* `DocumentTarget.parse?` — where the URI of a document database leads.
-/

namespace Workflow

/-- Where the URL of an SQL database leads. -/
structure SqlTarget where
  host : String := "localhost"
  port : Nat := 5432
  /-- Whether nothing but an encrypted connection will do. -/
  isEncrypted : Bool := false
  deriving DecidableEq, Repr

namespace SqlTarget

/-- Whether an escaped part spells a text. -/
def isText (part : String) : Bool :=
  (String.fromUTF8? ⟨(Percent.decode part.toList).toArray⟩).isSome

/-- Whether a kind of encryption will do with nothing less. -/
def encryption? (kind : String) : Option Bool :=
  match Text.lowerAscii kind with
  | "disable" | "allow" | "prefer" => some false
  | "require" | "verify-ca" | "verify-full" => some true
  | _ => none

/-- A number of 64 bits in writing. -/
def isSize (s : String) : Bool := (Port.digits? s.toList).any (· < Nat.pow 2 64)

/-- A number of a byte in decimal, without a zero in front. -/
def isByte (cs : List Char) : Bool :=
  ! cs.isEmpty && cs.length ≤ 3 && cs.all Char.isDigit && (cs.length = 1 || cs.head? ≠ some '0')
    && (Host.numberIn? 10 cs).any (· < 256)

/-- A numeric address of either version. -/
def isAddress (s : String) : Bool :=
  let parts := Host.splitAt '.' s.toList
  (parts.length = 4 && parts.all isByte) || (Host.address6? s.toList).isSome

/-- The target with one setting of the query taken into account; nothing if it is out of place. -/
def set? (target : SqlTarget) (setting : String × String) : Option SqlTarget :=
  let (name, value) := setting
  match name with
  | "sslmode" | "ssl-mode" => (encryption? value).map ({ target with isEncrypted := · })
  | "statement-cache-capacity" => if isSize value then some target else none
  | "host" => some { target with host := value }
  | "hostaddr" => if isAddress value then some { target with host := value } else none
  | "port" =>
    ((Port.digits? value.toList).filter Port.isPort).map ({ target with port := · })
  | _ => some target

/-- Where the URL of an SQL database leads. -/
def ofUrl? (url : Url) : Option SqlTarget :=
  if [url.host, url.username, url.password].all isText && url.path.all isText then
    let target : SqlTarget := {}
    let target := { target with
      host := if url.host = "" then target.host else url.host
      port := url.port.getD target.port }
    (Form.decode (url.query.getD "").toList).foldlM set? target
  else none

end SqlTarget

/-- Where the URI of a document database leads. -/
structure DocumentTarget where
  /-- Hosts with their ports. -/
  hosts : List (String × Nat)
  deriving DecidableEq, Repr

namespace DocumentTarget

def defaultPort : Nat := 27017

/-- A host, and a port behind a colon. -/
def host? (cs : List Char) : Option (String × Nat) :=
  match Host.splitAt ':' cs with
  | [host] =>
    if host.isEmpty then none else some (Text.lowerAscii (String.ofList host), defaultPort)
  | [host, digits] => do
    let port ← (Port.digits? digits).filter Port.isPort
    if host.isEmpty || port = 0 then none
    else some (Text.lowerAscii (String.ofList host), port)
  | _ => none

/-- Options that are true or false. -/
def switches : List String :=
  ["directconnection", "journal", "loadbalanced", "retryreads", "retrywrites", "ssl", "tls",
    "tlsinsecure", "tlsallowinvalidcertificates"]

/-- Options that are whole numbers. -/
def numbers : List String :=
  ["connecttimeoutms", "heartbeatfrequencyms", "localthresholdms", "maxconnecting",
    "maxidletimems", "maxpoolsize", "maxstalenessseconds", "minpoolsize",
    "serverselectiontimeoutms", "sockettimeoutms", "waitqueuetimeoutms", "wtimeoutms",
    "zlibcompressionlevel"]

/-- Options that are texts. -/
def texts : List String :=
  ["appname", "authmechanism", "authmechanismproperties", "authsource", "compressors",
    "readconcernlevel", "readpreference", "readpreferencetags", "replicaset", "srvmaxhosts",
    "srvservicename", "tlscafile", "tlscertificatekeyfile", "uuidrepresentation", "w"]

/-- A pair of a known name and a value that goes with it. -/
def isOption (cs : List Char) : Bool :=
  match cs.dropWhile (· ≠ '=') with
  | _ :: value =>
    let name := Text.lowerAscii (String.ofList (cs.takeWhile (· ≠ '=')))
    let value := String.ofList value
    if switches.contains name then value = "true" || value = "false"
    else if numbers.contains name then (Port.digits? value.toList).isSome
    else texts.contains name
  | [] => false

/-- Where the URI of a document database leads; nothing if it is none. Options stand behind a slash
and a question mark. -/
def parse? (uri : String) : Option DocumentTarget := do
  let rest ← "mongodb://".toList.isPrefixOf? uri.toList
  let (authority, behind) := Url.splitOnce '/' rest
  let (_, options) := Url.splitOnce '?' (behind.getD [])
  let (_, hosts) := Url.splitLast '@' authority
  if authority.contains '?' then none
  else
    let hosts ← (Host.splitAt ',' hosts).mapM host?
    let options := options.getD []
    if options.isEmpty || (Host.splitAt '&' options).all isOption then some { hosts } else none

end DocumentTarget

end Workflow
