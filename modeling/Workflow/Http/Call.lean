import Workflow.Bytes.Base64
import Workflow.Json.Printer
import Workflow.Url
import Workflow.World.Peers
/-!
# Calls over HTTP

A call becomes a request if it can be sent at all: its address has to be a URL of the web that is
not too long, its host may hold no character that would have to be escaped, and no header field a
control character. A user name in the address is a login.

## Main definitions

* `HttpCall` — an address with what is to be sent there.
* `HttpCall.request?` — the request as it goes out.
-/

namespace Workflow

/-- What a call carries. -/
inductive HttpContent where
  | none
  | json (content : Json)
  | form (pairs : List (String × String))
  deriving Repr

namespace HttpContent

def text : HttpContent → String
  | .none => ""
  | .json content => content.compact
  | .form pairs => String.ofList (Form.encode pairs)

/-- The header field that names the kind of content. -/
def headers : HttpContent → List (String × String)
  | .none => []
  | .json _ => [("content-type", "application/json")]
  | .form _ => [("content-type", "application/x-www-form-urlencoded")]

end HttpContent

/-- An address with what is to be sent there. -/
structure HttpCall where
  method : Method := .post
  address : String
  /-- Pairs to put behind the query of the address. -/
  query : List (String × String) := []
  headers : List (String × String) := []
  content : HttpContent := .none
  deriving Repr

namespace HttpCall

/-- The header field for a login with a key alone. -/
def bearer (key : String) : String × String := ("authorization", "Bearer " ++ key)

/-- The header field for a login with a user name, and a password if there is one. -/
def basic (user : String) (password : Option String) : String × String :=
  let pair := user ++ ":" ++ password.getD ""
  ("authorization", "Basic " ++ Base64.encodeString pair)

/-- An address below a base; slashes at the end of the base do not count. -/
def below (base path : String) : String :=
  String.ofList (base.toList.reverse.dropWhile (· = '/')).reverse ++ path

/-- The URL that the call goes to, a login included. -/
def target? (call : HttpCall) : Option Url :=
  ((Url.parse call.address).filter (Url.isWeb ·.scheme)).map fun url =>
    if call.query.isEmpty then url else url.withPairs call.query

/-- The text that an escaped part spells, if its bytes are a text. -/
def plain? (part : String) : Option String :=
  String.fromUTF8? ⟨(Percent.decode part.toList).toArray⟩

/-- The login in a URL. -/
def loginOf (url : Url) : List (String × String) :=
  match plain? url.username with
  | some user =>
    let password := if url.password = "" then none else plain? url.password
    if user = "" ∧ password.isNone then [] else [basic user password]
  | none => []

/-- The URL without the login. -/
def withoutLogin (url : Url) : Url := { url with username := "", password := "" }

/-- A host goes out if it is made of characters that a request line takes unescaped. -/
def isSendableHost (host : String) : Bool :=
  host.toList.all fun c => ! Percent.oneOf "\"\x60\x7b\x7d" c

/-- The length, in bytes, of the longest address that goes out. -/
def longestAddress : Nat := 65534

/-- A header field may hold any character but controls; a tab is none. -/
def isSendable (content : String) : Bool :=
  content.toList.all fun c => c == '\t' || (' '.toNat ≤ c.toNat && c.toNat ≠ 0x7F)

/-- A header field as it arrives, without blanks at its ends. -/
def arriving (content : String) : String :=
  let isEdge (c : Char) : Bool := c == ' ' || c == '\t'
  String.ofList ((content.toList.dropWhile isEdge).reverse.dropWhile isEdge).reverse

/-- The request as it goes out. -/
def request? (call : HttpCall) : Option HttpRequest := do
  let url ← call.target?
  let headers := loginOf url ++ call.headers ++ call.content.headers
  let target := withoutLogin url
  if isSendableHost url.host && target.text.utf8ByteSize ≤ longestAddress
      && headers.all fun header => isSendable header.2 then
    some {
      method := call.method
      url := { target with fragment := none }.text
      headers := headers.map fun (name, content) => (name, arriving content)
      body := call.content.text }
  else none

end HttpCall

end Workflow
