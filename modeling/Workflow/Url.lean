import Workflow.Url.Form
import Workflow.Url.Host
/-!
# URLs

Absolute URLs in normal form: the scheme and a domain in lower case, every part escaped as that part
requires, dot segments resolved, a default port left out. The two schemes of the web differ from
the others in that they need a host, take a backslash for a slash, and know a default port.

## Main definitions

* `Url` — a URL in parts.
* `Url.parse` — the URL that a text spells.
* `Url.text` — the URL in writing.
* `Url.withPort?`, `Url.withUser?`, `Url.withPassword?`, `Url.push` — changes of one part.
-/

namespace Workflow

/-- A URL with a hierarchy, in parts that are escaped already. An empty host is no host. -/
structure Url where
  scheme : String
  username : String := ""
  password : String := ""
  host : String := ""
  port : Option Nat := none
  /-- The segments; each is written behind a slash. -/
  path : List String := []
  query : Option String := none
  fragment : Option String := none
  deriving DecidableEq, Repr, Inhabited

namespace Url

/-- The schemes of the web. -/
def isWeb (scheme : String) : Bool := scheme = "http" || scheme = "https"

/-- The port that goes without saying. -/
def defaultPort? (scheme : String) : Option Nat :=
  if scheme = "http" then some 80 else if scheme = "https" then some 443 else none

/-! ## Writing -/

/-- User name and password, with the sign behind them. -/
def userinfoText (url : Url) : String :=
  if url.username = "" ∧ url.password = "" then ""
  else url.username ++ (if url.password = "" then "" else ":" ++ url.password) ++ "@"

def portText (url : Url) : String :=
  match url.port with
  | some port => ":" ++ toString port
  | none => ""

def pathText (url : Url) : String := String.join (url.path.map ("/" ++ ·))

/-- A part behind its mark, if it is there. -/
def marked (mark : String) (part : Option String) : String :=
  match part with
  | some part => mark ++ part
  | none => ""

/-- The URL in writing. -/
def text (url : Url) : String :=
  url.scheme ++ "://" ++ url.userinfoText ++ url.host ++ url.portText ++ url.pathText
    ++ marked "?" url.query ++ marked "#" url.fragment

/-! ## Reading -/

/-- Text before a mark and, if the mark occurs, the text behind it. -/
def splitOnce (mark : Char) (cs : List Char) : List Char × Option (List Char) :=
  match cs.dropWhile (· ≠ mark) with
  | [] => (cs, none)
  | _ :: after => (cs.takeWhile (· ≠ mark), some after)

/-- Text before the last mark, if the mark occurs, and the text behind it. -/
def splitLast (mark : Char) (cs : List Char) : Option (List Char) × List Char :=
  match splitOnce mark cs.reverse with
  | (after, some before) => (some before.reverse, after.reverse)
  | (_, none) => (none, cs)

/-- Characters that are dropped wherever they stand. -/
def isDropped (c : Char) : Bool := c == '\t' || c == '\n' || c == '\r'

/-- Without controls and spaces at the ends, and without tabs and line ends. -/
def cleaned (cs : List Char) : List Char :=
  let isEdge (c : Char) : Bool := c.toNat ≤ 0x20
  (((cs.dropWhile isEdge).reverse.dropWhile isEdge).reverse).filter (! isDropped ·)

/-- The scheme, in lower case, and what stands behind its colon. -/
def scheme? (cs : List Char) : Option (String × List Char) :=
  match splitOnce ':' cs with
  | (c :: name, some rest) =>
    if c.isAlpha && name.all (fun c => c.isAlphanum || c == '+' || c == '-' || c == '.') then
      some (String.ofList ((c :: name).map Char.toLower), rest)
    else none
  | _ => none

/-- What stands between the slashes in front of the authority and the path, and the path. -/
def authority? (web : Bool) (cs : List Char) : Option (List Char × List Char) :=
  let isSlash (c : Char) : Bool := c == '/' || (web && c == '\\')
  let behind := match web, cs with
    | true, cs => some (cs.dropWhile isSlash)
    | false, '/' :: '/' :: rest => some rest
    | false, _ => none
  behind.map fun cs => (cs.takeWhile (! isSlash ·), cs.dropWhile (! isSlash ·))

/-- A colon that does not stand between square brackets, and what is before and behind it. -/
def splitPort (inside : Bool) : List Char → List Char × Option (List Char)
  | [] => ([], none)
  | c :: cs =>
    if c = ':' ∧ ! inside then ([], some cs)
    else
      let inside := if c = '[' then true else if c = ']' then false else inside
      let (before, after) := splitPort inside cs
      (c :: before, after)

/-- The port that digits spell; none at all is no port. -/
def port? (scheme : String) (digits : Option (List Char)) : Option (Option Nat) :=
  match digits with
  | none => some none
  | some digits =>
    if digits.isEmpty then some none
    else if ! digits.all Char.isDigit then none
    else do
      let n ← Host.numberIn? 10 digits
      if 65535 < n then none
      else some (if defaultPort? scheme = some n then none else some n)

/-- A segment that stands for the directory it is in. -/
def isSingleDot (segment : String) : Bool :=
  let s := segment.toLower
  s = "." || s = "%2e"

/-- A segment that stands for the directory above. -/
def isDoubleDot (segment : String) : Bool :=
  let s := segment.toLower
  s = ".." || s = ".%2e" || s = "%2e." || s = "%2e%2e"

/-- A segment that names a drive: a letter with a colon or a bar. -/
def isDrive (segment : String) : Bool :=
  match segment.toList with
  | [letter, mark] => letter.isAlpha && (mark == ':' || mark == '|')
  | _ => false

/-- The segments of the directory above. There is none above the root or a drive. -/
def above (done : List String) : List String :=
  if done.getLast?.any isDrive then done else done.dropLast

/-- Segments put behind others; dot segments are resolved, and leave an empty one at the end. -/
def resolve (done : List String) : List String → List String
  | [] => done
  | segment :: rest =>
    let done' :=
      if isDoubleDot segment then above done else if isSingleDot segment then done
      else done ++ [segment]
    if rest.isEmpty && (isDoubleDot segment || isSingleDot segment) then done' ++ [""]
    else resolve done' rest

/-- The segments of a path in writing. -/
def segments (web : Bool) (cs : List Char) : List String :=
  let isSlash (c : Char) : Bool := c == '/' || (web && c == '\\')
  match cs with
  | [] => if web then [""] else []
  | _ :: rest =>
    let slices := Host.splitAt '/' (rest.map fun c => if isSlash c then '/' else c)
    resolve [] (slices.map fun slice => String.ofList (Percent.encode Percent.inPath slice))

/-- The URL that a text spells; nothing if it spells none with a hierarchy. -/
def parse (s : String) : Option Url := do
  let (scheme, rest) ← scheme? (cleaned s.toList)
  let web := isWeb scheme
  let (rest, fragment) := splitOnce '#' rest
  let (rest, query) := splitOnce '?' rest
  let (authority, path) ← authority? web rest
  let (userinfo, hostport) := splitLast '@' authority
  let (user, password) := splitOnce ':' (userinfo.getD [])
  let (hostText, behindColon) := splitPort false hostport
  let digits := behindColon.map (·.takeWhile (· ≠ '\\'))
  let path := match (behindColon.getD []).dropWhile (· ≠ '\\') with
    | [] => path
    | extra => '/' :: extra ++ path
  if hostText.isEmpty && (web || userinfo.isSome || digits.isSome) then none
  else
    let host ← if hostText.isEmpty then some "" else Host.normal? web hostText
    let port ← port? scheme digits
    let escaped (set : Char → Bool) (cs : List Char) : String :=
      String.ofList (Percent.encode set cs)
    some {
      scheme, host, port
      username := escaped Percent.inUserinfo user
      password := escaped Percent.inUserinfo (password.getD [])
      path := segments web path
      query := query.map (escaped (if web then Percent.inWebQuery else Percent.inQuery))
      fragment := fragment.map (escaped Percent.inFragment) }

/-! ## Changes -/

/-- Put a port in; a URL without host takes none. -/
def withPort? (url : Url) (port : Nat) : Option Url :=
  if url.host = "" then none
  else some { url with port := if defaultPort? url.scheme = some port then none else some port }

/-- Put a user name in; a URL without host takes none. -/
def withUser? (url : Url) (user : String) : Option Url :=
  if url.host = "" then none
  else some { url with username := String.ofList (Percent.encode Percent.inUserinfo user.toList) }

/-- Put a password in, or take it out; a URL without host takes none. -/
def withPassword? (url : Url) (password : Option String) : Option Url :=
  if url.host = "" then none
  else some { url with
    password := String.ofList (Percent.encode Percent.inUserinfo (password.getD "").toList) }

/-- Put a segment behind the path. A lone dot or two add nothing; tabs and line ends are dropped. -/
def push (url : Url) (segment : String) : Url :=
  if segment = "." ∨ segment = ".." then url
  else
    let kept := segment.toList.filter (! isDropped ·)
    let slice := String.ofList (Percent.encode Percent.inSegment kept)
    let base := if url.path = [""] then [] else url.path
    { url with path :=
        if isDoubleDot slice then above base ++ [""]
        else if isSingleDot slice then base ++ [""]
        else base ++ [slice] }

/-- Put pairs behind the query, form encoded. -/
def withPairs (url : Url) (pairs : List (String × String)) : Url :=
  let added := String.ofList (Form.encode pairs)
  { url with query := some (match url.query with
      | none => added
      | some "" => added
      | some query => query ++ "&" ++ added) }

end Url

end Workflow
