import Workflow.Fields
import Workflow.Number.Binary64
/-!
# JSON values

Values as they travel over the wire: objects keep the order in which their members came, and whole
numbers of up to 64 bits stay apart from numbers in floating point.

## Main definitions

* `Json` — the values.
* `Json.member? name`, `Json.at? path` — look-up by name and by a path of names and positions.
* `Json.merged` — an object's members with each name once: the first place, the last content.
-/

namespace Workflow

/-- A JSON value. -/
inductive Json where
  | null
  | bool (b : Bool)
  | int (n : Int)
  | float (x : Binary64)
  | string (s : String)
  | array (items : List Json)
  | object (members : List (String × Json))
  deriving Repr, Inhabited

namespace Json

/-- Put a content under a name, in the place the name has already, else at the end. -/
def put (members : List (String × Json)) (name : String) (content : Json) :
    List (String × Json) :=
  match members with
  | [] => [(name, content)]
  | (n, c) :: rest =>
    if n = name then (name, content) :: rest else (n, c) :: put rest name content

/-- Members with each name once. -/
def merged (members : List (String × Json)) : List (String × Json) :=
  members.foldl (fun done (name, content) => put done name content) []

/-- An object from members in the order given. -/
def ofMembers (members : List (String × Json)) : Json := .object (merged members)

/-- The member of an object under a name. -/
def member? : Json → String → Option Json
  | .object members, name => members.lookup name
  | _, _ => none

/-- The position that a path element stands for: decimal digits without a needless zero. -/
def position? (step : String) : Option Nat :=
  let ds := step.toList
  if ds.isEmpty || ! ds.all Char.isDigit || (ds.length > 1 && ds.head? == some '0') then none
  else some (ds.foldl (fun n d => 10 * n + (d.toNat - '0'.toNat)) 0)

/-- One step down: a member of an object, or an item of an array. -/
def step? : Json → String → Option Json
  | .object members, name => members.lookup name
  | .array items, name => (position? name).bind (items[·]?)
  | _, _ => none

/-- The value at the end of a path. -/
def at? (json : Json) (path : List String) : Option Json := path.foldlM step? json

def string? : Json → Option String
  | .string s => some s
  | _ => none

def bool? : Json → Option Bool
  | .bool b => some b
  | _ => none

def array? : Json → Option (List Json)
  | .array items => some items
  | _ => none

def object? : Json → Option (List (String × Json))
  | .object members => some members
  | _ => none

def isObject (json : Json) : Bool := json.object?.isSome

/-- The text under a name. -/
def text? (json : Json) (name : String) : Option String := (json.member? name).bind string?

mutual

/-- The same value with the members of every object in order of name. -/
def sorted : Json → Json
  | .array items => .array (sortedItems items)
  | .object members => .object (Fields.ofList (sortedMembers members))
  | json => json

def sortedItems : List Json → List Json
  | [] => []
  | item :: rest => sorted item :: sortedItems rest

def sortedMembers : List (String × Json) → List (String × Json)
  | [] => []
  | (name, content) :: rest => (name, sorted content) :: sortedMembers rest

end

end Json

end Workflow
