import Workflow.Json.Reader
import Workflow.Json.Printer
/-!
# Values

What nodes hand on, and what their parameters hold. Whole numbers of 64 bits are exact; every other
number is in floating point. Objects are kept in order of name.

## Main definitions

* `Value` — the values.
* `Value.ofJson`, `Value.toJson` — from and to the wire.
* `Value.parse` — a text that is one value, read without JSON in between.
* `Value.text` — the value as text: strings bare, all else compact JSON.
* `Value.int64?`, `Value.nat64?` — the numbers without fraction in the range of 64 bits.
-/

namespace Workflow

/-- A dynamic value. -/
inductive Value where
  | null
  | bool (b : Bool)
  | int (n : Int64)
  | number (x : Binary64)
  | string (s : String)
  | array (items : List Value)
  | object (fields : List (String × Value))
  deriving Repr, Inhabited

namespace Value

/-- The whole number `n` if 64 bits with a sign hold it. -/
def int64OfInt? (n : Int) : Option Int64 :=
  if -Int.pow 2 63 ≤ n ∧ n < Int.pow 2 63 then some (Int64.ofInt n) else none

/-- A whole number: exact in the range of 64 bits, else in floating point. -/
def ofInt (n : Int) : Value :=
  match int64OfInt? n with
  | some i => .int i
  | none => .number (.ofInt n)

/-- A count. -/
def ofNat (n : Nat) : Value := ofInt n

mutual

/-- The value that a JSON value stands for; of a repeated name the last content counts. -/
def ofJson : Json → Value
  | .null => .null
  | .bool b => .bool b
  | .int n => ofInt n
  | .float x => .number x
  | .string s => .string s
  | .array items => .array (ofItems items)
  | .object members => .object (Fields.ofList (ofMembers members))

def ofItems : List Json → List Value
  | [] => []
  | item :: rest => ofJson item :: ofItems rest

def ofMembers : List (String × Json) → List (String × Value)
  | [] => []
  | (name, content) :: rest => (name, ofJson content) :: ofMembers rest

end

/-- The whole number of a JSON value if 64 bits with a sign hold it. -/
def whole? : Json → Option Int64
  | .int n => int64OfInt? n
  | _ => none

/-- Any number of a JSON value, in floating point. -/
def float? : Json → Option Binary64
  | .int n => some (.ofInt n)
  | .float x => some x
  | _ => none

mutual

/-- The value as it is read from a text: nothing in the text tells which kind it is, so each kind is
tried in turn, and the first that takes the JSON value as it is has it. -/
def untagged? (json : Json) : Option Value :=
  (match json with
    | .null => some .null
    | _ => none)
  <|> json.bool?.map .bool
  <|> (whole? json).map .int
  <|> (float? json).map .number
  <|> json.string?.map .string
  <|> (match json with
    | .array items => (untaggedItems items).map .array
    | _ => none)
  <|> (match json with
    | .object members => (untaggedMembers members).map fun fields => .object (Fields.ofList fields)
    | _ => none)

def untaggedItems : List Json → Option (List Value)
  | [] => some []
  | item :: rest => do return (← untagged? item) :: (← untaggedItems rest)

def untaggedMembers : List (String × Json) → Option (List (String × Value))
  | [] => some []
  | (name, content) :: rest => do return (name, ← untagged? content) :: (← untaggedMembers rest)

end

/-- The value that a text consists of. -/
def parse (text : String) : Option Value := do untagged? (← Json.parseVerbatim text)

mutual

/-- The value on the wire; a number that is not finite becomes null. -/
def toJson : Value → Json
  | .null => .null
  | .bool b => .bool b
  | .int n => .int n.toInt
  | .number x => if x.isFinite then .float x else .null
  | .string s => .string s
  | .array items => .array (toItems items)
  | .object fields => .object (toMembers fields)

def toItems : List Value → List Json
  | [] => []
  | item :: rest => toJson item :: toItems rest

def toMembers : List (String × Value) → List (String × Json)
  | [] => []
  | (name, content) :: rest => (name, toJson content) :: toMembers rest

end

/-- An object from fields in any order. -/
def ofFields (fields : List (String × Value)) : Value := .object (Fields.ofList fields)

def isNull : Value → Bool
  | .null => true
  | _ => false

def string? : Value → Option String
  | .string s => some s
  | _ => none

/-- Any number, in floating point. -/
def number? : Value → Option Binary64
  | .int n => some (.ofInt n.toInt)
  | .number x => some x
  | _ => none

/-- A number without fraction that 64 bits with a sign hold. -/
def int64? : Value → Option Int64
  | .int n => some n
  | .number x => x.toInt?.bind int64OfInt?
  | _ => none

/-- A number without fraction, not negative, that 64 bits hold. -/
def nat64? : Value → Option Nat
  | .int n => if 0 ≤ n.toInt then some n.toInt.toNat else none
  | .number x => x.toInt?.bind fun n => if 0 ≤ n ∧ n < Int.pow 2 64 then some n.toNat else none
  | _ => none

def bool? : Value → Option Bool
  | .bool b => some b
  | _ => none

def array? : Value → Option (List Value)
  | .array items => some items
  | _ => none

def object? : Value → Option (Fields Value)
  | .object fields => some fields
  | _ => none

/-- The content of an object under a name. -/
def get? (value : Value) (name : String) : Option Value :=
  value.object?.bind fun fields => Fields.get? fields name

/-- Strings bare, all else as compact JSON. -/
def text : Value → String
  | .string s => s
  | value => value.toJson.compact

end Value

end Workflow
