import Workflow.Failure
import Workflow.Text.Blank
import Workflow.Text.Quoted
import Workflow.Value
/-!
# Parameters and credentials

The named options bound to one node, and the credentials of one run. A null counts as absent. A
parameter that is present with the wrong type is refused; a credential of the wrong type counts as
missing.

## Main definitions

* `Params` — a node's options, with one typed getter for each type.
* `Credentials` — secrets by provider.
-/

namespace Workflow

/-- The options bound to one node. -/
structure Params where
  fields : Fields Value := []
  deriving Repr, Inhabited

namespace Params

/-- A text that is there and not blank. -/
def filled (s : Option String) : Option String := s.filter (! Text.blankString ·)

def insert (params : Params) (name : String) (value : Value) : Params :=
  ⟨params.fields.insert name value⟩

def ofList (pairs : List (String × Value)) : Params := ⟨Fields.ofList pairs⟩

def toValue (params : Params) : Value := .object params.fields

/-- The value under a name, unless that is null. -/
def get? (params : Params) (name : String) : Option Value :=
  (Fields.get? params.fields name).filter (! ·.isNull)

/-- The value under a name in the shape that `extract` accepts. -/
def typed {α : Type} (params : Params) (name expected : String) (extract : Value → Option α) :
    Except Failure (Option α) :=
  match params.get? name with
  | none => .ok none
  | some value =>
    match extract value with
    | some a => .ok (some a)
    | none => .error (.invalidParam name ("expected " ++ expected))

def string (params : Params) (name : String) : Except Failure (Option String) :=
  params.typed name "string" Value.string?

/-- A string; a blank one counts as absent. -/
def filledString (params : Params) (name : String) : Except Failure (Option String) := do
  return filled (← params.string name)

def number (params : Params) (name : String) : Except Failure (Option Binary64) :=
  params.typed name "number" Value.number?

def nat (params : Params) (name : String) : Except Failure (Option Nat) :=
  params.typed name "non-negative integer" Value.nat64?

def bool (params : Params) (name : String) : Except Failure (Option Bool) :=
  params.typed name "boolean" Value.bool?

def array (params : Params) (name : String) : Except Failure (Option (List Value)) :=
  params.typed name "array" Value.array?

/-- A string that has to be there and not be blank. -/
def requiredString (params : Params) (name : String) : Except Failure String := do
  match ← params.filledString name with
  | some s => return s
  | none => throw (.missingParam name)

/-- A number between two whole numbers, both included. -/
def numberBetween (params : Params) (name : String) (least most : Int) :
    Except Failure (Option Binary64) := do
  match ← params.number name with
  | none => return none
  | some x =>
    if x.lt (.ofInt least) || (Binary64.ofInt most).lt x then
      throw (.invalidParam name ("must be between " ++ toString least ++ " and " ++ toString most))
    else return some x

/-- The first of several names under which a filled string stands. -/
def firstFilled (params : Params) : List String → Except Failure (Option String)
  | [] => return none
  | name :: rest => do
    match ← params.filledString name with
    | some s => return some s
    | none => params.firstFilled rest

end Params

/-- The credentials of one run, by provider. -/
structure Credentials where
  fields : Fields Value := []
  deriving Repr, Inhabited

namespace Credentials

def insert (credentials : Credentials) (provider : String) (value : Value) : Credentials :=
  ⟨credentials.fields.insert provider value⟩

def toValue (credentials : Credentials) : Value := .object credentials.fields

/-- The credential of a provider, unless that is null. -/
def get? (credentials : Credentials) (provider : String) : Option Value :=
  (Fields.get? credentials.fields provider).filter (! ·.isNull)

/-- The credential of a provider if it is a string and not blank. -/
def string? (credentials : Credentials) (provider : String) : Option String :=
  Params.filled ((credentials.get? provider).bind Value.string?)

/-- The credential of a provider in the shape that `extract` accepts; any other is missing. -/
def require {α : Type} (provider : String) (found : Option α) : Except Failure α :=
  match found with
  | some a => .ok a
  | none => .error (.missingCredential provider)

def requiredString (credentials : Credentials) (provider : String) : Except Failure String :=
  require provider (credentials.string? provider)

def requiredObject (credentials : Credentials) (provider : String) :
    Except Failure (Fields Value) :=
  require provider ((credentials.get? provider).bind Value.object?)

/-- The providers, in order. -/
def providers (credentials : Credentials) : List String := credentials.fields.names

/-- The credentials for diagnostics: the providers alone, never a secret. -/
def diagnostics (credentials : Credentials) : String := Text.quotedSet credentials.providers

end Credentials

end Workflow
