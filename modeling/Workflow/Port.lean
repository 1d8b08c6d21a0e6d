import Workflow.Text.Blank
import Workflow.Value
/-!
# Ports

A port is a whole number of 16 bits, or a text that spells one.

## Main definitions

* `Port.parse?` — the port that a text spells.
* `Port.ofValue?` — the port that a value stands for.
-/

namespace Workflow.Port

/-- The number that digits spell, behind a plus sign or not. -/
def digits? (cs : List Char) : Option Nat :=
  let digits := match cs with
    | '+' :: rest => rest
    | cs => cs
  if digits.isEmpty || ! digits.all Char.isDigit then none
  else some (digits.foldl (fun n d => 10 * n + (d.toNat - '0'.toNat)) 0)

def isPort (n : Nat) : Bool := n < Nat.pow 2 16

/-- The port that a text spells; blanks around it do not count. -/
def parse? (s : String) : Option Nat := (digits? (Text.trim s.toList)).filter isPort

/-- The port that a value stands for. -/
def ofValue? : Value → Option Nat
  | .string s => parse? s
  | value => value.nat64?.filter isPort

/-- The port under a name, or a default if there is none; a value that is no port is handed back. -/
def field (fields : Fields Value) (name : String) (default : Nat) : Except Value Nat :=
  match (Fields.get? fields name).filter (! ·.isNull) with
  | none => .ok default
  | some value =>
    match ofValue? value with
    | some port => .ok port
    | none => .error value

end Workflow.Port
