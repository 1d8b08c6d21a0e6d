import Workflow.Json
import Workflow.Number.Text
/-!
# JSON in writing

Two layouts: compact, without any space, and indented, with two spaces a level. In a string only the
quote, the backslash and the control characters below the space are escaped. A number that is not
finite is written as null.

## Main definitions

* `Json.compact` — the compact text.
* `Json.pretty` — the indented text.
-/

namespace Workflow.Json

def hexDigit (n : Nat) : Char := Nat.digitChar n

/-- The escape of a character inside a string, or the character itself. -/
def escapeChar (c : Char) : List Char :=
  match c with
  | '"' => ['\\', '"']
  | '\\' => ['\\', '\\']
  | '\n' => ['\\', 'n']
  | '\r' => ['\\', 'r']
  | '\t' => ['\\', 't']
  | _ =>
    if c.toNat = 0x08 then ['\\', 'b']
    else if c.toNat = 0x0C then ['\\', 'f']
    else if c.toNat < 0x20 then
      ['\\', 'u', '0', '0', hexDigit (c.toNat / 16), hexDigit (c.toNat % 16)]
    else [c]

/-- A string between quotes. -/
def quoted (s : String) : List Char := '"' :: s.toList.flatMap escapeChar ++ ['"']

/-- A value that is neither array nor object; an array or object has no text here. -/
def scalar : Json → List Char
  | .null => "null".toList
  | .bool b => (if b then "true" else "false").toList
  | .int n => (toString n).toList
  | .float x => (x.text?.getD "null").toList
  | .string s => quoted s
  | .array _ => []
  | .object _ => []

mutual

/-- The text without any space. -/
def write : Json → List Char
  | .array items => '[' :: writeItems items ++ [']']
  | .object members => '\x7b' :: writeMembers members ++ ['\x7d']
  | .null => scalar .null
  | .bool b => scalar (.bool b)
  | .int n => scalar (.int n)
  | .float x => scalar (.float x)
  | .string s => scalar (.string s)

def writeItems : List Json → List Char
  | [] => []
  | [item] => write item
  | item :: rest => write item ++ ',' :: writeItems rest

def writeMembers : List (String × Json) → List Char
  | [] => []
  | [(name, content)] => quoted name ++ ':' :: write content
  | (name, content) :: rest => quoted name ++ ':' :: write content ++ ',' :: writeMembers rest

end

/-- A new line, indented by a level. -/
def newLine (level : Nat) : List Char := '\n' :: List.replicate (2 * level) ' '

mutual

/-- The text with one item or member a line, from an indentation level on. -/
def writeIndented (level : Nat) : Json → List Char
  | .array items =>
    if items.isEmpty then ['[', ']']
    else '[' :: indentedItems (level + 1) items ++ newLine level ++ [']']
  | .object members =>
    if members.isEmpty then ['\x7b', '\x7d']
    else '\x7b' :: indentedMembers (level + 1) members ++ newLine level ++ ['\x7d']
  | .null => scalar .null
  | .bool b => scalar (.bool b)
  | .int n => scalar (.int n)
  | .float x => scalar (.float x)
  | .string s => scalar (.string s)

def indentedItems (level : Nat) : List Json → List Char
  | [] => []
  | [item] => newLine level ++ writeIndented level item
  | item :: rest => newLine level ++ writeIndented level item ++ ',' :: indentedItems level rest

def indentedMembers (level : Nat) : List (String × Json) → List Char
  | [] => []
  | [(name, content)] => newLine level ++ quoted name ++ ':' :: ' ' :: writeIndented level content
  | (name, content) :: rest =>
    newLine level ++ quoted name ++ ':' :: ' ' :: writeIndented level content
      ++ ',' :: indentedMembers level rest

end

/-- The compact text. -/
def compact (json : Json) : String := String.ofList (write json)

/-- The indented text. -/
def pretty (json : Json) : String := String.ofList (writeIndented 0 json)

end Workflow.Json
