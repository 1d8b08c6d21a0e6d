import Workflow.Bytes.Hex
import Workflow.Bytes.Utf16
import Workflow.Json.Number
/-!
# Reading JSON

Space, tab, line feed and carriage return may stand between tokens. Arrays and objects may nest to a
given depth. A string may not hold control characters or half of a surrogate pair. A value that is
skipped is held to the grammar only: any depth, any number, any escape.

## Main definitions

* `Json.Reader.value depth` — the value at the start of a text, and the rest.
* `Json.Reader.verbatim depth` — the same, but a name may come twice in an object.
* `Json.Reader.skip` — the rest behind a value that nobody looks at.
* `Json.parse`, `Json.parseVerbatim` — a text that is one value.
-/

namespace Workflow.Json

namespace Reader

/-- Arrays and objects nest up to this depth. -/
def maxDepth : Nat := 127

def isSpace (c : Char) : Bool := c == ' ' || c == '\t' || c == '\n' || c == '\r'

def skipSpace (cs : List Char) : List Char := cs.dropWhile isSpace

/-- The 16-bit unit that four digits spell. -/
def unit? (a b c d : Char) : Option Nat := do
  some ((((← Hex.value? a) * 16 + (← Hex.value? b)) * 16 + (← Hex.value? c)) * 16
    + (← Hex.value? d))

/-- The character behind a backslash, apart from `u`. -/
def simpleEscape? (c : Char) : Option Char :=
  match c with
  | '"' => some '"'
  | '\\' => some '\\'
  | '/' => some '/'
  | 'b' => some '\x08'
  | 'f' => some '\x0c'
  | 'n' => some '\n'
  | 'r' => some '\r'
  | 't' => some '\t'
  | _ => none

/-- A read character in front of what the rest of the string holds. -/
def before (c : Char) (r : Option (List Char × List Char)) : Option (List Char × List Char) :=
  r.map fun (s, rest) => (c :: s, rest)

/-- The characters of a string up to its closing quote, and what stands behind that. -/
def stringBody : List Char → Option (List Char × List Char)
  | '"' :: cs => some ([], cs)
  | '\\' :: 'u' :: a :: b :: c :: d :: cs => do
    let n ← unit? a b c d
    if Utf16.isHigh n then
      match cs with
      | '\\' :: 'u' :: e :: f :: g :: h :: cs =>
        let m ← unit? e f g h
        if Utf16.isLow m then before (Utf16.pair n m) (stringBody cs) else none
      | _ => none
    else if Utf16.isLow n then none
    else before (Char.ofNat n) (stringBody cs)
  | '\\' :: c :: cs => do before (← simpleEscape? c) (stringBody cs)
  | c :: cs => if c.toNat < 0x20 || c == '\\' then none else before c (stringBody cs)
  | [] => none

/-- What stands behind the closing quote of a string that nobody looks at. -/
def skipString : List Char → Option (List Char)
  | '"' :: cs => some cs
  | '\\' :: 'u' :: a :: b :: c :: d :: cs => do
    let _ ← unit? a b c d
    skipString cs
  | '\\' :: c :: cs => do
    let _ ← simpleEscape? c
    skipString cs
  | c :: cs => if c.toNat < 0x20 || c == '\\' then none else skipString cs
  | [] => none

/-- A string with both quotes. -/
def string (cs : List Char) : Option (String × List Char) :=
  match cs with
  | '"' :: cs => (stringBody cs).map fun (s, rest) => (String.ofList s, rest)
  | _ => none

/-- The rest behind a fixed word. -/
def word (w : String) (cs : List Char) : Option (List Char) := w.toList.isPrefixOf? cs

/-- The items between commas up to a closing character, the first of them next. -/
def listed {α : Type} (close : Char) (item : List Char → Option (α × List Char)) :
    Nat → List Char → Option (List α × List Char)
  | 0, _ => none
  | fuel + 1, cs => do
    let (a, cs) ← item (skipSpace cs)
    match skipSpace cs with
    | [] => none
    | c :: cs =>
      if c = ',' then (listed close item fuel cs).map fun (as, rest) => (a :: as, rest)
      else if c = close then some ([a], cs)
      else none

/-- The items behind an opening character up to the closing one, perhaps none. -/
def listRest {α : Type} (close : Char) (item : List Char → Option (α × List Char))
    (cs : List Char) : Option (List α × List Char) :=
  match skipSpace cs with
  | [] => none
  | c :: cs => if c = close then some ([], cs) else listed close item (cs.length + 1) (c :: cs)

/-- A member, its name next. What a content is may depend on its name. -/
def member {ν α : Type} (name : List Char → Option (ν × List Char))
    (content : ν → List Char → Option (α × List Char)) (cs : List Char) :
    Option ((ν × α) × List Char) := do
  let (n, cs) ← name cs
  match skipSpace cs with
  | ':' :: cs => (content n (skipSpace cs)).map fun (a, rest) => ((n, a), rest)
  | _ => none

/-- The items of an array behind its opening bracket. -/
def arrayRest {α : Type} (item : List Char → Option (α × List Char)) :
    List Char → Option (List α × List Char) :=
  listRest ']' item

/-- The members of an object behind its opening brace. -/
def objectRest {ν α : Type} (name : List Char → Option (ν × List Char))
    (content : ν → List Char → Option (α × List Char)) :
    List Char → Option (List (ν × α) × List Char) :=
  listRest '\x7d' (member name content)

/-- A value that is neither array nor object. -/
def plain (cs : List Char) : Option (Json × List Char) :=
  match cs with
  | 'n' :: _ => (word "null" cs).map fun rest => (.null, rest)
  | 't' :: _ => (word "true" cs).map fun rest => (.bool true, rest)
  | 'f' :: _ => (word "false" cs).map fun rest => (.bool false, rest)
  | '"' :: _ => (string cs).map fun (s, rest) => (.string s, rest)
  | _ => do
    let (literal, rest) ← NumberLiteral.read cs
    some (← literal.value?, rest)

/-- The value at the start of a text, of at most the given depth, with a way to make an object of
the members as they come. -/
def valueWith (object : List (String × Json) → Json) : Nat → List Char → Option (Json × List Char)
  | 0, cs =>
    match cs with
    | '[' :: _ => none
    | '\x7b' :: _ => none
    | cs => plain cs
  | depth + 1, cs =>
    match cs with
    | '[' :: cs =>
      (arrayRest (valueWith object depth) cs).map fun (items, rest) => (.array items, rest)
    | '\x7b' :: cs =>
      (objectRest string (fun _ => valueWith object depth) cs).map fun (members, rest) =>
        (object members, rest)
    | cs => plain cs

/-- The value at the start of a text; every object has each name once. -/
def value : Nat → List Char → Option (Json × List Char) := valueWith ofMembers

/-- The value at the start of a text, with the members of every object as they come. -/
def verbatim : Nat → List Char → Option (Json × List Char) := valueWith .object

/-- A string that nobody looks at. -/
def skippedString (cs : List Char) : Option (Unit × List Char) :=
  match cs with
  | '"' :: cs => (skipString cs).map fun rest => ((), rest)
  | _ => none

/-- A value that nobody looks at, neither array nor object. -/
def skippedPlain (cs : List Char) : Option (Unit × List Char) :=
  match cs with
  | '"' :: _ => skippedString cs
  | 'n' :: _ => (word "null" cs).map fun rest => ((), rest)
  | 't' :: _ => (word "true" cs).map fun rest => ((), rest)
  | 'f' :: _ => (word "false" cs).map fun rest => ((), rest)
  | _ => (NumberLiteral.read cs).map fun (_, rest) => ((), rest)

/-- A value that nobody looks at, of at most the given depth. -/
def skippedValue : Nat → List Char → Option (Unit × List Char)
  | 0, cs => skippedPlain cs
  | depth + 1, cs =>
    match cs with
    | '[' :: cs => (arrayRest (skippedValue depth) cs).map fun (_, rest) => ((), rest)
    | '\x7b' :: cs =>
      (objectRest skippedString (fun _ => skippedValue depth) cs).map fun (_, rest) => ((), rest)
    | cs => skippedPlain cs

/-- The rest behind a value that nobody looks at; its depth is bounded by the text alone. -/
def skip (cs : List Char) : Option (List Char) := (skippedValue cs.length cs).map Prod.snd

/-- What a text consists of, space around it apart. -/
def whole {α : Type} (read : List Char → Option (α × List Char)) (cs : List Char) : Option α := do
  let (a, rest) ← read (skipSpace cs)
  if (skipSpace rest).isEmpty then some a else none

end Reader

/-- The value that a text consists of. -/
def parse (text : String) : Option Json := Reader.whole (Reader.value Reader.maxDepth) text.toList

/-- The value that a text consists of, with the members of every object as they come. -/
def parseVerbatim (text : String) : Option Json :=
  Reader.whole (Reader.verbatim Reader.maxDepth) text.toList

end Workflow.Json
