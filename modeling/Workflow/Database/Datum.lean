import Workflow.Bytes.Base64
import Workflow.Bytes.Hex
import Workflow.Database.Moment
import Workflow.Json.Number
import Workflow.Number.Decimal128
import Workflow.Text.Blank
/-!
# Data of document databases

A document database has types that JSON lacks. Data travel as JSON all the same: an object whose
only name is a mark, such as `$oid`, stands for a datum of the type that the mark names. Numbers
need no mark if JSON can write them, and moments from 1970 to 9999 are marked texts.

## Main definitions

* `Datum`, `Document` — a value in a document database, and named values.
* `Datum.ofJson` — the datum that JSON stands for.
* `Datum.relaxed` — a datum as JSON, with as few marks as possible.
-/

namespace Workflow

/-- A value in a document database. -/
inductive Datum where
  | null
  | bool (b : Bool)
  | int32 (n : Int)
  | int64 (n : Int)
  | double (x : Binary64)
  | decimal (x : Decimal128)
  | string (s : String)
  | symbol (s : String)
  | array (items : List Datum)
  | document (members : List (String × Datum))
  | objectId (bytes : List UInt8)
  | binary (bytes : List UInt8) (subtype : UInt8)
  | moment (moment : Moment)
  | timestamp (seconds counter : Nat)
  /-- A pattern for texts. -/
  | pattern (source options : String)
  | code (source : String)
  | scopedCode (source : String) (scope : List (String × Datum))
  /-- A document of another collection. -/
  | pointer (collection : String) (identifier : List UInt8)
  | undefined
  /-- Below every other value. -/
  | least
  /-- Above every other value. -/
  | greatest
  deriving Repr

/-- Values by name. -/
abbrev Document := List (String × Datum)

namespace Datum

/-- The name of a datum's type. -/
def typeName : Datum → String
  | null => "Null"
  | bool _ => "Boolean"
  | int32 _ => "Int32"
  | int64 _ => "Int64"
  | double _ => "Double"
  | decimal _ => "Decimal128"
  | string _ => "String"
  | symbol _ => "Symbol"
  | array _ => "Array"
  | document _ => "EmbeddedDocument"
  | objectId _ => "ObjectId"
  | binary .. => "Binary"
  | moment _ => "DateTime"
  | timestamp .. => "Timestamp"
  | pattern .. => "RegularExpression"
  | code _ => "JavaScriptCode"
  | scopedCode .. => "JavaScriptCodeWithScope"
  | pointer .. => "DbPointer"
  | undefined => "Undefined"
  | least => "MinKey"
  | greatest => "MaxKey"

def document? : Datum → Option Document
  | document members => some members
  | _ => none

def string? : Datum → Option String
  | string s => some s
  | _ => none

def whole? : Datum → Option Int
  | int32 n => some n
  | int64 n => some n
  | _ => none

/-! ## Reading -/

/-- The whole number that decimal digits with a sign or without spell. -/
def wholeNumber? (s : String) : Option Int :=
  let (negative, ds) := match s.toList with
    | '-' :: cs => (true, cs)
    | '+' :: cs => (false, cs)
    | cs => (false, cs)
  if ds.isEmpty || ! ds.all Char.isDigit then none
  else
    let n := ds.foldl (fun n d => 10 * n + (d.toNat - '0'.toNat)) 0
    some (if negative then -n else n)

/-- The whole number that a text spells, if so many bits with a sign hold it. -/
def wholeOf? (bits : Nat) (s : String) : Option Int :=
  (wholeNumber? s).filter fun n => decide (-Int.pow 2 (bits - 1) ≤ n ∧ n < Int.pow 2 (bits - 1))

/-- The number in floating point that a text spells. The digits on one side of the point may be
missing. -/
def double? (s : String) : Option Binary64 :=
  let (negative, cs) := match s.toList with
    | '-' :: cs => (true, cs)
    | '+' :: cs => (false, cs)
    | cs => (false, cs)
  let name := Text.lowerAscii (String.ofList cs)
  if name = "nan" then some .nan
  else if name = "inf" ∨ name = "infinity" then some (.infinite negative)
  else
    let whole := cs.takeWhile Char.isDigit
    let (fraction, rest) := match cs.dropWhile Char.isDigit with
      | '.' :: rest => (rest.takeWhile Char.isDigit, rest.dropWhile Char.isDigit)
      | rest => ([], rest)
    if whole.isEmpty && fraction.isEmpty then none
    else match rest with
      | [] => some (NumberLiteral.nearest ⟨negative, whole, fraction, none⟩)
      | c :: rest =>
        if c ≠ 'e' ∧ c ≠ 'E' then none
        else match NumberLiteral.readExponent rest with
          | some (exponent, []) =>
            some (NumberLiteral.nearest ⟨negative, whole, fraction, some exponent⟩)
          | _ => none

/-- The identifier that hexadecimal digits spell. -/
def identifier? (s : String) : Option (List UInt8) :=
  (Hex.decode? s.toList).filter (·.length = 12)

/-- Options of a pattern in order. -/
def sortedOptions (s : String) : String :=
  String.ofList (s.toList.mergeSort fun a b => a.toNat ≤ b.toNat)

/-- Bytes with their subtype, the two digits of a byte. -/
def binary? (members : Document) : Option Datum := do
  let bytes ← Base64.decode? (← (← members.lookup "base64").string?).toList
  match ← Hex.decode? (← (← members.lookup "subType").string?).toList with
  | [subtype] => return binary bytes subtype
  | _ => none

/-- Bytes spelled in groups of eight, four, four, four and twelve digits, or in one group. -/
def uuid? (s : String) : Option Datum := do
  let groups := s.splitOn "-"
  if groups.length ≠ 1 ∧ groups.map String.length ≠ [8, 4, 4, 4, 12] then none
  let bytes ← Hex.decode? (String.join groups).toList
  if bytes.length = 16 then return binary bytes 4 else none

/-- A half of a timestamp. -/
def half? (members : Document) (name : String) : Option Nat := do
  let n ← (← members.lookup name).whole?
  if 0 ≤ n ∧ n < Int.pow 2 32 then some n.toNat else none

/-- What a mark and its content stand for, if the content fits. -/
def marked? (mark : String) (content : Datum) : Option Datum :=
  match mark, content with
  | "$oid", string s => (identifier? s).map objectId
  | "$symbol", string s => some (symbol s)
  | "$numberInt", string s => (wholeOf? 32 s).map int32
  | "$numberLong", string s => (wholeOf? 64 s).map int64
  | "$numberDouble", string s => (double? s).map double
  | "$numberDecimal", string s => (Decimal128.parse? s).map decimal
  | "$binary", document members => binary? members
  | "$uuid", string s => uuid? s
  | "$code", string s => some (code s)
  | "$timestamp", document members => do
    return timestamp (← half? members "t") (← half? members "i")
  | "$regularExpression", document members => do
    let source ← (← members.lookup "pattern").string?
    let options ← (← members.lookup "options").string?
    return pattern source (sortedOptions options)
  | "$dbPointer", document members => do
    match ← members.lookup "$id" with
    | objectId bytes => return pointer (← (← members.lookup "$ref").string?) bytes
    | _ => none
  | "$date", int64 n => some (moment ⟨n⟩)
  | "$date", string s => (Moment.parse? s).map moment
  | "$minKey", content => if content.whole? = some 1 then some least else none
  | "$maxKey", content => if content.whole? = some 1 then some greatest else none
  | "$undefined", bool true => some undefined
  | _, _ => none

/-- Code that comes with names it may use. -/
def scopedCode? (members : Document) : Option Datum := do
  match members.length, ← members.lookup "$code", ← members.lookup "$scope" with
  | 2, string source, document scope => return scopedCode source scope
  | _, _, _ => none

/-- What the members of an object stand for. -/
def ofMembers (members : Document) : Datum :=
  match members with
  | [(mark, content)] => (marked? mark content).getD (document members)
  | _ => (scopedCode? members).getD (document members)

mutual

/-- The datum that JSON stands for; a whole number that is too large goes into floating point. -/
def ofJson : Json → Datum
  | .null => null
  | .bool b => bool b
  | .int n => if n < Int.pow 2 63 then int64 n else double (.ofInt n)
  | .float x => double x
  | .string s => string s
  | .array items => array (ofJsonItems items)
  | .object members => ofMembers (ofJsonMembers members)

def ofJsonItems : List Json → List Datum
  | [] => []
  | item :: rest => ofJson item :: ofJsonItems rest

def ofJsonMembers : List (String × Json) → Document
  | [] => []
  | (name, content) :: rest => (name, ofJson content) :: ofJsonMembers rest

end

/-! ## Writing -/

/-- A marked content. -/
def mark (name : String) (content : Json) : Json := .object [(name, content)]

def markText (name text : String) : Json := mark name (.string text)

/-- A number in floating point; one without digits needs a mark. -/
def relaxedDouble : Binary64 → Json
  | .nan => markText "$numberDouble" "NaN"
  | .infinite negative => markText "$numberDouble" (if negative then "-Infinity" else "Infinity")
  | x => .float x

def identifierText (bytes : List UInt8) : Json :=
  markText "$oid" (String.ofList (Hex.encode bytes))

mutual

/-- A datum as JSON, with as few marks as possible. -/
def relaxed : Datum → Json
  | null => .null
  | bool b => .bool b
  | int32 n => .int n
  | int64 n => .int n
  | double x => relaxedDouble x
  | decimal x => markText "$numberDecimal" x.text
  | string s => .string s
  | symbol s => markText "$symbol" s
  | array items => .array (relaxedItems items)
  | document members => .object (relaxedMembers members)
  | objectId bytes => identifierText bytes
  | binary bytes subtype => mark "$binary" (.object [
      ("base64", .string (String.ofList (Base64.encode bytes))),
      ("subType", .string (String.ofList (Hex.encode [subtype])))])
  | moment m => mark "$date" (match m.text? with
      | some text => .string text
      | none => markText "$numberLong" (toString m.milliseconds))
  | timestamp seconds counter =>
    mark "$timestamp" (.object [("t", .int seconds), ("i", .int counter)])
  | pattern source options => mark "$regularExpression" (.object [
      ("pattern", .string source), ("options", .string options)])
  | code source => markText "$code" source
  | scopedCode source scope =>
    .object [("$code", .string source), ("$scope", .object (relaxedMembers scope))]
  | pointer collection identifier => mark "$dbPointer" (.object [
      ("$ref", .string collection), ("$id", identifierText identifier)])
  | undefined => mark "$undefined" (.bool true)
  | least => mark "$minKey" (.int 1)
  | greatest => mark "$maxKey" (.int 1)

def relaxedItems : List Datum → List Json
  | [] => []
  | item :: rest => relaxed item :: relaxedItems rest

def relaxedMembers : List (String × Datum) → List (String × Json)
  | [] => []
  | (name, content) :: rest => (name, relaxed content) :: relaxedMembers rest

end

/-! ## Names -/

/-- Whether a text can be a name: it has to go without the character that ends names. -/
def isName (s : String) : Bool := ! s.toList.contains '\x00'

mutual

/-- Whether all names in a datum can be written. -/
def isWritable : Datum → Bool
  | array items => areWritable items
  | document members => membersWritable members
  | scopedCode _ scope => membersWritable scope
  | pattern source options => isName source && isName options
  | _ => true

def areWritable : List Datum → Bool
  | [] => true
  | item :: rest => isWritable item && areWritable rest

def membersWritable : List (String × Datum) → Bool
  | [] => true
  | (name, content) :: rest => isName name && isWritable content && membersWritable rest

end

end Datum

end Workflow
