import Workflow.Json.Reader
/-!
# Records in JSON

A record with named fields may be written in two ways: as an object, with the members in any order,
none of the fields twice, and members of other names skipped; or as an array of the contents in the
order of the fields, where the last ones may be left out. An object inside a content keeps all its
members.

## Main definitions

* `Json.Record.parse names text` — the contents of the fields `names`, in that order.
-/

namespace Workflow.Json.Record

/-- The contents of the fields, or nothing if a field comes twice. -/
def arrange (names : List String) (members : List (String × Option Json)) :
    Option (List (Option Json)) :=
  names.mapM fun name =>
    match members.filter (·.1 = name) with
    | [] => some none
    | [(_, content)] => some content
    | _ => none

/-- A member's content: read if its name is a field's, else skipped. -/
def content (names : List String) (depth : Nat) (name : String) (cs : List Char) :
    Option (Option Json × List Char) :=
  if names.contains name then (Reader.verbatim depth cs).map fun (json, rest) => (some json, rest)
  else (Reader.skip cs).map fun rest => (none, rest)

/-- The contents of a record at the start of a text, and the rest. -/
def read (names : List String) (cs : List Char) : Option (List (Option Json) × List Char) :=
  let depth := Reader.maxDepth - 1
  match Reader.skipSpace cs with
  | '[' :: cs => do
    let (items, rest) ← Reader.arrayRest (Reader.verbatim depth) cs
    if names.length < items.length then none
    else some (items.map some ++ List.replicate (names.length - items.length) none, rest)
  | '\x7b' :: cs => do
    let (members, rest) ← Reader.objectRest Reader.string (content names depth) cs
    some (← arrange names members, rest)
  | _ => none

/-- The contents of the fields of a record, in the order of `names`. -/
def parse (names : List String) (text : String) : Option (List (Option Json)) := do
  let (contents, rest) ← read names text.toList
  if (Reader.skipSpace rest).isEmpty then some contents else none

end Workflow.Json.Record
