import Workflow.Database.Datum
import Workflow.Failure
/-!
# Documents

A document is an object whose data all fit into the database and that is no datum of another type.

## Main definitions

* `Document.ofJson` — the document that JSON stands for.
* `Document.isStorable` — whether all whole numbers fit.
* `Document.isWritable` — whether all names can be written.
* `Document.relaxed` — a document as JSON.
-/

namespace Workflow.Document

mutual

/-- Whether all whole numbers fit into 64 bits with a sign. -/
def isStorable : Json → Bool
  | .int n => n < Int.pow 2 63
  | .array items => areStorable items
  | .object members => membersStorable members
  | _ => true

def areStorable : List Json → Bool
  | [] => true
  | item :: rest => isStorable item && areStorable rest

def membersStorable : List (String × Json) → Bool
  | [] => true
  | (_, content) :: rest => isStorable content && membersStorable rest

end

/-- The document that JSON stands for. -/
def ofJson (json : Json) : Except Failure Document :=
  if ! isStorable json then .error (.invalidParam "query" "<bson>")
  else match Datum.ofJson json with
    | .document members => .ok members
    | datum => .error (.invalidParam "query"
        ("Could not be serialized to Document, got " ++ datum.typeName ++ " instead"))

/-- Whether all names in a document can be written. -/
def isWritable (document : Document) : Bool := Datum.membersWritable document

/-- A document as JSON, with as few marks as possible. -/
def relaxed (document : Document) : Json := (Datum.document document).relaxed

end Workflow.Document
