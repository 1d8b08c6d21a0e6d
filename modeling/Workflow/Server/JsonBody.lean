import Workflow.Server.MediaType

/-!
# JSON bodies

The web framework looks at the body of a request before the server does. It hands on what it takes
for JSON, and complains of the rest. Which framework that is, the server leaves open.

## Main definitions

* `JsonReader` — what a framework does with bodies.
* `JsonReader.standard` — JSON is declared as such, and a body has at most two mebibytes.
-/

namespace Workflow

/-- How a framework reads JSON bodies. -/
structure JsonReader where
  /-- The body that is handed on, or what is wrong with its type or with itself. -/
  handOn : (contentType : Option String) → (body : String) → Except String String
  /-- What is wrong with a body that does not stand for what is asked for. -/
  unreadable : (body : String) → String

namespace JsonReader

/-- The most bytes that a body has by default. -/
def sizeLimit : Nat := 2097152

/-- The framework as it comes, for bodies whose length is not announced. The texts of its JSON reader
are kept out of its complaints. -/
def standard : JsonReader where
  handOn contentType body :=
    if ! contentType.any MediaType.isJson then .error "Content type error"
    else if sizeLimit < body.utf8ByteSize then
      .error ("JSON payload has exceeded limit (" ++ toString sizeLimit ++ " bytes).")
    else .ok body
  unreadable _ := "Json deserialize error: <json>"

end JsonReader

end Workflow
