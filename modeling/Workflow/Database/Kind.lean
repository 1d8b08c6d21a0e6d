import Workflow.Text.Blank
/-!
# Kinds of databases and operations

Each has one name of its own and may have others; case and blanks around a name do not count.

## Main definitions

* `DatabaseKind` — which database.
* `DatabaseOperation` — what to do there.
-/

namespace Workflow

inductive DatabaseKind where
  | postgresql
  | mysql
  | mongodb
  deriving DecidableEq, Repr

namespace DatabaseKind

def parse? (s : String) : Option DatabaseKind :=
  let name := Text.lowerAscii (Text.trimString s)
  if name = "postgresql" ∨ name = "postgres" then some postgresql
  else if name = "mysql" then some mysql
  else if name = "mongodb" ∨ name = "mongo" then some mongodb
  else none

/-- The name, which is also the provider of its credential. -/
def name : DatabaseKind → String
  | postgresql => "postgresql"
  | mysql => "mysql"
  | mongodb => "mongodb"

/-- The scheme of its URLs. -/
def scheme : DatabaseKind → String
  | postgresql => "postgres"
  | mysql => "mysql"
  | mongodb => "mongodb"

def defaultPort : DatabaseKind → Nat
  | postgresql => 5432
  | mysql => 3306
  | mongodb => 27017

end DatabaseKind

inductive DatabaseOperation where
  | select
  | insert
  | update
  | delete
  deriving DecidableEq, Repr

namespace DatabaseOperation

def parse? (s : String) : Option DatabaseOperation :=
  let name := Text.lowerAscii (Text.trimString s)
  if name = "select" ∨ name = "find" then some select
  else if name = "insert" then some insert
  else if name = "update" then some update
  else if name = "delete" then some delete
  else none

def name : DatabaseOperation → String
  | select => "select"
  | insert => "insert"
  | update => "update"
  | delete => "delete"

end DatabaseOperation

end Workflow
