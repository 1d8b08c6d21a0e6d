import Workflow.Text.Lines
/-!
# Paths

A path is text; a slash separates its components. A component that is empty, or a single dot behind
the first component, stands for nothing.

## Main definitions

* `Path.components` — what a path says to do, step by step.
* `Path.join` — one path below another.
-/

namespace Workflow.Path

/-- A step of a path. -/
inductive Component where
  /-- Start at the root of all directories. -/
  | root
  /-- Stay where the path starts. -/
  | here
  /-- Go to the directory above. -/
  | up
  | name (name : String)
  deriving DecidableEq, Repr

/-- The texts between the slashes. -/
def slices (path : String) : List String :=
  (Text.pieces (· == '/') path.toList).map String.ofList

def isAbsolute (path : String) : Bool := path.toList.head? == some '/'

/-- A step that is not the first one: nothing for an empty text and for a dot. -/
def laterStep? (slice : String) : Option Component :=
  if slice = "" ∨ slice = "." then none
  else if slice = ".." then some .up
  else some (.name slice)

/-- The steps of a path. -/
def components (path : String) : List Component :=
  if isAbsolute path then .root :: (slices path).filterMap laterStep?
  else match slices path with
    | "." :: rest => .here :: rest.filterMap laterStep?
    | all => all.filterMap laterStep?

/-- `path` below `base`; an absolute path stands for itself. -/
def join (base path : String) : String :=
  if isAbsolute path || base = "" then path
  else if base.toList.getLast? == some '/' then base ++ path
  else base ++ "/" ++ path

/-- Goes down only: names, and a dot at the start. -/
def descends (path : String) : Bool :=
  (components path).all fun
    | .name _ => true
    | .here => true
    | .root => false
    | .up => false

end Workflow.Path
