import Workflow.Fields
import Workflow.Files.Path
/-!
# A tree of files

Directories and files below a working directory, and the two operations that nodes need: make a
directory with all that leads to it, and write a whole file.

## Main definitions

* `FileTree` — what there is, by place.
* `FileTree.makeDirectories`, `FileTree.write` — the operations; a failed one says why.
* `FileError` — why an operation failed.
-/

namespace Workflow

/-- Why a file operation failed. -/
inductive FileError where
  | notFound
  | alreadyExists
  | notDirectory
  | isDirectory
  | nameTooLong
  | nulCharacter
  deriving DecidableEq, Repr

/-- The system's wording. -/
def FileError.message : FileError → String
  | notFound => "No such file or directory (os error 2)"
  | alreadyExists => "File exists (os error 17)"
  | notDirectory => "Not a directory (os error 20)"
  | isDirectory => "Is a directory (os error 21)"
  | nameTooLong => "File name too long (os error 36)"
  | nulCharacter => "file name contained an unexpected NUL byte"

/-- A directory or a file with its content. -/
inductive FileEntry where
  | directory
  | file (content : String)
  deriving DecidableEq, Repr

/-- A place: the names that lead to it from the working directory. A leading `..` leads out of the
working directory, a leading `/` to the root. -/
abbrev Place := List String

/-- What there is below the working directory. -/
structure FileTree where
  entries : List (Place × FileEntry) := []
  deriving Repr, Inhabited

namespace FileTree

/-- The longest name, and the length that no path reaches, in bytes. -/
def maxName : Nat := 255
def pathLimit : Nat := 4096

/-- The working directory and what is above it are always there. -/
def alwaysThere (place : Place) : Bool := place.all (· = "..") || place = ["/"]

def entry? (tree : FileTree) (place : Place) : Option FileEntry :=
  if alwaysThere place then some .directory else tree.entries.lookup place

def put (tree : FileTree) (place : Place) (entry : FileEntry) : FileTree :=
  ⟨(place, entry) :: tree.entries.filter (·.1 ≠ place)⟩

/-- The place above. -/
def above (place : Place) : Place :=
  if place = ["/"] then place
  else if place.all (· = "..") then place ++ [".."]
  else place.dropLast

/-- Follow the slices of a path from a place; every place on the way has to be a directory. -/
def walk (tree : FileTree) (place : Place) : List String → Except FileError Place
  | [] => .ok place
  | slice :: rest =>
    match tree.entry? place with
    | none => .error .notFound
    | some (.file _) => .error .notDirectory
    | some .directory =>
      if slice = "" ∨ slice = "." then tree.walk place rest
      else if slice = ".." then tree.walk (above place) rest
      else if maxName < slice.utf8ByteSize then .error .nameTooLong
      else tree.walk (place ++ [slice]) rest

/-- Where the walk along a path starts. -/
def start (path : String) : Place := if Path.isAbsolute path then ["/"] else []

/-- The place that a path leads to, existing or not. -/
def locate (tree : FileTree) (path : String) : Except FileError Place :=
  if path.toList.contains '\x00' then .error .nulCharacter
  else if path = "" then .error .notFound
  else if pathLimit ≤ path.utf8ByteSize then .error .nameTooLong
  else tree.walk (start path) (Path.slices path)

/-- Whether a path leads to a directory. -/
def isDirectory (tree : FileTree) (path : String) : Bool :=
  match tree.locate path with
  | .ok place => tree.entry? place == some .directory
  | .error _ => false

/-- Slices without the empty ones at the end. -/
def dropTrailing (slices : List String) : List String :=
  (slices.reverse.dropWhile (· = "")).reverse

/-- Make one directory. What leads to it has to be there already, and it must not. -/
def makeDirectory (tree : FileTree) (path : String) : Except FileError FileTree := do
  if path.toList.contains '\x00' then throw .nulCharacter
  if pathLimit ≤ path.utf8ByteSize then throw .nameTooLong
  let slices := dropTrailing (Path.slices path)
  match slices.getLast? with
  | none => throw .alreadyExists
  | some last =>
    let parent ← tree.walk (start path) slices.dropLast
    match tree.entry? parent with
    | none => throw .notFound
    | some (.file _) => throw .notDirectory
    | some .directory =>
      if last = "." ∨ last = ".." then throw .alreadyExists
      else if maxName < last.utf8ByteSize then throw .nameTooLong
      else if (tree.entry? (parent ++ [last])).isSome then throw .alreadyExists
      else return tree.put (parent ++ [last]) .directory

/-- The path of steps from the last to the first. -/
def pathOfSteps (steps : List Path.Component) : String :=
  steps.reverse.foldl (fun path step => match step with
    | .root => "/"
    | .here => "."
    | .up => Path.join path ".."
    | .name name => Path.join path name) ""

/-- Make a directory unless it is there already; `before` makes what leads to it. What has been made
stays made when a later part fails. -/
def ensure (tree : FileTree) (path : String)
    (before : FileTree → Option FileError × FileTree) : Option FileError × FileTree :=
  let settle (tree : FileTree) (error : FileError) : Option FileError × FileTree :=
    (if tree.isDirectory path then none else some error, tree)
  match tree.makeDirectory path with
  | .ok tree => (none, tree)
  | .error .notFound =>
    match before tree with
    | (some error, tree) => (some error, tree)
    | (none, tree) =>
      match tree.makeDirectory path with
      | .ok tree => (none, tree)
      | .error error => settle tree error
  | .error error => settle tree error

/-- Make the directory that steps, from the last to the first, lead to. -/
def makeSteps : List Path.Component → FileTree → Option FileError × FileTree
  | [], tree => (none, tree)
  | step :: rest, tree => tree.ensure (pathOfSteps (step :: rest)) (makeSteps rest)

/-- Make a directory and all that leads to it. -/
def makeDirectories (tree : FileTree) (path : String) : Option FileError × FileTree :=
  if path = "" then (none, tree)
  else tree.ensure path (makeSteps (Path.components path).reverse.tail)

/-- Write a file, a new one or in the place of an old one. -/
def write (tree : FileTree) (path content : String) : Except FileError FileTree := do
  let place ← tree.locate path
  match tree.entry? place with
  | some .directory => throw .isDirectory
  | _ =>
    match tree.entry? (above place) with
    | some .directory => return tree.put place (.file content)
    | some (.file _) => throw .notDirectory
    | none => throw .notFound

/-- The content of the file that a path leads to. -/
def read? (tree : FileTree) (path : String) : Option String :=
  match tree.locate path with
  | .ok place =>
    match tree.entry? place with
    | some (.file content) => some content
    | _ => none
  | .error _ => none

/-- The path of a place. -/
def pathOf : Place → String
  | "/" :: names => "/" ++ "/".intercalate names
  | names => "/".intercalate names

/-- A place in the working directory or below. -/
def isBelow (place : Place) : Bool := place.head? ≠ some ".." && place.head? ≠ some "/"

/-- The files in places of a kind, by path. -/
def filesIn (tree : FileTree) (within : Place → Bool) : Fields String :=
  Fields.ofList (tree.entries.filterMap fun
    | (place, .file content) => if within place then some (pathOf place, content) else none
    | (_, .directory) => none)

/-- The files in the working directory and below, by path. -/
def files (tree : FileTree) : Fields String := tree.filesIn isBelow

/-- All files, by path. -/
def allFiles (tree : FileTree) : Fields String := tree.filesIn fun _ => true

end FileTree

end Workflow
