import Workflow.Node
/-!
# Where an output file goes

A file has a bare name and a directory. When output is confined to a root, a directory that is asked
for has to lie below the root, and the root itself is the default; otherwise any directory will do,
and the default is the directory for temporary files.

## Main definitions

* `OutputPlace` — the root and the directory for temporary files.
* `OutputTarget` — name and directory of a file.
* `OutputTarget.write` — make the directory, then write the file.
* `documentText` — the text of the previous output.
-/

namespace Workflow

/-- Where output may go. -/
structure OutputPlace where
  /-- All output stays below this directory. -/
  root : Option String := none
  temporary : String := "/tmp"
  deriving DecidableEq, Repr

structure OutputTarget where
  filename : String
  directory : String
  deriving DecidableEq, Repr

namespace OutputTarget

/-- A name without a separator that is neither of the two names for directories. -/
def isBareName (name : String) : Bool :=
  ! name.toList.any (fun c => c == '/' || c == '\\') && name ≠ "." && name ≠ ".."

/-- The directory for what is asked for. -/
def directoryFor (place : OutputPlace) (asked : Option String) : Except Failure String :=
  match place.root, asked with
  | none, some path => .ok path
  | none, none => .ok place.temporary
  | some root, none => .ok root
  | some root, some path =>
    if Path.descends path then .ok (Path.join root path)
    else .error
      (.invalidParam "save_path" "must be a relative directory inside the output directory")

def ofParams (params : Params) (defaultName : String) (place : OutputPlace) :
    Except Failure OutputTarget := do
  let filename := (← params.filledString "filename").getD defaultName
  if ! isBareName filename then
    throw (.invalidParam "filename" "must be a bare file name; use save_path for the directory")
  let directory ← directoryFor place (← params.filledString "save_path")
  return { filename, directory }

/-- The path of the file. -/
def path (target : OutputTarget) : String := Path.join target.directory target.filename

def cannotCreate (directory : String) (error : FileError) : Failure :=
  .execution ("cannot create " ++ directory ++ ": " ++ error.message)

def cannotWrite (path : String) (error : FileError) : Failure :=
  .execution ("cannot write " ++ path ++ ": " ++ error.message)

/-- The file written into a tree, its directory made first. -/
def writeInto (target : OutputTarget) (content : String) (files : FileTree) :
    Except Failure Unit × FileTree :=
  match files.makeDirectories target.directory with
  | (some error, files) => (.error (cannotCreate target.directory error), files)
  | (none, files) =>
    match files.write target.path content with
    | .error error => (.error (cannotWrite target.path error), files)
    | .ok files => (.ok (), files)

/-- Write the file. -/
def write (target : OutputTarget) (content : String) : Action Unit := do
  Action.ofExcept (← Action.onWorld fun world =>
    let (result, files) := target.writeInto content world.files
    (result, { world with files }))

/-- Path, name and size of a written file. -/
def summary (target : OutputTarget) (size : Nat) : Fields Value :=
  Fields.ofList [
    ("filepath", .string target.path),
    ("filename", .string target.filename),
    ("size_bytes", .ofNat size)]

end OutputTarget

/-- The text of the previous output: its `text` if it is an object with one, else all of it. -/
def documentText? (state : State) : Option String :=
  match (state.output.bind (·.get? "text")).bind Value.string? with
  | some text => some text
  | none => state.outputText?

def documentText (state : State) : Except Failure String :=
  match documentText? state with
  | some text => .ok text
  | none => .error (.missingInput "No content to write from previous node")

end Workflow
