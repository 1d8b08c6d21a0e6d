import Workflow.CommandLine
/-!
# The program

The outer layer: it reads the file that the arguments name, hands it to the command line, prints
what that prints, and writes the files that have changed. No peer can be reached from here.
-/

namespace Workflow

/-- The path of the directory that a file is in, empty for the working directory. -/
def directoryOf (path : String) : String := "/".intercalate (Path.slices path).dropLast

/-- A tree with a file in it, and with the directories that lead there. -/
def treeWith (path content : String) : FileTree :=
  let (_, files) := FileTree.makeDirectories {} (directoryOf path)
  match files.write path content with
  | .ok files => files
  | .error _ => files

/-- The file that a command reads, if it can be read. -/
def inputTree (path : String) : IO FileTree := do
  try return treeWith path (← IO.FS.readFile path)
  catch _ => return {}

/-- The directory of the file that a command writes, if it is there. -/
def outputTree (path : String) : IO FileTree := do
  let directory := directoryOf path
  if ← ((← IO.currentDir) / directory).isDir then
    return (FileTree.makeDirectories {} directory).2
  else return {}

/-- The files that a command starts from. -/
def surroundings (command : Option Command) : IO FileTree :=
  match command.bind Command.input?, command.bind Command.output? with
  | some path, _ => inputTree path
  | none, some path => outputTree path
  | none, none => return {}

/-- Write the files that are not as they were. -/
def writeChanged (before after : FileTree) : IO Unit :=
  after.allFiles.forM fun (path, content) => do
    if before.read? path ≠ some content then
      let directory := directoryOf path
      if directory ≠ "" then IO.FS.createDirAll directory
      IO.FS.writeFile path content

/-- Report how a command ended. -/
def report : Option CommandFailure → IO UInt32
  | none => return 0
  | some failure => do
    IO.eprintln (match failure with
      | .usage => "Usage: chain <COMMAND>"
      | .failed message => "Error: " ++ message)
    return UInt32.ofNat failure.exitCode

/-- Carry out what the arguments ask for, with the nodes of a registry. -/
def performHere (registry : Registry) (arguments : List String) : IO UInt32 := do
  let files ← surroundings (Command.parse arguments)
  let (console, world) := CommandLine.perform registry "0" arguments { peers := .none, files }
  IO.print console.text
  writeChanged files world.files
  report console.failure

/-- The program. -/
def program (arguments : List String) : IO UInt32 :=
  match standardRegistry {} with
  | .error error => report (some (.failed error.message))
  | .ok registry => performHere registry arguments

end Workflow

def main (arguments : List String) : IO UInt32 := Workflow.program arguments
