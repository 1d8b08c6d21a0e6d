import Workflow.Chain.Run
import Workflow.CommandLine.Arguments
/-!
# Commands

## Main definitions

* `Command` — what the command line can be told to do.
* `Command.parse` — the command that arguments spell.
-/

namespace Workflow

/-- What the command line can be told to do. -/
inductive Command where
  | run (file : String) (query : Option String) (policy : Policy)
  | validate (file : String)
  | nodes
  | init (output : String)
  | help (lines : List String)
  deriving DecidableEq, Repr

namespace Command

/-- The file that a command reads. -/
def input? : Command → Option String
  | run file .. => some file
  | validate file => some file
  | _ => none

/-- The file that a command writes. -/
def output? : Command → Option String
  | init output => some output
  | _ => none

/-- A path is not empty. -/
def isPath (text : String) : Bool := text ≠ ""

def fileOption : CommandOption where
  long := "file"
  short := some 'f'
  valueName := some "FILE"
  about := "Path to request JSON file"
  required := true
  accepts := isPath

def policyOf (text : String) : Option Policy := (Policy.parse text).toOption

def runForm : CommandForm where
  name := "run"
  about := "Run a request file"
  options := [
    fileOption,
    { long := "query", short := some 'q', valueName := some "QUERY"
      about := "Replace the file's user query" },
    { long := "soft-failure", valueName := some "SOFT_FAILURE"
      about := "What to do when a node records an error without failing"
      default := some "continue", accepts := fun text => (policyOf text).isSome },
    { long := "verbose", short := some 'v', about := "Show verbose output" }]

def validateForm : CommandForm where
  name := "validate"
  about := "Check a request file without running it"
  options := [fileOption]

def nodesForm : CommandForm where
  name := "nodes"
  about := "List available node types"

def defaultOutput : String := "request.json"

def initForm : CommandForm where
  name := "init"
  about := "Write an example request file"
  options := [{ long := "output", short := some 'o', valueName := some "OUTPUT"
                about := "Output file path", default := some defaultOutput, accepts := isPath }]

def forms : List CommandForm := [runForm, validateForm, nodesForm, initForm]

def value? (given : Given) (name : String) : Option String := given.lookup name

def runOf (given : Given) : Command :=
  run ((value? given "file").getD "") (value? given "query")
    (((value? given "soft-failure").bind policyOf).getD .goOn)

def validateOf (given : Given) : Command := validate ((value? given "file").getD "")

def initOf (given : Given) : Command := init ((value? given "output").getD defaultOutput)

/-- Each command with what it makes of its options. -/
def table : List (CommandForm × (Given → Command)) :=
  [(runForm, runOf), (validateForm, validateOf), (nodesForm, fun _ => nodes), (initForm, initOf)]

def helpName : String := "help"

def helpAbout : String := "Print this message or the help of the given subcommand(s)"

/-- The help on all commands. -/
def overview : List String :=
  let names := forms.map (fun form => (form.name, form.about))
    ++ [(helpName, helpAbout)]
  let width := names.foldl (fun width (name, _) => max width name.length) 0
  ["Node chain CLI", "", "Usage: chain <COMMAND>", "", "Commands:"]
    ++ names.map (fun (name, about) => "  " ++ CommandForm.padded width name ++ "  " ++ about)
    ++ "" :: CommandForm.optionLines []

/-- The command of a form; help asked for among its arguments is a command too. -/
def ofForm (form : CommandForm) (make : Given → Command) (arguments : List String) :
    Option Command :=
  match form.read arguments with
  | .ok given => some (make given)
  | .error .help => some (help form.help)
  | .error .usage => none

/-- The help on the command for help. -/
def helpOnHelp : List String :=
  [helpAbout, "", "Usage: chain help [COMMAND]...", "", "Arguments:",
    "  [COMMAND]...  Print help for the subcommand(s)"]

/-- The help that names ask for. -/
def helpOn : List String → Option Command
  | [] => some (help overview)
  | [name] =>
    if name = helpName then some (help helpOnHelp)
    else (forms.find? (·.name = name)).map fun form => help form.help
  | _ => none

/-- The command that arguments spell. -/
def parse : List String → Option Command
  | [] => none
  | name :: arguments =>
    if name = helpName then helpOn arguments
    else if name = "--help" || name.startsWith "-h" then some (help overview)
    else match table.find? (·.1.name = name) with
      | some (form, make) => ofForm form make arguments
      | none => none

end Command

end Workflow
