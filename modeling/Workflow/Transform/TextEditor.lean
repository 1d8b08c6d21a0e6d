import Workflow.Node
import Workflow.Text.Replace
import Workflow.Transform.Format
/-!
# The text editor

Makes a text a document of a format, and then applies substitutions, one after another.

## Main definitions

* `TextEdit`, `EditOptions` — what the parameters ask for.
* `EditOptions.apply` — the edited text.
* `textEditor` — the node.
-/

namespace Workflow

/-- A substitution; `find` is not empty. -/
structure TextEdit where
  find : String
  replace : String
  deriving DecidableEq, Repr

structure EditOptions where
  text : Option String
  format : TextFormat
  edits : List TextEdit
  deriving Repr

namespace EditOptions

/-- The substitution that a value describes. -/
def edit? (value : Value) : Option TextEdit := do
  let find ← (← value.get? "find").string?
  let replace ← (← value.get? "replace").string?
  if find = "" then none else some ⟨find, replace⟩

def incompleteEdit (index : Nat) : Failure :=
  .invalidParam "edits"
    ("entry " ++ toString index ++ " needs non-empty 'find' and a 'replace' string")

/-- The substitutions that values describe; the first that describes none is refused. -/
def editsFrom (index : Nat) : List Value → Except Failure (List TextEdit)
  | [] => .ok []
  | value :: rest =>
    match edit? value with
    | none => .error (incompleteEdit index)
    | some edit => (editsFrom (index + 1) rest).map (edit :: ·)

def ofParams (params : Params) : Except Failure EditOptions := do
  let edits ← editsFrom 0 ((← params.array "edits").getD [])
  let text ← params.string "text"
  let format ← TextFormat.ofParams params
  return { text, format, edits }

/-- One substitution applied to a text. -/
def applyEdit (text : String) (edit : TextEdit) : String :=
  Text.replaceString edit.find edit.replace text

/-- The edited text. -/
def apply (options : EditOptions) (input : String) : String :=
  options.edits.foldl applyEdit (options.format.wrap input)

/-- What is edited: the text of the parameters unless it is empty, else the previous output. -/
def input (options : EditOptions) (state : State) : String :=
  match options.text with
  | some text => if text = "" then state.outputText?.getD "" else text
  | none => state.outputText?.getD ""

end EditOptions

/-- The node's work. -/
def runTextEditor (context : Context) : Action Unit := do
  let options ← EditOptions.ofParams context.params
  let state ← Action.state
  Action.modifyState (·.withOutput (.ofFields [
    ("text", .string (options.apply (options.input state))),
    ("format", .string options.format.name),
    ("status", .string "processed")]))

def textEditor : Node where
  id := "text_editor"
  run := runTextEditor
  check params := (EditOptions.ofParams params).map fun _ => ()
  description := {
    text := "Format and edit text from the previous node"
    category := "transform"
    params := [
      ⟨"text", "Text to use instead of the previous output", false⟩,
      ⟨"format", "plaintext, markdown or html", false⟩,
      ⟨"edits", "List of \x7bfind, replace\x7d substitutions", false⟩] }

end Workflow
