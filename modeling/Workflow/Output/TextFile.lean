import Workflow.Output.Target
import Workflow.Transform.Format
/-!
# Text files

## Main definitions

* `textFile place` — the node that saves the previous output as a text file.
-/

namespace Workflow

namespace TextFile

/-- The file that parameters ask for; its default name ends as the format demands. -/
def target (place : OutputPlace) (params : Params) : Except Failure OutputTarget := do
  let format ← TextFormat.ofParams params
  OutputTarget.ofParams params ("workflow_output." ++ format.fileEnding) place

def wrote (size : Nat) (path : String) : String :=
  "Wrote " ++ toString size ++ " bytes to " ++ path

/-- The node's work. -/
def run (place : OutputPlace) (context : Context) : Action Unit := do
  let target ← TextFile.target place context.params
  let content ← documentText (← Action.state)
  target.write content
  Action.info (wrote content.utf8ByteSize target.path)
  let summary := Value.object (target.summary content.utf8ByteSize)
  Action.modifyState fun state => (state.withExtra "download" summary).withOutput summary

end TextFile

def textFile (place : OutputPlace) : Node where
  id := "text"
  run := TextFile.run place
  check params := (TextFile.target place params).map fun _ => ()
  description := {
    text := "Save the previous output as a text file"
    category := "output"
    params := [
      ⟨"filename", "File name (default workflow_output.<ext>)", false⟩,
      ⟨"save_path", "Directory (default output or temp dir)", false⟩,
      ⟨"format", "plaintext, markdown or html; picks the extension", false⟩] }

end Workflow
