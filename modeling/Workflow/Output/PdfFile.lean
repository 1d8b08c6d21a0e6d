import Workflow.Output.Target
import Workflow.Pdf
/-!
# PDF files

## Main definitions

* `pdfFile place` — the node that renders the previous output into a PDF file.
-/

namespace Workflow

namespace PdfFile

/-- The file and the title that parameters ask for. -/
def options (place : OutputPlace) (params : Params) :
    Except Failure (OutputTarget × Option String) := do
  let target ← OutputTarget.ofParams params "output.pdf" place
  let title ← params.filledString "title"
  return (target, title)

def rendered (pages : Nat) (path : String) : String :=
  "Rendered " ++ toString pages ++ " page(s) to " ++ path

/-- The node's work. -/
def run (place : OutputPlace) (context : Context) : Action Unit := do
  let (target, title) ← options place context.params
  let content ← documentText (← Action.state)
  let document ← Pdf.render title content
  target.write document.text
  Action.info (rendered document.pages target.path)
  let fields := target.summary document.text.utf8ByteSize
  let summary := Value.object (fields.insert "pages" (.ofNat document.pages))
  Action.modifyState fun state => (state.withExtra "document" summary).withOutput summary

end PdfFile

def pdfFile (place : OutputPlace) : Node where
  id := "pdf"
  run := PdfFile.run place
  check params := (PdfFile.options place params).map fun _ => ()
  description := {
    text := "Render the previous output into a PDF file"
    category := "output"
    params := [
      ⟨"filename", "File name (default output.pdf)", false⟩,
      ⟨"save_path", "Directory (default output or temp dir)", false⟩,
      ⟨"title", "Heading on the first page", false⟩] }

end Workflow
