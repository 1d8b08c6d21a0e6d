import Workflow.Params
/-!
# Text formats

## Main definitions

* `TextFormat` — plain text, Markdown or HTML.
* `TextFormat.parse?`, `TextFormat.ofParams` — a format by name, the format that parameters ask for.
* `TextFormat.wrap` — a text made a document of the format.
-/

namespace Workflow

inductive TextFormat where
  | plain
  | markdown
  | html
  deriving DecidableEq, Repr

namespace TextFormat

/-- The format of a name, in any case and with space around it. -/
def parse? (text : String) : Option TextFormat :=
  match Text.lowerAscii (Text.trimString text) with
  | "plaintext" => some plain
  | "plain" => some plain
  | "txt" => some plain
  | "text" => some plain
  | "markdown" => some markdown
  | "md" => some markdown
  | "html" => some html
  | _ => none

def name : TextFormat → String
  | plain => "plaintext"
  | markdown => "markdown"
  | html => "html"

/-- The ending of a file's name. -/
def fileEnding : TextFormat → String
  | plain => "txt"
  | markdown => "md"
  | html => "html"

/-- The format that parameters ask for; plain text by default. -/
def ofParams (params : Params) : Except Failure TextFormat := do
  match ← params.filledString "format" with
  | none => return plain
  | some text =>
    match parse? text with
    | some format => return format
    | none => throw (.invalidParam "format" "expected plaintext, markdown or html")

/-- A text made a document of the format. -/
def wrap (format : TextFormat) (text : String) : String :=
  match format with
  | plain => text
  | markdown => "\x60\x60\x60markdown\n" ++ text ++ "\n\x60\x60\x60"
  | html => "<pre>" ++ text ++ "</pre>"

end TextFormat

end Workflow
