import Workflow.Text.Blank
/-!
# Lines

A line ends at a line feed, or at the end of the text when something stands after the last
line feed. A carriage return right before a line feed belongs to the line's end.

## Main definitions

* `Text.lines cs` — the lines of a text, without their ends.
* `Text.joinWith sep ts` — texts with `sep` between neighbours.
-/

namespace Workflow.Text

/-- The text before a line feed, less one carriage return at its end. -/
def dropReturn (cs : List Char) : List Char :=
  match cs.reverse with
  | '\r' :: rest => rest.reverse
  | _ => cs

/-- The lines of the pieces between line feeds; only the last piece had no line feed. -/
def linesOfPieces : List (List Char) → List (List Char)
  | [] => []
  | [last] => if last.isEmpty then [] else [last]
  | piece :: rest => dropReturn piece :: linesOfPieces rest

/-- The lines of a text. -/
def lines (cs : List Char) : List (List Char) :=
  linesOfPieces (pieces (· == '\n') cs)

@[simp] theorem lines_nil : lines [] = [] := rfl

/-- Texts one after another with `sep` between neighbours. -/
def joinWith (sep : List Char) : List (List Char) → List Char
  | [] => []
  | [t] => t
  | t :: ts => t ++ sep ++ joinWith sep ts

end Workflow.Text
