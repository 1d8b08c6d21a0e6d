import Workflow.Text.Lines
/-!
# Filling lines

Each line of a text is filled anew: its words go on lines of a given width, as many to a line as
fit, with one space between them. A word that is wider than a line is cut into pieces of the full
width, each on a line of its own, and goes on with what is left. A blank line stays as an empty one.

## Main definitions

* `Text.cutWord width word` — the pieces of a word that is too wide, and what is left of it.
* `Text.fill width line words` — the lines for words, the first of them begun with `line`.
* `Text.wrap width cs` — the lines for a whole text.
-/

namespace Workflow.Text

/-- Pieces of the full width come off a word as long as it is wider than a line. The pieces, and
what is left; without any width nothing comes off. -/
def cutWord (width : Nat) (word : List Char) : List (List Char) × List Char :=
  if 0 < width ∧ width < word.length then
    let (pieces, left) := cutWord width (word.drop width)
    (word.take width :: pieces, left)
  else ([], word)
termination_by word.length
decreasing_by simp only [List.length_drop]; omega

/-- The lines for words, the first of them begun with `line`. -/
def fill (width : Nat) (line : List Char) : List (List Char) → List (List Char)
  | [] => [line]
  | word :: rest =>
    if width < word.length then
      let (pieces, left) := cutWord width word
      (if line.isEmpty then [] else [line]) ++ pieces ++ fill width left rest
    else if line.isEmpty then fill width word rest
    else if line.length + 1 + word.length ≤ width then fill width (line ++ ' ' :: word) rest
    else line :: fill width word rest

/-- The lines for one line of a text. -/
def wrapLine (width : Nat) (line : List Char) : List (List Char) := fill width [] (words line)

/-- The lines for a whole text. -/
def wrap (width : Nat) (cs : List Char) : List (List Char) := (lines cs).flatMap (wrapLine width)

@[simp] theorem wrapLine_of_blank {width : Nat} {line : List Char} (h : words line = []) :
    wrapLine width line = [[]] := by simp [wrapLine, h, fill]

/-- `wrap` on strings. -/
def wrapString (width : Nat) (s : String) : List String :=
  (wrap width s.toList).map String.ofList

end Workflow.Text
