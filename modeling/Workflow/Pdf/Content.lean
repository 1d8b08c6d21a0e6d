import Workflow.Pdf.Encoding
import Workflow.Pdf.Layout
/-!
# The content of a page

A page's content is a sequence of operators that set a font, move to a place and show text. They are
written in rows.

## Main definitions

* `Pdf.Operator` — the operators in use, and how each is written.
* `Pdf.Page.rows` — the operators for a page, or a character that has no byte.
* `Pdf.Page.content` — the same in writing.
-/

namespace Workflow.Pdf

/-- The two fonts of a document. -/
inductive Font where
  | body
  | title
  deriving DecidableEq, Repr

def Font.name : Font → String
  | body => "F1"
  | title => "F2"

/-- An operator of a content stream. -/
inductive Operator where
  | beginText
  | endText
  /-- Move the start of the line. -/
  | move (right up : Int)
  | font (font : Font) (size : Nat)
  | setLeading (points : Nat)
  /-- Show a text, escaped already. -/
  | showText (escaped : List Char)
  | nextLine
  deriving DecidableEq, Repr

def number (n : Int) : List Char := (toString n).toList

/-- An operator in writing. -/
def Operator.write : Operator → List Char
  | beginText => "BT".toList
  | endText => "ET".toList
  | move right up => number right ++ ' ' :: number up ++ " Td".toList
  | font f size => '/' :: f.name.toList ++ ' ' :: number size ++ " Tf".toList
  | setLeading points => number points ++ " TL".toList
  | showText escaped => '(' :: escaped ++ ") Tj".toList
  | nextLine => "T*".toList

namespace Page

/-- The rows for a title, which stands two lines above the text. -/
def titleRows : Option (List Char) → Except Char (List (List Operator))
  | none => .ok []
  | some title => do
    return [[.font .title titleSize], [.showText (← escape title)],
      [.move 0 (-(2 * leading : Nat))]]

/-- The operators for a page, in rows. -/
def rows (page : Page) : Except Char (List (List Operator)) := do
  let title ← titleRows page.title
  let lines ← page.lines.mapM fun line => do return [.showText (← escape line), .nextLine]
  return [[.beginText], [.move margin (pageHeight - margin : Nat)]] ++ title
    ++ [[.font .body fontSize], [.setLeading leading]] ++ lines ++ [[.endText]]

/-- A row in writing. -/
def writeRow (row : List Operator) : List Char := Text.joinWith [' '] (row.map Operator.write)

/-- The content of a page in writing. -/
def content (page : Page) : Except Char (List Char) :=
  (page.rows).map fun rows => Text.joinWith ['\n'] (rows.map writeRow)

end Page

end Workflow.Pdf
