import Workflow.Text.Wrap
/-!
# Pages

A text is set on pages of letter size with a margin of an inch all round. A title takes two lines
off the first page. There is always a first page; every page but the last is full.

## Main definitions

* `Pdf.Page` — what stands on a page.
* `Pdf.paginate title lines` — lines spread over pages.
* `Pdf.layout title text` — the pages for a text.
-/

namespace Workflow.Pdf

/-- Sizes in points. -/
def pageWidth : Nat := 612
def pageHeight : Nat := 792
def margin : Nat := 72
def fontSize : Nat := 11
def leading : Nat := 14
def titleSize : Nat := 16

/-- The width of a line in characters. -/
def lineWidth : Nat := 90

def linesPerPage : Nat := (pageHeight - 2 * margin) / leading

/-- The lines that a title takes. -/
def titleLines : Nat := 2

/-- What stands on a page. -/
structure Page where
  title : Option (List Char)
  lines : List (List Char)
  deriving DecidableEq, Repr

theorem length_drop_lt {α : Type} {size : Nat} {items : List α}
    (h : ¬ (items = [] ∨ size = 0)) : (items.drop size).length < items.length := by
  simp only [not_or] at h
  have : 0 < items.length := List.length_pos_iff.mpr h.1
  simp only [List.length_drop]
  omega

/-- Lists of `size` items, the last one of what is left; none for no items. -/
def chunks {α : Type} (size : Nat) (items : List α) : List (List α) :=
  if h : items = [] ∨ size = 0 then []
  else
    have := length_drop_lt h
    items.take size :: chunks size (items.drop size)
termination_by items.length

/-- How many lines fit on the first page. -/
def firstCapacity (title : Option (List Char)) : Nat :=
  if title.isSome then linesPerPage - titleLines else linesPerPage

/-- Lines spread over pages. -/
def paginate (title : Option (List Char)) (lines : List (List Char)) : List Page :=
  ⟨title, lines.take (firstCapacity title)⟩
    :: (chunks linesPerPage (lines.drop (firstCapacity title))).map (⟨none, ·⟩)

/-- The pages for a text. -/
def layout (title : Option (List Char)) (text : List Char) : List Page :=
  paginate title (Text.wrap lineWidth text)

end Workflow.Pdf
