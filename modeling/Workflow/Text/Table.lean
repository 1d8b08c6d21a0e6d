/-!
# Tables in writing

A table of characters is a text of rows with blanks between them. A row is made of hexadecimal
numbers, each with a mark behind it; the last one has the blank.

## Main definitions

* `Text.readRows s` — the rows of a table.
* `Text.Ranges`, `Text.readRanges s` — a table of ranges: `41-5A 61` holds 27 characters.
* `Text.within ranges c` — `c` is in one of the ranges.
-/

namespace Workflow.Text

/-- Numbers, each with the mark behind it. -/
abbrev Row := List (Nat × Char)

/-- The value of an upper-case hexadecimal digit. -/
def tableDigit? (c : Char) : Option Nat :=
  if '0' ≤ c ∧ c ≤ '9' then some (c.toNat - '0'.toNat)
  else if 'A' ≤ c ∧ c ≤ 'F' then some (c.toNat - 'A'.toNat + 10)
  else none

/-- What has been read of a table; the rows and the numbers of a row stand in reverse. -/
structure TableReading where
  number : Nat := 0
  row : Row := []
  rows : List Row := []

/-- Read one more character. -/
def TableReading.push (reading : TableReading) (c : Char) : TableReading :=
  match tableDigit? c with
  | some d => { reading with number := 16 * reading.number + d }
  | none =>
    let row := (reading.number, c) :: reading.row
    if c = ' ' ∨ c = '\n' then { rows := row.reverse :: reading.rows }
    else { row, rows := reading.rows }

/-- The rows of a table. -/
def readRows (s : String) : List Row :=
  ((s.toList ++ [' ']).foldl TableReading.push {}).rows.reverse

/-- Characters by ascending ranges of their numbers, ends included. -/
abbrev Ranges := List (Nat × Nat)

/-- A range, or a single character. -/
def readRange : Row → Option (Nat × Nat)
  | [(first, '-'), (last, _)] => some (first, last)
  | [(c, _)] => some (c, c)
  | _ => none

/-- A table of ranges. -/
def readRanges (s : String) : Ranges := (readRows s).filterMap readRange

/-- A character in one of the ranges. -/
def within (ranges : Ranges) (c : Char) : Bool :=
  ranges.any fun (first, last) => first ≤ c.toNat && c.toNat ≤ last

end Workflow.Text
