/-!
# The character set of the built-in fonts

The fonts that every reader of PDF has carry ASCII, the second half of Latin-1, and some typographic
signs, one byte each. In a literal string the two parentheses and the backslash are escaped, and a
byte beyond ASCII is written in octal, so that a document is plain ASCII. A tab is set as four
spaces; a carriage return shows nothing.

## Main definitions

* `Pdf.code? c` — the byte of a character beyond ASCII.
* `Pdf.escape cs` — a text inside a literal string, or the first character that has no byte.
-/

namespace Workflow.Pdf

/-- The typographic signs with their bytes. -/
def signs : List (Char × Nat) := [
  ('€', 0x80), ('‚', 0x82), ('ƒ', 0x83), ('„', 0x84), ('…', 0x85), ('†', 0x86), ('‡', 0x87),
  ('ˆ', 0x88), ('‰', 0x89), ('Š', 0x8A), ('‹', 0x8B), ('Œ', 0x8C), ('Ž', 0x8E),
  ('\u2018', 0x91), ('\u2019', 0x92), ('\u201C', 0x93), ('\u201D', 0x94), ('•', 0x95),
  ('\u2013', 0x96), ('\u2014', 0x97), ('˜', 0x98), ('™', 0x99), ('š', 0x9A), ('›', 0x9B),
  ('œ', 0x9C), ('ž', 0x9E), ('Ÿ', 0x9F)]

/-- The byte of a character beyond ASCII. -/
def code? (c : Char) : Option Nat :=
  if 0xA0 ≤ c.toNat ∧ c.toNat ≤ 0xFF then some c.toNat else signs.lookup c

/-- A character of ASCII that is printed, the space included. -/
def isPrinted (c : Char) : Bool := ' ' ≤ c && c ≤ '~'

/-- A byte in three octal digits behind a backslash. -/
def octal (n : Nat) : List Char :=
  ['\\', Nat.digitChar (n / 64 % 8), Nat.digitChar (n / 8 % 8), Nat.digitChar (n % 8)]

/-- A character inside a literal string; nothing if it has no byte. -/
def escapeChar? (c : Char) : Option (List Char) :=
  if c = '\\' ∨ c = '(' ∨ c = ')' then some ['\\', c]
  else if isPrinted c then some [c]
  else if c = '\t' then some [' ', ' ', ' ', ' ']
  else if c = '\r' then some []
  else (code? c).map octal

/-- A text inside a literal string, or the first character that has no byte. -/
def escape : List Char → Except Char (List Char)
  | [] => .ok []
  | c :: cs =>
    match escapeChar? c with
    | none => .error c
    | some escaped => (escape cs).map (escaped ++ ·)

end Workflow.Pdf
