import Workflow.Text.Blank
import Workflow.Text.Composed
import Workflow.Text.Direction
import Workflow.Text.Joining
import Workflow.Text.Mark
import Workflow.Url.Folding
import Workflow.Url.Punycode
/-!
# Domains beyond ASCII

A domain is written in ASCII. It is folded to the spelling that stands for all its forms, and a
label that holds characters beyond ASCII then is replaced by its Punycode behind a mark. A label
that bears the mark already has to spell one that could have been replaced.

## Main definitions

* `Domain.Label`, `Domain.label?` — a label in both spellings.
* `Domain.inAscii?` — a domain in ASCII; nothing if it is none.
-/

namespace Workflow.Domain

/-- The mark of a label in Punycode. -/
def punycodeMark : List Char := ['x', 'n', '-', '-']

def isAscii (cs : List Char) : Bool := cs.all (·.toNat < 0x80)

/-- A label in ASCII, and as it is shown. -/
structure Label where
  written : List Char
  shown : List Char
  deriving DecidableEq, Repr

/-- Lengths beyond which no label is taken: of Punycode, and of what is put into it. -/
def longestWritten : Nat := 2000
def longestShown : Nat := 1000

/-- What a label beyond ASCII has to keep to: no mark in front, and joiners in their places. -/
def isWellFormed (shown : List Char) : Bool :=
  ! shown.head?.any Text.isMark && Text.hasFitJoiners shown

/-- A label that stands for itself: it is folded and composed, and does not look like Punycode. -/
def isNormal (shown : List Char) : Bool :=
  shown.all isFolded && Text.compose shown = shown && ! punycodeMark.isPrefixOf shown

/-- The label that Punycode behind the mark spells. -/
def marked? (written : List Char) : Option Label := do
  let cs := written.drop punycodeMark.length
  if ! isAscii cs || longestWritten < cs.length || cs.isEmpty || cs.getLast? = some '-' then none
  else
    let shown ← Punycode.decode? cs
    if isNormal shown && isWellFormed shown then some { written, shown } else none

/-- A folded label in both spellings; nothing if it is none. -/
def label? (cs : List Char) : Option Label :=
  if punycodeMark.isPrefixOf cs then marked? cs
  else if isAscii cs then some { written := cs, shown := cs }
  else if longestShown < cs.length || ! isWellFormed cs then none
  else some { written := punycodeMark ++ Punycode.encode cs, shown := cs }

/-- Whether the labels read the same in any surroundings. Where all of them are written from left
to right, they do. -/
def areOrdered (labels : List Label) : Bool :=
  ! labels.any (·.shown.any Text.turns) || labels.all (Text.isOrdered ·.shown)

/-- A domain in ASCII; nothing if it is none. -/
def inAscii? (cs : List Char) : Option (List Char) := do
  let folded ← cs.mapM fold?
  let labels ← (Text.pieces (· = '.') (Text.compose folded.flatten)).mapM label?
  if areOrdered labels then some (['.'].intercalate (labels.map (·.written))) else none

end Workflow.Domain
