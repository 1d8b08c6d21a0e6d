import Workflow.Text.Blank
import Workflow.Url.Percent
/-!
# Form encoding

Pairs of texts joined by ampersands, each with an equals sign between name and content. Letters,
digits and four signs stand for themselves, a space is a plus sign, every other byte is escaped.

## Main definitions

* `Form.encode pairs` — the pairs in one text.
* `Form.decode cs` — the pairs in a text.
-/

namespace Workflow.Form

/-- A letter or digit of ASCII, or one of four signs. -/
def isKept (c : Char) : Bool :=
  c.isAlphanum || c == '*' || c == '-' || c == '.' || c == '_'

def encodeChar (c : Char) : List Char :=
  if isKept c then [c] else if c = ' ' then ['+'] else Percent.escapeChar c

def encodeText (s : String) : List Char := s.toList.flatMap encodeChar

def encodePair (pair : String × String) : List Char :=
  encodeText pair.1 ++ '=' :: encodeText pair.2

/-- The pairs in one text. -/
def encode : List (String × String) → List Char
  | [] => []
  | [pair] => encodePair pair
  | pair :: rest => encodePair pair ++ '&' :: encode rest

/-- The text that an encoded one stands for. -/
def decodeText (cs : List Char) : String :=
  String.ofList (Utf8.decode (Percent.decode (cs.map fun c => if c = '+' then ' ' else c)))

/-- A name and what stands behind the first equals sign. -/
def decodePair (cs : List Char) : String × String :=
  (decodeText (cs.takeWhile (· ≠ '=')), decodeText ((cs.dropWhile (· ≠ '=')).drop 1))

/-- The pairs in a text; nothing between two ampersands is no pair. -/
def decode (cs : List Char) : List (String × String) :=
  ((Text.pieces (· = '&') cs).filter (! ·.isEmpty)).map decodePair

end Workflow.Form
