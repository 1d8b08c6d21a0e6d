import Workflow.Bytes.Utf8
/-!
# UTF-16

Characters past the first 65536 are written as two units, a high and a low surrogate; a unit is two
bytes in either order. A surrogate without its partner is read as the replacement character, and so
is what the end of the bytes cuts off.

## Main definitions

* `Utf16.decode` — the text of bytes, with replacements.
* `Utf16.decodeMarked` — the text of bytes that a byte order mark may open.
-/

namespace Workflow

/-- Which of the two bytes of a unit comes first. -/
inductive ByteOrder where
  | little
  | big
  deriving DecidableEq, Repr

namespace Utf16

def unit (order : ByteOrder) (a b : UInt8) : Nat :=
  match order with
  | .little => 256 * b.toNat + a.toNat
  | .big => 256 * a.toNat + b.toNat

def isHigh (unit : Nat) : Bool := 0xD800 ≤ unit && unit < 0xDC00

def isLow (unit : Nat) : Bool := 0xDC00 ≤ unit && unit < 0xE000

/-- The character that two surrogates stand for. -/
def pair (high low : Nat) : Char := Char.ofNat (0x10000 + (high - 0xD800) * 0x400 + (low - 0xDC00))

/-- A unit that stands behind no high surrogate: the characters it completes, and the high surrogate
that it is. -/
def first (unit : Nat) : List Char × Option Nat :=
  if isHigh unit then ([], some unit)
  else if isLow unit then ([Utf8.replacement], none)
  else ([Char.ofNat unit], none)

/-- The characters behind a high surrogate or none. -/
def decodeFrom (order : ByteOrder) : Option Nat → List UInt8 → List Char
  | none, [] => []
  | some _, [] => [Utf8.replacement]
  | _, [_] => [Utf8.replacement]
  | none, a :: b :: rest =>
    let (cs, high) := first (unit order a b)
    cs ++ decodeFrom order high rest
  | some high, a :: b :: rest =>
    let u := unit order a b
    if isLow u then pair high u :: decodeFrom order none rest
    else
      let (cs, high) := first u
      Utf8.replacement :: cs ++ decodeFrom order high rest

/-- The text of bytes. -/
def decode (order : ByteOrder) (bytes : List UInt8) : List Char := decodeFrom order none bytes

/-- The text of bytes that a byte order mark may open; without a mark they are in UTF-8. -/
def decodeMarked : List UInt8 → List Char
  | 0xEF :: 0xBB :: 0xBF :: rest => Utf8.decode rest
  | 0xFF :: 0xFE :: rest => decode .little rest
  | 0xFE :: 0xFF :: rest => decode .big rest
  | bytes => Utf8.decode bytes

end Utf16

end Workflow
