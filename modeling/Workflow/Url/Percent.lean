import Workflow.Bytes.Hex
import Workflow.Bytes.Utf8
/-!
# Percent encoding

A character that may not stand in a part of a URL is written as its UTF-8 bytes, each one as a
percent sign and two hexadecimal digits. Which characters these are depends on the part.

## Main definitions

* `Percent.encode isEscaped cs` — `cs` with the escaped characters written as bytes.
* `Percent.decode cs` — the bytes that a text with escapes stands for.
* `Percent.decodeExcept isProtected cs` — the same, with some escapes left alone.
* `Percent.inUserinfo`, `Percent.inPath`, … — the characters escaped in each part.
-/

namespace Workflow.Percent

/-- An upper-case hexadecimal digit. -/
def hexDigit (n : Nat) : Char :=
  if n < 10 then Char.ofNat ('0'.toNat + n) else Char.ofNat ('A'.toNat + (n - 10))

/-- A byte as percent sign and two digits. -/
def escapeByte (b : UInt8) : List Char := ['%', hexDigit (b.toNat / 16), hexDigit (b.toNat % 16)]

/-- A character by its bytes. -/
def escapeChar (c : Char) : List Char := (String.utf8EncodeChar c).flatMap escapeByte

/-- The escaped characters by their bytes, the others as they are. -/
def encode (isEscaped : Char → Bool) (cs : List Char) : List Char :=
  cs.flatMap fun c => if isEscaped c then escapeChar c else [c]

/-- The bytes that a text with escapes stands for; what is no escape stands for its own bytes, and
so does the escape of a protected character of ASCII. -/
def decodeExcept (isProtected : Char → Bool) : List Char → List UInt8
  | [] => []
  | '%' :: a :: b :: cs =>
    match Hex.value? a, Hex.value? b with
    | some x, some y =>
      if 16 * x + y < 0x80 ∧ isProtected (Char.ofNat (16 * x + y)) then
        String.utf8EncodeChar '%' ++ decodeExcept isProtected (a :: b :: cs)
      else UInt8.ofNat (16 * x + y) :: decodeExcept isProtected cs
    | _, _ => String.utf8EncodeChar '%' ++ decodeExcept isProtected (a :: b :: cs)
  | c :: cs => String.utf8EncodeChar c ++ decodeExcept isProtected cs

/-- The bytes that a text with escapes stands for. -/
def decode (cs : List Char) : List UInt8 := decodeExcept (fun _ => false) cs

/-- Controls and what is not ASCII. -/
def inControls (c : Char) : Bool := c.toNat < 0x20 || 0x7F ≤ c.toNat

/-- One of the characters of a string. -/
def oneOf (set : String) (c : Char) : Bool := set.toList.contains c

/-- Escaped in a fragment. -/
def inFragment (c : Char) : Bool := inControls c || oneOf " \"<>\x60" c

/-- Escaped in a query. -/
def inQuery (c : Char) : Bool := inControls c || oneOf " \"#<>" c

/-- Escaped in a query of a scheme of the web. -/
def inWebQuery (c : Char) : Bool := inQuery c || c == '\''

/-- Escaped in a path. -/
def inPath (c : Char) : Bool := inFragment c || oneOf "#?\x7b\x7d" c

/-- Escaped in a single segment that is put into a path. -/
def inSegment (c : Char) : Bool := inPath c || oneOf "/%" c

/-- Escaped in a user name or password. -/
def inUserinfo (c : Char) : Bool := inPath c || oneOf "/:;=@[\\]^|" c

end Workflow.Percent
