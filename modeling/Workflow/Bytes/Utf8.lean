/-!
# UTF-8

Every text has its bytes. Bytes that are no text are read with the replacement character in the
place of each longest start of a character that does not go on.

## Main definitions

* `Utf8.encode` — the bytes of a text.
* `Utf8.decode` — the text of bytes, with replacements.
-/

namespace Workflow.Utf8

/-- The bytes of a text. -/
def encode (cs : List Char) : List UInt8 := cs.flatMap String.utf8EncodeChar

/-- What stands in the place of bytes that are no character. -/
def replacement : Char := '\ufffd'

/-- A byte inside a character, between two bounds. -/
def between (low high : Nat) (b : UInt8) : Bool := low ≤ b.toNat && b.toNat ≤ high

/-- Bounds of the second byte and the number of bytes behind the first; nothing if no character
starts with the byte or if it is a character of its own. -/
def lead? (b : UInt8) : Option (Nat × Nat × Nat) :=
  let n := b.toNat
  if 0xC2 ≤ n ∧ n ≤ 0xDF then some (0x80, 0xBF, 1)
  else if n = 0xE0 then some (0xA0, 0xBF, 2)
  else if n = 0xED then some (0x80, 0x9F, 2)
  else if 0xE1 ≤ n ∧ n ≤ 0xEF then some (0x80, 0xBF, 2)
  else if n = 0xF0 then some (0x90, 0xBF, 3)
  else if 0xF1 ≤ n ∧ n ≤ 0xF3 then some (0x80, 0xBF, 3)
  else if n = 0xF4 then some (0x80, 0x8F, 3)
  else none

/-- What has been read of the character at hand. -/
inductive Reading where
  | start
  /-- The value so far, the bounds of the next byte, and how many bytes are to come. -/
  | inside (value low high left : Nat)

/-- Read the next byte: the characters it completes, and what has been read after it. -/
def step (b : UInt8) : Reading → List Char × Reading
  | .start => first b
  | .inside value low high left =>
    if between low high b then
      let value := value * 64 + b.toNat % 64
      if left ≤ 1 then ([Char.ofNat value], .start) else ([], .inside value 0x80 0xBF (left - 1))
    else
      let (cs, reading) := first b
      (replacement :: cs, reading)
where
  /-- A byte at the start of a character. -/
  first (b : UInt8) : List Char × Reading :=
    if b.toNat < 0x80 then ([Char.ofNat b.toNat], .start)
    else match lead? b with
      | some (low, high, left) =>
        let bits := if left = 1 then 32 else if left = 2 then 16 else 8
        ([], .inside (b.toNat % bits) low high left)
      | none => ([replacement], .start)

def decodeFrom : Reading → List UInt8 → List Char
  | .start, [] => []
  | .inside .., [] => [replacement]
  | reading, b :: bs =>
    let (cs, reading) := step b reading
    cs ++ decodeFrom reading bs

/-- The text of bytes. -/
def decode (bytes : List UInt8) : List Char := decodeFrom .start bytes

end Workflow.Utf8
