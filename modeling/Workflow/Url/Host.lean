import Workflow.Url.Domain
import Workflow.Url.Percent
/-!
# Hosts

The host of a URL in its normal spelling. A scheme of the web names a domain or an address: escapes
are resolved, letters are made lower-case, and a name that ends in a number is an address of version
four. Any other scheme has an opaque host, of which only the characters are checked. Square brackets
hold an address of version six.

## Main definitions

* `Host.normal? web cs` — the normal spelling of a host; nothing if it is none.
-/

namespace Workflow.Host

/-- The number that digits of a base spell. -/
def numberIn? (base : Nat) (cs : List Char) : Option Nat :=
  cs.foldlM (fun n c => do
    let d ← Hex.value? c
    if d < base then some (n * base + d) else none) 0

/-- Characters that no host may hold. -/
def isForbidden (c : Char) : Bool := Percent.oneOf "\x00\t\n\r #/:<>?@[\\]^|" c

/-- Characters that no domain may hold. -/
def isForbiddenInDomain (c : Char) : Bool :=
  isForbidden c || c.toNat < 0x20 || c == '%' || c.toNat == 0x7F

/-- A part of an address of version four: decimal, octal behind a zero, hexadecimal behind `0x`. -/
def addressPart? (cs : List Char) : Option Nat :=
  match cs with
  | [] => none
  | '0' :: x :: digits =>
    if x = 'x' ∨ x = 'X' then numberIn? 16 digits else numberIn? 8 (x :: digits)
  | digits => numberIn? 10 digits

def splitAt (mark : Char) (cs : List Char) : List (List Char) :=
  cs.foldr (fun c pieces => match pieces with
    | [] => [[c]]
    | piece :: rest => if c = mark then [] :: piece :: rest else (c :: piece) :: rest) [[]]

/-- The parts between the dots, less an empty one at the end. -/
def dotParts (cs : List Char) : List (List Char) :=
  let parts := splitAt '.' cs
  match parts.reverse with
  | [] :: (first :: rest) => (first :: rest).reverse
  | _ => parts

/-- Whether the last part of a domain is a number. -/
def endsInNumber (cs : List Char) : Bool :=
  match (dotParts cs).getLast? with
  | none => false
  | some last => (! last.isEmpty && last.all Char.isDigit) || (addressPart? last).isSome

/-- An address of version four as a number: the last part fills what the others leave. -/
def address4? (cs : List Char) : Option Nat := do
  let parts := dotParts cs
  if 4 < parts.length then none
  else
    let numbers ← parts.mapM addressPart?
    let last ← numbers.getLast?
    let front := numbers.dropLast
    if front.any (255 < ·) || Nat.pow 256 (5 - parts.length) ≤ last then none
    else
      let high :=
        front.foldl (fun (n, scale) part => (n + part * scale, scale / 256)) (0, Nat.pow 256 3)
      some (high.1 + last)

/-- An address of version four in writing. -/
def dotted (n : Nat) : String :=
  ".".intercalate ([n / 0x1000000 % 256, n / 0x10000 % 256, n / 0x100 % 256, n % 256].map toString)

/-- Pieces of an address of version six; a dotted end counts as two pieces. -/
def pieces6? (cs : List Char) : Option (List Nat) :=
  if cs.isEmpty then some []
  else
    let texts := splitAt ':' cs
    let piece? (text : List Char) : Option Nat :=
      if text.isEmpty || 4 < text.length then none else numberIn? 16 text
    match texts.getLast? with
    | some last =>
      if last.contains '.' then do
        let front ← texts.dropLast.mapM piece?
        let parts ← (splitAt '.' last).mapM fun part =>
          if part.isEmpty || (part.length > 1 && part.head? == some '0') then none
          else (numberIn? 10 part).filter (· ≤ 255)
        match parts with
        | [a, b, c, d] => some (front ++ [a * 256 + b, c * 256 + d])
        | _ => none
      else texts.mapM piece?
    | none => none

/-- The text before and after the first pair of colons. -/
def splitColons : List Char → Option (List Char × List Char)
  | ':' :: ':' :: cs => some ([], cs)
  | c :: cs => (splitColons cs).map fun (before, after) => (c :: before, after)
  | [] => none

/-- The eight pieces of an address of version six. -/
def address6? (cs : List Char) : Option (List Nat) := do
  match splitColons cs with
  | none =>
    let pieces ← pieces6? cs
    if pieces.length = 8 then some pieces else none
  | some (before, after) =>
    if before.contains '.' then none
    else
      let front ← pieces6? before
      let back ← pieces6? after
      let given := front.length + back.length
      if 8 ≤ given then none else some (front ++ List.replicate (8 - given) 0 ++ back)

/-- The lengths of the runs of zeros that start at each place. -/
def zeroRuns : List Nat → List Nat
  | [] => []
  | n :: rest =>
    let runs := zeroRuns rest
    (if n = 0 then 1 + runs.headD 0 else 0) :: runs

/-- An address of version six in writing, its longest run of two or more zeros left out. -/
def coloned (pieces : List Nat) : String :=
  let hex (n : Nat) : String := String.ofList (Nat.toDigits 16 n)
  let runs := zeroRuns pieces
  let longest := runs.foldl max 0
  if longest < 2 then ":".intercalate (pieces.map hex)
  else
    let start := runs.findIdx (· = longest)
    ":".intercalate ((pieces.take start).map hex) ++ "::"
      ++ ":".intercalate ((pieces.drop (start + longest)).map hex)

/-- The normal spelling of a host between square brackets. -/
def bracketed? (cs : List Char) : Option String :=
  match cs.reverse with
  | ']' :: inner => (address6? inner.reverse).map fun pieces => "[" ++ coloned pieces ++ "]"
  | _ => none

/-- The normal spelling of a domain or an address of version four. -/
def domain? (cs : List Char) : Option String :=
  match Domain.inAscii? (Utf8.decode (Percent.decode cs)) with
  | none => none
  | some name =>
    if name.isEmpty || name.any isForbiddenInDomain then none
    else if endsInNumber name then (address4? name).map dotted
    else some (String.ofList name)

/-- The normal spelling of a host; nothing if it is none. -/
def normal? (web : Bool) (cs : List Char) : Option String :=
  if cs.head? == some '[' then bracketed? cs.tail
  else if web then domain? cs
  else if cs.any isForbidden then none
  else some (String.ofList (Percent.encode Percent.inControls cs))

end Workflow.Host
