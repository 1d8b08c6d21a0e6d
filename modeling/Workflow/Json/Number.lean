import Workflow.Json
/-!
# Number literals

A literal is a sign, whole digits without a needless zero, and optionally a fraction and an
exponent. Without fraction and exponent it stands for a whole number if 64 bits hold it, signed or
unsigned; negative zero is in floating point. Any other literal is in floating point: its leading
digits, as many as 64 bits hold, are rounded to a double-precision number, and that is scaled by a
power of ten and rounded again.

## Main definitions

* `NumberLiteral.read` — the literal at the start of a text.
* `NumberLiteral.value?` — what it stands for; nothing if it is past the largest number.
-/

namespace Workflow

/-- A number as it is spelled. -/
structure NumberLiteral where
  negative : Bool
  whole : List Char
  /-- The digits behind the point; none if there is no point. -/
  fraction : List Char
  /-- Sign and digits of the exponent. -/
  exponent : Option (Bool × List Char)

namespace NumberLiteral

/-- The sign, digits and rest of an exponent. -/
def readExponent (cs : List Char) : Option ((Bool × List Char) × List Char) :=
  let (negative, cs) := match cs with
    | '+' :: cs => (false, cs)
    | '-' :: cs => (true, cs)
    | cs => (false, cs)
  let digits := cs.takeWhile Char.isDigit
  if digits.isEmpty then none else some ((negative, digits), cs.dropWhile Char.isDigit)

/-- Whether a minus sign stands in front, and the text behind it. -/
def readMinus (cs : List Char) : Bool × List Char :=
  match cs with
  | '-' :: cs => (true, cs)
  | cs => (false, cs)

/-- The literal at the start of a text and the text behind it. -/
def read (cs : List Char) : Option (NumberLiteral × List Char) :=
  let (negative, cs) := readMinus cs
  let whole := cs.takeWhile Char.isDigit
  let cs := cs.dropWhile Char.isDigit
  if whole.isEmpty || (whole.length > 1 && whole.head? == some '0') then none
  else do
    let (fraction, cs) ← match cs with
      | '.' :: cs =>
        let digits := cs.takeWhile Char.isDigit
        if digits.isEmpty then none else some (digits, cs.dropWhile Char.isDigit)
      | cs => some ([], cs)
    match cs with
    | c :: rest =>
      if c = 'e' ∨ c = 'E' then
        let (exponent, rest) ← readExponent rest
        some (⟨negative, whole, fraction, some exponent⟩, rest)
      else some (⟨negative, whole, fraction, none⟩, cs)
    | [] => some (⟨negative, whole, fraction, none⟩, [])

def digitValue (c : Char) : Nat := c.toNat - '0'.toNat

/-- Digits appended to a number as long as 64 bits hold it, and the digits left over. -/
def fit (n : Nat) : List Char → Nat × List Char
  | [] => (n, [])
  | d :: ds =>
    let m := 10 * n + digitValue d
    if Nat.pow 2 64 ≤ m then (n, d :: ds) else fit m ds

/-- The power of ten as a double-precision number. -/
def powerOfTen (e : Nat) : Binary64 := .ofDecimal false 1 e

/-- A number scaled by a power of ten, in one step up and in at most two steps down. -/
def scale (x : Binary64) (e : Int) : Option Binary64 :=
  let zero := x.toInt? == some 0
  if 308 < e then if zero then some x else none
  else if 0 ≤ e then
    let y := x.mul (powerOfTen e.toNat)
    if y.isFinite then some y else none
  else if -308 ≤ e then some (x.div (powerOfTen (-e).toNat))
  else if -616 ≤ e then some ((x.div (powerOfTen 308)).div (powerOfTen (-e - 308).toNat))
  else some (.finite false 0 0)

/-- The size of an exponent; nothing past 31 bits. -/
def exponentSize? (digits : List Char) : Option Nat :=
  let n := digits.foldl (fun n d => min (Nat.pow 2 31) (10 * n + digitValue d)) 0
  if n < Nat.pow 2 31 then some n else none

/-- The number in floating point that a literal stands for. -/
def float? (literal : NumberLiteral) : Option Binary64 := do
  let (n, left) := fit 0 literal.whole
  let (m, unread) := fit n literal.fraction
  let start : Int := left.length - (literal.fraction.length - unread.length : Nat)
  let x ← match literal.exponent with
    | none => scale (.ofInt m) start
    | some (down, digits) =>
      match exponentSize? digits with
      | some e => scale (.ofInt m) (if down then start - e else start + e)
      | none => if m ≠ 0 && ! down then none else some (.finite false 0 0)
  some (if literal.negative then x.neg else x)

/-- What a literal stands for. -/
def value? (literal : NumberLiteral) : Option Json :=
  let (n, left) := fit 0 literal.whole
  if left.isEmpty && literal.fraction.isEmpty && literal.exponent.isNone
      && (! literal.negative || (0 < n && n ≤ Nat.pow 2 63)) then
    some (.int (if literal.negative then -n else n))
  else literal.float?.map .float

/-- The number nearest to the value that a literal spells. -/
def nearest (literal : NumberLiteral) : Binary64 :=
  let digits := (literal.whole ++ literal.fraction).foldl (fun n d => 10 * n + digitValue d) 0
  let e : Int := match literal.exponent with
    | none => 0
    | some (down, digits) =>
      let size : Int := (exponentSize? digits).getD (Nat.pow 2 31)
      if down then -size else size
  let least : Int := -400 - literal.whole.length
  let e := max least (min 400 e) - literal.fraction.length
  .ofDecimal literal.negative digits e

end NumberLiteral

/-- The number that a text spells, rounded once; also infinity and what is not a number. -/
def Binary64.parse? (text : String) : Option Binary64 :=
  if text = "NaN" then some nan
  else if text = "inf" then some (infinite false)
  else if text = "-inf" then some (infinite true)
  else match NumberLiteral.read text.toList with
    | some (literal, []) => some literal.nearest
    | _ => none

end Workflow
