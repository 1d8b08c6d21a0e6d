/-!
# Decimal numbers of 128 bits

A sign, up to 34 digits and a power of ten. Numbers of one value that differ in their digits are
told apart. A number that does not fit exactly is not read at all.

## Main definitions

* `Decimal128.parse?` — the number that a text spells.
* `Decimal128.text` — a number in writing.
-/

namespace Workflow

/-- A decimal number: `finite s n e` stands for `n * 10 ^ e`, negated when `s`. -/
inductive Decimal128 where
  | nan (negative : Bool)
  | infinite (negative : Bool)
  | finite (negative : Bool) (digits : Nat) (exponent : Int)
  deriving DecidableEq, Repr

namespace Decimal128

def maxDigits : Nat := 34

def minExponent : Int := -6176

def maxExponent : Int := 6111

def natOfDigits (ds : List Char) : Nat :=
  ds.foldl (fun n d => 10 * n + (d.toNat - '0'.toNat)) 0

/-- Digits without the last `n`, which have to be zeros. -/
def dropZeros? (n : Nat) (ds : List Char) : Option (List Char) :=
  if ds.length < n then none
  else if (ds.drop (ds.length - n)).all (· = '0') then some (ds.take (ds.length - n))
  else none

/-- Digits and a power of ten that fit, for digits of which the first is no needless zero. -/
def fit? (negative : Bool) (ds : List Char) (exponent : Int) : Option Decimal128 := do
  let surplus := ds.length - maxDigits
  let ds ← dropZeros? surplus ds
  let exponent := exponent + surplus
  if ds = ['0'] then return finite negative 0 (max minExponent (min maxExponent exponent))
  let below := (minExponent - exponent).toNat
  let ds ← dropZeros? below ds
  let above := (exponent - maxExponent).toNat
  if ds.isEmpty ∨ (0 < above ∧ maxDigits < ds.length + above) then none
  return finite negative (natOfDigits (ds ++ List.replicate above '0'))
    (exponent + below - above)

/-- The exponent that a text spells, in 16 bits with a sign. -/
def exponent? (cs : List Char) : Option Int :=
  let (negative, ds) := match cs with
    | '-' :: cs => (true, cs)
    | '+' :: cs => (false, cs)
    | cs => (false, cs)
  if ds.isEmpty || ! ds.all Char.isDigit then none
  else
    let n : Int := if negative then -natOfDigits ds else natOfDigits ds
    if -Int.pow 2 15 ≤ n ∧ n < Int.pow 2 15 then some n else none

/-- The number that digits spell, with a point and an exponent or without. -/
def finite? (negative : Bool) (cs : List Char) : Option Decimal128 := do
  let mantissa := cs.takeWhile (· ≠ 'e')
  let exponent ← match cs.dropWhile (· ≠ 'e') with
    | _ :: cs => exponent? cs
    | [] => some 0
  let fraction := (mantissa.dropWhile (· ≠ '.')).tail
  let ds := mantissa.takeWhile (· ≠ '.') ++ fraction
  if ds.isEmpty || ! ds.all Char.isDigit then none
  let significant := ds.dropWhile (· = '0')
  let exponent := exponent - fraction.length
  if exponent < -Int.pow 2 15 then none
  fit? negative (if significant.isEmpty then ['0'] else significant) exponent

/-- The number that a text spells. -/
def parse? (text : String) : Option Decimal128 :=
  let (negative, cs) := match text.toList with
    | '-' :: cs => (true, cs)
    | '+' :: cs => (false, cs)
    | cs => (false, cs)
  let cs := cs.map Char.toLower
  let name := String.ofList cs
  if name = "nan" ∨ name = "snan" then some (nan negative)
  else if name = "infinity" ∨ name = "inf" then some (infinite negative)
  else finite? negative cs

def zeros (n : Nat) : String := String.ofList (List.replicate n '0')

/-- Digits with a point where the power of ten puts it, if that is not far to the left or to the
right of them; else with an exponent. -/
def magnitude (digits : Nat) (exponent : Int) : String :=
  let ds := Nat.toDigits 10 digits
  let shown := exponent + ds.length - 1
  if exponent ≤ 0 ∧ -6 ≤ shown then
    let places := exponent.natAbs
    if places = 0 then String.ofList ds
    else if ds.length ≤ places then "0." ++ zeros (places - ds.length) ++ String.ofList ds
    else String.ofList (ds.take (ds.length - places)) ++ "."
      ++ String.ofList (ds.drop (ds.length - places))
  else
    let fraction := ds.drop 1
    String.ofList (ds.take 1) ++ (if fraction.isEmpty then "" else "." ++ String.ofList fraction)
      ++ "E" ++ (if 0 < shown then "+" else "") ++ toString shown

/-- A number in writing. -/
def text (x : Decimal128) : String :=
  let signed (negative : Bool) (s : String) : String := if negative then "-" ++ s else s
  match x with
  | nan negative => signed negative "NaN"
  | infinite negative => signed negative "Infinity"
  | finite negative digits exponent => signed negative (magnitude digits exponent)

end Decimal128

end Workflow
