import Workflow.Number.Binary64
/-!
# The shortest decimal digits of a double-precision number

Among the decimals that round to a number, the one with the fewest digits is written; of two with
as few digits the nearer one, and of two equally near the one with the even last digit.

## Main definitions

* `Decimal` — digits and a power of ten.
* `Binary64.shortest` — the decimal that is written for a magnitude.
-/

namespace Workflow

/-- `digits * 10 ^ exponent`. -/
structure Decimal where
  digits : Nat
  exponent : Int
  deriving DecidableEq, Repr

namespace Decimal

/-- How many decimal digits `n` has; zero has one. -/
def width (n : Nat) : Nat := (Nat.toDigits 10 n).length

/-- The same value with no zero at the end of the digits. -/
def stripZeros : Nat → Decimal → Decimal
  | 0, d => d
  | fuel + 1, d =>
    if d.digits % 10 = 0 then stripZeros fuel ⟨d.digits / 10, d.exponent + 1⟩ else d

/-- The power of ten of the first digit of `num / den`, for a positive quotient. -/
def leadingExponent (num den : Nat) : Int :=
  if den ≤ num then width (num / den) - 1
  else -(width ((den - 1) / num) : Int)

end Decimal

namespace Binary64

/-- The interval of values that round to `m * 2 ^ e`, with the value between its ends, all in
units of `2 ^ (e - 2)`. -/
structure Neighbourhood where
  low : Nat
  value : Nat
  high : Nat
  closed : Bool

/-- Half the distance to either neighbour; below a power of two the neighbour is nearer. -/
def neighbourhood (m : Nat) (e : Int) : Neighbourhood :=
  let below := if m = Nat.pow 2 52 ∧ -1074 < e then 1 else 2
  ⟨4 * m - below, 4 * m, 4 * m + 2, m % 2 = 0⟩

/-- Whether `p / q` lies in the interval of values that round to the number. -/
def Neighbourhood.holds (i : Neighbourhood) (p q : Nat) : Bool :=
  if i.closed then i.low * q ≤ p && p ≤ i.high * q else i.low * q < p && p < i.high * q

/-- The best decimal with unit `10 ^ k` in the interval. -/
def bestOnGrid (i : Neighbourhood) (e : Int) (k : Int) : Option Decimal :=
  -- a point `d` of the grid is `d * unit.1 / unit.2` in units of the interval
  let unit :=
    let (a, b) := scaled 1 1 (2 - e)
    if 0 ≤ k then (a * Nat.pow 10 k.toNat, b) else (a, b * Nat.pow 10 (-k).toNat)
  let d := i.value * unit.2 / unit.1
  let lower := i.holds (d * unit.1) unit.2
  let upper := i.holds ((d + 1) * unit.1) unit.2
  let r := i.value * unit.2 % unit.1
  match lower, upper with
  | true, true =>
    some ⟨if 2 * r < unit.1 then d else if unit.1 < 2 * r then d + 1 else d + d % 2, k⟩
  | true, false => some ⟨d, k⟩
  | false, true => some ⟨d + 1, k⟩
  | false, false => none

/-- The decimal for `m * 2 ^ e`, where `m` is positive. -/
def shortest (m : Nat) (e : Int) : Decimal :=
  let (n, d) := ratio m e
  let top := Decimal.leadingExponent n d
  let i := neighbourhood m e
  let found := (List.range 17).findSome? fun (count : Nat) => bestOnGrid i e (top - count)
  (found.getD ⟨n / d, 0⟩).stripZeros 400

end Binary64

end Workflow
