/-!
# Double-precision numbers

A number of the binary interchange format with 64 bits, as sign, whole significand and exponent
of two. All rounding is done on exact quotients of natural numbers, to the nearest number of the
format, a tie going to the even significand.

## Main definitions

* `Binary64` — the numbers.
* `Binary64.ofRatio` — the number nearest to a quotient.
* `Binary64.toInt?` — the value of a whole number.
* `Binary64.lt` — the order of the values.
-/

namespace Workflow

/-- `num / den` to the nearest whole number, a half going to the even neighbour. -/
def roundHalfEven (num den : Nat) : Nat :=
  let q := num / den
  let r := num % den
  if 2 * r < den then q else if den < 2 * r then q + 1 else q + q % 2

/-- The size of a binary format: bits of the significand, and the range of the exponent that a
whole significand of that many bits is scaled by. -/
structure BinaryFormat where
  precision : Nat
  minExponent : Int
  maxExponent : Int

/-- Double precision. -/
def BinaryFormat.double : BinaryFormat := ⟨53, -1074, 971⟩

/-- Single precision. -/
def BinaryFormat.single : BinaryFormat := ⟨24, -149, 104⟩

/-- A double-precision number: `finite s m e` stands for `m * 2 ^ e`, negated when `s`. -/
inductive Binary64 where
  | nan
  | infinite (negative : Bool)
  | finite (negative : Bool) (significand : Nat) (exponent : Int)
  deriving DecidableEq, Repr, Inhabited

namespace Binary64

/-- `num / den * 2 ^ shift` as a quotient of natural numbers. -/
def scaled (num den : Nat) (shift : Int) : Nat × Nat :=
  if 0 ≤ shift then (num * Nat.pow 2 shift.toNat, den) else (num, den * Nat.pow 2 (-shift).toNat)

/-- The exponent at which the whole part of `num / den * 2 ^ -e` has `precision` bits, or the
least exponent of the format if that is larger. -/
def exponentFor (fmt : BinaryFormat) (num den : Nat) : Int :=
  let l : Int := num.log2 - den.log2
  let (n, d) := scaled num den (-l)
  let top := if n < d then l - 1 else l
  max (top - fmt.precision + 1) fmt.minExponent

/-- The number of the format nearest to `num / den`; past the largest one, infinity. -/
def ofRatioIn (fmt : BinaryFormat) (negative : Bool) (num den : Nat) : Binary64 :=
  if num = 0 then finite negative 0 0
  else
    let e := exponentFor fmt num den
    let (n, d) := scaled num den (-e)
    let m := roundHalfEven n d
    let (m, e) :=
      if m = Nat.pow 2 fmt.precision then (Nat.pow 2 (fmt.precision - 1), e + 1) else (m, e)
    if m = 0 then finite negative 0 0
    else if fmt.maxExponent < e then infinite negative
    else finite negative m e

/-- The double-precision number nearest to `num / den`. -/
def ofRatio (negative : Bool) (num den : Nat) : Binary64 := ofRatioIn .double negative num den

/-- The double-precision number nearest to a whole number. -/
def ofInt (n : Int) : Binary64 := ofRatio (n < 0) n.natAbs 1

/-- The number nearest to `digits * 10 ^ exponent`. -/
def ofDecimal (negative : Bool) (digits : Nat) (exponent : Int) : Binary64 :=
  if 0 ≤ exponent then ofRatio negative (digits * Nat.pow 10 exponent.toNat) 1
  else ofRatio negative digits (Nat.pow 10 (-exponent).toNat)

/-- The magnitude of a finite number as a quotient. -/
def ratio (significand : Nat) (exponent : Int) : Nat × Nat := scaled significand 1 exponent

/-- The single-precision number nearest to `x`, which is a double-precision number too. -/
def toSingle (x : Binary64) : Binary64 :=
  match x with
  | finite s m e =>
    let (n, d) := ratio m e
    match ofRatioIn .single s n d with
    | finite s m e => let (n, d) := ratio m e; ofRatio s n d
    | y => y
  | _ => x

def neg : Binary64 → Binary64
  | nan => nan
  | infinite s => infinite (! s)
  | finite s m e => finite (! s) m e

def isFinite : Binary64 → Bool
  | finite .. => true
  | _ => false

/-- The product of two finite numbers, rounded once. -/
def mul : Binary64 → Binary64 → Binary64
  | finite s m e, finite s' m' e' =>
    let (n, d) := ratio (m * m') (e + e')
    ofRatio (s != s') n d
  | _, _ => nan

/-- The quotient of two finite numbers, the second not zero, rounded once. -/
def div : Binary64 → Binary64 → Binary64
  | finite s m e, finite s' m' e' =>
    let (n, d) := ratio m (e - e')
    if m' = 0 then nan else ofRatio (s != s') n (d * m')
  | _, _ => nan

/-- The whole number that a finite number without fraction stands for. -/
def toInt? : Binary64 → Option Int
  | finite s m e =>
    let (n, d) := ratio m e
    if n % d = 0 then some (if s then -(n / d : Nat) else (n / d : Nat)) else none
  | _ => none

/-- The significand with its sign. -/
def signed (negative : Bool) (m : Nat) : Int := if negative then -(m : Int) else m

/-- The order of the values; nothing is less than, or greater than, what is not a number. -/
def lt : Binary64 → Binary64 → Bool
  | finite s m e, finite s' m' e' =>
    let base := min e e'
    signed s m * Int.pow 2 (e - base).toNat < signed s' m' * Int.pow 2 (e' - base).toNat
  | infinite s, finite .. => s
  | finite .., infinite s => ! s
  | infinite s, infinite s' => s && ! s'
  | nan, _ => false
  | _, nan => false

end Binary64

end Workflow
