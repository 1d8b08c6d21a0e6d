/-!
# Punycode

A label with characters beyond ASCII is written in ASCII: first its characters of ASCII, then the
places and numbers of the others, as one sequence of digits. A number is written to a base that
changes with the place; how the base changes follows the numbers before, so that small ones take few
digits.

## Main definitions

* `Punycode.encode label` — a label in ASCII.
* `Punycode.decode? cs` — the label that `cs` spells.
-/

namespace Workflow.Punycode

/-- A digit to the base 36: letters first. -/
def digit (n : Nat) : Char := if n < 26 then Char.ofNat (0x61 + n) else Char.ofNat (0x30 + (n - 26))

/-- The value of a digit. -/
def digitValue? (c : Char) : Option Nat :=
  if 'a' ≤ c ∧ c ≤ 'z' then some (c.toNat - 'a'.toNat)
  else if '0' ≤ c ∧ c ≤ '9' then some (c.toNat - '0'.toNat + 26)
  else none

/-- The least digit that is not the last, at a place. -/
def threshold (place bias : Nat) : Nat :=
  if place ≤ bias then 1 else if bias + 26 ≤ place then 26 else place - bias

theorem threshold_pos (place bias : Nat) : 1 ≤ threshold place bias := by
  simp only [threshold]
  split
  · exact Nat.le_refl 1
  · split <;> omega

/-- What is left of a number after its first digit is smaller. -/
theorem rest_lt {n least : Nat} (h : ¬ n < least) (pos : 1 ≤ least) (base : Nat) :
    (n - least) / base < n := by
  have := Nat.div_le_self (n - least) base
  omega

/-- The place of the first digit of a number. -/
def firstPlace : Nat := 36

/-- The digits of a number, the least first, from a place on. -/
def digits (n place bias : Nat) : List Char :=
  let least := threshold place bias
  if h : n < least then [digit n]
  else
    have := rest_lt h (threshold_pos place bias) (36 - least)
    digit (least + (n - least) % (36 - least))
      :: digits ((n - least) / (36 - least)) (place + 36) bias

/-- The number of divisions by 35 that bring a number below 456, in places, and what is left. -/
def settle (delta place : Nat) : Nat × Nat :=
  if 455 < delta then settle (delta / 35) (place + 36) else (delta, place)
termination_by delta
decreasing_by omega

/-- The bias after a number that was written when `handled` characters were done with it. -/
def adapt (delta handled : Nat) (first : Bool) : Nat :=
  let delta := if first then delta / 700 else delta / 2
  let (rest, place) := settle (delta + delta / handled) 0
  place + 36 * rest / (rest + 38)

/-! ## Writing -/

/-- What has been written of a label. -/
structure Coding where
  output : List Char
  bias : Nat := 72
  delta : Nat := 0
  /-- Characters below this one are done. -/
  next : Nat := 0x80
  handled : Nat

/-- Pass over a character of the label while `m` is the character to be written. -/
def Coding.pass (coding : Coding) (basic m : Nat) (c : Char) : Coding :=
  if c.toNat < m then { coding with delta := coding.delta + 1 }
  else if c.toNat = m then { coding with
    output := coding.output ++ digits coding.delta firstPlace coding.bias
    bias := adapt coding.delta (coding.handled + 1) (coding.handled = basic)
    delta := 0
    handled := coding.handled + 1 }
  else coding

/-- Write the places of a character. -/
def Coding.write (label : List Char) (basic : Nat) (coding : Coding) (m : Nat) : Coding :=
  let start := { coding with delta := coding.delta + (m - coding.next) * (coding.handled + 1) }
  let coding := label.foldl (fun coding c => coding.pass basic m c) start
  { coding with delta := coding.delta + 1, next := m + 1 }

/-- A label in ASCII: its characters of ASCII, then the places of the others. -/
def encode (label : List Char) : List Char :=
  let basic := label.filter (·.toNat < 0x80)
  let others := ((label.filter (0x80 ≤ ·.toNat)).map Char.toNat).eraseDups.mergeSort
  let start : Coding :=
    { output := if basic.isEmpty then [] else basic ++ ['-'], handled := basic.length }
  (others.foldl (Coding.write label basic.length) start).output

/-! ## Reading -/

/-- What has been read of a label. -/
structure Decoding where
  output : List Char
  /-- The character put in last, by its number. -/
  code : Nat := 0x80
  /-- The place behind the character put in last. -/
  start : Nat := 0
  /-- That place and the part of the current number that has been read. -/
  sum : Nat := 0
  bias : Nat := 72
  /-- Place and weight of the next digit. -/
  place : Nat := firstPlace
  weight : Nat := 1

/-- The character with a number. -/
def char? (n : Nat) : Option Char :=
  if n < 0xD800 ∨ (0xDFFF < n ∧ n < 0x110000) then some (Char.ofNat n) else none

/-- Read one more digit. The last digit of a number puts in a character. -/
def Decoding.push (decoding : Decoding) (c : Char) : Option Decoding := do
  let d ← digitValue? c
  let sum := decoding.sum + d * decoding.weight
  let least := threshold decoding.place decoding.bias
  if least ≤ d then
    some { decoding with
      sum
      place := decoding.place + 36
      weight := decoding.weight * (36 - least) }
  else
    let handled := decoding.output.length + 1
    let code := decoding.code + sum / handled
    let index := sum % handled
    let char ← char? code
    some {
      output := decoding.output.insertIdx index char
      code
      start := index + 1
      sum := index + 1
      bias := adapt (sum - decoding.start) handled (decoding.start = 0) }

/-- The characters of ASCII in front of the last hyphen, and the digits behind it. -/
def splitBasic (cs : List Char) : List Char × List Char :=
  match cs.reverse.dropWhile (· ≠ '-') with
  | _ :: c :: before => ((c :: before).reverse, (cs.reverse.takeWhile (· ≠ '-')).reverse)
  | _ => ([], cs)

/-- The label that a text in ASCII spells. The last number has to be complete. -/
def decode? (cs : List Char) : Option (List Char) := do
  let (basic, digits) := splitBasic cs
  let decoding ← digits.foldlM Decoding.push { output := basic }
  if decoding.place = firstPlace then some decoding.output else none

end Workflow.Punycode
