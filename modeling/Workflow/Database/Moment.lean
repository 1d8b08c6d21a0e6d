/-!
# Moments

A moment is a number of milliseconds counted from the start of the year 1970. In writing it is a
date, a separator and a time of day, which ends with its distance from universal time; a fraction
of a second has as many digits as it needs.

## Main definitions

* `Moment.text?` — the moment in writing, from 1970 to the end of 9999.
* `Moment.parse?` — the moment that a text spells.
-/

namespace Workflow

/-- A point in time. -/
structure Moment where
  milliseconds : Int
  deriving DecidableEq, Repr

namespace Moment

/-! ## Writing -/

/-- Year, month and day of a day counted from the first of January 1970. Years begin in March, so
that a leap day is the last of its year. -/
def date (day : Nat) : Nat × Nat × Nat :=
  let z := day + 719468
  let era := z / 146097
  let d := z % 146097
  let y := (d - d / 1460 + d / 36524 - d / 146096) / 365
  let n := d - (365 * y + y / 4 - y / 100)
  let m := (5 * n + 2) / 153
  let month := if m < 10 then m + 3 else m - 9
  (y + era * 400 + (if month ≤ 2 then 1 else 0), month, n - (153 * m + 2) / 5 + 1)

/-- A number with leading zeros. -/
def padded (width n : Nat) : String :=
  let s := toString n
  String.ofList (List.replicate (width - s.length) '0') ++ s

/-- Thousandths behind a point, without zeros at the end. -/
def fraction (n : Nat) : String :=
  if n = 0 then ""
  else "." ++ String.ofList ((padded 3 n).toList.reverse.dropWhile (· = '0')).reverse

/-- The first millisecond of the year 10000. -/
def limit : Nat := 253402300800000

/-- The moment in writing, if it lies in the years from 1970 to 9999. -/
def text? (moment : Moment) : Option String :=
  if moment.milliseconds < 0 ∨ limit ≤ moment.milliseconds then none
  else
    let milliseconds := moment.milliseconds.toNat
    let seconds := milliseconds / 1000
    let (year, month, day) := date (seconds / 86400)
    some (padded 4 year ++ "-" ++ padded 2 month ++ "-" ++ padded 2 day ++ "T"
      ++ padded 2 (seconds / 3600 % 24) ++ ":" ++ padded 2 (seconds / 60 % 60) ++ ":"
      ++ padded 2 (seconds % 60) ++ fraction (milliseconds % 1000) ++ "Z")

/-! ## Reading -/

def isLeapYear (year : Nat) : Bool := year % 4 = 0 && (year % 100 ≠ 0 || year % 400 = 0)

def daysIn (year month : Nat) : Nat :=
  if month = 2 then (if isLeapYear year then 29 else 28)
  else if month = 4 ∨ month = 6 ∨ month = 9 ∨ month = 11 then 30
  else 31

/-- The days from the first of January 1970 to a date. A cycle of the calendar is added and taken
away again, so that no year counts from below zero. -/
def dayNumber (year month day : Nat) : Int :=
  let y := year + 400 - (if month ≤ 2 then 1 else 0)
  let m := (month + 9) % 12
  ((365 * y + y / 4 - y / 100 + y / 400 + (153 * m + 2) / 5 + day : Nat) : Int) - 865566

/-- A number of so many digits and the text behind it. -/
def number? (width : Nat) (cs : List Char) : Option (Nat × List Char) :=
  let digits := cs.take width
  if digits.length = width && digits.all Char.isDigit then
    some (digits.foldl (fun n d => 10 * n + (d.toNat - '0'.toNat)) 0, cs.drop width)
  else none

/-- The text behind a character. -/
def behind? (c : Char) : List Char → Option (List Char)
  | d :: rest => if d = c then some rest else none
  | [] => none

/-- Billionths of a second behind a point, from nine digits at most, and the text behind all of
its digits. -/
def subsecond? : List Char → Option (Nat × List Char)
  | '.' :: rest =>
    let digits := rest.takeWhile Char.isDigit
    if digits.isEmpty then none
    else (number? 9 (digits ++ List.replicate 9 '0')).map fun (n, _) =>
      (n, rest.dropWhile Char.isDigit)
  | cs => some (0, cs)

/-- The seconds by which a time of day is ahead of universal time. -/
def offset? : List Char → Option Int
  | ['Z'] => some 0
  | ['z'] => some 0
  | sign :: rest => do
    if sign ≠ '+' ∧ sign ≠ '-' then none
    let (hours, rest) ← number? 2 rest
    let (minutes, rest) ← number? 2 (← behind? ':' rest)
    if 23 < hours ∨ 59 < minutes ∨ rest ≠ [] then none
    let seconds : Int := hours * 3600 + minutes * 60
    return if sign = '-' then -seconds else seconds
  | [] => none

/-- A leap second stands for the end of the second before it. Only the last second of a month in
universal time can have one; whole cycles of the calendar keep the date in range. -/
def isLastOfMonth (seconds : Int) : Bool :=
  let day := seconds / 86400
  let (_, _, next) := date (day + 1 + 730485).toNat
  seconds % 86400 = 86399 && next = 1

/-- The moment that a text spells. Any character of ASCII separates date and time. -/
def parse? (text : String) : Option Moment := do
  let (year, rest) ← number? 4 text.toList
  let (month, rest) ← number? 2 (← behind? '-' rest)
  let (day, rest) ← number? 2 (← behind? '-' rest)
  if month < 1 ∨ 12 < month ∨ day < 1 ∨ daysIn year month < day then none
  let (separator, rest) ← rest.head?.map (·, rest.tail)
  if 0x7f < separator.toNat then none
  let (hour, rest) ← number? 2 rest
  let (minute, rest) ← number? 2 (← behind? ':' rest)
  let (second, rest) ← number? 2 (← behind? ':' rest)
  let (billionths, rest) ← subsecond? rest
  let offset ← offset? rest
  if 23 < hour ∨ 59 < minute ∨ 60 < second then none
  let isLeap := second = 60
  let seconds := dayNumber year month day * 86400
    + (hour * 3600 + minute * 60 + (if isLeap then 59 else second) : Nat) - offset
  if isLeap ∧ ! isLastOfMonth seconds then none
  let billionths := if isLeap then 999999999 else billionths
  return ⟨(seconds * 1000000000 + billionths).tdiv 1000000⟩

end Moment

end Workflow
