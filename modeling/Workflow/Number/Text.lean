import Workflow.Number.Shortest
/-!
# Numbers in writing

A double-precision number is written with its shortest digits. It always shows a point or an
exponent, so that a reader can tell it from a whole number.

## Main definitions

* `Binary64.text` — the number in writing.
* `FloatStyle` — where positional notation ends.
-/

namespace Workflow

/-- Positional notation serves while the point stands behind more than `leastPoint` and at most
`mostPoint` digits, counted from the first digit. -/
structure FloatStyle where
  leastPoint : Int
  mostPoint : Int
  plus : String

/-- Positional from 0.00001 up to, but not including, 10 ^ 16; elsewhere the exponent is signed. -/
def FloatStyle.standard : FloatStyle := ⟨-5, 16, "+"⟩

namespace Decimal

def zeros (n : Nat) : String := String.ofList (List.replicate n '0')

/-- `digits * 10 ^ exponent` in the given style. -/
def text (style : FloatStyle) (d : Decimal) : String :=
  let ds := Nat.toDigits 10 d.digits
  let point : Int := ds.length + d.exponent
  if 0 ≤ d.exponent ∧ point ≤ style.mostPoint then
    String.ofList ds ++ zeros d.exponent.toNat ++ ".0"
  else if 0 < point ∧ point ≤ style.mostPoint then
    String.ofList (ds.take point.toNat) ++ "." ++ String.ofList (ds.drop point.toNat)
  else if style.leastPoint < point ∧ point ≤ 0 then
    "0." ++ zeros (-point).toNat ++ String.ofList ds
  else
    let fraction := ds.drop 1
    let shown := point - 1
    String.ofList (ds.take 1) ++ (if fraction.isEmpty then "" else "." ++ String.ofList fraction)
      ++ "e" ++ (if shown < 0 then "-" else style.plus) ++ toString shown.natAbs

end Decimal

namespace Binary64

/-- The number in writing; a value that is not finite has no digits and no text here. -/
def text? : Binary64 → Option String
  | finite s m e =>
    let sign := if s then "-" else ""
    if m = 0 then some (sign ++ "0.0") else some (sign ++ (shortest m e).text .standard)
  | _ => none

end Binary64

end Workflow
