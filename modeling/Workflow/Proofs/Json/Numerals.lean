import Mathlib.Data.List.TakeWhile
import Workflow.Json.Reader

/-!
# How numbers are spelled

A number is a sign or none, digits without a needless zero, a point with digits behind it or none,
and an exponent or none. It is read part by part, each up to where it does not go on.

## Main definitions

* `Json.Reader.EndsToken` — a number may stand in front of the text.
* `NumberLiteral.Spells literal text` — `text` spells the parts of a literal.
* `NumberLiteral.read_eq` — a literal is read part by part.
* `NumberLiteral.read_of_spells`, `NumberLiteral.spells_of_read` — what is spelled is read, and what
  is read has been spelled.
-/

namespace Workflow

namespace Json.Reader

/-- No digit, point or exponent that a number would go on with. -/
def EndsToken (rest : List Char) : Prop :=
  ∀ c ∈ rest.head?, c.isDigit = false ∧ c ≠ '.' ∧ c ≠ 'e' ∧ c ≠ 'E'

theorem endsToken_nil : EndsToken [] := by simp [EndsToken]

@[simp] theorem endsToken_cons (c : Char) (rest : List Char) :
    EndsToken (c :: rest) ↔ c.isDigit = false ∧ c ≠ '.' ∧ c ≠ 'e' ∧ c ≠ 'E' := by
  simp [EndsToken]

end Json.Reader

namespace NumberLiteral
open Json.Reader (EndsToken)

/-- Digits, one at least. -/
def IsDigits (ds : List Char) : Prop := ds ≠ [] ∧ ∀ d ∈ ds, d.isDigit = true

/-- The digits behind the point, if there is one. -/
inductive SpellsFraction : List Char → List Char → Prop
  | none : SpellsFraction [] []
  | some {ds : List Char} (isDigits : IsDigits ds) : SpellsFraction ds ('.' :: ds)

/-- The sign of an exponent. -/
inductive SpellsSign : Bool → List Char → Prop
  | none : SpellsSign false []
  | plus : SpellsSign false ['+']
  | minus : SpellsSign true ['-']

/-- The exponent, if there is one. -/
inductive SpellsExponent : Option (Bool × List Char) → List Char → Prop
  | none : SpellsExponent none []
  | some {mark : Char} {down : Bool} {sign ds : List Char} (isMark : mark = 'e' ∨ mark = 'E')
      (spelled : SpellsSign down sign) (isDigits : IsDigits ds) :
      SpellsExponent (some (down, ds)) (mark :: (sign ++ ds))

/-- The parts of a number one behind the other. -/
inductive Spells : NumberLiteral → List Char → Prop
  | intro {negative : Bool} {ds fraction fractionText exponentText : List Char}
      {exponent : Option (Bool × List Char)} (isDigits : IsDigits ds)
      (needed : 1 < ds.length → ds.head? ≠ some '0')
      (spellsFraction : SpellsFraction fraction fractionText)
      (spellsExponent : SpellsExponent exponent exponentText) :
      Spells ⟨negative, ds, fraction, exponent⟩
        ((if negative then ['-'] else []) ++ (ds ++ (fractionText ++ exponentText)))

variable {cs ds rest text : List Char} {down : Bool}

/-- A number starts with a minus or a digit. -/
theorem Spells.starts {literal : NumberLiteral} (spelled : Spells literal text) :
    ∃ c cs, text = c :: cs ∧ (c = '-' ∨ c.isDigit = true) := by
  cases spelled with
  | @intro negative ds fraction fractionText exponentText exponent isDigits =>
      cases negative with
      | true => exact ⟨_, _, rfl, .inl rfl⟩
      | false =>
          obtain ⟨d, more, rfl⟩ := List.exists_cons_of_ne_nil isDigits.1
          exact ⟨d, _, rfl, .inr (isDigits.2 d List.mem_cons_self)⟩

/-! ## Reading part by part -/

/-- The digits at the start of a text, one at least, and the text behind them. -/
def digits? (cs : List Char) : Option (List Char × List Char) :=
  if (cs.takeWhile Char.isDigit).isEmpty then none
  else some (cs.takeWhile Char.isDigit, cs.dropWhile Char.isDigit)

/-- The fraction at the start of a text, perhaps none, and the text behind it. -/
def fraction? (cs : List Char) : Option (List Char × List Char) :=
  match cs with
  | '.' :: cs => digits? cs
  | cs => some ([], cs)

/-- The exponent at the start of a text, perhaps none, and the text behind it. -/
def exponent? (cs : List Char) : Option (Option (Bool × List Char) × List Char) :=
  match cs with
  | c :: rest =>
    if c = 'e' ∨ c = 'E' then (readExponent rest).map fun (exponent, rest) => (some exponent, rest)
    else some (none, cs)
  | [] => some (none, [])

/-- The sign of an exponent at the start of a text, perhaps none, and the text behind it. -/
def sign (cs : List Char) : Bool × List Char :=
  match cs with
  | '+' :: cs => (false, cs)
  | '-' :: cs => (true, cs)
  | cs => (false, cs)

theorem readExponent_eq (cs : List Char) : readExponent cs =
    (digits? (sign cs).2).map fun (ds, rest) => (((sign cs).1, ds), rest) := by
  change (if ((sign cs).2.takeWhile Char.isDigit).isEmpty then none else _) = _
  rw [digits?]
  split <;> rfl

theorem fraction?_of_ne (other : ∀ more, cs ≠ '.' :: more) : fraction? cs = some ([], cs) := by
  rw [fraction?]
  intro more
  exact other more

theorem bind_exponent? (negative : Bool) (whole fraction cs : List Char) :
    ((exponent? cs).bind fun (exponent, rest) =>
      some (⟨negative, whole, fraction, exponent⟩, rest)) =
      match cs with
      | c :: rest =>
        if c = 'e' ∨ c = 'E' then do
          let (exponent, rest) ← readExponent rest
          some ((⟨negative, whole, fraction, some exponent⟩ : NumberLiteral), rest)
        else some (⟨negative, whole, fraction, none⟩, cs)
      | [] => some (⟨negative, whole, fraction, none⟩, []) := by
  cases cs with
  | nil => rfl
  | cons c rest =>
      by_cases mark : c = 'e' ∨ c = 'E'
      · cases left : readExponent rest <;> simp [exponent?, mark, left]
      · simp [exponent?, mark]

/-- A literal is read part by part. -/
theorem read_eq (cs : List Char) : read cs =
    let (negative, cs) := readMinus cs
    (digits? cs).bind fun (whole, rest) =>
      if whole.length > 1 && whole.head? == some '0' then none
      else (fraction? rest).bind fun (fraction, rest) =>
        (exponent? rest).bind fun (exponent, rest) =>
          some (⟨negative, whole, fraction, exponent⟩, rest) := by
  simp only [read, bind_exponent?, digits?]
  by_cases none : ((readMinus cs).2.takeWhile Char.isDigit).isEmpty
  · simp [none]
  · simp only [none, Bool.false_or, Option.bind_some, Bool.false_eq_true, if_false]
    split
    · rfl
    · generalize (readMinus cs).2.dropWhile Char.isDigit = left
      split
      · simp only [fraction?, digits?]
        split <;> rfl
      · rw [fraction?_of_ne (by assumption)]
        rfl

/-! ## What is spelled is read -/

/-- No digit comes first. -/
def NoDigit (rest : List Char) : Prop := ∀ c ∈ rest.head?, c.isDigit = false

theorem digits?_append (isDigits : IsDigits ds) (ends : NoDigit rest) :
    digits? (ds ++ rest) = some (ds, rest) := by
  have none : rest.takeWhile Char.isDigit = [] ∧ rest.dropWhile Char.isDigit = rest := by
    cases rest with
    | nil => simp
    | cons c rest =>
        have other : c.isDigit = false := ends c rfl
        simp [other]
  rw [digits?, List.takeWhile_append_of_pos isDigits.2, List.dropWhile_append_of_pos isDigits.2,
    none.1, none.2, List.append_nil, if_neg (by simpa using isDigits.1)]

/-- Digits do not start with a sign. -/
theorem IsDigits.unsigned (isDigits : IsDigits ds) :
    ∃ d more, ds = d :: more ∧ d ≠ '+' ∧ d ≠ '-' := by
  obtain ⟨d, more, rfl⟩ := List.exists_cons_of_ne_nil isDigits.1
  have digit := isDigits.2 d List.mem_cons_self
  refine ⟨d, more, rfl, ?_, ?_⟩ <;> rintro rfl <;> simp at digit

theorem readExponent_of_spells {sign : List Char} (spelled : SpellsSign down sign)
    (isDigits : IsDigits ds) (ends : NoDigit rest) :
    readExponent (sign ++ (ds ++ rest)) = some ((down, ds), rest) := by
  have signed : NumberLiteral.sign (sign ++ (ds ++ rest)) = (down, ds ++ rest) := by
    cases spelled with
    | none =>
        obtain ⟨d, more, rfl, plus, minus⟩ := isDigits.unsigned
        simp [NumberLiteral.sign, plus, minus]
    | plus => rfl
    | minus => rfl
  rw [readExponent_eq, signed, digits?_append isDigits ends]
  rfl

section
variable {exponent : Option (Bool × List Char)} {fraction : List Char}

theorem exponent?_of_spells (spelled : SpellsExponent exponent text) (ends : EndsToken rest) :
    exponent? (text ++ rest) = some (exponent, rest) := by
  cases spelled with
  | none =>
      cases rest with
      | nil => rfl
      | cons c rest =>
          obtain ⟨-, -, small, large⟩ := (Json.Reader.endsToken_cons c rest).mp ends
          simp [exponent?, small, large]
  | some isMark sign isDigits =>
      have read := readExponent_of_spells sign isDigits fun c first => (ends c first).1
      simp [exponent?, isMark, read]

/-- In front of an exponent there ends a fraction, and with it the digits. -/
theorem SpellsExponent.ends (spelled : SpellsExponent exponent text) (ends : EndsToken rest) :
    ∀ c ∈ (text ++ rest).head?, c.isDigit = false ∧ c ≠ '.' := by
  cases spelled with
  | none => exact fun c first => ⟨(ends c first).1, (ends c first).2.1⟩
  | some isMark => rcases isMark with rfl | rfl <;> simp

theorem fraction?_of_spells (spelled : SpellsFraction fraction text)
    (ends : ∀ c ∈ rest.head?, c.isDigit = false ∧ c ≠ '.') :
    fraction? (text ++ rest) = some (fraction, rest) := by
  cases spelled with
  | none =>
      refine fraction?_of_ne fun more same => ?_
      rw [List.nil_append] at same
      exact (ends '.' (by simp [same])).2 rfl
  | some isDigits => exact digits?_append isDigits fun c first => (ends c first).1

theorem SpellsFraction.noDigit (spelled : SpellsFraction fraction text) (ends : NoDigit rest) :
    NoDigit (text ++ rest) := by
  cases spelled with
  | none => exact ends
  | some => simp [NoDigit]

end

theorem readMinus_of_digits (isDigits : IsDigits ds) (negative : Bool) (more : List Char) :
    readMinus ((if negative then ['-'] else []) ++ (ds ++ more)) = (negative, ds ++ more) := by
  cases negative with
  | true => rfl
  | false =>
      obtain ⟨d, others, rfl, -, minus⟩ := isDigits.unsigned
      simp [readMinus, minus]

/-- What is spelled is read, if it ends where the text does. -/
theorem read_of_spells {literal : NumberLiteral} (spelled : Spells literal text)
    (ends : EndsToken rest) : read (text ++ rest) = some (literal, rest) := by
  obtain ⟨isDigits, needed, fraction, exponent⟩ := spelled
  have behind := exponent.ends ends
  have noDigit := fraction.noDigit fun c first => (behind c first).1
  rw [read_eq]
  simp only [List.append_assoc, readMinus_of_digits isDigits, digits?_append isDigits noDigit,
    Option.bind_some, fraction?_of_spells fraction behind, exponent?_of_spells exponent ends]
  exact if_neg (by simpa using needed)

/-! ## What is read has been spelled -/

theorem of_digits? (found : digits? cs = some (ds, rest)) : IsDigits ds ∧ cs = ds ++ rest := by
  unfold digits? at found
  split at found
  · cases found
  · rename_i filled
    cases found
    refine ⟨⟨by simpa using filled, fun _ => List.mem_takeWhile_imp⟩, ?_⟩
    exact List.takeWhile_append_dropWhile.symm

theorem spells_sign (cs : List Char) : ∃ text, cs = text ++ (sign cs).2 ∧
    SpellsSign (sign cs).1 text := by
  unfold sign
  split
  · exact ⟨_, rfl, .plus⟩
  · exact ⟨_, rfl, .minus⟩
  · exact ⟨[], rfl, .none⟩

theorem spells_of_fraction? {fraction : List Char} (found : fraction? cs = some (fraction, rest)) :
    ∃ text, cs = text ++ rest ∧ SpellsFraction fraction text := by
  unfold fraction? at found
  split at found
  · obtain ⟨isDigits, rfl⟩ := of_digits? found
    exact ⟨_, rfl, .some isDigits⟩
  · cases found
    exact ⟨[], rfl, .none⟩

theorem spells_of_exponent? {exponent : Option (Bool × List Char)}
    (found : exponent? cs = some (exponent, rest)) :
    ∃ text, cs = text ++ rest ∧ SpellsExponent exponent text := by
  unfold exponent? at found
  split at found
  · rename_i mark more
    split at found
    · rename_i isMark
      rw [readExponent_eq, Option.map_map, Option.map_eq_some_iff] at found
      obtain ⟨⟨ds, left⟩, read, same⟩ := found
      cases same
      obtain ⟨text, signed, spelled⟩ := spells_sign more
      obtain ⟨isDigits, behind⟩ := of_digits? read
      refine ⟨_, ?_, .some isMark spelled isDigits⟩
      rw [List.cons_append, List.append_assoc, ← behind, ← signed]
    · cases found
      exact ⟨[], rfl, .none⟩
  · cases found
    exact ⟨[], rfl, .none⟩

theorem eq_of_readMinus (cs : List Char) :
    cs = (if (readMinus cs).1 then ['-'] else []) ++ (readMinus cs).2 := by
  unfold readMinus
  split <;> rfl

/-- What is read has been spelled. -/
theorem spells_of_read {literal : NumberLiteral} (found : read cs = some (literal, rest)) :
    ∃ text, cs = text ++ rest ∧ Spells literal text := by
  have signed := eq_of_readMinus cs
  rw [read_eq] at found
  obtain ⟨⟨whole, left⟩, digits, found⟩ := Option.bind_eq_some_iff.mp found
  dsimp only at found
  split at found
  · cases found
  · rename_i needed
    obtain ⟨⟨fraction, left'⟩, readFraction, found⟩ := Option.bind_eq_some_iff.mp found
    obtain ⟨⟨exponent, left''⟩, readExponent, found⟩ := Option.bind_eq_some_iff.mp found
    cases found
    obtain ⟨isDigits, behind⟩ := of_digits? digits
    obtain ⟨fractionText, rfl, spellsFraction⟩ := spells_of_fraction? readFraction
    obtain ⟨exponentText, rfl, spellsExponent⟩ := spells_of_exponent? readExponent
    refine ⟨_, ?_, .intro isDigits (by simpa using needed) spellsFraction spellsExponent⟩
    rw [List.append_assoc, List.append_assoc, List.append_assoc, ← behind]
    exact signed

end NumberLiteral

end Workflow
