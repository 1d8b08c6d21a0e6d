import Mathlib.Data.Nat.Digits.Defs
import Workflow.Json.Printer
import Workflow.Proofs.Json.Grammar

/-!
# Tokens in writing

A word, a string and a whole number are written the way the grammar spells them. So they are read
back wherever they stand.

## Main definitions

* `Json.IsScalar` — no array, no object, and no number in floating point.
* `Json.spellsChar_escapeChar` — every character of a string is spelled by its escape.
* `Json.spellsPlain_scalar` — a scalar is spelled by what is written for it.
-/

namespace Workflow

namespace NumberLiteral

/-! ## Whole numbers -/

theorem le_ofDigitChars (ds : List Char) (n : Nat) : n ≤ Nat.ofDigitChars 10 ds n := by
  induction ds generalizing n with
  | nil => simp
  | cons d ds ih =>
      rw [Nat.ofDigitChars_cons]
      have := ih (10 * n + (d.toNat - '0'.toNat))
      omega

/-- Digits fit if the number they spell does. -/
theorem fit_of_lt (ds : List Char) (n : Nat) (small : Nat.ofDigitChars 10 ds n < 2 ^ 64) :
    fit n ds = (Nat.ofDigitChars 10 ds n, []) := by
  induction ds generalizing n with
  | nil => simp [fit]
  | cons d ds ih =>
      rw [Nat.ofDigitChars_cons] at small ⊢
      have bound := le_ofDigitChars ds (10 * n + (d.toNat - '0'.toNat))
      have under : ¬ Nat.pow 2 64 ≤ 10 * n + digitValue d := by
        rw [digitValue, Nat.pow_eq]
        omega
      simp only [fit, if_neg under]
      exact ih _ small

theorem isDigits_toDigits (n : Nat) : IsDigits (Nat.toDigits 10 n) :=
  ⟨Nat.toDigits_ne_nil, fun _ => Nat.isDigit_of_mem_toDigits (by decide) (by decide)⟩

theorem head?_toDigits_ne {n : Nat} (pos : 0 < n) : (Nat.toDigits 10 n).head? ≠ some '0' := by
  induction n using Nat.strongRecOn with
  | ind n ih =>
      by_cases small : n < 10
      · have digits : ∀ m < 10, 0 < m → [Nat.digitChar m].head? ≠ some '0' := by decide
        rw [Nat.toDigits_of_lt_base small]
        exact digits n small pos
      · obtain ⟨d, ds, same⟩ := List.exists_cons_of_ne_nil (isDigits_toDigits (n / 10)).1
        have front := ih (n / 10) (by omega) (by omega)
        rw [same] at front
        rw [Nat.toDigits_of_base_le (by decide) (by omega), same]
        simpa using front

/-- The digits of a number have no needless zero. -/
theorem no_leading_zero (n : Nat) :
    1 < (Nat.toDigits 10 n).length → (Nat.toDigits 10 n).head? ≠ some '0' := by
  intro long
  have pos : n ≠ 0 := by
    rintro rfl
    revert long
    decide
  exact head?_toDigits_ne (Nat.pos_of_ne_zero pos)

/-- A whole number as it is written. -/
def written (negative : Bool) (n : Nat) : List Char :=
  (if negative then ['-'] else []) ++ Nat.toDigits 10 n

theorem spells_written (negative : Bool) (n : Nat) :
    Spells ⟨negative, Nat.toDigits 10 n, [], none⟩ (written negative n) := by
  have spelled : Spells ⟨negative, Nat.toDigits 10 n, [], none⟩ _ :=
    .intro (isDigits_toDigits n) (no_leading_zero n) .none .none
  simpa [written] using spelled

/-- A whole number is written as its sign and the digits of its size. -/
theorem exists_written (n : Int) : ∃ (negative : Bool) (m : Nat),
    (toString n).toList = written negative m ∧ n = (if negative then -(m : Int) else m) ∧
      (negative = true → 0 < m) := by
  cases n with
  | ofNat m => exact ⟨false, m, by simp [written, ToString.toString, Int.repr], by simp, by simp⟩
  | negSucc m =>
      refine ⟨true, m + 1, by simp [written, ToString.toString, Int.repr], ?_, by simp⟩
      rw [if_pos rfl]
      omega

theorem value?_written {negative : Bool} {n : Nat} (small : n < 2 ^ 64)
    (signed : negative = true → 0 < n ∧ n ≤ 2 ^ 63) :
    value? ⟨negative, Nat.toDigits 10 n, [], none⟩
      = some (.int (if negative then -n else n)) := by
  have fits : fit 0 (Nat.toDigits 10 n) = (n, []) := by
    have whole := fit_of_lt (Nat.toDigits 10 n) 0
    rw [Nat.ofDigitChars_ten_toDigits] at whole
    exact whole small
  cases negative with
  | false => simp [value?, fits]
  | true =>
      obtain ⟨pos, bound⟩ := signed rfl
      simp [value?, fits, pos, show n ≤ Nat.pow 2 63 from bound]

end NumberLiteral

namespace Json
open Reader (simpleEscape? unit?)

/-- Neither array nor object, and whole if it is a number. -/
def IsScalar : Json → Prop
  | .null | .bool _ | .string _ => True
  | .int n => -2 ^ 63 ≤ n ∧ n < 2 ^ 64
  | .float _ | .array _ | .object _ => False

/-! ## Strings -/

theorem spellsChar_control {c : Char} (control : c.toNat < 0x20) :
    SpellsChar c ['\\', 'u', '0', '0', hexDigit (c.toNat / 16), hexDigit (c.toNat % 16)] := by
  have read : ∀ n < 0x20, unit? '0' '0' (hexDigit (n / 16)) (hexDigit (n % 16)) = some n := by
    decide
  have whole : ∀ n < 0x20, (Utf16.isHigh n || Utf16.isLow n) = false := by decide
  obtain ⟨high, low⟩ := Bool.or_eq_false_iff.mp (whole _ control)
  have spelled := SpellsChar.unit (read _ control) high low
  rwa [Char.ofNat_toNat] at spelled

/-- Every character of a string is spelled by its escape. -/
theorem spellsChar_escapeChar (c : Char) : SpellsChar c (escapeChar c) := by
  unfold escapeChar
  split
  · exact .simple rfl
  · exact .simple rfl
  · exact .simple rfl
  · exact .simple rfl
  · exact .simple rfl
  · rename_i quote slash _ _ _
    split
    · rename_i back
      have same : c = '\x08' := Char.toNat_inj.mp back
      subst same
      exact .simple rfl
    · split
      · rename_i feed
        have same : c = '\x0c' := Char.toNat_inj.mp feed
        subst same
        exact .simple rfl
      · split
        · rename_i control
          exact spellsChar_control control
        · rename_i visible
          exact .plain (by omega) quote slash

theorem spellsChars_escaped (s : List Char) : SpellsChars s (s.flatMap escapeChar ++ ['"']) := by
  induction s with
  | nil => exact .nil
  | cons c s ih =>
      rw [List.flatMap_cons, List.append_assoc]
      exact .cons (spellsChar_escapeChar c) ih

theorem spellsString_quoted (s : String) : SpellsString s (quoted s) :=
  .intro (spellsChars_escaped s.toList)

/-! ## Scalars -/

/-- A whole number is spelled: its sign is written, its digits are few enough. -/
theorem spellsPlain_int {n : Int} (isScalar : (int n).IsScalar) :
    SpellsPlain (.int n) (scalar (.int n)) := by
  obtain ⟨negative, m, text, rfl, pos⟩ := NumberLiteral.exists_written n
  obtain ⟨least, most⟩ := isScalar
  have small : m < 2 ^ 64 := by
    cases negative <;> simp at least most <;> omega
  have signed : negative = true → 0 < m ∧ m ≤ 2 ^ 63 := by
    intro minus
    simp only [minus, if_true] at least
    exact ⟨pos minus, by omega⟩
  rw [scalar, text]
  have value := NumberLiteral.value?_written small signed
  exact .number (NumberLiteral.spells_written negative m) value

/-- A scalar is spelled by what is written for it. -/
theorem spellsPlain_scalar {json : Json} (isScalar : json.IsScalar) :
    SpellsPlain json json.scalar := by
  cases json with
  | null => exact .null
  | bool b =>
      cases b with
      | true => exact .true
      | false => exact .false
  | string s => exact .string (spellsString_quoted s)
  | int n => exact spellsPlain_int isScalar
  | float x => exact isScalar.elim
  | array items => exact isScalar.elim
  | object members => exact isScalar.elim

end Json

end Workflow
