import Mathlib.Data.List.Basic
import Workflow.Pdf.Encoding
import Workflow.Proofs.Except

/-!
# The characters of WinAnsiEncoding

The encoding that the fonts of a document declare is Windows code page 1252. Here it is given from
codes to characters, as a reader needs it; the bytes that characters are written with are the codes
that lead back to them.

## Main definitions

* `Pdf.WinAnsi.char? code` — the character of a code.
* `Pdf.WinAnsi.text? codes` — the text of codes, if each of them has a character.
* `Pdf.InFont c` — a character that the fonts have.
* `Pdf.char?_of_code?`, `Pdf.escapeChar?_eq_none_iff` — the characters that can be written are those
  that the fonts have.
-/

namespace Workflow.Pdf

namespace WinAnsi

/-- The characters of the codes 0x80 to 0x9F, five of which are not in use. -/
def signRow : List (Option Char) := [
  some '€', none, some '‚', some 'ƒ', some '„', some '…', some '†', some '‡',
  some 'ˆ', some '‰', some 'Š', some '‹', some 'Œ', none, some 'Ž', none,
  none, some '\u2018', some '\u2019', some '\u201C', some '\u201D', some '•', some '\u2013',
  some '\u2014', some '˜', some '™', some 'š', some '›', some 'œ', none, some 'ž', some 'Ÿ']

/-- The character of a code. Codes of ASCII and of the second half of Latin-1 are those of Unicode;
0xA0 is the no-break space and 0xAD the soft hyphen, which look like a space and a hyphen. -/
def char? (code : Nat) : Option Char :=
  if 0x20 ≤ code ∧ code ≤ 0x7E ∨ 0xA0 ≤ code ∧ code ≤ 0xFF then some (Char.ofNat code)
  else if 0x80 ≤ code then (signRow[code - 0x80]?).join
  else none

/-- The text of codes. -/
def text? (codes : List Nat) : Option (List Char) := codes.mapM char?

theorem text?_append {front back : List Nat} {first rest : List Char}
    (read : text? front = some first) (later : text? back = some rest) :
    text? (front ++ back) = some (first ++ rest) := by
  simp only [text?] at read later ⊢
  simp [List.mapM_append, read, later]

end WinAnsi

/-- The fonts have a character. -/
def InFont (c : Char) : Prop := ∃ code, WinAnsi.char? code = some c

open WinAnsi

theorem isPrinted_iff {c : Char} : isPrinted c = true ↔ 0x20 ≤ c.toNat ∧ c.toNat ≤ 0x7E := by
  simp only [isPrinted, Bool.and_eq_true, decide_eq_true_eq]
  exact Iff.rfl

theorem char?_toNat_of_isPrinted {c : Char} (printed : isPrinted c = true) :
    char? c.toNat = some c := by
  simp [char?, isPrinted_iff.mp printed]

theorem inFont_of_isPrinted {c : Char} (printed : isPrinted c = true) : InFont c :=
  ⟨_, char?_toNat_of_isPrinted printed⟩

/-- The codes of the typographic signs lead back to them. -/
theorem char?_of_mem_signs : ∀ sign ∈ signs, char? sign.2 = some sign.1 := by decide

/-- The byte of a character leads back to it. -/
theorem char?_of_code? {c : Char} {code : Nat} (known : code? c = some code) :
    char? code = some c := by
  unfold code? at known
  split at known
  · rename_i latin
    cases known
    simp [char?, latin]
  · obtain ⟨front, back, whole, -⟩ := List.lookup_eq_some_iff.mp known
    exact char?_of_mem_signs (c, code) (by simp [whole])

/-- Codes are bytes. -/
theorem lt_of_char? {code : Nat} {c : Char} (read : char? code = some c) : code < 256 := by
  unfold char? at read
  split at read
  · omega
  split at read
  · obtain ⟨inside, -⟩ := List.getElem?_eq_some_iff.mp (Option.join_eq_some_iff.mp read)
    have row : signRow.length = 32 := rfl
    omega
  · cases read

/-- The characters of the row of signs can be written. -/
theorem code?_of_mem_signRow {c : Char} (member : some c ∈ signRow) :
    (code? c).isSome = true := by
  have all : (signRow.all fun entry => entry.all fun c => (code? c).isSome) = true := by decide
  exact List.all_eq_true.mp all (some c) member

theorem toNat_ofNat_of_lt {n : Nat} (low : n < 256) : (Char.ofNat n).toNat = n := by
  have valid : n.isValidChar := .inl (by omega)
  rw [Char.ofNat, dif_pos valid]
  rfl

/-- A character that the fonts have is printed ASCII or has a byte. -/
theorem isPrinted_or_code?_of_inFont {c : Char} (has : InFont c) :
    isPrinted c = true ∨ (code? c).isSome = true := by
  obtain ⟨code, read⟩ := has
  have low := lt_of_char? read
  unfold char? at read
  split at read
  · rename_i fixed
    cases read
    rcases fixed with ascii | latin
    · exact .inl (isPrinted_iff.mpr (by rwa [toNat_ofNat_of_lt low]))
    · exact .inr (by simp [code?, toNat_ofNat_of_lt low, latin])
  split at read
  · have found := List.mem_of_getElem? (Option.join_eq_some_iff.mp read)
    exact .inr (code?_of_mem_signRow found)
  · cases read

/-- The characters that cannot be written are those that the fonts do not have, but for the tab,
which is set as spaces, and the carriage return, which shows nothing. -/
theorem escapeChar?_eq_none_iff {c : Char} :
    escapeChar? c = none ↔ ¬ (InFont c ∨ c = '\t' ∨ c = '\r') := by
  unfold escapeChar?
  split
  · rename_i special
    have printed : isPrinted c = true := by rcases special with rfl | rfl | rfl <;> decide
    simp [inFont_of_isPrinted printed]
  split
  · rename_i printed
    simp [inFont_of_isPrinted printed]
  split
  · simp_all
  split
  · simp_all
  · rename_i notPrinted notTab notReturn
    have iff : InFont c ↔ (code? c).isSome = true := by
      constructor
      · exact fun has => (isPrinted_or_code?_of_inFont has).resolve_left notPrinted
      · intro known
        obtain ⟨code, known⟩ := Option.isSome_iff_exists.mp known
        exact ⟨code, char?_of_code? known⟩
    simp [notTab, notReturn, iff]

/-- A text is written character by character. -/
theorem escape_cons_eq_ok_iff {c : Char} {cs written : List Char} :
    escape (c :: cs) = .ok written ↔ ∃ front rest, escapeChar? c = some front ∧
      escape cs = .ok rest ∧ written = front ++ rest := by
  cases first : escapeChar? c with
  | none => simp [escape, first]
  | some front => simp [escape, first, map_eq_ok_iff]

end Workflow.Pdf
