import Mathlib.Data.List.Basic
import Workflow.Proofs.Except
import Workflow.Proofs.Pdf.WinAnsi
import Workflow.Proofs.Text.Filling
import Workflow.Pdf.Layout

/-!
# Literal strings

A literal string is read by the rules of the format: it goes to the parenthesis that closes it, and
inside it a backslash begins an escape, which may be an octal code of up to three digits. What has
been escaped reads back as it is displayed, and nothing behind it is taken for a part of it.

## Main definitions

* `Reader.inside? depth cs` — what stands inside a string, and what stands behind it.
* `Reader.codes cs` — the codes that the inside of a string stands for.
* `Reader.literal? cs` — the codes of the string at the front, and what stands behind it.
* `Reader.unescaped cs` — the characters that belong to no escape.
* `Pdf.displayed cs` — how a text is displayed.
* `Pdf.literal?_escape` — an escaped text is one string, which reads back.
-/

namespace Workflow.Pdf

namespace Reader

/-- What stands inside a string, up to the parenthesis that closes it, and what stands behind that;
`depth` parentheses inside are open. -/
def inside? (depth : Nat) : List Char → Option (List Char × List Char)
  | [] => none
  | '\\' :: c :: rest => (inside? depth rest).map fun (front, back) => ('\\' :: c :: front, back)
  | '(' :: rest => (inside? (depth + 1) rest).map fun (front, back) => ('(' :: front, back)
  | ')' :: rest =>
    match depth with
    | 0 => some ([], rest)
    | depth + 1 => (inside? depth rest).map fun (front, back) => (')' :: front, back)
  | c :: rest => (inside? depth rest).map fun (front, back) => (c :: front, back)

def isOctal (c : Char) : Bool := '0' ≤ c && c ≤ '7'

/-- The code that a character stands for behind a backslash. -/
def escapedCode : Char → Nat
  | 'n' => 0x0A
  | 'r' => 0x0D
  | 't' => 0x09
  | 'b' => 0x08
  | 'f' => 0x0C
  | c => c.toNat

/-- The codes that the inside of a string stands for. An octal code goes on for up to three digits,
and what exceeds a byte is dropped; an escaped line end stands for nothing, and any other for a line
feed. -/
def codes : List Char → List Nat
  | [] => []
  | '\\' :: rest =>
    let ds := (rest.take 3).takeWhile isOctal
    if ds ≠ [] then Nat.ofDigitChars 8 ds 0 % 256 :: codes (rest.drop ds.length)
    else match rest with
      | [] => []
      | '\r' :: '\n' :: rest => codes rest
      | '\r' :: rest => codes rest
      | '\n' :: rest => codes rest
      | c :: rest => escapedCode c :: codes rest
  | '\r' :: '\n' :: rest => 0x0A :: codes rest
  | '\r' :: rest => 0x0A :: codes rest
  | c :: rest => c.toNat :: codes rest
termination_by cs => cs.length

/-- The codes of the string at the front, and what stands behind it. -/
def literal? : List Char → Option (List Nat × List Char)
  | '(' :: rest => (inside? 0 rest).map fun (front, back) => (codes front, back)
  | _ => none

/-- The characters that belong to no escape. A backslash with nothing behind it escapes nothing. -/
def unescaped : List Char → List Char
  | '\\' :: _ :: rest => unescaped rest
  | c :: rest => c :: unescaped rest
  | [] => []

end Reader

end Workflow.Pdf

namespace Workflow.Pdf

open Reader WinAnsi

/-- How a character is displayed: a tab as four spaces, a carriage return as nothing. -/
def displayedChar (c : Char) : List Char :=
  if c = '\t' then [' ', ' ', ' ', ' '] else if c = '\r' then [] else [c]

/-- How a text is displayed. -/
def displayed (cs : List Char) : List Char := cs.flatMap displayedChar

/-- A character that means something inside a string. -/
def IsSpecial (c : Char) : Prop := c = '\\' ∨ c = '(' ∨ c = ')'

instance : DecidablePred IsSpecial := fun _ => inferInstanceAs (Decidable (_ ∨ _))

theorem displayedChar_of_ne {c : Char} (shows : c ≠ '\t' ∧ c ≠ '\r') : displayedChar c = [c] := by
  simp [displayedChar, shows]

/-! ## Characters inside a string -/

theorem unescaped_cons {c : Char} (plain : c ≠ '\\') (back : List Char) :
    unescaped (c :: back) = c :: unescaped back := by
  rw [unescaped]
  rintro d rest rfl
  exact absurd rfl plain

theorem codes_cons {c : Char} (plain : c ≠ '\\' ∧ c ≠ '\r') (back : List Char) :
    codes (c :: back) = c.toNat :: codes back := by
  rw [codes]
  · exact plain.1
  · rintro rest rfl
    exact absurd rfl plain.2
  · exact plain.2

/-- A special character is escaped by a backslash. -/
theorem codes_backslash {c : Char} (special : IsSpecial c) (back : List Char) :
    codes ('\\' :: c :: back) = c.toNat :: codes back := by
  rcases special with rfl | rfl | rfl <;> simp [codes, isOctal, escapedCode]

theorem isOctal_digitChar : ∀ d < 8, isOctal (Nat.digitChar d) = true := by decide

theorem ofDigitChars_octal : ∀ n < 256,
    Nat.ofDigitChars 8 [Nat.digitChar (n / 64 % 8), Nat.digitChar (n / 8 % 8),
      Nat.digitChar (n % 8)] 0 = n := by
  decide +kernel

/-- Three octal digits are read to the last, and no further. -/
theorem codes_octal {n : Nat} (byte : n < 256) (back : List Char) :
    codes (octal n ++ back) = n :: codes back := by
  have first := isOctal_digitChar (n / 64 % 8) (Nat.mod_lt _ (by decide))
  have second := isOctal_digitChar (n / 8 % 8) (Nat.mod_lt _ (by decide))
  have third := isOctal_digitChar (n % 8) (Nat.mod_lt _ (by decide))
  have value := ofDigitChars_octal n byte
  simp [octal, codes, first, second, third, value, Nat.mod_eq_of_lt byte]

/-- Of an octal code, two digits belong to no escape as far as its extent goes. -/
theorem unescaped_octal (n : Nat) (back : List Char) :
    unescaped (octal n ++ back) =
      [Nat.digitChar (n / 8 % 8), Nat.digitChar (n % 8)] ++ unescaped back := by
  have digit : ∀ d < 8, Nat.digitChar d ≠ '\\' := by decide
  have second := digit (n / 8 % 8) (Nat.mod_lt _ (by decide))
  have third := digit (n % 8) (Nat.mod_lt _ (by decide))
  simp only [octal, List.cons_append, List.nil_append]
  rw [unescaped, unescaped_cons second, unescaped_cons third]

/-! ## Texts inside a string -/

/-- Inside a string, `written` stands for `text`, whatever comes behind it: no special character is
left without its escape, and no escape takes in what does not belong to it. -/
structure Spells (written text : List Char) : Prop where
  escaped : ∃ free, (∀ back, unescaped (written ++ back) = free ++ unescaped back) ∧
    ∀ c ∈ free, ¬ IsSpecial c
  reads : ∃ read, (∀ back, codes (written ++ back) = read ++ codes back) ∧ text? read = some text

theorem spells_nil : Spells [] [] := ⟨⟨[], by simp⟩, [], by simp, rfl⟩

theorem Spells.append {first second text rest : List Char} (spells : Spells first text)
    (later : Spells second rest) : Spells (first ++ second) (text ++ rest) := by
  obtain ⟨⟨free, here, plain⟩, read, codes, text⟩ := spells
  obtain ⟨⟨free', here', plain'⟩, read', codes', text'⟩ := later
  refine ⟨⟨free ++ free', fun back => ?_, ?_⟩, read ++ read', fun back => ?_, ?_⟩
  · rw [List.append_assoc, here, here', List.append_assoc]
  · exact List.forall_mem_append.mpr ⟨plain, plain'⟩
  · rw [List.append_assoc, codes, codes', List.append_assoc]
  · exact text?_append text text'

theorem text?_singleton {code : Nat} {c : Char} (read : char? code = some c) :
    text? [code] = some [c] := by
  simp [text?, read]

theorem spells_plain {c : Char} (printed : isPrinted c = true) (plain : ¬ IsSpecial c) :
    Spells [c] [c] := by
  have apart : c ≠ '\\' ∧ c ≠ '\r' := by
    refine ⟨fun same => plain (.inl same), ?_⟩
    rintro rfl
    cases printed
  exact ⟨⟨[c], unescaped_cons apart.1, by simpa using plain⟩, [c.toNat], codes_cons apart,
    text?_singleton (char?_toNat_of_isPrinted printed)⟩

theorem spells_backslash {c : Char} (special : IsSpecial c) : Spells ['\\', c] [c] := by
  have printed : isPrinted c = true := by rcases special with rfl | rfl | rfl <;> decide
  exact ⟨⟨[], fun _ => rfl, by simp⟩, [c.toNat], codes_backslash special,
    text?_singleton (char?_toNat_of_isPrinted printed)⟩

theorem spells_octal {c : Char} {code : Nat} (known : code? c = some code) :
    Spells (octal code) [c] := by
  have digit : ∀ d < 8, ¬ IsSpecial (Nat.digitChar d) := by decide
  have read := char?_of_code? known
  refine ⟨⟨_, unescaped_octal code, ?_⟩, [code], codes_octal (lt_of_char? read),
    text?_singleton read⟩
  simp [digit _ (Nat.mod_lt _ (by decide))]

/-- A character that can be written stands for what it is displayed as. -/
theorem spells_escapeChar? {c : Char} {written : List Char}
    (done : escapeChar? c = some written) : Spells written (displayedChar c) := by
  unfold escapeChar? at done
  split at done
  · rename_i special
    cases done
    have shows : c ≠ '\t' ∧ c ≠ '\r' := by rcases special with rfl | rfl | rfl <;> decide
    rw [displayedChar_of_ne shows]
    exact spells_backslash special
  rename_i plain
  split at done
  · rename_i printed
    cases done
    have shows : c ≠ '\t' ∧ c ≠ '\r' := by constructor <;> (rintro rfl; cases printed)
    rw [displayedChar_of_ne shows]
    exact spells_plain printed plain
  split at done
  · rename_i tab
    cases done
    have space : Spells [' '] [' '] := spells_plain (by decide) (by decide)
    subst tab
    exact ((space.append space).append space).append space
  rename_i notTab
  split at done
  · rename_i cr
    cases done
    subst cr
    exact spells_nil
  · rename_i notReturn
    obtain ⟨code, known, rfl⟩ := Option.map_eq_some_iff.mp done
    rw [displayedChar_of_ne ⟨notTab, notReturn⟩]
    exact spells_octal known

/-- What is escaped stands for the text as it is displayed. -/
theorem spells_escape {cs written : List Char} (done : escape cs = .ok written) :
    Spells written (displayed cs) := by
  induction cs generalizing written with
  | nil =>
      cases done
      exact spells_nil
  | cons c cs ih =>
      obtain ⟨front, rest, first, later, rfl⟩ := escape_cons_eq_ok_iff.mp done
      exact (spells_escapeChar? first).append (ih later)

/-! ## Strings -/

/-- A string ends at the first parenthesis that belongs to no escape. -/
theorem inside?_append {front : List Char} (plain : ∀ c ∈ unescaped front, ¬ IsSpecial c)
    (back : List Char) : inside? 0 (front ++ ')' :: back) = some (front, back) := by
  fun_induction unescaped front with
  | case1 c rest ih => simp [inside?, ih plain]
  | case2 c rest notEscape ih =>
      obtain ⟨here, later⟩ := List.forall_mem_cons.mp plain
      simp only [IsSpecial, not_or] at here
      rw [List.cons_append, inside?, ih later]
      · rfl
      · rintro d rest rfl
        exact absurd rfl here.1
      · exact here.2.1
      · exact here.2.2
  | case3 => simp [inside?]

theorem Spells.unescaped {written text : List Char} (spells : Spells written text) :
    ∀ c ∈ unescaped written, ¬ IsSpecial c := by
  obtain ⟨free, here, plain⟩ := spells.escaped
  have whole := here []
  rw [List.append_nil, Reader.unescaped, List.append_nil] at whole
  rwa [whole]

theorem Spells.text? {written text : List Char} (spells : Spells written text) :
    text? (codes written) = some text := by
  obtain ⟨read, here, known⟩ := spells.reads
  have whole := here []
  rw [List.append_nil, codes, List.append_nil] at whole
  rwa [whole]

theorem Spells.literal? {written text : List Char} (spells : Spells written text)
    (back : List Char) :
    literal? ('(' :: written ++ ')' :: back) = some (codes written, back) := by
  rw [List.cons_append, Reader.literal?, inside?_append spells.unescaped]
  rfl

/-! ## Lines of a page -/

/-- A text without tabs and carriage returns is displayed as it is. -/
theorem displayed_eq_self {cs : List Char} (shows : ∀ c ∈ cs, c ≠ '\t' ∧ c ≠ '\r') :
    displayed cs = cs := by
  induction cs with
  | nil => rfl
  | cons c cs ih =>
      obtain ⟨here, later⟩ := List.forall_mem_cons.mp shows
      rw [displayed, List.flatMap_cons, displayedChar_of_ne here]
      exact congrArg (c :: ·) (ih later)

/-- There is no white space but spaces in the lines of a page. -/
theorem displayed_of_mem_wrap {line text : List Char} (member : line ∈ Text.wrap lineWidth text) :
    displayed line = line := by
  refine displayed_eq_self fun c inside => ?_
  rcases Text.of_mem_wrap (by decide) member inside with rfl | shown
  · decide
  · exact Text.ne_of_not_blank shown

/-- An escaped text has no special character outside of its escapes, so that between parentheses it
is one string, whatever stands behind. That string reads back as the text is displayed; hence lines
of pages that look alike in a file are alike. -/
theorem literal?_escape {cs written : List Char} (done : escape cs = .ok written) :
    (∀ c ∈ unescaped written, c ≠ '(' ∧ c ≠ ')' ∧ c ≠ '\\') ∧
    (∀ back, ∃ read, literal? ('(' :: written ++ ')' :: back) = some (read, back) ∧
      text? read = some (displayed cs)) ∧
    ∀ text text' line, cs ∈ Text.wrap lineWidth text → line ∈ Text.wrap lineWidth text' →
      escape line = .ok written → line = cs := by
  have spells := spells_escape done
  refine ⟨fun c member => ?_, fun back => ⟨_, spells.literal? back, spells.text?⟩, ?_⟩
  · have plain := spells.unescaped c member
    simp only [IsSpecial, not_or] at plain
    exact ⟨plain.2.1, plain.2.2, plain.1⟩
  · intro text text' line ofText ofText' same
    have read := (spells_escape same).text?.symm.trans spells.text?
    rw [displayed_of_mem_wrap ofText, displayed_of_mem_wrap ofText'] at read
    exact Option.some.inj read

/-- The digit behind the euro sign is none of its octal code. -/
theorem literal?_escape_digit_behind :
    let cs := "\t5\r (€1)\\".toList
    let written := "    5 \\(\\2001\\)\\\\".toList
    escape cs = .ok written ∧
    (∀ c ∈ unescaped written, c ≠ '(' ∧ c ≠ ')' ∧ c ≠ '\\') ∧
    (∀ back, ∃ read, literal? ('(' :: written ++ ')' :: back) = some (read, back) ∧
      text? read = some "    5 (€1)\\".toList) ∧
    ∀ text text' line, cs ∈ Text.wrap lineWidth text → line ∈ Text.wrap lineWidth text' →
      escape line = .ok written → line = cs := by
  intro cs written
  have done : escape cs = .ok written := by decide
  exact ⟨done, literal?_escape done⟩

end Workflow.Pdf
