import Workflow.Proofs.Json.Lists
import Workflow.Text.Replace

/-!
# How values are spelled

The grammar of JSON on its own, with the bounds that a reader puts on it: arrays and objects nest to
a given depth, a number has to be one that there is, and a surrogate needs its other half. Reading
goes by this grammar: what is spelled is read, and what is read has been spelled. An array or an
object ends where it is closed, so it is read in front of anything.

## Main definitions

* `Json.Spells depth json text` — `text` spells a value that nests to the given depth.
* `Json.SpellsWith` — the same for any way to make an object of its members.
* `Json.Reader.complete_valueWith`, `Json.Reader.sound_valueWith` — reading goes by the grammar.
* `Json.parse_eq_some_iff` — which texts are a value.
* `Json.Reader.value_array_iff` — where an array is read, whatever is behind it.
-/

namespace Workflow.Json
open Reader (IsBlank Enclosed EndsToken)

/-- A character as it stands in a string. -/
inductive SpellsChar : Char → List Char → Prop
  | plain {c : Char} (visible : 0x20 ≤ c.toNat) (quote : c ≠ '"') (slash : c ≠ '\\') :
      SpellsChar c [c]
  | simple {c e : Char} (escape : Reader.simpleEscape? e = some c) : SpellsChar c ['\\', e]
  | unit {n : Nat} {a b c d : Char} (unit : Reader.unit? a b c d = some n)
      (high : Utf16.isHigh n = false) (low : Utf16.isLow n = false) :
      SpellsChar (Char.ofNat n) ['\\', 'u', a, b, c, d]
  | pair {n m : Nat} {a b c d e f g h : Char} (unit : Reader.unit? a b c d = some n)
      (high : Utf16.isHigh n = true) (unit' : Reader.unit? e f g h = some m)
      (low : Utf16.isLow m = true) :
      SpellsChar (Utf16.pair n m) ['\\', 'u', a, b, c, d, '\\', 'u', e, f, g, h]

/-- The characters of a string one after another, up to its closing quote. -/
inductive SpellsChars : List Char → List Char → Prop
  | nil : SpellsChars [] ['"']
  | cons {c : Char} {cs text rest : List Char} (spelled : SpellsChar c text)
      (later : SpellsChars cs rest) : SpellsChars (c :: cs) (text ++ rest)

/-- A string between quotes. -/
inductive SpellsString : String → List Char → Prop
  | intro {s : String} {text : List Char} (spelled : SpellsChars s.toList text) :
      SpellsString s ('"' :: text)

/-- A value that is neither array nor object. -/
inductive SpellsPlain : Json → List Char → Prop
  | null : SpellsPlain .null "null".toList
  | true : SpellsPlain (.bool true) "true".toList
  | false : SpellsPlain (.bool false) "false".toList
  | string {s : String} {text : List Char} (spelled : SpellsString s text) :
      SpellsPlain (.string s) text
  | number {literal : NumberLiteral} {json : Json} {text : List Char}
      (spelled : literal.Spells text) (value : literal.value? = some json) : SpellsPlain json text

/-- A name and a content. -/
inductive SpellsMember (spells : Json → List Char → Prop) : String × Json → List Char → Prop
  | intro {name : String} {content : Json} {nameText before behind text : List Char}
      (named : SpellsString name nameText) (isBlank : IsBlank before) (isBlank' : IsBlank behind)
      (spelled : spells content text) :
      SpellsMember spells (name, content) (nameText ++ (before ++ ':' :: (behind ++ text)))

/-- A value whose items or members are spelled in a given way. -/
inductive SpellsNested (object : List (String × Json) → Json)
    (spells : Json → List Char → Prop) : Json → List Char → Prop
  | plain {json : Json} {text : List Char} (spelled : SpellsPlain json text) :
      SpellsNested object spells json text
  | array {items : List Json} {text : List Char} (enclosed : Enclosed spells ']' items text) :
      SpellsNested object spells (.array items) ('[' :: text)
  | object {members : List (String × Json)} {text : List Char}
      (enclosed : Enclosed (SpellsMember spells) '\x7d' members text) :
      SpellsNested object spells (object members) ('\x7b' :: text)

/-- A value that nests to the given depth, with a way to make an object of its members. -/
def SpellsWith (object : List (String × Json) → Json) : Nat → Json → List Char → Prop
  | 0 => SpellsPlain
  | depth + 1 => SpellsNested object (SpellsWith object depth)

/-- A value that nests to the given depth; every object has each name once. -/
def Spells : Nat → Json → List Char → Prop := SpellsWith ofMembers

theorem SpellsPlain.spellsWith {json : Json} {text : List Char} (spelled : SpellsPlain json text)
    (object : List (String × Json) → Json) (d : Nat) : SpellsWith object d json text := by
  cases d with
  | zero => exact spelled
  | succ d => exact .plain spelled

namespace Reader

variable {α : Type} {cs text rest : List Char} {json : Json} {d : Nat}
  {object : List (String × Json) → Json}

/-! ## Strings -/

theorem stringBody_simple {e c : Char} (simple : simpleEscape? e = some c) (cs : List Char) :
    stringBody ('\\' :: e :: cs) = before c (stringBody cs) := by
  have notUnit : e ≠ 'u' := by
    rintro rfl
    simp [simpleEscape?] at simple
  rw [stringBody.eq_3]
  · simp [simple]
  · simp_all

theorem stringBody_plain {c : Char} (visible : 0x20 ≤ c.toNat) (quote : c ≠ '"') (slash : c ≠ '\\')
    (cs : List Char) : stringBody (c :: cs) = before c (stringBody cs) := by
  rw [stringBody.eq_4]
  · simp [slash, Nat.not_lt.mpr visible]
  all_goals simp_all

theorem stringBody_of_spellsChar {c : Char} (spelled : SpellsChar c text) (cs : List Char) :
    stringBody (text ++ cs) = before c (stringBody cs) := by
  cases spelled with
  | plain visible quote slash => exact stringBody_plain visible quote slash cs
  | simple escape => exact stringBody_simple escape cs
  | unit unit high low => simp [stringBody, unit, high, low]
  | pair unit high unit' low => simp [stringBody, unit, high, unit', low]

theorem stringBody_of_spells {s : List Char} (spelled : SpellsChars s text) (rest : List Char) :
    stringBody (text ++ rest) = some (s, rest) := by
  induction spelled with
  | nil => rfl
  | cons spelled later ih =>
      rw [List.append_assoc, stringBody_of_spellsChar spelled, ih]
      rfl

theorem string_of_spells {s : String} (spelled : SpellsString s text) (rest : List Char) :
    string (text ++ rest) = some (s, rest) := by
  obtain ⟨spelled⟩ := spelled
  simp [string, stringBody_of_spells spelled]

theorem spells_of_before {c : Char} {s : List Char} {read : Option (List Char × List Char)}
    (spelled : SpellsChar c text)
    (ih : ∀ s, read = some (s, rest) → ∃ text, cs = text ++ rest ∧ SpellsChars s text)
    (found : before c read = some (s, rest)) :
    ∃ more, text ++ cs = more ++ rest ∧ SpellsChars s more := by
  obtain ⟨⟨s', rest'⟩, later, same⟩ := Option.map_eq_some_iff.mp found
  cases same
  obtain ⟨more, rfl, spelled'⟩ := ih s' later
  exact ⟨_, (List.append_assoc ..).symm, .cons spelled spelled'⟩

theorem spells_of_stringBody {s : List Char} (found : stringBody cs = some (s, rest)) :
    ∃ text, cs = text ++ rest ∧ SpellsChars s text := by
  fun_induction stringBody cs generalizing s with
  | case1 cs =>
      cases found
      exact ⟨_, rfl, .nil⟩
  | case2 a b c d cs ih ih' =>
      obtain ⟨n, unit, found⟩ := Option.bind_eq_some_iff.mp found
      split at found
      · rename_i high
        split at found
        · obtain ⟨m, unit', found⟩ := Option.bind_eq_some_iff.mp found
          split at found
          · rename_i low
            exact spells_of_before (.pair unit high unit' low) (fun _ => ih) found
          · cases found
        · cases found
      · rename_i high
        split at found
        · cases found
        · rename_i low
          refine spells_of_before (.unit unit ?_ ?_) (fun _ => ih') found
          · simpa using high
          · simpa using low
  | case3 e cs other ih =>
      obtain ⟨c, escape, found⟩ := Option.bind_eq_some_iff.mp found
      exact spells_of_before (.simple escape) (fun _ => ih) found
  | case4 => cases found
  | case5 c cs quote _ _ shown ih =>
      simp only [Bool.or_eq_true, decide_eq_true_eq, beq_iff_eq, not_or, Nat.not_lt] at shown
      exact spells_of_before (.plain shown.1 quote shown.2) (fun _ => ih) found
  | case6 => cases found

theorem sound_string : Sound string SpellsString := by
  intro cs s rest found
  unfold string at found
  split at found
  · obtain ⟨⟨s', rest'⟩, body, same⟩ := Option.map_eq_some_iff.mp found
    cases same
    obtain ⟨text, rfl, spelled⟩ := spells_of_stringBody body
    exact ⟨_, rfl, .intro (by simpa using spelled)⟩
  · cases found

/-! ## Plain values -/

/-- A string is told from space by its first character. -/
theorem complete_string : Complete string SpellsString := by
  intro s text spelled rest _
  have opens : skipSpace (text ++ rest) = text ++ rest := by
    obtain ⟨spelled⟩ := spelled
    exact skipSpace_of_visible (by decide) _
  rw [opens]
  exact string_of_spells spelled rest

/-- A number is told from space, arrays and objects by its first character. -/
theorem visible_of_start {c : Char} (start : c = '-' ∨ c.isDigit = true) :
    isSpace c = false ∧ c ≠ '[' ∧ c ≠ '\x7b' := by
  refine ⟨?_, ?_, ?_⟩
  · cases blank : isSpace c with
    | false => rfl
    | true =>
        simp only [isSpace, Bool.or_eq_true, beq_iff_eq] at blank
        rcases blank with ((rfl | rfl) | rfl) | rfl <;> simp at start
  · rintro rfl
    simp at start
  · rintro rfl
    simp at start

/-- A plain value is told from space, arrays and objects by its first character. -/
theorem plain_cons (spelled : SpellsPlain json text) :
    ∃ c cs, text = c :: cs ∧ isSpace c = false ∧ c ≠ '[' ∧ c ≠ '\x7b' := by
  cases spelled with
  | null => exact ⟨'n', _, rfl, by decide⟩
  | true => exact ⟨'t', _, rfl, by decide⟩
  | false => exact ⟨'f', _, rfl, by decide⟩
  | string spelled =>
      obtain ⟨spelled⟩ := spelled
      exact ⟨'"', _, rfl, by decide⟩
  | number spelled =>
      obtain ⟨c, cs, rfl, start⟩ := spelled.starts
      exact ⟨c, cs, rfl, visible_of_start start⟩

theorem word_append (w : String) (rest : List Char) :
    word w (w.toList ++ rest) = some rest := by
  rw [word]
  induction w.toList with
  | nil => rfl
  | cons c cs ih =>
      change (if c == c then cs.isPrefixOf? (cs ++ rest) else none) = some rest
      rw [if_pos (beq_self_eq_true c), ih]

theorem plain_number {c : Char} (start : c = '-' ∨ c.isDigit = true) (cs : List Char) :
    plain (c :: cs) = (do
      let (literal, rest) ← NumberLiteral.read (c :: cs)
      some (← literal.value?, rest)) := by
  have other : c ≠ 'n' ∧ c ≠ 't' ∧ c ≠ 'f' ∧ c ≠ '"' := by
    refine ⟨?_, ?_, ?_, ?_⟩ <;> rintro rfl <;> simp at start
  obtain ⟨n, t, f, quote⟩ := other
  simp [plain, n, t, f, quote]

theorem plain_of_spells (spelled : SpellsPlain json text) (ends : EndsToken rest) :
    plain (text ++ rest) = some (json, rest) := by
  cases spelled with
  | null => simpa [plain] using word_append "null" rest
  | true => simpa [plain] using word_append "true" rest
  | false => simpa [plain] using word_append "false" rest
  | string spelled =>
      have read := string_of_spells spelled rest
      obtain ⟨spelled⟩ := spelled
      rw [List.cons_append] at read ⊢
      simp [plain, read]
  | number spelled value =>
      have read := NumberLiteral.read_of_spells spelled ends
      obtain ⟨c, cs, rfl, start⟩ := spelled.starts
      rw [List.cons_append] at read ⊢
      simp [plain_number start, read, value]

theorem eq_of_word {w : String} (found : word w cs = some rest) : cs = w.toList ++ rest :=
  Text.isPrefixOf?_eq_some found

theorem sound_plain : Sound plain SpellsPlain := by
  intro cs json rest found
  unfold plain at found
  split at found
  · obtain ⟨_, read, same⟩ := Option.map_eq_some_iff.mp found
    cases same
    exact ⟨_, eq_of_word read, .null⟩
  · obtain ⟨_, read, same⟩ := Option.map_eq_some_iff.mp found
    cases same
    exact ⟨_, eq_of_word read, .true⟩
  · obtain ⟨_, read, same⟩ := Option.map_eq_some_iff.mp found
    cases same
    exact ⟨_, eq_of_word read, .false⟩
  · obtain ⟨⟨s, _⟩, read, same⟩ := Option.map_eq_some_iff.mp found
    cases same
    obtain ⟨text, whole, spelled⟩ := sound_string _ _ _ read
    exact ⟨text, whole, .string spelled⟩
  · obtain ⟨⟨literal, _⟩, read, found⟩ := Option.bind_eq_some_iff.mp found
    obtain ⟨_, value, same⟩ := Option.bind_eq_some_iff.mp found
    cases same
    obtain ⟨text, whole, spelled⟩ := NumberLiteral.spells_of_read read
    exact ⟨text, whole, .number spelled value⟩

/-! ## Members -/

/-- A name, a colon and a content are a member. -/
theorem reads_member_of_spells {name : String} {nameText before behind : List Char} {a : α}
    {content : String → List Char → Option (α × List Char)} (named : SpellsString name nameText)
    (isBlank : IsBlank before) (isBlank' : IsBlank behind) (reads : Reads (content name) a text) :
    Reads (member string content) (name, a)
      (nameText ++ (before ++ ':' :: (behind ++ text))) := by
  intro rest ends
  have colon : isSpace ':' = false := by decide
  have read := complete_string _ _ named (before ++ ':' :: (behind ++ text ++ rest))
    (isBlank.endsToken (by simp))
  simp only [List.append_assoc, List.cons_append] at read ⊢
  simp [member, read, skipSpace_append isBlank, skipSpace_of_visible colon,
    skipSpace_append isBlank', reads rest ends]

section
variable {content : List Char → Option (Json × List Char)} {spells : Json → List Char → Prop}

theorem complete_member (complete : Complete content spells) :
    Complete (member string fun _ => content) (SpellsMember spells) := by
  rintro entry text ⟨named, isBlank, isBlank', spelled⟩
  exact reads_member_of_spells named isBlank isBlank' (complete _ _ spelled)

theorem sound_member (sound : Sound content spells) :
    Sound (member string fun _ => content) (SpellsMember spells) := by
  intro cs entry rest found
  obtain ⟨⟨name, left⟩, named, found⟩ := Option.bind_eq_some_iff.mp found
  obtain ⟨nameText, whole, spelledName⟩ := sound_string _ _ _ named
  dsimp only at found
  split at found
  · rename_i more next
    obtain ⟨⟨json, left'⟩, read, same⟩ := Option.map_eq_some_iff.mp found
    cases same
    obtain ⟨text, taken, spelled⟩ := sound _ _ _ read
    obtain ⟨before, isBlank, between⟩ := exists_eq_append_skipSpace left
    obtain ⟨behind, isBlank', tail⟩ := exists_eq_append_skipSpace more
    refine ⟨_, ?_, .intro spelledName isBlank isBlank' spelled⟩
    rw [whole, between, next, tail, taken]
    simp
  · cases found

end

/-! ## Values -/

/-- An array is read up to where it is closed. -/
theorem valueWith_of_array {items : List Json}
    (complete : Complete (valueWith object d) (SpellsWith object d))
    (enclosed : Enclosed (SpellsWith object d) ']' items text) (rest : List Char) :
    valueWith object (d + 1) ('[' :: text ++ rest) = some (.array items, rest) := by
  have isClose : IsClose ']' := .inl rfl
  have closed := valueWith_close object isClose d
  have read := listRest_of_enclosed isClose closed complete enclosed rest
  simp [valueWith, arrayRest, read]

theorem valueWith_of_object {members : List (String × Json)}
    (complete : Complete (valueWith object d) (SpellsWith object d))
    (enclosed : Enclosed (SpellsMember (SpellsWith object d)) '\x7d' members text)
    (rest : List Char) :
    valueWith object (d + 1) ('\x7b' :: text ++ rest) = some (object members, rest) := by
  have isClose : IsClose '\x7d' := .inr rfl
  have each := complete_member complete
  have read := listRest_of_enclosed isClose (member_close _) each enclosed rest
  simp [valueWith, objectRest, read]

theorem valueWith_of_plain (spelled : SpellsPlain json text) (ends : EndsToken rest) :
    valueWith object d (text ++ rest) = some (json, rest) := by
  have read := plain_of_spells spelled ends
  obtain ⟨c, cs, rfl, -, bracket, brace⟩ := plain_cons spelled
  rw [List.cons_append] at read ⊢
  cases d <;> simpa [valueWith, bracket, brace] using read

/-- A value is told from space by its first character. -/
theorem skipSpace_of_spells (spelled : SpellsWith object d json text) (rest : List Char) :
    skipSpace (text ++ rest) = text ++ rest := by
  have visible : ∃ c cs, text = c :: cs ∧ isSpace c = false := by
    cases d with
    | zero =>
        obtain ⟨c, cs, same, visible, -⟩ := plain_cons spelled
        exact ⟨c, cs, same, visible⟩
    | succ d =>
        cases spelled with
        | plain spelled =>
            obtain ⟨c, cs, same, visible, -⟩ := plain_cons spelled
            exact ⟨c, cs, same, visible⟩
        | array => exact ⟨_, _, rfl, by decide⟩
        | object => exact ⟨_, _, rfl, by decide⟩
  obtain ⟨c, cs, rfl, visible⟩ := visible
  exact skipSpace_of_visible visible _

/-- What is spelled is read. -/
theorem complete_valueWith (object : List (String × Json) → Json) (d : Nat) :
    Complete (valueWith object d) (SpellsWith object d) := by
  induction d with
  | zero =>
      intro json text spelled rest ends
      rw [skipSpace_of_spells spelled]
      exact valueWith_of_plain spelled ends
  | succ d ih =>
      intro json text spelled rest ends
      rw [skipSpace_of_spells spelled]
      cases spelled with
      | plain spelled => exact valueWith_of_plain spelled ends
      | array enclosed => exact valueWith_of_array ih enclosed rest
      | object enclosed => exact valueWith_of_object ih enclosed rest

/-- What is read has been spelled. -/
theorem sound_valueWith (object : List (String × Json) → Json) (d : Nat) :
    Sound (valueWith object d) (SpellsWith object d) := by
  induction d with
  | zero =>
      intro cs json rest found
      simp only [valueWith] at found
      split at found
      · cases found
      · cases found
      · exact sound_plain _ _ _ found
  | succ d ih =>
      intro cs json rest found
      simp only [valueWith] at found
      split at found
      · obtain ⟨⟨items, left⟩, read, same⟩ := Option.map_eq_some_iff.mp found
        cases same
        obtain ⟨text, rfl, enclosed⟩ := enclosed_of_listRest ih read
        exact ⟨_, rfl, .array enclosed⟩
      · obtain ⟨⟨members, left⟩, read, same⟩ := Option.map_eq_some_iff.mp found
        cases same
        obtain ⟨text, rfl, enclosed⟩ := enclosed_of_listRest (sound_member ih) read
        exact ⟨_, rfl, .object enclosed⟩
      · obtain ⟨text, rfl, spelled⟩ := sound_plain _ _ _ found
        exact ⟨text, rfl, .plain spelled⟩

theorem complete_value (d : Nat) : Complete (value d) (Spells d) := complete_valueWith ofMembers d

theorem sound_value (d : Nat) : Sound (value d) (Spells d) := sound_valueWith ofMembers d

/-! ## Arrays in front of anything -/

theorem value?_ne_array (literal : NumberLiteral) (items : List Json) :
    literal.value? ≠ some (.array items) := by
  intro found
  rw [NumberLiteral.value?] at found
  dsimp only at found
  split at found
  · cases found
  · simp at found

/-- An array is read wherever it has been spelled, whatever is behind it. -/
theorem value_array_iff {items : List Json} :
    value d cs = some (.array items, rest) ↔
      ∃ text, cs = text ++ rest ∧ Spells d (.array items) text := by
  have notPlain : ∀ {text}, ¬ SpellsPlain (.array items) text := by
    rintro text (_ | _ | _ | _ | ⟨-, value⟩)
    exact value?_ne_array _ items value
  constructor
  · exact sound_value d cs _ rest
  · rintro ⟨text, rfl, spelled⟩
    cases d with
    | zero => exact absurd spelled notPlain
    | succ d =>
        generalize same : Json.array items = json at spelled
        cases spelled with
        | plain spelled => exact absurd (same ▸ spelled) notPlain
        | array enclosed =>
            cases same
            exact valueWith_of_array (complete_value d) enclosed rest
        | object => cases same

end Reader

/-! ## Whole texts -/

/-- A text is a value exactly if it spells one, with space around it or none. -/
theorem parse_eq_some_iff {text : String} {json : Json} :
    parse text = some json ↔ ∃ before spelling behind,
      text.toList = before ++ (spelling ++ behind) ∧
        IsBlank before ∧ Spells Reader.maxDepth json spelling ∧ IsBlank behind := by
  constructor
  · intro read
    obtain ⟨⟨json', rest⟩, found, ends⟩ := Option.bind_eq_some_iff.mp read
    dsimp only at ends
    split at ends
    · rename_i none
      cases ends
      obtain ⟨before, isBlank, whole⟩ := Reader.exists_eq_append_skipSpace text.toList
      obtain ⟨behind, isBlank', tail⟩ := Reader.exists_eq_append_skipSpace rest
      obtain ⟨spelling, taken, spelled⟩ := Reader.sound_value _ _ _ _ found
      rw [List.isEmpty_iff.mp none, List.append_nil] at tail
      exact ⟨before, spelling, rest, taken ▸ whole, isBlank, spelled, tail ▸ isBlank'⟩
    · cases ends
  · rintro ⟨before, spelling, behind, whole, isBlank, spelled, isBlank'⟩
    have ends : EndsToken (behind ++ []) := isBlank'.endsToken Reader.endsToken_nil
    have none : Reader.skipSpace (behind ++ []) = [] := Reader.skipSpace_append isBlank' []
    rw [List.append_nil] at ends none
    have read := Reader.complete_value _ _ _ spelled behind ends
    simp [parse, Reader.whole, whole, Reader.skipSpace_append isBlank, read, none]

end Workflow.Json
