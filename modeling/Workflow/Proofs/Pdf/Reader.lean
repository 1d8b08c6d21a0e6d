import Mathlib.Data.List.Basic
import Mathlib.Data.List.TakeWhile
import Workflow.Proofs.Text.Pieces

/-!
# Reading a document

A file is read line by line, without knowing how it was written. A line `n g obj` is the heading of
an object, whose body goes to the next line `endobj`; the lines between `stream` and `endstream` are
the content of a stream and mean nothing to the structure of the file. All other lines are taken
apart into tokens, among which keys, numbers and references are found.

## Main definitions

* `Reader.lines file` — the lines of a file with the places where they start.
* `Reader.objects file` — the objects of a file.
* `Reader.tokens lines` — the tokens of lines, the contents of streams left out.
* `Reader.references ts`, `Reader.valueAfter key ts` — what is found among tokens.
* `Reader.streamText? body` — the content of a stream.
-/

namespace Workflow.Pdf.Reader

/-- The characters of bytes, one for each. -/
def chars (bytes : List UInt8) : List Char := bytes.map fun b => Char.ofNat b.toNat

/-- An object's number with its generation. -/
structure Label where
  number : Nat
  generation : Nat
  deriving DecidableEq, Repr

/-- A line of a file and the place where it starts. -/
structure Line where
  place : Nat
  text : List Char
  deriving DecidableEq, Repr

/-- An object of a file, with the place of its heading and the lines of its body. -/
structure Found where
  place : Nat
  label : Label
  body : List (List Char)
  deriving DecidableEq, Repr

/-- Texts as lines, the first of them at `place`, with a line feed behind each. -/
def linesFrom (place : Nat) : List (List Char) → List Line
  | [] => []
  | text :: rest => ⟨place, text⟩ :: linesFrom (place + text.length + 1) rest

/-- The texts between the line feeds of a file. -/
def split (file : List Char) : List (List Char) := Text.pieces (· == '\n') file

/-- The lines of a file. -/
def lines (file : List Char) : List Line := linesFrom 0 (split file)

/-- The number that decimal digits stand for. -/
def number? (token : List Char) : Option Nat :=
  if token ≠ [] ∧ token.all Char.isDigit then some (Nat.ofDigitChars 10 token 0) else none

/-- A bracket is a token of its own. -/
def spread (line : List Char) : List Char :=
  line.flatMap fun c => if c = '[' ∨ c = ']' then [' ', c, ' '] else [c]

/-- The tokens of a line. -/
def lineTokens (line : List Char) : List (List Char) := Text.words (spread line)

/-- The label that two tokens make. -/
def label? : List (List Char) → Option Label
  | [number, generation] => do return ⟨← number? number, ← number? generation⟩
  | _ => none

/-- The label in a line `n g obj`. -/
def heading? (line : List Char) : Option Label :=
  (" obj".toList.isSuffixOf? line).bind fun front => label? (lineTokens front)

/-- The objects of lines. -/
def objectsOf : List Line → List Found
  | [] => []
  | line :: rest =>
    match heading? line.text with
    | none => objectsOf rest
    | some label =>
      ⟨line.place, label, (rest.map Line.text).takeWhile (· != "endobj".toList)⟩ :: objectsOf rest

/-- The objects of a file. -/
def objects (file : List Char) : List Found := objectsOf (lines file)

/-- The lines that are not inside a stream; `inside` tells whether the first one is. -/
def bare (inside : Bool) : List (List Char) → List (List Char)
  | [] => []
  | line :: rest =>
    if line = "endstream".toList then line :: bare false rest
    else if inside then bare true rest
    else line :: bare (line == "stream".toList) rest

/-- The tokens of lines, the contents of streams left out. -/
def tokens (ls : List (List Char)) : List (List Char) := (bare false ls).flatMap lineTokens

def Found.tokens (object : Found) : List (List Char) := Reader.tokens object.body

/-- What stands behind the first occurrence of a key. -/
def after (key : List Char) (ts : List (List Char)) : List (List Char) :=
  (ts.dropWhile (· != key)).drop 1

/-- The number right behind a key. -/
def valueAfter (key : List Char) (ts : List (List Char)) : Option Nat :=
  (after key ts).head?.bind number?

/-- The label of a reference `n g R` at the front. -/
def referenceAt? : List (List Char) → Option Label
  | number :: generation :: keyword :: _ =>
    if keyword = ['R'] then label? [number, generation] else none
  | _ => none

/-- The labels of all references, in order. -/
def references : List (List Char) → List Label
  | [] => []
  | token :: rest => (referenceAt? (token :: rest)).toList ++ references rest

/-- The references in the bracket right behind `/Kids`. -/
def kids (ts : List (List Char)) : List Label :=
  references ((after "/Kids".toList ts).takeWhile (· != [']']))

/-- The first type among tokens is that of a page. -/
def isPage (ts : List (List Char)) : Bool := (after "/Type".toList ts).head? == some "/Page".toList

/-- The first reference behind `/Contents`. -/
def contents? (ts : List (List Char)) : Option Label :=
  (references ((after "/Contents".toList ts).take 3)).head?

/-- What stands between the lines `stream` and `endstream` in a body that has both. -/
def streamText? (body : List (List Char)) : Option (List Char) :=
  if "stream".toList ∈ body ∧ "endstream".toList ∈ after "stream".toList body then
    some (Text.joinWith ['\n']
      ((after "stream".toList body).takeWhile (· != "endstream".toList)))
  else none

/-- The place in an entry of the table for an object in use. -/
def entryPlace? (entry : List Char) : Option Nat :=
  if entry.drop 10 = " 00000 n \n".toList then number? (entry.take 10) else none

/-! ## Lines -/

@[simp] theorem map_text_linesFrom (place : Nat) (texts : List (List Char)) :
    (linesFrom place texts).map Line.text = texts := by
  induction texts generalizing place with
  | nil => rfl
  | cons text rest ih => simp [linesFrom, ih]

/-- A line feed between two texts leaves the lines of the one and of the other. -/
theorem split_append (front back : List Char) :
    split (front ++ '\n' :: back) = split front ++ split back :=
  Text.pieces_append_cut (· == '\n') rfl front back

theorem split_eq_singleton {line : List Char} (single : '\n' ∉ line) : split line = [line] :=
  Text.pieces_eq_singleton fun c member => by
    have : c ≠ '\n' := fun same => single (same ▸ member)
    simpa using this

/-- The lines of a text take one character more than the text. -/
theorem width_split (text : List Char) : Text.width (split text) = text.length + 1 :=
  Text.width_pieces text

theorem bne_of_not_mem {key : List Char} {ts : List (List Char)} (absent : key ∉ ts) :
    ∀ token ∈ ts, (token != key) = true := by
  intro token member
  have : token ≠ key := fun same => absent (same ▸ member)
  simpa using this

/-! ## Numbers -/

@[simp] theorem number?_toDigits (n : Nat) : number? (Nat.toDigits 10 n) = some n := by
  have all : (Nat.toDigits 10 n).all Char.isDigit = true := by
    rw [List.all_eq_true]
    exact fun c member => Nat.isDigit_of_mem_toDigits (by decide) (by decide) member
  simp only [number?, all, and_true, ne_eq, Nat.toDigits_ne_nil, not_false_eq_true, if_true]
  rw [Nat.ofDigitChars_ten_toDigits]

/-! ## Headings -/

/-- A heading ends with its keyword. -/
theorem heading?_eq_none {line : List Char} (other : ¬ "obj".toList <:+ line) :
    heading? line = none := by
  cases cut : " obj".toList.isSuffixOf? line with
  | none => simp only [heading?, cut, Option.bind_none]
  | some front =>
      have whole := List.append_eq_of_isSuffixOf?_eq_some cut
      exact absurd ⟨front ++ [' '], by simp [← whole]⟩ other

theorem heading?_append (front : List Char) :
    heading? (front ++ " obj".toList) = label? (lineTokens front) := by
  have cut : " obj".toList.isSuffixOf? (front ++ " obj".toList) = some front :=
    List.isSuffixOf?_eq_some_iff_append_eq.mpr rfl
  simp only [heading?, cut, Option.bind_some]

/-! ## Objects -/

/-- Lines without a heading are passed over. -/
theorem objectsOf_append {front : List (List Char)}
    (plain : ∀ text ∈ front, ¬ "obj".toList <:+ text) (place : Nat) (back : List (List Char)) :
    objectsOf (linesFrom place (front ++ back)) =
      objectsOf (linesFrom (place + Text.width front) back) := by
  induction front generalizing place with
  | nil => rfl
  | cons text rest ih =>
      have none := heading?_eq_none (plain text (by simp))
      have inner : ∀ other ∈ rest, ¬ "obj".toList <:+ other := fun other member =>
        plain other (by simp [member])
      have later := ih inner (place + text.length + 1)
      simp only [List.cons_append, linesFrom, objectsOf, none, later, Text.width]
      rw [Nat.add_assoc place, Nat.add_assoc place]

/-- Lines without a heading hold no object. -/
theorem objectsOf_eq_nil {texts : List (List Char)}
    (plain : ∀ text ∈ texts, ¬ "obj".toList <:+ text) (place : Nat) :
    objectsOf (linesFrom place texts) = [] := by
  have passed := objectsOf_append plain place []
  rwa [List.append_nil] at passed

/-- An object's lines hold that object. -/
theorem objectsOf_object {heading : List Char} {label : Label} {body : List (List Char)}
    (reads : heading? heading = some label) (plain : ∀ text ∈ body, ¬ "obj".toList <:+ text)
    (place : Nat) (back : List (List Char)) :
    objectsOf (linesFrom place (heading :: body ++ "endobj".toList :: back)) =
      ⟨place, label, body⟩ ::
        objectsOf (linesFrom (place + heading.length + 1 + Text.width body + 7) back) := by
  have unclosed : "endobj".toList ∉ body := fun member => plain _ member (by decide)
  have inner : (body ++ "endobj".toList :: back).takeWhile (· != "endobj".toList) = body := by
    rw [List.takeWhile_append_of_pos (bne_of_not_mem unclosed)]
    simp
  have ending : heading? "endobj".toList = none := by decide
  simp only [List.cons_append, linesFrom, objectsOf, reads, map_text_linesFrom, inner]
  rw [objectsOf_append plain]
  simp only [linesFrom, objectsOf, ending]
  rfl

/-! ## Tokens of a line -/

theorem spread_append (front back : List Char) :
    spread (front ++ back) = spread front ++ spread back :=
  List.flatMap_append

theorem spread_eq_self {line : List Char} (plain : '[' ∉ line ∧ ']' ∉ line) :
    spread line = line := by
  induction line with
  | nil => rfl
  | cons c cs ih =>
      simp only [List.mem_cons, not_or] at plain
      have rest := ih ⟨plain.1.2, plain.2.2⟩
      simp only [spread, List.flatMap_cons] at rest ⊢
      rw [if_neg (by simp [Ne.symm plain.1.1, Ne.symm plain.2.1]), rest]
      rfl

theorem mem_of_mem_spread {line : List Char} {c : Char} (member : c ∈ spread line) :
    c ∈ line ∨ c = ' ' := by
  simp only [spread, List.mem_flatMap] at member
  obtain ⟨d, inside, among⟩ := member
  split at among
  · simp only [List.mem_cons, List.not_mem_nil, or_false] at among
    rcases among with rfl | rfl | rfl
    · exact .inr rfl
    · exact .inl inside
    · exact .inr rfl
  · exact .inl (by simpa [List.mem_singleton.mp among] using inside)

/-- Tokens consist of characters of their line. -/
theorem mem_of_mem_lineTokens {line token : List Char} (member : token ∈ lineTokens line)
    {c : Char} (inside : c ∈ token) : c ∈ line := by
  have kept := Text.of_mem_words member inside
  rcases mem_of_mem_spread kept.1 with known | rfl
  · exact known
  · exact absurd kept.2 (by decide)

/-- A blank between two texts leaves the tokens of the one and of the other. -/
theorem lineTokens_append {c : Char} (blank : Text.isBlank c = true) (front back : List Char) :
    lineTokens (front ++ c :: back) = lineTokens front ++ lineTokens back := by
  have plain : ¬ (c = '[' ∨ c = ']') := by
    rintro (rfl | rfl) <;> exact absurd blank (by decide)
  have apart : spread (front ++ c :: back) = spread front ++ c :: spread back := by
    rw [spread_append]
    simp [spread, plain]
  rw [lineTokens, apart, Text.words_append_blank blank]
  rfl

theorem lineTokens_append_space (front back : List Char) :
    lineTokens (front ++ ' ' :: back) = lineTokens front ++ lineTokens back :=
  lineTokens_append (by decide) front back

theorem lineTokens_append_feed (front back : List Char) :
    lineTokens (front ++ '\n' :: back) = lineTokens front ++ lineTokens back :=
  lineTokens_append (by decide) front back

theorem lineTokens_eq_singleton {token : List Char} (some : token ≠ [])
    (plain : ∀ c ∈ token, Text.isBlank c = false ∧ c ≠ '[' ∧ c ≠ ']') :
    lineTokens token = [token] := by
  have same : spread token = token :=
    spread_eq_self ⟨fun member => (plain _ member).2.1 rfl, fun member => (plain _ member).2.2 rfl⟩
  rw [lineTokens, same, Text.words_eq_singleton some fun c member => (plain c member).1]

theorem not_blank_of_isDigit {c : Char} (digit : c.isDigit = true) :
    Text.isBlank c = false ∧ c ≠ '[' ∧ c ≠ ']' := by
  have between : 48 ≤ c.toNat ∧ c.toNat ≤ 57 := Char.isDigit_iff_toNat.mp digit
  refine ⟨?_, ?_, ?_⟩
  · simp only [Text.isBlank, Bool.or_eq_false_iff, Bool.and_eq_false_iff, decide_eq_false_iff_not,
      beq_eq_false_iff_ne]
    omega
  · rintro rfl
    exact absurd between (by decide)
  · rintro rfl
    exact absurd between (by decide)

@[simp] theorem lineTokens_toDigits (n : Nat) :
    lineTokens (Nat.toDigits 10 n) = [Nat.toDigits 10 n] :=
  lineTokens_eq_singleton Nat.toDigits_ne_nil fun _ member =>
    not_blank_of_isDigit (Nat.isDigit_of_mem_toDigits (by decide) (by decide) member)

theorem lineTokens_joinWith {c : Char} (blank : Text.isBlank c = true)
    (texts : List (List Char)) :
    lineTokens (Text.joinWith [c] texts) = texts.flatMap lineTokens := by
  induction texts with
  | nil => rfl
  | cons first rest ih =>
      cases rest with
      | nil => simp [Text.joinWith]
      | cons next more =>
          rw [Text.joinWith_cons (by simp), List.flatMap_cons, ← ih, List.append_assoc,
            List.singleton_append, lineTokens_append blank]

/-- The lines of a text have its tokens. -/
theorem flatMap_lineTokens_split (text : List Char) :
    (split text).flatMap lineTokens = lineTokens text := by
  have blank : Text.isBlank '\n' = true := by decide
  rw [← lineTokens_joinWith blank, split, Text.joinWith_pieces]

/-- Brackets are tokens around the tokens between them. -/
theorem lineTokens_brackets (inner : List Char) :
    lineTokens ('[' :: inner ++ [']']) = ['['] :: lineTokens inner ++ [[']']] := by
  have blank : Text.isBlank ' ' = true := by decide
  have spaced : spread ('[' :: inner ++ [']']) =
      " [".toList ++ ' ' :: (spread inner ++ ' ' :: "] ".toList) := by
    rw [spread_append]
    simp [spread]
  rw [lineTokens, spaced, Text.words_append_blank blank, Text.words_append_blank blank]
  rfl

/-! ## Lines outside of streams -/

theorem bare_append {front : List (List Char)} (plain : "stream".toList ∉ front)
    (back : List (List Char)) : bare false (front ++ back) = front ++ bare false back := by
  induction front with
  | nil => rfl
  | cons line rest ih =>
      simp only [List.mem_cons, not_or] at plain
      have differ : (line == "stream".toList) = false := by simpa using Ne.symm plain.1
      simp only [List.cons_append, bare, differ, Bool.false_eq_true, if_false, ih plain.2, ite_self]

/-- A stream leaves the line that ends it. -/
theorem bare_inside {front : List (List Char)} (plain : "endstream".toList ∉ front)
    (back : List (List Char)) :
    bare true (front ++ "endstream".toList :: back) = "endstream".toList :: bare false back := by
  induction front with
  | nil => simp [bare]
  | cons line rest ih =>
      simp only [List.mem_cons, not_or] at plain
      simp only [List.cons_append, bare, if_neg (Ne.symm plain.1), if_true, ih plain.2]

/-! ## Keys and references -/

theorem after_append {key : List Char} {front : List (List Char)} (first : key ∉ front)
    (back : List (List Char)) : after key (front ++ key :: back) = back := by
  rw [after, List.dropWhile_append_of_pos (bne_of_not_mem first)]
  simp

theorem after_eq_nil {key : List Char} {ts : List (List Char)} (none : key ∉ ts) :
    after key ts = [] := by
  rw [after, List.dropWhile_eq_nil_iff.mpr (bne_of_not_mem none)]
  rfl

theorem valueAfter_append {key : List Char} {front : List (List Char)} (first : key ∉ front)
    (n : Nat) (back : List (List Char)) :
    valueAfter key (front ++ key :: Nat.toDigits 10 n :: back) = some n := by
  simp [valueAfter, after_append first]

@[simp] theorem label?_toDigits (n : Nat) : label? [Nat.toDigits 10 n, ['0']] = some ⟨n, 0⟩ := by
  have zero : number? ['0'] = some 0 := by decide
  simp [label?, zero]

theorem references_cons_of_keyword {token : List Char} (keyword : number? token = none)
    (rest : List (List Char)) : references (token :: rest) = references rest := by
  have none : referenceAt? (token :: rest) = none := by
    rcases rest with _ | ⟨_, _ | ⟨_, _⟩⟩ <;> simp [referenceAt?, label?, keyword]
  simp [references, none]

/-- A token that is neither a number nor `R` stands in no reference. -/
theorem references_append {token : List Char} (keyword : number? token = none)
    (other : token ≠ ['R']) (front back : List (List Char)) :
    references (front ++ token :: back) = references front ++ references back := by
  induction front with
  | nil => exact references_cons_of_keyword keyword back
  | cons first rest ih =>
      -- Only the two tokens behind `first` matter, and `token` may be one of them.
      have same : referenceAt? (first :: (rest ++ token :: back)) =
          referenceAt? (first :: rest) := by
        rcases rest with _ | ⟨_, _ | ⟨_, _⟩⟩
        · cases back <;> simp [referenceAt?, label?, keyword]
        · simp [referenceAt?, other]
        · rfl
      simp only [List.cons_append, references, same, ih, List.append_assoc]

/-- A reference in front is found first. -/
theorem references_cons_reference (n : Nat) (rest : List (List Char)) :
    references (Nat.toDigits 10 n :: ['0'] :: ['R'] :: rest) = ⟨n, 0⟩ :: references rest := by
  have keyword : number? ['R'] = none := by decide
  have second : referenceAt? (['0'] :: ['R'] :: rest) = none := by
    cases rest <;> simp [referenceAt?, label?, keyword]
  rw [references, references, second, references_cons_of_keyword keyword]
  simp [referenceAt?]

theorem references_eq_nil {ts : List (List Char)} (plain : ['R'] ∉ ts) : references ts = [] := by
  induction ts with
  | nil => rfl
  | cons token rest ih =>
      have none : referenceAt? (token :: rest) = none := by
        rcases rest with _ | ⟨_, _ | ⟨keyword, _⟩⟩
        · rfl
        · rfl
        · have : keyword ≠ ['R'] := fun same => plain (by simp [same])
          simp [referenceAt?, this]
      have later := ih fun member => plain (List.mem_cons_of_mem _ member)
      simp [references, none, later]

end Workflow.Pdf.Reader
