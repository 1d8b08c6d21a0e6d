import Mathlib.Data.List.Forall2
import Workflow.Proofs.Pdf.Literal
import Workflow.Proofs.Pdf.Reader

/-!
# Reading the content of a page

The content of a page is read by the rules of the format, without knowing how it was written:
operands come before their operator, a literal string is one operand whatever stands in it, and the
operators move a pen, whose height is the baseline of the texts that are shown. How far to the right
a text stands is not followed.

## Main definitions

* `Reader.parts? content` — the strings and words of a content.
* `Reader.instructions? pending parts` — the operators with their operands.
* `Reader.step? pen instruction` — what an operator does, and what it shows.
* `Reader.shown? content` — what a content shows.
* `Reader.Lexes`, `Reader.Reads` — what a writing stands for, whatever comes behind it.
* `Reader.Offers` — a writing that stands for an operand.
-/

namespace Workflow.Pdf

namespace Reader

/-! ## Parts of a content -/

/-- A string or a word between blanks. -/
inductive Part where
  | text (codes : List Nat)
  | word (word : List Char)
  deriving DecidableEq, Repr

/-- A character inside a word. -/
def inWord (c : Char) : Bool := ! Text.isBlank c && c != '('

theorem length_lt_of_inside? {cs front back : List Char} {depth : Nat}
    (read : inside? depth cs = some (front, back)) : back.length < cs.length := by
  fun_induction inside? depth cs generalizing front with
  | case1 => cases read
  | case4 rest =>
      cases read
      exact Nat.lt_succ_self _
  | case2 depth c rest ih | case3 depth rest ih | case5 rest depth ih
  | case6 depth c rest _ _ _ ih =>
      obtain ⟨⟨inner, behind⟩, later, same⟩ := Option.map_eq_some_iff.mp read
      cases same
      have := ih later
      simp only [List.length_cons]
      omega

theorem length_lt_of_literal? {cs back : List Char} {read : List Nat}
    (found : literal? cs = some (read, back)) : back.length < cs.length := by
  unfold literal? at found
  split at found
  · obtain ⟨⟨front, rest⟩, inner, same⟩ := Option.map_eq_some_iff.mp found
    cases same
    exact Nat.lt_succ_of_lt (length_lt_of_inside? inner)
  · cases found

/-- The strings and words of a content. -/
def parts? : List Char → Option (List Part)
  | [] => some []
  | c :: rest =>
    if Text.isBlank c then parts? rest
    else if inWord c then
      (parts? (rest.dropWhile inWord)).map (.word (c :: rest.takeWhile inWord) :: ·)
    else
      match found : literal? (c :: rest) with
      | none => none
      | some (read, back) =>
        have := length_lt_of_literal? found
        (parts? back).map (.text read :: ·)
termination_by cs => cs.length
decreasing_by
  · simp
  · exact Nat.lt_succ_of_le (List.length_dropWhile_le _ _)
  · exact this

/-- What stands in front of an operator. -/
inductive Operand where
  | number (n : Int)
  | name (name : List Char)
  | text (text : List Char)
  deriving DecidableEq, Repr

/-- An operator with its operands. -/
inductive Instruction where
  | beginText
  | endText
  | move (right up : Int)
  | font (name : List Char) (size : Int)
  | setLeading (points : Int)
  | showText (text : List Char)
  | nextLine
  deriving DecidableEq, Repr

/-- The number that a word stands for. -/
def integer? : List Char → Option Int
  | '-' :: ds => (number? ds).map fun n => -(n : Int)
  | ds => (number? ds).map fun n => (n : Int)

/-- The operand that a word stands for. -/
def operand? (word : List Char) : Option Operand :=
  match word with
  | '/' :: name => some (.name name)
  | word => (integer? word).map .number

/-- The operator of a keyword with the operands in front of it. -/
def instruction? : List Char → List Operand → Option Instruction
  | ['B', 'T'], [] => some .beginText
  | ['E', 'T'], [] => some .endText
  | ['T', 'd'], [.number right, .number up] => some (.move right up)
  | ['T', 'f'], [.name name, .number size] => some (.font name size)
  | ['T', 'L'], [.number points] => some (.setLeading points)
  | ['T', 'j'], [.text text] => some (.showText text)
  | ['T', '*'], [] => some .nextLine
  | _, _ => none

/-- The operators with their operands; `pending` operands stand in front. -/
def instructions? (pending : List Operand) : List Part → Option (List Instruction)
  | [] => if pending.isEmpty then some [] else none
  | .text codes :: rest =>
    (WinAnsi.text? codes).bind fun text => instructions? (pending ++ [.text text]) rest
  | .word word :: rest =>
    match operand? word with
    | some operand => instructions? (pending ++ [operand]) rest
    | none =>
      (instruction? word pending).bind fun instruction =>
        (instructions? [] rest).map (instruction :: ·)

/-! ## The pen -/

/-- Where texts are shown, and how. -/
structure Pen where
  /-- Whether texts can be shown. -/
  inText : Bool := false
  font : Option (List Char) := none
  leading : Int := 0
  baseline : Int := 0
  deriving DecidableEq, Repr

/-- A text that is shown. -/
structure Shown where
  font : List Char
  baseline : Int
  text : List Char
  deriving DecidableEq, Repr

/-- What an operator does to the pen, and what it shows. -/
def step? (pen : Pen) : Instruction → Option (Pen × List Shown)
  | .beginText => if pen.inText then none else some ({ pen with inText := true, baseline := 0 }, [])
  | .endText => if pen.inText then some ({ pen with inText := false }, []) else none
  | .move _ up => if pen.inText then some ({ pen with baseline := pen.baseline + up }, []) else none
  | .font name _ => some ({ pen with font := some name }, [])
  | .setLeading points => some ({ pen with leading := points }, [])
  | .showText text =>
    if pen.inText then pen.font.map fun font => (pen, [⟨font, pen.baseline, text⟩]) else none
  | .nextLine =>
    if pen.inText then some ({ pen with baseline := pen.baseline - pen.leading }, []) else none

/-- What operators one after another do to the pen, and what they show. -/
def steps? (pen : Pen) : List Instruction → Option (Pen × List Shown)
  | [] => some (pen, [])
  | instruction :: rest =>
    (step? pen instruction).bind fun (next, shown) =>
      (steps? next rest).map fun (last, more) => (last, shown ++ more)

/-- The texts that operators show; no text may be left open. -/
def run? (instructions : List Instruction) : Option (List Shown) :=
  (steps? {} instructions).bind fun (last, shown) => if last.inText then none else some shown

/-- The texts that a content shows. -/
def shown? (content : List Char) : Option (List Shown) := do
  run? (← instructions? [] (← parts? content))

/-- Operators go on where those before them have left the pen. -/
theorem steps?_append {pen next last : Pen} {is js : List Instruction} {shown more : List Shown}
    (first : steps? pen is = some (next, shown)) (later : steps? next js = some (last, more)) :
    steps? pen (is ++ js) = some (last, shown ++ more) := by
  induction is generalizing pen shown with
  | nil =>
      cases first
      exact later
  | cons i is ih =>
      obtain ⟨⟨here, front⟩, done, rest⟩ := Option.bind_eq_some_iff.mp first
      obtain ⟨⟨there, back⟩, behind, same⟩ := Option.map_eq_some_iff.mp rest
      cases same
      simp only [List.cons_append, steps?, done, Option.bind_some, ih behind, Option.map_some,
        List.append_assoc]

/-! ## Strings and words -/

/-- A word ends in front of a blank, or where the content ends. -/
def EndsWord (back : List Char) : Prop := ∀ c ∈ back.head?, Text.isBlank c = true

/-- A writing consists of strings and words, whatever comes behind its last word. -/
def Lexes (cs : List Char) (ps : List Part) : Prop :=
  ∀ back, EndsWord back → parts? (cs ++ back) = (parts? back).map (ps ++ ·)

theorem parts?_blank {c : Char} (blank : Text.isBlank c = true) (back : List Char) :
    parts? (c :: back) = parts? back := by
  rw [parts?, if_pos blank]

theorem lexes_nil : Lexes [] [] := fun _ _ => by simp

theorem Lexes.append {first second : List Char} {ps qs : List Part} {c : Char}
    (lexes : Lexes first ps) (blank : Text.isBlank c = true) (later : Lexes second qs) :
    Lexes (first ++ c :: second) (ps ++ qs) := by
  intro back ends
  have here : EndsWord (c :: (second ++ back)) := by simpa [EndsWord] using blank
  rw [List.append_assoc, List.cons_append, lexes _ here, parts?_blank blank, later back ends,
    Option.map_map]
  exact congrArg (Option.map · _) (funext fun rest => (List.append_assoc ps qs rest).symm)

/-- A word is read to its end. -/
theorem lexes_word {word : List Char} (some : word ≠ []) (inside : ∀ c ∈ word, inWord c = true) :
    Lexes word [.word word] := by
  intro back ends
  obtain ⟨c, cs, rfl⟩ := List.exists_cons_of_ne_nil some
  obtain ⟨here, later⟩ := List.forall_mem_cons.mp inside
  have visible : Text.isBlank c = false := by
    simp only [inWord, Bool.and_eq_true, Bool.not_eq_true'] at here
    exact here.1
  have taken : (cs ++ back).takeWhile inWord = cs := by
    rw [List.takeWhile_append_of_pos later]
    cases back with
    | nil => simp
    | cons d ds => simp [inWord, ends d rfl]
  have left : (cs ++ back).dropWhile inWord = back := by
    rw [List.dropWhile_append_of_pos later]
    cases back with
    | nil => simp
    | cons d ds => simp [inWord, ends d rfl]
  rw [List.cons_append, parts?, visible, if_neg Bool.false_ne_true, if_pos here, taken, left]
  rfl

/-- A string is read to its end. -/
theorem lexes_literal {cs : List Char} {read : List Nat}
    (whole : ∀ back, literal? ('(' :: cs ++ back) = some (read, back)) :
    Lexes ('(' :: cs) [.text read] := by
  intro back _
  have first := whole back
  rw [List.cons_append] at first ⊢
  rw [parts?, if_neg (by decide), if_neg (by decide)]
  split
  · rename_i failed
    rw [first] at failed
    cases failed
  · rename_i found
    rw [first] at found
    cases found
    rfl

/-! ## Operators and operands -/

/-- Strings and words make operators, whatever comes behind them. -/
def Parses (ps : List Part) (is : List Instruction) : Prop :=
  ∀ qs, instructions? [] (ps ++ qs) = (instructions? [] qs).map (is ++ ·)

/-- A writing stands for operators with their operands. -/
def Reads (cs : List Char) (is : List Instruction) : Prop := ∃ ps, Lexes cs ps ∧ Parses ps is

theorem Parses.append {ps qs : List Part} {is js : List Instruction} (parses : Parses ps is)
    (later : Parses qs js) : Parses (ps ++ qs) (is ++ js) := by
  intro rest
  rw [List.append_assoc, parses, later, Option.map_map]
  exact congrArg (Option.map · _) (funext fun rest => (List.append_assoc is js rest).symm)

theorem Reads.append {first second : List Char} {is js : List Instruction} {c : Char}
    (reads : Reads first is) (blank : Text.isBlank c = true) (later : Reads second js) :
    Reads (first ++ c :: second) (is ++ js) := by
  obtain ⟨ps, lexes, parses⟩ := reads
  obtain ⟨qs, lexes', parses'⟩ := later
  exact ⟨ps ++ qs, lexes.append blank lexes', parses.append parses'⟩

theorem reads_nil : Reads [] [] := ⟨[], lexes_nil, fun _ => by simp⟩

/-- Writings with blanks between them are read one after another. -/
theorem reads_joinWith {c : Char} (blank : Text.isBlank c = true) {texts : List (List Char)}
    {blocks : List (List Instruction)} (each : List.Forall₂ Reads texts blocks) :
    Reads (Text.joinWith [c] texts) blocks.flatten := by
  induction each with
  | nil => exact reads_nil
  | @cons text block texts blocks first later ih =>
      cases later with
      | nil => simpa [Text.joinWith] using first
      | cons _ _ =>
          rw [Text.joinWith_cons (by simp), List.append_assoc, List.flatten_cons]
          exact first.append blank ih

/-- A writing stands for an operand. -/
def Offers (cs : List Char) (operand : Operand) : Prop :=
  ∃ part, Lexes cs [part] ∧ ∀ pending rest,
    instructions? pending (part :: rest) = instructions? (pending ++ [operand]) rest

theorem offers_word {word : List Char} {operand : Operand} (known : operand? word = some operand)
    (lexes : Lexes word [.word word]) : Offers word operand :=
  ⟨_, lexes, fun _ _ => by simp [instructions?, known]⟩

end Reader

end Workflow.Pdf
