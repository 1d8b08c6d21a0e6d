import Workflow.Pdf.Content
import Workflow.Proofs.Except
import Workflow.Proofs.Pdf.Interpreter
import Workflow.Proofs.Pdf.Printed

/-!
# What a page shows

The operators that are written for a page are read again as those operators, and each text as it is
displayed. So the content of a page shows its title and its lines, one below the other.

## Main definitions

* `Pdf.Operator.Means op instruction` — an operator and what it is read as.
* `Pdf.Page.instructions page` — the operators that are read for a page.
* `Pdf.Page.set page` — what a page shows.
* `Pdf.shown?_content` — so does its content.
-/

namespace Workflow.Pdf

namespace Reader

/-! ## Operands -/

theorem integer?_number (n : Int) : integer? (number n) = some n := by
  cases n with
  | negSucc n =>
      rw [number_negSucc, integer?, number?_toDigits]
      rfl
  | ofNat n =>
      rw [Int.ofNat_eq_natCast, number_ofNat]
      have unsigned : ∀ ds, Nat.toDigits 10 n = '-' :: ds → False := by
        intro ds signed
        have digit : '-'.isDigit = true :=
          Nat.isDigit_of_mem_toDigits (by decide) (by decide) (signed ▸ List.mem_cons_self)
        cases digit
      rw [integer?, number?_toDigits]
      · rfl
      · exact unsigned

theorem number_ne_nil (n : Int) : number n ≠ [] := by
  intro none
  have read := integer?_number n
  rw [none] at read
  cases read

theorem operand?_number (n : Int) : operand? (number n) = some (.number n) := by
  have noName : ∀ name, number n = '/' :: name → False := by
    intro name slash
    rcases mem_number n '/' (slash ▸ List.mem_cons_self) with other | other <;> cases other
  rw [operand?, integer?_number]
  · rfl
  · exact noName

theorem offers_number (n : Int) : Offers (number n) (.number n) := by
  refine offers_word (operand?_number n) (lexes_word (number_ne_nil n) fun c member => ?_)
  rcases mem_number n c member with rfl | digit
  · decide
  · have other : c ≠ '(' := by
      rintro rfl
      cases digit
    simp [inWord, (not_blank_of_isDigit digit).1, other]

theorem offers_font (f : Font) : Offers ('/' :: f.name.toList) (.name f.name.toList) := by
  cases f <;>
    exact offers_word rfl (lexes_word (by decide) (Text.forall_mem_of_all (by decide)))

/-- What spells a text offers it between parentheses. -/
theorem offers_literal {escaped text : List Char} (spells : Spells escaped text) :
    Offers ('(' :: (escaped ++ [')'])) (.text text) := by
  refine ⟨.text (codes escaped), lexes_literal fun back => ?_, fun pending rest => ?_⟩
  · simpa using spells.literal? back
  · simp [instructions?, spells.text?]

/-! ## Keywords -/

theorem lexes_keyword : ∀ keyword ∈ keywords, Lexes keyword [.word keyword] := by
  intro keyword known
  have inside : ∀ word ∈ keywords, word ≠ [] ∧ word.all inWord = true := by decide
  obtain ⟨some, all⟩ := inside keyword known
  exact lexes_word some (List.all_eq_true.mp all)

theorem operand?_keyword : ∀ keyword ∈ keywords, operand? keyword = none := by decide

/-- Operands gather in front of a keyword. -/
theorem lexes_operands {keyword : List Char} (known : keyword ∈ keywords)
    {texts : List (List Char)} {operands : List Operand}
    (each : List.Forall₂ Offers texts operands) :
    ∃ ps, Lexes (Text.joinWith [' '] (texts ++ [keyword])) ps ∧ ∀ pending qs,
      instructions? pending (ps ++ qs) =
        instructions? (pending ++ operands) (.word keyword :: qs) := by
  -- The operands behind the first one find it pending already.
  induction each with
  | nil => exact ⟨_, lexes_keyword keyword known, by simp⟩
  | @cons text operand texts operands first _ ih =>
      obtain ⟨part, lexes, takes⟩ := first
      obtain ⟨ps, later, gather⟩ := ih
      refine ⟨part :: ps, ?_, fun pending qs => ?_⟩
      · rw [List.cons_append, Text.joinWith_cons (by simp), List.append_assoc]
        exact lexes.append (by decide) later
      · rw [List.cons_append, takes, gather, List.append_assoc, List.singleton_append]

/-- A keyword behind its operands is read as an operator. -/
theorem reads_keyword {keyword : List Char} {i : Instruction} {texts : List (List Char)}
    {operands : List Operand} (known : keyword ∈ keywords)
    (each : List.Forall₂ Offers texts operands) (takes : instruction? keyword operands = some i) :
    Reads (Text.joinWith [' '] (texts ++ [keyword])) [i] := by
  obtain ⟨ps, lexes, gather⟩ := lexes_operands known each
  refine ⟨ps, lexes, fun qs => ?_⟩
  rw [gather, List.nil_append]
  simp [instructions?, operand?_keyword keyword known, takes]

end Reader

open Reader

/-- The operator that is read where one has been written. -/
inductive Operator.Means : Operator → Instruction → Prop
  | beginText : Means .beginText .beginText
  | endText : Means .endText .endText
  | move (right up : Int) : Means (.move right up) (.move right up)
  | font (f : Font) (size : Nat) : Means (.font f size) (.font f.name.toList size)
  | setLeading (points : Nat) : Means (.setLeading points) (.setLeading points)
  | showText {escaped text : List Char} (spells : Spells escaped text) :
      Means (.showText escaped) (.showText text)
  | nextLine : Means .nextLine .nextLine

/-- An operator in writing is read as that operator. -/
theorem Operator.Means.reads {op : Operator} {i : Instruction} (means : op.Means i) :
    Reads op.write [i] := by
  cases means with
  | beginText => exact reads_keyword (by decide : "BT".toList ∈ keywords) .nil rfl
  | endText => exact reads_keyword (by decide : "ET".toList ∈ keywords) .nil rfl
  | nextLine => exact reads_keyword (by decide : "T*".toList ∈ keywords) .nil rfl
  | move right up =>
      have reads := reads_keyword (by decide : "Td".toList ∈ keywords)
        (.cons (offers_number right) (.cons (offers_number up) .nil)) rfl
      simpa [Operator.write, Text.joinWith] using reads
  | font f size =>
      have reads := reads_keyword (by decide : "Tf".toList ∈ keywords)
        (.cons (offers_font f) (.cons (offers_number size) .nil)) rfl
      simpa [Operator.write, Text.joinWith] using reads
  | setLeading points =>
      have reads := reads_keyword (by decide : "TL".toList ∈ keywords)
        (.cons (offers_number points) .nil) rfl
      simpa [Operator.write, Text.joinWith] using reads
  | showText spells =>
      have reads := reads_keyword (by decide : "Tj".toList ∈ keywords)
        (.cons (offers_literal spells) .nil) rfl
      simpa [Operator.write, Text.joinWith] using reads

/-! ## Pages -/

namespace Page

/-- The operators that are read for a title. -/
def titleInstructions (title : List Char) : List Instruction :=
  [.font "F2".toList 16, .showText (displayed title), .move 0 (-28)]

/-- The operators that are read for a line. -/
def lineInstructions (line : List Char) : List Instruction :=
  [.showText (displayed line), .nextLine]

/-- The operators that are read in front of the lines of a page. -/
def startInstructions (title : Option (List Char)) : List Instruction :=
  [.beginText, .move 72 720] ++ title.toList.flatMap titleInstructions
    ++ [.font "F1".toList 11, .setLeading 14]

/-- The operators that are read for a page. -/
def instructions (page : Page) : List Instruction :=
  startInstructions page.title ++ page.lines.flatMap lineInstructions ++ [.endText]

theorem reads_writeRow {row : List Operator} {is : List Instruction}
    (means : List.Forall₂ Operator.Means row is) : Reads (writeRow row) is := by
  have each : List.Forall₂ Reads (row.map Operator.write) (is.map ([·])) := by
    rw [List.forall₂_map_left_iff, List.forall₂_map_right_iff]
    exact means.imp fun _ _ => Operator.Means.reads
  have read := reads_joinWith (by decide : Text.isBlank ' ' = true) each
  rwa [← List.flatMap_def, List.flatMap_singleton'] at read

theorem means_titleRows {title : Option (List Char)} {rows : List (List Operator)}
    (done : titleRows title = .ok rows) :
    ∃ blocks, List.Forall₂ (List.Forall₂ Operator.Means) rows blocks ∧
      blocks.flatten = title.toList.flatMap titleInstructions := by
  cases title with
  | none =>
      cases done
      exact ⟨[], .nil, rfl⟩
  | some text =>
      obtain ⟨escaped, encoded, done⟩ := bind_eq_ok_iff.mp done
      cases done
      exact ⟨[[_], [_], [_]], .cons (.cons (.font .title 16) .nil)
        (.cons (.cons (.showText (spells_escape encoded)) .nil)
          (.cons (.cons (.move 0 (-28)) .nil) .nil)), rfl⟩

theorem means_rows {page : Page} {rows : List (List Operator)} (done : page.rows = .ok rows) :
    ∃ blocks, List.Forall₂ (List.Forall₂ Operator.Means) rows blocks ∧
      blocks.flatten = page.instructions := by
  obtain ⟨title, ofTitle, done⟩ := bind_eq_ok_iff.mp done
  obtain ⟨lines, ofLines, done⟩ := bind_eq_ok_iff.mp done
  cases done
  obtain ⟨heading, ofHeading, whole⟩ := means_titleRows ofTitle
  have body : List.Forall₂ (List.Forall₂ Operator.Means) lines
      (page.lines.map lineInstructions) := by
    rw [List.forall₂_map_right_iff]
    refine (forall₂_of_mapM ofLines).flip.imp fun row line ofLine => ?_
    obtain ⟨escaped, encoded, ofLine⟩ := bind_eq_ok_iff.mp ofLine
    cases ofLine
    exact .cons (.showText (spells_escape encoded)) (.cons .nextLine .nil)
  have start : List.Forall₂ (List.Forall₂ Operator.Means)
      [[.beginText], [.move margin (pageHeight - margin : Nat)]]
      [[.beginText], [.move 72 720]] :=
    .cons (.cons .beginText .nil) (.cons (.cons (.move 72 720) .nil) .nil)
  have setting : List.Forall₂ (List.Forall₂ Operator.Means)
      [[.font .body fontSize], [.setLeading leading]]
      [[.font "F1".toList 11], [.setLeading 14]] :=
    .cons (.cons (.font .body 11) .nil) (.cons (.cons (.setLeading 14) .nil) .nil)
  have stop : List.Forall₂ (List.Forall₂ Operator.Means) [[.endText]] [[.endText]] :=
    .cons (.cons .endText .nil) .nil
  refine ⟨_, List.rel_append (List.rel_append (List.rel_append (List.rel_append start ofHeading)
    setting) body) stop, ?_⟩
  simp [instructions, startInstructions, whole, List.flatMap_def]

/-- The content of a page in writing is read as its operators. -/
theorem reads_content {page : Page} {content : List Char} (done : page.content = .ok content) :
    Reads content page.instructions := by
  obtain ⟨rows, ofPage, rfl⟩ := map_eq_ok_iff.mp done
  obtain ⟨blocks, means, whole⟩ := means_rows ofPage
  rw [← whole]
  refine reads_joinWith (by decide) ?_
  rw [List.forall₂_map_left_iff]
  exact means.imp fun _ _ => reads_writeRow

/-- Lines one below the other. -/
def placed (baseline : Int) : List (List Char) → List Shown
  | [] => []
  | line :: rest => ⟨"F1".toList, baseline, displayed line⟩ :: placed (baseline - 14) rest

/-- The baseline of the first line, which is two lines lower behind a title. -/
def top (title : Option (List Char)) : Int := if title.isSome then 692 else 720

/-- The title of a page as it is shown. -/
def placedTitle (title : List Char) : Shown := ⟨"F2".toList, 720, displayed title⟩

/-- What a page shows. -/
def set (page : Page) : List Shown :=
  page.title.toList.map placedTitle ++ placed (top page.title) page.lines

/-- Every line is shown where the pen is, and the pen goes on to the next. -/
theorem steps?_lines (lines : List (List Char)) (baseline : Int) :
    ∃ last, last.inText = true ∧
      steps? ⟨true, some "F1".toList, 14, baseline⟩ (lines.flatMap lineInstructions) =
        some (last, placed baseline lines) := by
  induction lines generalizing baseline with
  | nil => exact ⟨_, rfl, rfl⟩
  | cons line rest ih =>
      -- Where the pen ends does not matter, only that texts can still be shown there.
      obtain ⟨last, opened, later⟩ := ih (baseline - 14)
      have first : steps? ⟨true, some "F1".toList, 14, baseline⟩ (lineInstructions line) =
          some (⟨true, some "F1".toList, 14, baseline - 14⟩,
            [⟨"F1".toList, baseline, displayed line⟩]) := rfl
      refine ⟨last, opened, ?_⟩
      rw [List.flatMap_cons, steps?_append first later]
      rfl

/-- The operators in front of the lines show the title and move the pen to the first line. -/
theorem steps?_start (title : Option (List Char)) :
    steps? {} (startInstructions title) =
      some (⟨true, some "F1".toList, 14, top title⟩, title.toList.map placedTitle) := by
  cases title <;> rfl

theorem run?_instructions (page : Page) : run? page.instructions = some page.set := by
  obtain ⟨last, opened, body⟩ := steps?_lines page.lines (top page.title)
  have stop : steps? last [.endText] = some ({ last with inText := false }, []) := by
    simp [steps?, step?, opened]
  rw [run?, instructions, steps?_append (steps?_append (steps?_start page.title) body) stop,
    Option.bind_some, List.append_nil]
  rfl

end Page

/-- The content of a page shows its title and its lines. -/
theorem shown?_content {page : Page} {content : List Char} (done : page.content = .ok content) :
    shown? content = some page.set := by
  obtain ⟨ps, lexes, parses⟩ := page.reads_content done
  have parts : parts? content = some ps := by
    have whole := lexes [] (by simp [EndsWord])
    simpa [parts?] using whole
  have operators : instructions? [] ps = some page.instructions := by
    have whole := parses []
    simpa [instructions?] using whole
  simp [shown?, parts, operators, page.run?_instructions]

end Workflow.Pdf
