import Mathlib.Data.List.Find
import Workflow.Bytes.Hex
import Workflow.Output.PdfFile
import Workflow.Proofs.Except
import Workflow.Proofs.Node.Actions
import Workflow.Proofs.Pdf.Pagination
import Workflow.Proofs.Pdf.WinAnsi
import Workflow.Proofs.Text.Filling

/-!
# Texts that the fonts do not have

Characters are written line by line and page by page, and the first that has no byte stops it. Since
filling lines and spreading them over pages keep all characters but white space in order, that is
the first such character of the title, or else of the text.

## Main definitions

* `Pdf.InTitle c`, `Pdf.InText c` — a title, or a text, may have the character `c`.
* `Pdf.error?_layout` — the character that stops the writing of a document.
* `Pdf.Names failure c` — a failure tells of `c` and its code point.
* `Pdf.render_verdict` — which documents are rendered, and what is told of the others.
-/

namespace Workflow.Pdf

/-- A character that a title may have: tabs are set as spaces, carriage returns show nothing. -/
def InTitle (c : Char) : Prop := InFont c ∨ c = '\t' ∨ c = '\r'

/-- A character that a text may have: white space parts words. -/
def InText (c : Char) : Prop := Text.isBlank c = false → InFont c

/-- A character that stops the writing of a title or a line. -/
def isStray (c : Char) : Bool := (escapeChar? c).isNone

/-- A character of a text that stops the writing of its lines. -/
def isAlien (c : Char) : Bool := ! Text.isBlank c && isStray c

theorem isStray_eq_true_iff {c : Char} : isStray c = true ↔ ¬ InTitle c := by
  rw [isStray, Option.isNone_iff_eq_none, escapeChar?_eq_none_iff, InTitle]

theorem isAlien_eq_true_iff {c : Char} : isAlien c = true ↔ ¬ InText c := by
  cases shown : Text.isBlank c with
  | true => simp [isAlien, InText, shown]
  | false =>
      have other := Text.ne_of_not_blank shown
      simp [isAlien, InText, InTitle, shown, isStray_eq_true_iff, other]

/-! ## From characters to pages -/

theorem error?_escape (cs : List Char) : error? (escape cs) = cs.find? isStray := by
  induction cs with
  | nil => rfl
  | cons c cs ih =>
      cases written : escapeChar? c with
      | none => simp [escape, isStray, written, error?]
      | some escaped => simp [escape, isStray, written, error?_map, ih]

theorem error?_titleRows (title : Option (List Char)) :
    error? (Page.titleRows title) = (title.getD []).find? isStray := by
  cases title with
  | none => rfl
  | some title => rw [Page.titleRows, error?_bind_pure, error?_escape, Option.getD_some]

/-- All that is written on a page, in order. -/
def Page.chars (page : Page) : List Char := page.title.getD [] ++ page.lines.flatten

/-- A page is written up to its first stray character. -/
theorem error?_content (page : Page) : error? page.content = page.chars.find? isStray := by
  have lines : error? (page.lines.mapM fun line => do
        return [Operator.showText (← escape line), .nextLine]) =
      page.lines.flatten.find? isStray := by
    simp only [error?_mapM, error?_bind_pure, error?_escape, List.find?_flatten]
  rw [Page.content, error?_map, Page.rows, Page.chars, List.find?_append, ← error?_titleRows,
    ← lines]
  exact error?_bind fun title => error?_bind_pure _ _

/-- Spreading lines over pages keeps what is written in order. -/
theorem flatMap_chars_paginate (title : Option (List Char)) (lines : List (List Char)) :
    (paginate title lines).flatMap Page.chars = title.getD [] ++ lines.flatten := by
  have later (blocks : List (List (List Char))) :
      (blocks.map (Page.mk none ·)).flatMap Page.chars = blocks.flatten.flatten := by
    rw [List.flatMap_map, List.flatten_flatten]
    rfl
  rw [paginate, List.flatMap_cons, later, flatten_chunks (by decide), Page.chars,
    List.append_assoc, ← List.flatten_append, List.take_append_drop]

/-- Filling lines keeps in order the stray characters that are not white space. -/
theorem find?_wrap (text : List Char) :
    (Text.wrap lineWidth text).flatten.find? isStray = text.find? isAlien := by
  -- The rows have spaces that the text does not have, so both are compared without white space.
  have spaces : ∀ c ∈ (Text.wrap lineWidth text).flatten, isStray c = isAlien c := by
    intro c member
    obtain ⟨row, inside, member⟩ := List.mem_flatten.mp member
    rcases Text.of_mem_wrap (by decide) inside member with rfl | shown
    · decide
    · simp [isAlien, shown]
  have alien (cs : List Char) :
      (cs.filter (! Text.isBlank ·)).find? isStray = cs.find? isAlien := by
    rw [List.find?_filter]
    exact List.find?_congr fun c _ => by simp [isAlien]
  calc (Text.wrap lineWidth text).flatten.find? isStray
      = (Text.wrap lineWidth text).flatten.find? isAlien := List.find?_congr spaces
    _ = ((Text.wrap lineWidth text).flatten.filter (! Text.isBlank ·)).find? isStray :=
        (alien _).symm
    _ = (text.filter (! Text.isBlank ·)).find? isStray := by
        rw [Text.filter_flatten_wrap (by decide)]
    _ = text.find? isAlien := alien text

/-- The writing of a document stops at a stray character of the title, or else at one of the text
that is not white space. -/
theorem error?_layout (title : Option (List Char)) (text : List Char) :
    error? ((layout title text).mapM Page.content) =
      ((title.getD []).find? isStray).or (text.find? isAlien) := by
  calc error? ((layout title text).mapM Page.content)
      = (layout title text).findSome? fun page => page.chars.find? isStray := by
        simp only [error?_mapM, error?_content]
    _ = ((layout title text).flatMap Page.chars).find? isStray := List.find?_flatMap.symm
    _ = _ := by rw [layout, flatMap_chars_paginate, List.find?_append, find?_wrap]

/-! ## What a failure tells -/

/-- The number that hexadecimal digits stand for. -/
def hexNumber? (digits : List Char) : Option Nat :=
  digits.foldlM (fun n digit => (Hex.value? digit).map (16 * n + ·)) 0

/-- A failure tells of a character, and of its code point in four or more hexadecimal digits. -/
def Names (failure : Failure) (c : Char) : Prop :=
  ∃ digits, failure = .execution ("PDF text contains '" ++ c.toString ++ "' (U+"
      ++ String.ofList digits ++ "), which the built-in font cannot encode") ∧
    4 ≤ digits.length ∧ hexNumber? digits = some c.toNat

theorem hexNumber?_toDigits (n : Nat) :
    hexNumber? ((Nat.toDigits 16 n).map Char.toUpper) = some n := by
  have digit : ∀ n < 16, Hex.value? (Nat.digitChar n).toUpper = some n := by decide
  induction n using Nat.strongRecOn with
  | ind n ih =>
      by_cases small : n < 16
      · simp [Nat.toDigits_of_lt_base small, hexNumber?, digit n small]
      · have front := ih (n / 16) (by omega)
        rw [hexNumber?] at front
        rw [Nat.toDigits_of_base_le (by decide) (by omega), List.map_append, hexNumber?,
          List.foldlM_append, front]
        simp [digit (n % 16) (by omega)]
        omega

/-- Zeros in front of a number do not change it. -/
theorem hexNumber?_pad (count : Nat) (digits : List Char) :
    hexNumber? (List.replicate count '0' ++ digits) = hexNumber? digits := by
  induction count with
  | zero => rfl
  | succ count ih => exact ih

theorem names_unencodable (c : Char) : Names (unencodable c) c := by
  let digits := (Nat.toDigits 16 c.toNat).map Char.toUpper
  refine ⟨List.replicate (4 - digits.length) '0' ++ digits, ?_, ?_,
    (hexNumber?_pad _ _).trans (hexNumber?_toDigits c.toNat)⟩
  · have sign : "' (U+" = "' (" ++ "U+" := by decide
    rw [unencodable, codePoint, sign]
    simp only [String.append_assoc]
    rfl
  · rw [List.length_append, List.length_replicate]
    omega

example : unencodable '日' = .execution
    "PDF text contains '日' (U+65E5), which the built-in font cannot encode" := by decide

/-! ## Documents -/

theorem error?_render (title : Option String) (text : String) :
    error? (render title text) =
      ((((title.map String.toList).getD []).find? isStray).or
        (text.toList.find? isAlien)).map unencodable := by
  rw [← error?_layout, render]
  cases (layout (title.map String.toList) text.toList).mapM Page.content <;> rfl

/-- The node for documents changes nothing if the document cannot be rendered. -/
theorem run_of_render_eq_error {place : OutputPlace} {context : Context} {scene : Scene}
    {target : OutputTarget} {title : Option String} {text : String} {failure : Failure}
    (options : PdfFile.options place context.params = .ok (target, title))
    (content : documentText scene.state = .ok text)
    (failed : render title text = .error failure) :
    (pdfFile place).run context scene = (.error failure, scene) := by
  change PdfFile.run place context scene = _
  simp only [PdfFile.run, Action.bind_apply, Action.state_apply, Action.lift_apply, options,
    content, failed]

/-- A document is rendered exactly if the fonts have all characters of its title, tabs and carriage
returns apart, and all of its text, white space apart. If it is not, the failure tells of the first
character that they do not have, and the node changes nothing. -/
theorem render_verdict (title : Option String) (text : String) :
    let heading := (title.map String.toList).getD []
    ((∃ pdf, render title text = .ok pdf) ↔
      (∀ c ∈ heading, InTitle c) ∧ ∀ c ∈ text.toList, InText c) ∧
    (∀ failure, render title text = .error failure → ∃ c, Names failure c ∧
      (IsFirst (¬ InTitle ·) heading c ∨
        (∀ other ∈ heading, InTitle other) ∧ IsFirst (¬ InText ·) text.toList c)) ∧
    ∀ place context scene target failure,
      PdfFile.options place context.params = .ok (target, title) →
        documentText scene.state = .ok text → render title text = .error failure →
          (pdfFile place).run context scene = (.error failure, scene) := by
  intro heading
  have noStray : heading.find? isStray = none ↔ ∀ c ∈ heading, InTitle c := by
    simp only [List.find?_eq_none, isStray_eq_true_iff, not_not]
  have noAlien : text.toList.find? isAlien = none ↔ ∀ c ∈ text.toList, InText c := by
    simp only [List.find?_eq_none, isAlien_eq_true_iff, not_not]
  refine ⟨?_, ?_, fun _ _ _ _ _ => run_of_render_eq_error⟩
  · rw [← error?_eq_none_iff, error?_render, Option.map_eq_none_iff, Option.or_eq_none_iff,
      noStray, noAlien]
  · intro failure failed
    rw [← error?_eq_some_iff, error?_render, Option.map_eq_some_iff] at failed
    obtain ⟨c, found, rfl⟩ := failed
    refine ⟨c, names_unencodable c, ?_⟩
    rw [Option.or_eq_some_iff, noStray] at found
    simpa only [find?_eq_some_iff_isFirst, isStray_eq_true_iff, isAlien_eq_true_iff] using found

/-- Of two characters that the fonts do not have the first is told of. -/
theorem render_verdict_kanji :
    let text := "Sun 日 and moon 月"
    let failure := Failure.execution
      "PDF text contains '日' (U+65E5), which the built-in font cannot encode"
    let params : Params := ⟨[("title", .string "Sky")]⟩
    let scene : Scene := ⟨{ userQuery := "", output := some (.string text) }, default, []⟩
    render (some "Sky") text = .error failure ∧
      (∃ c, Names failure c ∧ (IsFirst (¬ InTitle ·) "Sky".toList c ∨
        (∀ other ∈ "Sky".toList, InTitle other) ∧ IsFirst (¬ InText ·) text.toList c)) ∧
      (pdfFile {}).run ⟨"pdf", 0, params⟩ scene = (.error failure, scene) := by
  intro text failure params scene
  obtain ⟨-, tells, unchanged⟩ := render_verdict (some "Sky") text
  have failed : render (some "Sky") text = .error failure := by
    rw [← error?_eq_some_iff, error?_render]
    decide
  have content : documentText scene.state = .ok text := by decide
  exact ⟨failed, tells failure failed,
    unchanged {} ⟨"pdf", 0, params⟩ scene _ failure rfl content failed⟩

end Workflow.Pdf
