import Mathlib.Data.List.Forall2
import Workflow.Proofs.Text.Pieces
import Workflow.Text.Wrap

/-!
# Filled lines

A word that is wider than a line is cut first; its pieces then go on lines as words do. A piece of
the full width leaves no room for another, so it stands on a line of its own. Hence all that is to
be known of filled lines is known from packing pieces, one after another, none of them too wide.

## Main definitions

* `Text.Cut width word pieces` — how a word is cut into pieces.
* `Text.Fills width line rows` — rows that hold one line of a text.
* `Text.pack width row pieces` — rows for pieces, the first of them begun with `row`.
* `Text.fill_eq_pack` — filling lines is packing pieces.
* `Text.wrap_fills` — a wrapped text consists of rows that hold its lines, and loses nothing.
-/

namespace Workflow.Text

/-- How a word is cut. One that fits stays whole; of a wider one a piece of the full width comes
off, and what is left, which is something, is cut in turn. -/
inductive Cut (width : Nat) : List Char → List (List Char) → Prop
  | whole {word : List Char} (some : word ≠ []) (fits : word.length ≤ width) :
      Cut width word [word]
  | piece {piece rest : List Char} {pieces : List (List Char)} (full : piece.length = width)
      (some : rest ≠ []) (later : Cut width rest pieces) :
      Cut width (piece ++ rest) (piece :: pieces)

/-- Rows that hold one line of a text. -/
structure Fills (width : Nat) (line : List Char) (rows : List (List Char)) : Prop where
  /-- A blank line is kept as an empty one. -/
  blank : allBlank line = true → rows = [[]]
  /-- No other line leaves an empty row. -/
  filled : allBlank line = false → [] ∉ rows
  bounded : ∀ row ∈ rows, row.length ≤ width
  /-- There is one space between words, and none at either end. -/
  spaced : ∀ row ∈ rows, joinWith [' '] (words row) = row
  /-- The words of the line stand there in order, whole if they fit and cut if they do not. -/
  content : ∃ cuts, List.Forall₂ (Cut width) (words line) cuts ∧ rows.flatMap words = cuts.flatten
  /-- What is as wide as a row stands alone. -/
  alone : ∀ row ∈ rows, ∀ piece ∈ words row, piece.length = width → row = piece

variable {width : Nat} {word : List Char}

/-! ## Cutting words -/

namespace Cut

theorem flatten_eq {pieces : List (List Char)} (cut : Cut width word pieces) :
    pieces.flatten = word := by
  induction cut with
  | whole => simp
  | piece full some later ih => rw [List.flatten_cons, ih]

/-- There is something to every piece, and none is too wide. -/
theorem of_mem {pieces : List (List Char)} (cut : Cut width word pieces) (pos : 0 < width) :
    ∀ piece ∈ pieces, piece ≠ [] ∧ piece.length ≤ width := by
  induction cut with
  | whole some fits => simpa using ⟨some, fits⟩
  | piece full some later ih =>
      refine List.forall_mem_cons.mpr ⟨⟨?_, Nat.le_of_eq full⟩, ih⟩
      rintro rfl
      rw [List.length_nil] at full
      omega

end Cut

/-- The pieces that a word is cut into, with what is left as the last one. -/
def chunks (width : Nat) (word : List Char) : List (List Char) :=
  (cutWord width word).1 ++ [(cutWord width word).2]

theorem cutWord_of_fits (fits : word.length ≤ width) : cutWord width word = ([], word) := by
  rw [cutWord, if_neg (by omega)]

theorem cutWord_of_wide (pos : 0 < width) (wide : width < word.length) :
    cutWord width word =
      (word.take width :: (cutWord width (word.drop width)).1,
        (cutWord width (word.drop width)).2) := by
  rw [cutWord, if_pos ⟨pos, wide⟩]

/-- The cuts are at the multiples of the width, the last of them in front of the last character. -/
theorem cutWord_eq (pos : 0 < width) (word : List Char) :
    let cuts := (word.length - 1) / width
    cutWord width word =
      ((List.range cuts).map fun i => (word.drop (i * width)).take width,
        word.drop (cuts * width)) := by
  fun_induction cutWord width word with
  | case1 word wide pieces left later ih =>
      have split : word.length - 1 = (word.length - width - 1) + width := by omega
      simp only [later, List.length_drop, Prod.mk.injEq] at ih
      rw [split, Nat.add_div_right _ pos]
      simp only [ih.1, ih.2, List.range_succ_eq_map, List.map_cons, List.map_map, List.drop_drop,
        Nat.zero_mul, List.drop_zero, Function.comp_def, Nat.succ_mul, Nat.add_comm width]
  | case2 word fits =>
      have none : (word.length - 1) / width = 0 := Nat.div_eq_of_lt (by omega)
      simp [none]

theorem chunks_of_fits (fits : word.length ≤ width) : chunks width word = [word] := by
  simp [chunks, cutWord_of_fits fits]

theorem chunks_of_wide (pos : 0 < width) (wide : width < word.length) :
    chunks width word = word.take width :: chunks width (word.drop width) := by
  simp [chunks, cutWord_of_wide pos wide]

theorem cut_chunks (pos : 0 < width) (some : word ≠ []) : Cut width word (chunks width word) := by
  fun_induction cutWord width word with
  | case1 word wide pieces left later ih =>
      have rest : word.drop width ≠ [] := by simpa using wide.2
      have full : (word.take width).length = width := by
        rw [List.length_take]
        omega
      rw [chunks_of_wide pos wide.2]
      simpa using Cut.piece full rest (ih rest)
  | case2 word fits =>
      rw [chunks_of_fits (by omega)]
      exact Cut.whole some (by omega)

/-- What comes off is as wide as a line. -/
theorem length_of_mem_cutWord {piece : List Char} (member : piece ∈ (cutWord width word).1) :
    piece.length = width := by
  fun_induction cutWord width word with
  | case1 word wide pieces left later ih =>
      rcases List.mem_cons.mp member with rfl | member
      · rw [List.length_take]
        omega
      · exact ih (later ▸ member)
  | case2 word fits => cases member

/-! ## Packing pieces -/

/-- Rows for pieces, the first of them begun with `row`. -/
def pack (width : Nat) (row : List Char) : List (List Char) → List (List Char)
  | [] => [row]
  | piece :: rest =>
    if row.isEmpty then pack width piece rest
    else if row.length + 1 + piece.length ≤ width then pack width (row ++ ' ' :: piece) rest
    else row :: pack width piece rest

theorem pack_nil_cons (piece : List Char) (rest : List (List Char)) :
    pack width [] (piece :: rest) = pack width piece rest := by simp [pack]

theorem pack_cons_of_wide {row piece : List Char} (some : row ≠ [])
    (wide : width < row.length + 1 + piece.length) (rest : List (List Char)) :
    pack width row (piece :: rest) = row :: pack width piece rest := by
  simp [pack, some, Nat.not_le.mpr wide]

/-- Pieces of the full width go on rows of their own. -/
theorem pack_full (pos : 0 < width) {row : List Char} {full : List (List Char)}
    (isFull : ∀ piece ∈ row :: full, piece.length = width) (last : List Char)
    (rest : List (List Char)) :
    pack width row (full ++ last :: rest) = row :: full ++ pack width last rest := by
  have wide : row.length = width := isFull row List.mem_cons_self
  have some : row ≠ [] := by
    rintro rfl
    rw [List.length_nil] at wide
    omega
  induction full generalizing row with
  | nil => exact pack_cons_of_wide some (by omega) rest
  | cons piece full ih =>
      obtain ⟨-, isFull⟩ := List.forall_mem_cons.mp isFull
      have width := isFull piece List.mem_cons_self
      rw [List.cons_append, pack_cons_of_wide some (by omega), ih isFull width]
      · rfl
      · rintro rfl
        rw [List.length_nil] at width
        omega

/-- Filling lines is packing pieces. -/
theorem fill_eq_pack (pos : 0 < width) (row : List Char) (words : List (List Char)) :
    fill width row words = pack width row (words.flatMap (chunks width)) := by
  induction words generalizing row with
  | nil => rfl
  | cons word words ih =>
      rw [List.flatMap_cons]
      by_cases wide : width < word.length
      · obtain ⟨full, left, cut⟩ : ∃ full left,
            cutWord width word = (word.take width :: full, left) :=
          ⟨_, _, cutWord_of_wide pos wide⟩
        have isFull : ∀ piece ∈ word.take width :: full, piece.length = width :=
          fun piece member => length_of_mem_cutWord (by rwa [cut])
        have packed := pack_full pos isFull left (words.flatMap (chunks width))
        have size := isFull _ List.mem_cons_self
        simp only [fill, if_pos wide, chunks, cut, ih, List.append_assoc, List.cons_append,
          List.nil_append]
        by_cases empty : row = []
        · subst empty
          rw [pack_nil_cons, packed]
          simp
        · rw [pack_cons_of_wide empty (by omega), packed]
          simp [empty]
      · rw [chunks_of_fits (by omega), List.singleton_append, fill, pack, if_neg wide]
        simp only [ih]

/-! ## What is on the rows -/

/-- A piece that a row has room for. -/
structure IsPiece (width : Nat) (piece : List Char) : Prop where
  some : piece ≠ []
  fits : piece.length ≤ width
  unblank : ∀ c ∈ piece, isBlank c = false

/-- A row of words with one space between them. -/
structure IsRow (width : Nat) (row : List Char) : Prop where
  bounded : row.length ≤ width
  spaced : joinWith [' '] (words row) = row

theorem IsPiece.words_eq {piece : List Char} (isPiece : IsPiece width piece) :
    words piece = [piece] := words_eq_singleton isPiece.some isPiece.unblank

theorem IsPiece.isRow {piece : List Char} (isPiece : IsPiece width piece) : IsRow width piece :=
  ⟨isPiece.fits, by rw [isPiece.words_eq]; rfl⟩

theorem isRow_nil : IsRow width [] := ⟨Nat.zero_le width, rfl⟩

theorem words_append_piece {piece : List Char} (isPiece : IsPiece width piece) (row : List Char) :
    words (row ++ ' ' :: piece) = words row ++ [piece] := by
  rw [words_append_blank (by decide), isPiece.words_eq]

theorem joinWith_append_singleton {sep t : List Char} {ts : List (List Char)} (some : ts ≠ []) :
    joinWith sep (ts ++ [t]) = joinWith sep ts ++ sep ++ t := by
  induction ts with
  | nil => exact absurd rfl some
  | cons u us ih =>
      cases us with
      | nil => rfl
      | cons v vs =>
          have more : v :: vs ++ [t] ≠ [] := by simp
          rw [List.cons_append, joinWith_cons more, ih (by simp),
            joinWith_cons (by simp : v :: vs ≠ [])]
          simp only [List.append_assoc]

theorem IsRow.append {row piece : List Char} (isRow : IsRow width row) (some : row ≠ [])
    (isPiece : IsPiece width piece) (fits : row.length + 1 + piece.length ≤ width) :
    IsRow width (row ++ ' ' :: piece) := by
  have shown : words row ≠ [] := by
    intro none
    have spaced := isRow.spaced
    rw [none] at spaced
    exact some spaced.symm
  constructor
  · rw [List.length_append, List.length_cons]
    omega
  · rw [words_append_piece isPiece, joinWith_append_singleton shown, isRow.spaced]
    simp

variable {row : List Char} {pieces : List (List Char)}

theorem isRow_of_mem_pack (begun : IsRow width row)
    (isPiece : ∀ piece ∈ pieces, IsPiece width piece) :
    ∀ r ∈ pack width row pieces, IsRow width r := by
  induction pieces generalizing row with
  | nil => simpa [pack] using begun
  | cons piece rest ih =>
      obtain ⟨first, later⟩ := List.forall_mem_cons.mp isPiece
      unfold pack
      split
      · exact ih first.isRow later
      · rename_i some
        split
        · rename_i fits
          exact ih (begun.append (by simpa using some) first fits) later
        · exact List.forall_mem_cons.mpr ⟨begun, ih first.isRow later⟩

/-- The pieces stand on the rows in order. -/
theorem flatMap_words_pack (isPiece : ∀ piece ∈ pieces, IsPiece width piece) :
    (pack width row pieces).flatMap words = words row ++ pieces := by
  induction pieces generalizing row with
  | nil => simp [pack]
  | cons piece rest ih =>
      obtain ⟨first, later⟩ := List.forall_mem_cons.mp isPiece
      unfold pack
      split
      · rename_i empty
        rw [ih later, first.words_eq, List.isEmpty_iff.mp empty]
        rfl
      · split
        · rw [ih later, words_append_piece first, List.append_assoc]
          rfl
        · rw [List.flatMap_cons, ih later, first.words_eq]
          rfl

theorem nil_not_mem_pack (isPiece : ∀ piece ∈ pieces, IsPiece width piece)
    (some : row ≠ [] ∨ pieces ≠ []) : [] ∉ pack width row pieces := by
  induction pieces generalizing row with
  | nil => simpa [pack, eq_comm] using some
  | cons piece rest ih =>
      obtain ⟨first, later⟩ := List.forall_mem_cons.mp isPiece
      unfold pack
      split
      · exact ih later (.inl first.some)
      · rename_i begun
        split
        · exact ih later (.inl (by simp))
        · rw [List.mem_cons, not_or]
          exact ⟨fun empty => begun (by simp [← empty]), ih later (.inl first.some)⟩

/-- A word of a row leaves room for the other words, which take a character each at least. -/
theorem IsRow.length_add_length_words_le {piece : List Char} (isRow : IsRow width row)
    (member : piece ∈ words row) : piece.length + (words row).length ≤ width + 1 := by
  have total := length_joinWith (c := ' ') (List.ne_nil_of_mem member)
  have share := length_add_length_le_width member
  have bounded := isRow.bounded
  rw [isRow.spaced] at total
  omega

/-- What is as wide as a row stands alone on it. -/
theorem IsRow.eq_of_full {piece : List Char} (isRow : IsRow width row) (member : piece ∈ words row)
    (full : piece.length = width) : row = piece := by
  have room := isRow.length_add_length_words_le member
  have one : (words row).length = 1 := by
    have := List.length_pos_of_mem member
    omega
  obtain ⟨only, single⟩ := List.length_eq_one_iff.mp one
  rw [single, List.mem_singleton] at member
  rw [← isRow.spaced, single, member]
  rfl

/-! ## Whole texts -/

/-- The pieces of words fit on rows. -/
theorem isPiece_of_mem_chunks (pos : 0 < width) {line : List Char} (member : word ∈ words line) :
    ∀ piece ∈ chunks width word, IsPiece width piece := by
  intro piece inside
  have cut := cut_chunks pos (ne_nil_of_mem_words member)
  obtain ⟨some, fits⟩ := cut.of_mem pos piece inside
  refine ⟨some, fits, fun c shown => (of_mem_words member ?_).2⟩
  rw [← cut.flatten_eq]
  exact List.mem_flatten_of_mem inside shown

theorem wrapLine_fills (pos : 0 < width) (line : List Char) :
    Fills width line (wrapLine width line) := by
  have packed : wrapLine width line = pack width [] ((words line).flatMap (chunks width)) :=
    fill_eq_pack pos [] (words line)
  have isPiece : ∀ piece ∈ (words line).flatMap (chunks width), IsPiece width piece := by
    intro piece inside
    obtain ⟨word, member, inside⟩ := List.mem_flatMap.mp inside
    exact isPiece_of_mem_chunks pos member piece inside
  have isRow : ∀ row ∈ wrapLine width line, IsRow width row := by
    rw [packed]
    exact isRow_of_mem_pack isRow_nil isPiece
  constructor
  case blank => exact fun blank => wrapLine_of_blank (words_eq_nil_iff.mpr blank)
  case filled =>
    intro filled
    rw [packed]
    refine nil_not_mem_pack isPiece (.inr fun none => ?_)
    have noWords : words line = [] := by
      cases found : words line with
      | nil => rfl
      | cons word rest => simp [found, chunks] at none
    rw [words_eq_nil_iff, filled] at noWords
    cases noWords
  case bounded => exact fun row member => (isRow row member).bounded
  case spaced => exact fun row member => (isRow row member).spaced
  case content =>
    refine ⟨(words line).map (chunks width), ?_, ?_⟩
    · rw [List.forall₂_map_right_iff]
      exact List.forall₂_same.mpr fun word member => cut_chunks pos (ne_nil_of_mem_words member)
    · rw [packed, flatMap_words_pack isPiece, words_nil, List.nil_append, List.flatMap_def]
  case alone => exact fun row member piece inside => (isRow row member).eq_of_full inside

theorem Cut.flatten_flatten {ws : List (List Char)} {cuts : List (List (List Char))}
    (cut : List.Forall₂ (Cut width) ws cuts) : cuts.flatten.flatten = ws.flatten := by
  induction cut with
  | nil => rfl
  | cons first later ih =>
      rw [List.flatten_cons, List.flatten_append, first.flatten_eq, ih, List.flatten_cons]

theorem filter_flatten (rows : List (List Char)) :
    rows.flatten.filter (! isBlank ·) = (rows.flatMap words).flatten := by
  induction rows with
  | nil => rfl
  | cons row rows ih =>
      rw [List.flatten_cons, List.filter_append, ih, List.flatMap_cons, List.flatten_append,
        flatten_words]

/-- Rows hold all of a line but its blanks. -/
theorem Fills.filter_flatten_eq {line : List Char} {rows : List (List Char)}
    (fills : Fills width line rows) :
    rows.flatten.filter (! isBlank ·) = line.filter (! isBlank ·) := by
  obtain ⟨cuts, cut, content⟩ := fills.content
  rw [filter_flatten, content, Cut.flatten_flatten cut, flatten_words]

/-- Tabs and carriage returns are white space. -/
theorem ne_of_not_blank {c : Char} (shown : isBlank c = false) : c ≠ '\t' ∧ c ≠ '\r' := by
  constructor <;> (rintro rfl; cases shown)

/-- There is no white space but spaces in wrapped rows. -/
theorem of_mem_wrap (pos : 0 < width) {row text : List Char} (member : row ∈ wrap width text)
    {c : Char} (inside : c ∈ row) : c = ' ' ∨ isBlank c = false := by
  obtain ⟨line, -, member⟩ := List.mem_flatMap.mp member
  have each : ∀ c ∈ joinWith [' '] (words row), c = ' ' ∨ isBlank c = false :=
    forall_mem_joinWith (by simp) fun _ among _ shown => .inr (of_mem_words among shown).2
  rw [(wrapLine_fills pos line).spaced row member] at each
  exact each c inside

/-- Nothing but blanks is lost in wrapping, or comes in. -/
theorem filter_flatten_wrap (pos : 0 < width) (text : List Char) :
    (wrap width text).flatten.filter (! isBlank ·) = text.filter (! isBlank ·) := by
  rw [← filter_flatten_lines text, wrap]
  generalize lines text = all
  induction all with
  | nil => rfl
  | cons line rest ih =>
      rw [List.flatMap_cons, List.flatten_append, List.filter_append, ih, List.flatten_cons,
        List.filter_append, (wrapLine_fills pos line).filter_flatten_eq]

/-- A wrapped text consists of rows for its lines, one line after the other. They hold each line as
`Fills` says; so nothing but blanks is lost, or comes in. -/
theorem wrap_fills (width : Nat) (text : List Char) (pos : 0 < width) :
    (∃ blocks, List.Forall₂ (Fills width) (lines text) blocks ∧
      wrap width text = blocks.flatten) ∧
    (wrap width text).flatten.filter (! isBlank ·) = text.filter (! isBlank ·) := by
  constructor
  · refine ⟨(lines text).map (wrapLine width), ?_, List.flatMap_def⟩
    rw [List.forall₂_map_right_iff]
    exact List.forall₂_same.mpr fun line _ => wrapLine_fills pos line
  · exact filter_flatten_wrap pos text

/-- The rest of a word that is cut twice shares its row with the next word; a blank line stays, and
blanks in front of a line go. -/
theorem wrap_fills_cut_twice :
    let text := "abcdefghi j\n \n  k".toList
    0 < 4 ∧
      wrap 4 text = ["abcd".toList, "efgh".toList, "i j".toList, [], "k".toList] ∧
      (∃ blocks, List.Forall₂ (Fills 4) (lines text) blocks ∧ wrap 4 text = blocks.flatten) ∧
      (wrap 4 text).flatten.filter (! isBlank ·) = text.filter (! isBlank ·) := by
  intro text
  obtain ⟨rows, content⟩ := wrap_fills 4 text (by decide)
  exact ⟨by decide, by decide +kernel, rows, content⟩

end Workflow.Text
