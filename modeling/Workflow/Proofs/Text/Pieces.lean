import Workflow.Text.Lines

/-!
# Pieces of a text

Cutting a text goes piece by piece: a cut between two texts leaves the pieces of the one and then
the pieces of the other. What is known of words, lines and their places follows from that equation.

## Main definitions

* `Text.width ts` — the length of texts with one character behind each.
* `Text.pieces_append_cut`, `Text.words_append_blank` — a text is cut on either side of a cut.
* `Text.joinWith_pieces`, `Text.pieces_joinWith` — cutting and joining undo each other.
* `Text.flatten_pieces`, `Text.flatten_words`, `Text.filter_flatten_lines` — nothing but cuts, and
  blanks, is lost.
-/

namespace Workflow.Text

/-- The length of texts with one character behind each. -/
def width : List (List Char) → Nat
  | [] => 0
  | t :: ts => t.length + 1 + width ts

variable {isCut : Char → Bool} {c : Char}

/-- What is checked character by character holds of every character. -/
theorem forall_mem_of_all {P : Char → Prop} [DecidablePred P] {cs : List Char}
    (all : (cs.all fun c => decide (P c)) = true) : ∀ c ∈ cs, P c := by
  simpa using all

/-! ## Pieces -/

theorem pieces_cons_of_cut (cut : isCut c = true) (cs : List Char) :
    pieces isCut (c :: cs) = [] :: pieces isCut cs := by
  simp [pieces, cut]

/-- A character that does not cut goes to the first piece. -/
theorem pieces_cons_of_not_cut (cut : isCut c = false) (cs : List Char) :
    ∃ piece rest, pieces isCut cs = piece :: rest ∧
      pieces isCut (c :: cs) = (c :: piece) :: rest := by
  obtain ⟨piece, rest, split⟩ := List.exists_cons_of_ne_nil (pieces_ne_nil isCut cs)
  exact ⟨piece, rest, split, by simp [pieces, cut, split]⟩

/-- A cut between two texts leaves the pieces of the one and of the other. -/
theorem pieces_append_cut (isCut : Char → Bool) (cut : isCut c = true) (front back : List Char) :
    pieces isCut (front ++ c :: back) = pieces isCut front ++ pieces isCut back := by
  induction front with
  | nil => simp [pieces, cut]
  | cons d ds ih =>
      cases dCuts : isCut d with
      | true =>
          rw [List.cons_append, pieces_cons_of_cut dCuts, pieces_cons_of_cut dCuts, ih]
          rfl
      | false =>
          obtain ⟨piece, rest, split, split'⟩ := pieces_cons_of_not_cut dCuts ds
          simp [pieces, dCuts, ih, split]

/-- A text without a cut is one piece. -/
theorem pieces_eq_singleton {cs : List Char} (uncut : ∀ c ∈ cs, isCut c = false) :
    pieces isCut cs = [cs] := by
  induction cs with
  | nil => rfl
  | cons c cs ih =>
      have rest := ih fun d member => uncut d (by simp [member])
      simp [pieces, uncut c (by simp), rest]

/-- Pieces consist of characters of the text that do not cut. -/
theorem of_mem_pieces {cs piece : List Char} (member : piece ∈ pieces isCut cs)
    {d : Char} (inside : d ∈ piece) : d ∈ cs ∧ isCut d = false := by
  induction cs generalizing piece with
  | nil =>
      simp only [pieces, List.mem_singleton] at member
      simp [member] at inside
  | cons c cs ih =>
      cases cut : isCut c with
      | true =>
          rw [pieces_cons_of_cut cut, List.mem_cons] at member
          rcases member with rfl | member
          · simp at inside
          · exact ⟨by simp [(ih member inside).1], (ih member inside).2⟩
      | false =>
          obtain ⟨first, rest, split, split'⟩ := pieces_cons_of_not_cut cut cs
          rw [split', List.mem_cons] at member
          rcases member with rfl | member
          · rcases List.mem_cons.mp inside with rfl | inside
            · exact ⟨by simp, cut⟩
            · have kept := ih (split ▸ List.mem_cons_self) inside
              exact ⟨by simp [kept.1], kept.2⟩
          · have kept := ih (split ▸ List.mem_cons_of_mem _ member) inside
            exact ⟨by simp [kept.1], kept.2⟩

/-- The pieces, each with one character for its cut, are as long as the text with one more. -/
theorem width_pieces (cs : List Char) : width (pieces isCut cs) = cs.length + 1 := by
  induction cs with
  | nil => rfl
  | cons c cs ih =>
      cases cut : isCut c with
      | true =>
          rw [pieces_cons_of_cut cut, width, ih]
          simp
          omega
      | false =>
          obtain ⟨piece, rest, split, split'⟩ := pieces_cons_of_not_cut cut cs
          rw [split, width] at ih
          rw [split', width, List.length_cons, List.length_cons]
          omega

/-- The pieces hold all characters that do not cut, in order. -/
theorem flatten_pieces (cs : List Char) :
    (pieces isCut cs).flatten = cs.filter (! isCut ·) := by
  induction cs with
  | nil => rfl
  | cons c cs ih =>
      cases cut : isCut c with
      | true => simp [pieces_cons_of_cut cut, ih, cut]
      | false =>
          obtain ⟨piece, rest, split, split'⟩ := pieces_cons_of_not_cut cut cs
          rw [split, List.flatten_cons] at ih
          simp [split', ih, cut]

/-! ## Joining -/

theorem joinWith_cons {sep t : List Char} {ts : List (List Char)} (more : ts ≠ []) :
    joinWith sep (t :: ts) = t ++ sep ++ joinWith sep ts := by
  cases ts with
  | nil => exact absurd rfl more
  | cons _ _ => rfl

theorem forall_mem_joinWith {P : Char → Prop} {sep : List Char} {ts : List (List Char)}
    (between : ∀ c ∈ sep, P c) (each : ∀ t ∈ ts, ∀ c ∈ t, P c) : ∀ c ∈ joinWith sep ts, P c := by
  induction ts with
  | nil => simp [joinWith]
  | cons t ts ih =>
      have later := ih fun u member => each u (by simp [member])
      cases ts with
      | nil => exact each t (by simp)
      | cons u us =>
          rw [joinWith_cons (by simp), List.forall_mem_append, List.forall_mem_append]
          exact ⟨⟨each t (by simp), between⟩, later⟩

/-- Texts that are joined by a character are as long as each followed by one, less the last. -/
theorem length_joinWith {ts : List (List Char)} (some : ts ≠ []) :
    (joinWith [c] ts).length + 1 = width ts := by
  induction ts with
  | nil => exact absurd rfl some
  | cons t ts ih =>
      cases ts with
      | nil => simp [joinWith, width]
      | cons u us =>
          have rest := ih (by simp)
          rw [joinWith_cons (by simp), width, ← rest]
          simp only [List.length_append, List.length_singleton]
          omega

theorem length_le_width (ts : List (List Char)) : ts.length ≤ width ts := by
  induction ts with
  | nil => exact Nat.le_refl 0
  | cons t ts ih =>
      rw [width, List.length_cons]
      omega

theorem length_add_length_le_width {t : List Char} {ts : List (List Char)} (member : t ∈ ts) :
    t.length + ts.length ≤ width ts := by
  induction ts with
  | nil => cases member
  | cons u us ih =>
      rw [width, List.length_cons]
      rcases List.mem_cons.mp member with rfl | member
      · have := length_le_width us
        omega
      · have := ih member
        omega

/-- The pieces of a text make the text again. -/
theorem joinWith_pieces (c : Char) (cs : List Char) :
    joinWith [c] (pieces (· == c) cs) = cs := by
  induction cs with
  | nil => rfl
  | cons d ds ih =>
      by_cases same : d = c
      · have first : pieces (· == c) (d :: ds) = [] :: pieces (· == c) ds := by
          simp [pieces, same]
        rw [first, joinWith_cons (pieces_ne_nil _ _), ih, same]
        rfl
      · obtain ⟨piece, rest, split⟩ := List.exists_cons_of_ne_nil (pieces_ne_nil (· == c) ds)
        have split' : pieces (· == c) (d :: ds) = (d :: piece) :: rest := by
          simp [pieces, same, split]
        rw [split] at ih
        rw [split']
        cases rest with
        | nil => exact congrArg (d :: ·) ih
        | cons _ _ => exact congrArg (d :: ·) ih

/-- Texts without a cut are the pieces of what joins them. -/
theorem pieces_joinWith {ts : List (List Char)} (some : ts ≠ [])
    (uncut : ∀ t ∈ ts, c ∉ t) : pieces (· == c) (joinWith [c] ts) = ts := by
  induction ts with
  | nil => exact absurd rfl some
  | cons t ts ih =>
      have first : pieces (· == c) t = [t] := pieces_eq_singleton fun d member => by
        have : d ≠ c := fun same => uncut t (by simp) (same ▸ member)
        simpa using this
      cases ts with
      | nil => exact first
      | cons u us =>
          have rest := ih (by simp) fun v member => uncut v (by simp [member])
          rw [joinWith_cons (by simp), List.append_assoc, List.singleton_append,
            pieces_append_cut _ (by simp), first, rest]
          rfl

/-! ## Words -/

/-- A blank between two texts leaves the words of the one and of the other. -/
theorem words_append_blank (blank : isBlank c = true) (front back : List Char) :
    words (front ++ c :: back) = words front ++ words back := by
  simp [words, pieces_append_cut _ blank]

theorem words_eq_singleton {word : List Char} (some : word ≠ [])
    (uncut : ∀ c ∈ word, isBlank c = false) : words word = [word] := by
  simp [words, pieces_eq_singleton uncut, some]

/-- The words hold all characters that are not blank, in order. -/
theorem flatten_words (cs : List Char) : (words cs).flatten = cs.filter (! isBlank ·) := by
  rw [words, List.flatten_filter_not_isEmpty, flatten_pieces]

theorem words_eq_nil_iff {cs : List Char} : words cs = [] ↔ allBlank cs = true := by
  have content := flatten_words cs
  constructor
  · intro none
    rw [none, List.flatten_nil, eq_comm, List.filter_eq_nil_iff] at content
    simpa [allBlank] using content
  · intro blank
    have none : cs.filter (! isBlank ·) = [] := by
      simpa [allBlank, List.filter_eq_nil_iff] using blank
    rw [none, List.flatten_eq_nil_iff] at content
    refine List.eq_nil_iff_forall_not_mem.mpr fun word member => ?_
    exact ne_nil_of_mem_words member (content word member)

/-- Words consist of characters of the text that are not blank. -/
theorem of_mem_words {cs word : List Char} (member : word ∈ words cs) {d : Char}
    (inside : d ∈ word) : d ∈ cs ∧ isBlank d = false :=
  of_mem_pieces (List.mem_filter.mp member).1 inside

/-! ## Lines -/

theorem filter_dropReturn (cs : List Char) :
    (dropReturn cs).filter (! isBlank ·) = cs.filter (! isBlank ·) := by
  unfold dropReturn
  split
  · rename_i rest ends
    have whole : cs = rest.reverse ++ ['\r'] := by
      rw [← List.reverse_reverse cs, ends, List.reverse_cons]
    rw [whole, List.filter_append]
    exact (List.append_nil _).symm
  · rfl

/-- What ends a line is blank, so the lines lose nothing else of a text. -/
theorem filter_flatten_lines (cs : List Char) :
    (lines cs).flatten.filter (! isBlank ·) = cs.filter (! isBlank ·) := by
  have ofPieces : ∀ ps : List (List Char),
      (linesOfPieces ps).flatten.filter (! isBlank ·) = ps.flatten.filter (! isBlank ·) := by
    intro ps
    induction ps with
    | nil => rfl
    | cons p ps ih =>
        cases ps with
        | nil => cases p <;> rfl
        | cons q qs =>
            simp only [linesOfPieces, List.flatten_cons, List.filter_append] at ih ⊢
            rw [ih, filter_dropReturn]
  have feed : ∀ c : Char, (! isBlank c) = true → (! c == '\n') = true := by
    intro c shown
    have : c ≠ '\n' := fun same => by simp [same, isBlank] at shown
    simpa using this
  rw [lines, ofPieces, flatten_pieces, List.filter_filter]
  refine List.filter_congr fun c _ => ?_
  cases shown : ! isBlank c with
  | true => simp [feed c shown]
  | false => rfl

end Workflow.Text
