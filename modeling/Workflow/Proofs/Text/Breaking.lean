import Mathlib.Order.Bounds.Defs
import Workflow.Proofs.Text.Filling

/-!
# Breaking words into rows

A row is only ended by a word that it has no room for. Breaking that way takes the fewest rows:
where another way begins its next row, this one has come at least as far. And rows that were filled
once are filled the same way again.

## Main definitions

* `Text.Breaking width words groups` — a way of breaking words into rows, one group of words each.
* `Text.Greedy width words groups` — the way in which a row always takes a word that still fits.
* `Text.length_le_of_greedy` — no way of breaking takes fewer rows.
* `Text.wrap_stable_and_least` — both of these about wrapped texts.
-/

namespace Workflow.Text

/-- A way of breaking words into rows, in order and at word boundaries. There is one row at least,
and on every row there are the words of a group with one space between them. -/
structure Breaking (width : ℕ) (words : List (List Char)) (groups : List (List (List Char))) :
    Prop where
  some : groups ≠ []
  whole : groups.flatten = words
  bounded : ∀ group ∈ groups, (joinWith [' '] group).length ≤ width

/-- The way of breaking in which a row ends only where there is no room for the next word. -/
inductive Greedy (width : ℕ) : List (List Char) → List (List (List Char)) → Prop
  | last {group : List (List Char)} (fits : (joinWith [' '] group).length ≤ width) :
      Greedy width group [group]
  | row {group rest : List (List Char)} {next : List Char} {groups : List (List (List Char))}
      (some : group ≠ []) (fits : (joinWith [' '] group).length ≤ width)
      (full : width < (joinWith [' '] group).length + 1 + next.length)
      (later : Greedy width (next :: rest) groups) :
      Greedy width (group ++ next :: rest) (group :: groups)

variable {width : ℕ} {ws : List (List Char)} {groups : List (List (List Char))}

/-! ## The fewest rows -/

theorem breaking_of_greedy (greedy : Greedy width ws groups) : Breaking width ws groups := by
  induction greedy with
  | last fits => exact ⟨by simp, by simp, by simpa using fits⟩
  | row some fits full later ih =>
      exact ⟨by simp, by rw [List.flatten_cons, ih.whole],
        List.forall_mem_cons.mpr ⟨fits, ih.bounded⟩⟩

theorem width_append (us vs : List (List Char)) :
    Text.width (us ++ vs) = Text.width us + Text.width vs := by
  induction us with
  | nil => simp [Text.width]
  | cons u us ih =>
      rw [List.cons_append, Text.width, Text.width, ih]
      omega

/-- A row that holds a full row and the next word is too wide. -/
theorem wide_of_full {front group back : List (List Char)} {next : List Char} (some : group ≠ [])
    (full : width < (joinWith [' '] group).length + 1 + next.length) :
    width < (joinWith [' '] (front ++ group ++ next :: back)).length := by
  have part := length_joinWith (c := ' ') some
  have filled : front ++ group ++ next :: back ≠ [] := by simp
  have whole := length_joinWith (c := ' ') filled
  rw [width_append, width_append, Text.width] at whole
  omega

/-- No way of breaking takes fewer rows, even if it has to break more words in front. -/
theorem length_le_of_greedy (greedy : Greedy width ws groups) (front : List (List Char))
    {others : List (List (List Char))} (breaking : Breaking width (front ++ ws) others) :
    groups.length ≤ others.length := by
  induction greedy generalizing front others with
  | last fits => exact List.length_pos_iff.mpr breaking.some
  | row some fits full later ih =>
      rename_i group rest next groups
      obtain ⟨first, others, rfl⟩ := List.exists_cons_of_ne_nil breaking.some
      obtain ⟨bounded, bounds⟩ := List.forall_mem_cons.mp breaking.bounded
      -- the first row of the other way does not reach behind the full row
      obtain ⟨behind, left⟩ : ∃ behind, others.flatten = behind ++ next :: rest := by
        have whole := breaking.whole
        rw [List.flatten_cons, ← List.append_assoc] at whole
        rcases List.append_eq_append_iff.mp whole with ⟨behind, -, left⟩ | ⟨ahead, reach, left⟩
        · exact ⟨behind, left⟩
        · cases ahead with
          | nil => exact ⟨[], left.symm⟩
          | cons word ahead =>
              cases left
              rw [reach] at bounded
              exact absurd bounded (Nat.not_le.mpr (wide_of_full some full))
      have more : others ≠ [] := by
        rintro rfl
        simp at left
      have rows := ih behind ⟨more, left, bounds⟩
      rw [List.length_cons, List.length_cons]
      omega

theorem isLeast_of_greedy (greedy : Greedy width ws groups) :
    IsLeast {n | ∃ others, Breaking width ws others ∧ others.length = n} groups.length := by
  refine ⟨⟨groups, breaking_of_greedy greedy, rfl⟩, ?_⟩
  rintro n ⟨others, breaking, rfl⟩
  exact length_le_of_greedy greedy [] breaking

/-! ## Rows of words -/

/-- Packing breaks greedily. -/
theorem greedy_pack {group : List (List Char)} (some : group ≠ [])
    (begun : ∀ word ∈ group, word ≠ []) (fits : (joinWith [' '] group).length ≤ width)
    (narrow : ∀ word ∈ ws, word ≠ [] ∧ word.length ≤ width) :
    ∃ groups, pack width (joinWith [' '] group) ws = groups.map (joinWith [' ']) ∧
      Greedy width (group ++ ws) groups := by
  induction ws generalizing group with
  | nil => exact ⟨[group], rfl, by simpa using Greedy.last fits⟩
  | cons word rest ih =>
      obtain ⟨⟨filled, slim⟩, narrow⟩ := List.forall_mem_cons.mp narrow
      have shown : (joinWith [' '] group).isEmpty = false := by
        obtain ⟨first, others, rfl⟩ := List.exists_cons_of_ne_nil some
        have := (List.forall_mem_cons.mp begun).1
        cases others <;> simp [joinWith, this]
      by_cases room : (joinWith [' '] group).length + 1 + word.length ≤ width
      · have more : group ++ [word] ≠ [] := by simp
        have joined : joinWith [' '] (group ++ [word]) = joinWith [' '] group ++ [' '] ++ word :=
          joinWith_append_singleton some
        rw [List.append_assoc, List.singleton_append] at joined
        obtain ⟨groups, packed, greedy⟩ := ih more
          (List.forall_mem_append.mpr ⟨begun, by simpa using filled⟩)
          (by rw [joined, List.length_append, List.length_cons]; omega) narrow
        refine ⟨groups, ?_, by simpa using greedy⟩
        rw [pack, shown, if_neg Bool.false_ne_true, if_pos room, ← joined, packed]
      · obtain ⟨groups, packed, greedy⟩ := ih (List.cons_ne_nil word [])
          (by simpa using filled) slim narrow
        refine ⟨group :: groups, ?_, .row some fits (Nat.not_le.mp room) greedy⟩
        rw [pack, shown, if_neg Bool.false_ne_true, if_neg room, List.map_cons, ← packed]
        rfl

theorem wrapLine_eq_pack (pos : 0 < width) {line : List Char}
    (narrow : ∀ word ∈ words line, word.length ≤ width) :
    wrapLine width line = pack width [] (words line) := by
  rw [wrapLine, fill_eq_pack pos]
  congr 1
  rw [List.flatMap_congr fun word member => chunks_of_fits (narrow word member)]
  exact List.flatMap_singleton' _

/-- A line whose words all fit is broken greedily. -/
theorem greedy_wrapLine (pos : 0 < width) {line : List Char}
    (narrow : ∀ word ∈ words line, word.length ≤ width) :
    ∃ groups, wrapLine width line = groups.map (joinWith [' ']) ∧
      Greedy width (words line) groups := by
  have each : ∀ word ∈ words line, word ≠ [] ∧ word.length ≤ width :=
    fun word member => ⟨ne_nil_of_mem_words member, narrow word member⟩
  rw [wrapLine_eq_pack pos narrow]
  cases found : words line with
  | nil => exact ⟨[[]], rfl, .last (Nat.zero_le width)⟩
  | cons word rest =>
      rw [found] at each
      obtain ⟨⟨filled, slim⟩, later⟩ := List.forall_mem_cons.mp each
      rw [pack_nil_cons]
      exact greedy_pack (List.cons_ne_nil word []) (by simpa using filled) slim later

/-! ## Filled rows again -/

/-- Words that fit on a row go on one. -/
theorem wrapLine_of_isRow (pos : 0 < width) {row : List Char} (isRow : IsRow width row) :
    wrapLine width row = [row] := by
  have narrow : ∀ word ∈ words row, word.length ≤ width := by
    intro word member
    have room := isRow.length_add_length_words_le member
    have := List.length_pos_of_mem member
    omega
  obtain ⟨groups, rows, greedy⟩ := greedy_wrapLine pos narrow
  have one : Breaking width (words row) [words row] :=
    ⟨by simp, by simp, by simpa [isRow.spaced] using isRow.bounded⟩
  have least := length_le_of_greedy greedy [] one
  have breaking := breaking_of_greedy greedy
  obtain ⟨only, rfl⟩ : ∃ only, groups = [only] := by
    refine List.length_eq_one_iff.mp (Nat.le_antisymm least ?_)
    exact List.length_pos_iff.mpr breaking.some
  have whole : only = words row := by simpa using breaking.whole
  rw [rows, whole, List.map_singleton, isRow.spaced]

/-- Lines with a line feed behind each are the lines of what that makes. -/
theorem lines_flatMap_feed {rows : List (List Char)}
    (plain : ∀ row ∈ rows, ∀ c ∈ row, c ≠ '\n' ∧ c ≠ '\r') :
    lines (rows.flatMap (· ++ ['\n'])) = rows := by
  induction rows with
  | nil => rfl
  | cons row rows ih =>
      obtain ⟨first, later⟩ := List.forall_mem_cons.mp plain
      have uncut : ∀ c ∈ row, (c == '\n') = false := by
        intro c member
        simpa using (first c member).1
      have kept : dropReturn row = row := by
        unfold dropReturn
        split
        · rename_i rest ends
          have inside : '\r' ∈ row := by
            rw [← List.mem_reverse, ends]
            exact List.mem_cons_self
          exact absurd rfl (first _ inside).2
        · rfl
      have rest := ih later
      rw [lines] at rest
      obtain ⟨piece, more, split⟩ := List.exists_cons_of_ne_nil
        (pieces_ne_nil (· == '\n') (rows.flatMap (· ++ ['\n'])))
      rw [List.flatMap_cons, List.append_assoc, List.singleton_append, lines,
        pieces_append_cut _ (by rfl), pieces_eq_singleton uncut, split, List.singleton_append]
      rw [split] at rest
      rw [linesOfPieces, kept, rest]
      simp

/-- A wrapped text is wrapped as it is. -/
theorem wrap_wrap (pos : 0 < width) (text : List Char) :
    wrap width ((wrap width text).flatMap (· ++ ['\n'])) = wrap width text := by
  have plain : ∀ row ∈ wrap width text, ∀ c ∈ row, c ≠ '\n' ∧ c ≠ '\r' := by
    intro row member c inside
    rcases of_mem_wrap pos member inside with rfl | shown
    · decide
    · exact ⟨fun same => by simp [same, isBlank] at shown, (ne_of_not_blank shown).2⟩
  have again : ∀ row ∈ wrap width text, wrapLine width row = [row] := by
    intro row member
    obtain ⟨line, -, member⟩ := List.mem_flatMap.mp member
    have fills := wrapLine_fills pos line
    exact wrapLine_of_isRow pos ⟨fills.bounded row member, fills.spaced row member⟩
  rw [wrap, lines_flatMap_feed plain, List.flatMap_congr again]
  exact List.flatMap_singleton' _

/-- Wrapped once more, the rows of a wrapped text stay as they are. They are the rows of its lines,
one line after the other. A line whose words all fit is broken in the way in which a row always
takes the next word that still fits, and there is no way to break it into fewer rows. -/
theorem wrap_stable_and_least (width : ℕ) (text : List Char) (pos : 0 < width) :
    wrap width ((wrap width text).flatMap (· ++ ['\n'])) = wrap width text ∧
    wrap width text = (lines text).flatMap (wrapLine width) ∧
    ∀ line ∈ lines text, (∀ word ∈ words line, word.length ≤ width) →
      ∃ groups, wrapLine width line = groups.map (joinWith [' ']) ∧
        Greedy width (words line) groups ∧
        IsLeast {n | ∃ others, Breaking width (words line) others ∧ others.length = n}
          (wrapLine width line).length := by
  refine ⟨wrap_wrap pos text, rfl, fun line _ narrow => ?_⟩
  obtain ⟨groups, rows, greedy⟩ := greedy_wrapLine pos narrow
  refine ⟨groups, rows, greedy, ?_⟩
  rw [rows, List.length_map]
  exact isLeast_of_greedy greedy

/-- Four words take three rows of five characters and no fewer; a blank line stays. -/
theorem wrap_stable_and_least_question :
    let line := "to be or not".toList
    let text := line ++ "\n\nto be".toList
    let rows := wrap 5 text
    0 < 5 ∧ rows = ["to be".toList, "or".toList, "not".toList, [], "to be".toList] ∧
      wrap 5 (rows.flatMap (· ++ ['\n'])) = rows ∧
      IsLeast {n | ∃ others, Breaking 5 (words line) others ∧ others.length = n} 3 := by
  intro line text rows
  obtain ⟨stable, -, least⟩ := wrap_stable_and_least 5 text (by decide)
  obtain ⟨_, -, -, fewest⟩ := least line (by decide) (by decide)
  exact ⟨by decide, by decide +kernel, stable, fewest⟩

end Workflow.Text
