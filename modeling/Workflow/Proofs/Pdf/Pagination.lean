import Mathlib.Data.List.Basic
import Mathlib.Order.Nat
import Workflow.Pdf.Layout

/-!
# Lines on pages

The lines of a text are spread over pages without loss and in order. A page has room for a fixed
number of lines, the first one for fewer if there is a title; every page but the last is full.

## Main definitions

* `Pdf.Page.capacity title index` — how many lines fit on a page.
* `Pdf.Spread capacity lines blocks` — blocks of lines fill pages of given capacities.
* `Pdf.spread_paginate`, `Pdf.length_paginate` — so do the lines of the pages for a text, and how
  many pages there are.
-/

namespace Workflow.Pdf

/-- Blocks of lines fill pages of given capacities: nothing is lost, no page holds too much, every
page but the last is full, and none but a sole page is empty. -/
structure Spread {α : Type} (capacity : Nat → Nat) (lines : List α)
    (blocks : List (List α)) : Prop where
  whole : blocks.flatten = lines
  fits : ∀ (index : Nat) (block : List α), blocks[index]? = some block →
    block.length ≤ capacity index
  full : ∀ (index : Nat) (block : List α), blocks[index]? = some block →
    index + 1 < blocks.length → block.length = capacity index
  filled : blocks.length ≠ 1 → [] ∉ blocks

/-- How many lines fit on a page. A title takes the place of two. -/
def Page.capacity (title : Option (List Char)) (index : Nat) : Nat :=
  if index = 0 ∧ title.isSome then 44 else 46

variable {α : Type} {size : Nat} {items : List α}

/-! ## Chunks -/

theorem chunks_nil : chunks size ([] : List α) = [] := by
  rw [chunks]
  simp

theorem chunks_of_ne_nil (pos : 0 < size) (some : items ≠ []) :
    chunks size items = items.take size :: chunks size (items.drop size) := by
  rw [chunks]
  simp [some, Nat.ne_of_gt pos]

/-- Chunks make the items again. -/
theorem flatten_chunks (pos : 0 < size) (items : List α) : (chunks size items).flatten = items := by
  fun_induction chunks size items with
  | case1 items stop =>
      have none : items = [] := stop.resolve_right (Nat.ne_of_gt pos)
      rw [none]
      rfl
  | case2 items _ _ ih => rw [List.flatten_cons, ih, List.take_append_drop]

/-- The chunk at an index holds the items from there on, as many as there are. -/
theorem getElem?_chunks (pos : 0 < size) (items : List α) (index : Nat) :
    (chunks size items)[index]? =
      if index * size < items.length then some ((items.drop (index * size)).take size)
      else none := by
  induction index generalizing items with
  | zero =>
      by_cases some : items = []
      · simp [some, chunks_nil]
      · have more : 0 < items.length := List.length_pos_iff.mpr some
        simp [chunks_of_ne_nil pos some, more]
  | succ index ih =>
      by_cases some : items = []
      · simp [some, chunks_nil]
      · have same : index * size < items.length - size ↔ (index + 1) * size < items.length := by
          rw [Nat.add_mul, Nat.one_mul]
          omega
        rw [chunks_of_ne_nil pos some, List.getElem?_cons_succ, ih, List.length_drop,
          List.drop_drop, Nat.add_mul, Nat.one_mul, Nat.add_comm size]
        rw [Nat.add_mul, Nat.one_mul] at same
        simp only [same]

theorem of_getElem?_chunks (pos : 0 < size) {index : Nat} {block : List α}
    (found : (chunks size items)[index]? = some block) :
    index * size < items.length ∧ block = (items.drop (index * size)).take size := by
  rw [getElem?_chunks pos] at found
  split at found
  · cases found
    exact ⟨‹_›, rfl⟩
  · cases found

/-- No chunk is larger than the others, and none is empty. -/
theorem length_of_mem_chunks (pos : 0 < size) {block : List α}
    (member : block ∈ chunks size items) : 0 < block.length ∧ block.length ≤ size := by
  obtain ⟨index, found⟩ := List.mem_iff_getElem?.mp member
  obtain ⟨inside, rfl⟩ := of_getElem?_chunks pos found
  rw [List.length_take, List.length_drop]
  omega

theorem lt_length_chunks_iff (pos : 0 < size) (items : List α) (index : Nat) :
    index < (chunks size items).length ↔ index * size < items.length := by
  rw [← Nat.not_le, ← List.getElem?_eq_none_iff, getElem?_chunks pos]
  simp

/-- There are as many chunks as the division, rounded up, tells. -/
theorem length_chunks (pos : 0 < size) (items : List α) :
    (chunks size items).length = (items.length + (size - 1)) / size := by
  refine eq_of_forall_lt_iff fun index => ?_
  rw [lt_length_chunks_iff pos, Nat.lt_div_iff_mul_lt pos, Nat.add_sub_cancel]

/-! ## Pages -/

theorem capacity_zero (title : Option (List Char)) :
    Page.capacity title 0 = firstCapacity title := by
  cases title <;> rfl

theorem capacity_eq (title : Option (List Char)) :
    Page.capacity title =
      fun index => if index = 0 then firstCapacity title else linesPerPage := by
  funext index
  cases index with
  | zero => exact capacity_zero title
  | succ index => rfl

theorem firstCapacity_pos (title : Option (List Char)) : 0 < firstCapacity title := by
  unfold firstCapacity
  split <;> decide

/-- The lines of the pages, page by page. -/
theorem map_lines_paginate (title : Option (List Char)) (lines : List (List Char)) :
    (paginate title lines).map Page.lines = lines.take (firstCapacity title)
      :: chunks linesPerPage (lines.drop (firstCapacity title)) := by
  simp [paginate, Function.comp_def]

/-- The title stands on the first page alone. -/
theorem map_title_paginate (title : Option (List Char)) (lines : List (List Char)) :
    (paginate title lines).map Page.title =
      title :: List.replicate ((paginate title lines).length - 1) none := by
  simp [paginate, Function.comp_def, List.map_const']

/-- How many pages there are: one if the lines fit on the first, and as many more as the division of
the others, rounded up, tells. -/
theorem length_paginate (title : Option (List Char)) (lines : List (List Char)) :
    (paginate title lines).length = if lines.length ≤ Page.capacity title 0 then 1
      else 1 + (lines.length - Page.capacity title 0 + 45) / 46 := by
  have many : (paginate title lines).length =
      1 + (lines.length - firstCapacity title + 45) / 46 := by
    rw [paginate, List.length_cons, List.length_map, length_chunks (by decide), List.length_drop,
      Nat.add_comm]
    rfl
  rw [many, capacity_zero]
  split
  · omega
  · rfl

/-- No page holds more lines than fit under its title. -/
theorem length_le_of_mem_paginate {title : Option (List Char)} {lines : List (List Char)}
    {page : Page} (member : page ∈ paginate title lines) :
    page.lines.length ≤ firstCapacity page.title := by
  rw [paginate, List.mem_cons, List.mem_map] at member
  rcases member with rfl | ⟨block, inside, rfl⟩
  · exact List.length_take_le _ _
  · exact (length_of_mem_chunks (by decide) inside).2

/-- A first block and chunks of what is left fill their pages. -/
theorem spread_take_chunks {first : Nat} (room : 0 < first) (pos : 0 < size) (items : List α) :
    Spread (fun index => if index = 0 then first else size) items
      (items.take first :: chunks size (items.drop first)) := by
  -- Whether there is another page depends on how many items are left.
  have beyond : ∀ index, index < (chunks size (items.drop first)).length ↔
      index * size < items.length - first := by
    intro index
    rw [lt_length_chunks_iff pos, List.length_drop]
  constructor
  case whole => rw [List.flatten_cons, flatten_chunks pos, List.take_append_drop]
  case fits =>
    intro index block found
    cases index with
    | zero =>
        cases found
        exact List.length_take_le _ _
    | succ index => exact (length_of_mem_chunks pos (List.mem_of_getElem? found)).2
  case full =>
    intro index block found more
    rw [List.length_cons] at more
    cases index with
    | zero =>
        cases found
        have left := (beyond 0).mp (by omega)
        rw [List.length_take, if_pos rfl]
        omega
    | succ index =>
        have left := (beyond (index + 1)).mp (by omega)
        rw [Nat.add_mul, Nat.one_mul] at left
        obtain ⟨-, rfl⟩ := of_getElem?_chunks pos found
        rw [List.length_take, List.length_drop, List.length_drop, if_neg (by omega)]
        omega
  case filled =>
    intro several empty
    rcases List.mem_cons.mp empty with here | later
    · have left := (beyond 0).mp (by rw [List.length_cons] at several; omega)
      have none := congrArg List.length here
      rw [List.length_take, List.length_nil] at none
      omega
    · exact absurd (length_of_mem_chunks pos later).1 (by simp)

/-- The lines of the pages fill them. -/
theorem spread_paginate (title : Option (List Char)) (lines : List (List Char)) :
    Spread (Page.capacity title) lines ((paginate title lines).map Page.lines) := by
  rw [map_lines_paginate, capacity_eq]
  exact spread_take_chunks (firstCapacity_pos title) (by decide) lines

end Workflow.Pdf
