import Mathlib.Data.List.Basic
import Mathlib.Data.List.Infix
import Mathlib.Logic.ExistsUnique
import Workflow.Text.Replace

/-!
# Occurrences and what stands between them

A text is taken apart at the occurrences of a pattern in one way only, if these are looked for from
left to right and do not overlap: every piece but the last has the pattern behind it, and not
earlier, and the last piece does not have it at all.

## Main definitions

* `Text.EndsFirst pat piece` — behind `piece`, `pat` occurs for the first time.
* `Text.Borderless pat` — two occurrences of `pat` do not overlap.
* `Text.Parts`, `Text.Splits pat cs parts` — a text taken apart at the occurrences of `pat`.
* `Text.cut_eq_some_iff`, `Text.cut_eq_none_iff` — a cut is made at the first occurrence.
* `Text.splits_iff` — the pieces of a text are its segments.
-/

namespace Workflow.Text

variable {pat cs : List Char}

/-- In `piece ++ pat` the pattern occurs at the end, and nowhere before. -/
def EndsFirst (pat piece : List Char) : Prop :=
  ∀ front back, piece ++ pat = front ++ pat ++ back → back = []

/-- Nothing but the whole is at the start of the pattern and at its end. -/
def Borderless (pat : List Char) : Prop :=
  ∀ border, border <+: pat → border <:+ pat → border = [] ∨ border = pat

theorem borderless_iff :
    Borderless pat ↔ ∀ border ∈ pat.inits, border ∈ pat.tails → border = [] ∨ border = pat := by
  simp only [List.mem_inits, List.mem_tails, Borderless]

/-- The pieces of a text: those before an occurrence each, and the one behind all of them. -/
structure Parts where
  before : List (List Char)
  last : List Char

def Parts.pieces (parts : Parts) : List (List Char) := parts.before ++ [parts.last]

/-- `parts` are the pieces of a text between the occurrences of `pat`, from left to right. -/
structure Splits (pat cs : List Char) (parts : Parts) : Prop where
  joined : joinWith pat parts.pieces = cs
  first : ∀ piece ∈ parts.before, EndsFirst pat piece
  last : ¬ pat <:+: parts.last

/-! ## The first occurrence -/

theorem endsFirst_nil (pat : List Char) : EndsFirst pat [] := by
  intro front back same
  have lengths := congrArg List.length same
  simp only [List.nil_append, List.length_append] at lengths
  exact List.length_eq_zero_iff.mp (by omega)

/-- A pattern occurs for the first time in one place only. -/
theorem eq_of_endsFirst {piece after piece' after' : List Char} (ends : EndsFirst pat piece)
    (ends' : EndsFirst pat piece') (same : piece ++ pat ++ after = piece' ++ pat ++ after') :
    piece = piece' ∧ after = after' := by
  have shared : piece = piece' := by
    rcases List.append_eq_append_iff.mp same with ⟨back, whole, -⟩ | ⟨back, whole, -⟩
    · have none := ends' _ _ whole
      simpa [none, eq_comm] using whole
    · have none := ends _ _ whole
      simpa [none] using whole
  subst shared
  exact ⟨rfl, List.append_cancel_left same⟩

/-- If occurrences do not overlap, then the first is where there is none in what is before it. -/
theorem endsFirst_iff (some : pat ≠ []) (borderless : Borderless pat) {piece : List Char} :
    EndsFirst pat piece ↔ ¬ pat <:+: piece := by
  constructor
  · rintro ends ⟨front, back, rfl⟩
    have none := ends front (back ++ pat) (by simp)
    exact some (List.append_eq_nil_iff.mp none).2
  · intro absent front back whole
    rcases List.append_eq_append_iff.mp whole with ⟨border, same, parts⟩ | ⟨more, rfl, -⟩
    · -- the two occurrences share a border
      have suffix : border <:+ pat :=
        List.suffix_of_suffix_length_le ⟨piece, same.symm⟩ ⟨front, rfl⟩ (by simp [parts])
      rcases borderless border ⟨back, parts.symm⟩ suffix with rfl | rfl
      · rw [List.append_nil] at same
        exact absurd ⟨front, [], by simpa using same⟩ absent
      · simpa using parts
    · exact absurd ⟨front, more, rfl⟩ absent

theorem isPrefixOf?_eq_none_iff : pat.isPrefixOf? cs = none ↔ ¬ pat <+: cs := by
  constructor
  · rintro none ⟨after, whole⟩
    rw [List.isPrefixOf?_eq_some_iff_append_eq.mpr whole] at none
    cases none
  · intro absent
    cases found : pat.isPrefixOf? cs with
    | none => rfl
    | some after => exact absurd ⟨after, (isPrefixOf?_eq_some found).symm⟩ absent

/-- A cut is made where the pattern occurs first. -/
theorem endsFirst_of_cut {before after : List Char} (found : cut pat cs = some (before, after)) :
    EndsFirst pat before := by
  induction cs generalizing before with
  | nil => cases found
  | cons c cs ih =>
      simp only [cut] at found
      split at found
      · simp only [Option.some.injEq, Prod.mk.injEq] at found
        rw [← found.1]
        exact endsFirst_nil pat
      · rename_i absent
        obtain ⟨⟨before', after'⟩, later, same⟩ := Option.map_eq_some_iff.mp found
        simp only [Prod.mk.injEq] at same
        obtain ⟨rfl, rfl⟩ := same
        intro front back whole
        cases front with
        | nil =>
            -- an occurrence right at the start would have been cut
            refine absurd ?_ (isPrefixOf?_eq_none_iff.mp absent)
            rw [eq_of_cut later]
            refine ⟨back ++ after', ?_⟩
            rw [← List.append_assoc, ← List.nil_append pat, ← whole]
            rfl
        | cons d front => exact ih later front back (List.cons.inj whole).2

theorem cut_eq_none_iff (some : pat ≠ []) : cut pat cs = none ↔ ¬ pat <:+: cs := by
  induction cs with
  | nil => simp [cut, some]
  | cons c cs ih =>
      rw [List.infix_cons_iff, not_or, ← ih, ← isPrefixOf?_eq_none_iff]
      cases here : pat.isPrefixOf? (c :: cs) <;> simp [cut, here]

theorem cut_eq_some_iff (some : pat ≠ []) {before after : List Char} :
    cut pat cs = .some (before, after) ↔ cs = before ++ pat ++ after ∧ EndsFirst pat before := by
  constructor
  · intro found
    exact ⟨eq_of_cut found, endsFirst_of_cut found⟩
  · rintro ⟨rfl, ends⟩
    cases found : cut pat (before ++ pat ++ after) with
    | none => exact absurd ⟨before, after, rfl⟩ ((cut_eq_none_iff some).mp found)
    | some place =>
        obtain ⟨rfl, rfl⟩ := eq_of_endsFirst ends (endsFirst_of_cut found) (eq_of_cut found)
        rfl

/-! ## All occurrences -/

theorem segments_ne_nil (pat cs : List Char) : segments pat cs ≠ [] := by
  rw [segments]
  split
  · simp
  · split <;> simp

theorem joinWith_cons_append_singleton (sep piece last : List Char) (before : List (List Char)) :
    joinWith sep (piece :: (before ++ [last])) =
      piece ++ sep ++ joinWith sep (before ++ [last]) := by
  cases before <;> rfl

/-- A text without the pattern is one piece. -/
theorem splits_last_iff {last : List Char} :
    Splits pat cs ⟨[], last⟩ ↔ last = cs ∧ ¬ pat <:+: cs := by
  constructor
  · rintro ⟨rfl, -, absent⟩
    exact ⟨rfl, absent⟩
  · rintro ⟨rfl, absent⟩
    exact ⟨rfl, by simp, absent⟩

/-- Behind a first piece and the pattern, the other pieces are those of what is left. -/
theorem splits_cons_iff {piece last : List Char} {before : List (List Char)} :
    Splits pat cs ⟨piece :: before, last⟩ ↔
      ∃ after, cs = piece ++ pat ++ after ∧ EndsFirst pat piece ∧
        Splits pat after ⟨before, last⟩ := by
  constructor
  · rintro ⟨rfl, first, absent⟩
    obtain ⟨ends, later⟩ := List.forall_mem_cons.mp first
    exact ⟨_, joinWith_cons_append_singleton .., ends, rfl, later, absent⟩
  · rintro ⟨_, rfl, ends, rfl, later, absent⟩
    exact ⟨joinWith_cons_append_singleton .., List.forall_mem_cons.mpr ⟨ends, later⟩, absent⟩

/-- The pieces of a text between the occurrences are its segments. -/
theorem splits_iff (some : pat ≠ []) {parts : Parts} :
    Splits pat cs parts ↔ parts.pieces = segments pat cs := by
  obtain ⟨before, last⟩ := parts
  induction before generalizing cs with
  | nil =>
      rw [splits_last_iff, segments, dif_neg some, ← cut_eq_none_iff some]
      split
      · rename_i whole
        simp [Parts.pieces, whole]
      · rename_i piece after found
        -- further segments would follow the first
        have more := segments_ne_nil pat after
        simp [Parts.pieces, found, more.symm]
  | cons piece before ih =>
      rw [splits_cons_iff, segments, dif_neg some]
      split
      · rename_i whole
        simp only [Parts.pieces, List.cons_append, List.cons.injEq, List.append_eq_nil_iff,
          List.cons_ne_nil, and_false, iff_false, not_exists, not_and]
        intro after found ends
        rw [(cut_eq_some_iff some).mpr ⟨found, ends⟩] at whole
        cases whole
      · rename_i piece' after found
        have rest := @ih after
        simp only [Parts.pieces, List.cons_append, List.cons.injEq] at rest ⊢
        rw [← rest]
        constructor
        · rintro ⟨after', whole, ends, later⟩
          have same := (cut_eq_some_iff some).mpr ⟨whole, ends⟩
          rw [found] at same
          cases same
          exact ⟨rfl, later⟩
        · rintro ⟨rfl, later⟩
          obtain ⟨whole, ends⟩ := (cut_eq_some_iff some).mp found
          exact ⟨after, whole, ends, later⟩

/-- There is one way to take a text apart. -/
theorem existsUnique_splits (some : pat ≠ []) (cs : List Char) : ∃! parts, Splits pat cs parts := by
  have whole : (segments pat cs).dropLast ++ [(segments pat cs).getLast (segments_ne_nil pat cs)] =
      segments pat cs := List.dropLast_concat_getLast _
  refine ⟨⟨_, _⟩, (splits_iff some).mpr whole, ?_⟩
  rintro ⟨before, last⟩ splits
  have same : before ++ [last] = _ := ((splits_iff some).mp splits).trans whole.symm
  obtain ⟨rfl, rest⟩ := List.append_inj_left' same rfl, List.append_inj_right' same rfl
  cases rest
  rfl

end Workflow.Text
