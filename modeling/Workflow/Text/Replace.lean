import Workflow.Text.Lines
/-!
# Occurrences of a text in a text

Occurrences are taken from left to right and do not overlap: the scan goes on behind the
occurrence found last. An empty pattern occurs nowhere here.

## Main definitions

* `Text.cut pat cs` — what stands before and after the first occurrence of `pat`.
* `Text.segments pat cs` — what stands between the occurrences.
* `Text.replace pat new cs` — the segments joined by `new`.
-/

namespace Workflow.Text

/-- The text before the first occurrence of `pat` and the text after it. -/
def cut (pat : List Char) : List Char → Option (List Char × List Char)
  | [] => none
  | c :: cs =>
    match pat.isPrefixOf? (c :: cs) with
    | some after => some ([], after)
    | none => (cut pat cs).map fun (before, after) => (c :: before, after)

theorem isPrefixOf?_eq_some {pat cs after : List Char} (h : pat.isPrefixOf? cs = some after) :
    cs = pat ++ after := by
  induction pat generalizing cs with
  | nil => exact Option.some.inj h
  | cons p ps ih =>
    cases cs with
    | nil => cases h
    | cons c cs =>
      change (if p == c then ps.isPrefixOf? cs else none) = some after at h
      split at h
      · rename_i heq
        rw [ih h, beq_iff_eq.mp heq, List.cons_append]
      · cases h

/-- A cut loses nothing but the occurrence. -/
theorem eq_of_cut {pat cs before after : List Char} (h : cut pat cs = some (before, after)) :
    cs = before ++ pat ++ after := by
  induction cs generalizing before with
  | nil => simp [cut] at h
  | cons c cs ih =>
    simp only [cut] at h
    split at h
    · rename_i rest hrest
      obtain ⟨rfl, rfl⟩ : [] = before ∧ rest = after := by simpa using h
      simpa using isPrefixOf?_eq_some hrest
    · obtain ⟨⟨b, a⟩, hb, hba⟩ := Option.map_eq_some_iff.mp h
      simp only [Prod.mk.injEq] at hba
      obtain ⟨rfl, rfl⟩ := hba
      simp [ih hb]

/-- What follows an occurrence of a non-empty text is shorter than the whole. -/
theorem length_lt_of_cut {pat cs before after : List Char} (hp : pat ≠ [])
    (h : cut pat cs = some (before, after)) : after.length < cs.length := by
  have := congrArg List.length (eq_of_cut h)
  have : 0 < pat.length := List.length_pos_iff.mpr hp
  simp only [List.length_append] at *
  omega

/-- The texts between the occurrences of `pat`; an empty `pat` leaves the text whole. -/
def segments (pat cs : List Char) : List (List Char) :=
  if hp : pat = [] then [cs]
  else match h : cut pat cs with
    | none => [cs]
    | some (before, after) =>
      have := length_lt_of_cut hp h
      before :: segments pat after
termination_by cs.length

/-- `new` in the place of every occurrence of `pat`. -/
def replace (pat new cs : List Char) : List Char := joinWith new (segments pat cs)

/-- `replace` on strings. -/
def replaceString (pat new s : String) : String :=
  String.ofList (replace pat.toList new.toList s.toList)

end Workflow.Text
