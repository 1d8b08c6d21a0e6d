import Mathlib.Data.List.Basic
import Workflow.State

/-!
# The previous output as a text

A node that goes on from a text takes what the node before it has put out, as it reads. An output
that is absent or null has no reading, and a reading of nothing but white space counts for none.

## Main definitions

* `State.Renders` — a text is what the previous output reads as.
* `State.outputText?_eq_some_iff` — the text that nodes go on from is that one.
-/

namespace Workflow.State

variable {state : State} {text : String}

/-- There is a previous output other than null, it reads as the text, and the text is not all white
space. -/
structure Renders (state : State) (text : String) : Prop where
  shown : ∃ value, state.output = some value ∧ value ≠ .null ∧ value.text = text
  visible : ∃ c ∈ text.toList, Text.isBlank c = false

theorem outputText?_eq_some_iff : state.outputText? = some text ↔ state.Renders text := by
  have shown : (state.output.filter (! ·.isNull)).map Value.text = some text ↔
      ∃ value, state.output = some value ∧ value ≠ .null ∧ value.text = text := by
    simp only [Option.map_eq_some_iff, Option.filter_eq_some_iff, and_assoc]
    refine exists_congr fun value => and_congr_right fun _ => and_congr_left fun _ => ?_
    cases value <;> simp [Value.isNull]
  have visible : (! Text.blankString text) = true ↔
      ∃ c ∈ text.toList, Text.isBlank c = false := by
    simp [Text.blankString, Text.allBlank]
  rw [outputText?, Params.filled, Option.filter_eq_some_iff, shown, visible]
  exact ⟨fun ⟨there, seen⟩ => ⟨there, seen⟩, fun renders => ⟨renders.shown, renders.visible⟩⟩

theorem outputText?_eq_none_iff : state.outputText? = none ↔ ∀ text, ¬ state.Renders text := by
  simp only [Option.eq_none_iff_forall_ne_some, ne_eq, outputText?_eq_some_iff]

end Workflow.State
