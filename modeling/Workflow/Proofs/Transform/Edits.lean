import Mathlib.Data.List.Infix
import Workflow.Proofs.Except
import Workflow.Proofs.Node.Actions
import Workflow.Proofs.Node.Parameters
import Workflow.Proofs.Rendering
import Workflow.Proofs.Text.Occurrences
import Workflow.Transform.TextEditor

/-!
# Edits one after another

An edit takes its text apart at the occurrences of what it looks for and joins the pieces by what it
puts there, so it never looks at what it has put. The next edit finds the whole result, and the
first one the text with all that its format has put around it.

## Main definitions

* `EditOptions.Lists`, `EditOptions.Describes` — the values among the parameters that describe
  edits, and what one of them describes.
* `EditOptions.IsInput` — the text that is to be edited.
* `EditOptions.Framed` — the text with what its format puts around it.
* `EditOptions.Substituted`, `EditOptions.Edited` — one edit, and a list of edits in its order.
* `EditOptions.edited_in_order` — what the node leaves.
-/

namespace Workflow

namespace EditOptions

/-- A value describes an edit: it has both texts, and the one to look for is not empty. -/
structure Describes (value : Value) (edit : TextEdit) : Prop where
  find : value.get? "find" = some (.string edit.find)
  replace : value.get? "replace" = some (.string edit.replace)
  filled : edit.find ≠ ""

/-- The parameters list values that are to describe edits. No list is an empty one. -/
inductive Lists (params : Params) : List Value → Prop
  | given {values : List Value} (there : Fields.get? params.fields "edits" = some (.array values)) :
      Lists params values
  | none (absent : ∀ values, Fields.get? params.fields "edits" ≠ some (.array values)) :
      Lists params []

/-- The text to edit: the one among the parameters unless that is empty, else what the previous
output reads as, else nothing. -/
inductive IsInput (params : Params) (state : State) : String → Prop
  | own {text : String} (there : Fields.get? params.fields "text" = some (.string text))
      (filled : text ≠ "") : IsInput params state text
  | previous {text : String}
      (none : ∀ own, Fields.get? params.fields "text" = some (.string own) → own = "")
      (renders : state.Renders text) : IsInput params state text
  | nothing (none : ∀ own, Fields.get? params.fields "text" = some (.string own) → own = "")
      (unread : ∀ text, ¬ state.Renders text) : IsInput params state ""

/-- The parameters name a format by one of these names. Space around it and case do not count. -/
def NamesOneOf (params : Params) (names : List String) : Prop :=
  ∃ format, Fields.get? params.fields "format" = some (.string format) ∧
    Text.lowerAscii (Text.trimString format) ∈ names

/-- The parameters name no format; a text of white space is no name. -/
def NamesNone (params : Params) : Prop :=
  ∀ format, Fields.get? params.fields "format" = some (.string format) →
    ∀ c ∈ format.toList, Text.isBlank c = true

/-- The format that the parameters name, and the text with what that format puts around it. -/
inductive Framed (params : Params) (text : String) : String → String → Prop
  | plain (named : NamesNone params ∨ NamesOneOf params ["plaintext", "plain", "txt", "text"]) :
      Framed params text "plaintext" text
  | markdown (named : NamesOneOf params ["markdown", "md"]) :
      Framed params text "markdown" ("\x60\x60\x60markdown\n" ++ text ++ "\n\x60\x60\x60")
  | html (named : NamesOneOf params ["html"]) :
      Framed params text "html" ("<pre>" ++ text ++ "</pre>")

/-- One edit: the pieces between the occurrences of what it looks for, joined by what it puts. -/
def Substituted (edit : TextEdit) (text result : String) : Prop :=
  ∃ parts, Text.Splits edit.find.toList text.toList parts ∧
    result.toList = Text.joinWith edit.replace.toList parts.pieces

/-- Edits in their order, each on what the one before has left. -/
inductive Edited : List TextEdit → String → String → Prop
  | nil (text : String) : Edited [] text text
  | cons {edit : TextEdit} {edits : List TextEdit} {text between result : String}
      (first : Substituted edit text between) (later : Edited edits between result) :
      Edited (edit :: edits) text result

/-! ## Parameters -/

theorem string?_eq_some_iff {value : Value} {s : String} :
    value.string? = some s ↔ value = .string s := by
  cases value <;> simp [Value.string?]

theorem eq_of_describes : Relator.RightUnique Describes := by
  rintro value ⟨find, replace⟩ ⟨find', replace'⟩ described described'
  have sameFind := described.find.symm.trans described'.find
  have sameReplace := described.replace.symm.trans described'.replace
  cases sameFind
  cases sameReplace
  rfl

theorem describes_of_edit? {value : Value} {edit : TextEdit} (read : edit? value = some edit) :
    Describes value edit := by
  simp only [edit?, Option.bind_eq_bind, Option.bind_eq_some_iff, string?_eq_some_iff] at read
  obtain ⟨_, findThere, find, rfl, _, replaceThere, replace, rfl, whole⟩ := read
  split at whole
  · cases whole
  · rename_i filled
    cases whole
    exact ⟨findThere, replaceThere, filled⟩

theorem describes_of_editsFrom {index : ℕ} {values : List Value} {edits : List TextEdit}
    (read : editsFrom index values = .ok edits) : List.Forall₂ Describes values edits := by
  induction values generalizing index edits with
  | nil =>
      cases read
      exact .nil
  | cons value rest ih =>
      simp only [editsFrom] at read
      split at read
      · cases read
      · rename_i edit first
        obtain ⟨others, later, rfl⟩ := map_eq_ok_iff.mp read
        exact .cons (describes_of_edit? first) (ih later)

theorem filled_of_describes {values : List Value} {edits : List TextEdit}
    (described : List.Forall₂ Describes values edits) : ∀ edit ∈ edits, edit.find ≠ "" := by
  induction described with
  | nil => simp
  | cons first _ ih => exact List.forall_mem_cons.mpr ⟨first.filled, ih⟩

theorem lists_getD {params : Params} {found : Option (List Value)}
    (read : params.array "edits" = .ok found) : Lists params (found.getD []) := by
  have there := Params.get?_of_array read
  cases found with
  | some values => exact .given ((there values).mp rfl)
  | none => exact .none fun values given => by simpa using (there values).mpr given

theorem isInput_input {options : EditOptions} {params : Params} (state : State)
    (read : params.string "text" = .ok options.text) :
    IsInput params state (options.input state) := by
  have there := Params.get?_of_string read
  -- without a text of its own the editor takes what the output reads as
  have otherwise (none : ∀ own, Fields.get? params.fields "text" = some (.string own) → own = "") :
      IsInput params state (state.outputText?.getD "") := by
    cases output : state.outputText? with
    | some previous => exact .previous none (State.outputText?_eq_some_iff.mp output)
    | none => exact .nothing none (State.outputText?_eq_none_iff.mp output)
  unfold input
  rcases options with ⟨_ | text, format, edits⟩
  · exact otherwise fun own given => by simpa using (there own).mpr given
  · by_cases empty : text = ""
    · subst empty
      refine otherwise fun own given => ?_
      exact (Option.some.inj ((there own).mpr given)).symm
    · have own : IsInput params state text := .own ((there text).mp rfl) empty
      simpa [empty] using own

/-- A format that a text is read as goes by the name that the text gives. -/
theorem named_of_parse? {text : String} {format : TextFormat}
    (parsed : TextFormat.parse? text = some format) :
    let name := Text.lowerAscii (Text.trimString text)
    (format = .plain ∧ name ∈ ["plaintext", "plain", "txt", "text"]) ∨
      (format = .markdown ∧ name ∈ ["markdown", "md"]) ∨ (format = .html ∧ name ∈ ["html"]) := by
  unfold TextFormat.parse? at parsed
  generalize Text.lowerAscii (Text.trimString text) = name at parsed ⊢
  split at parsed <;> cases parsed <;> simp

theorem framed_wrap {params : Params} {format : TextFormat}
    (read : TextFormat.ofParams params = .ok format) (text : String) :
    Framed params text format.name (format.wrap text) := by
  unfold TextFormat.ofParams Params.filledString at read
  obtain ⟨filled, asked, read⟩ := bind_eq_ok_iff.mp read
  obtain ⟨found, named, same⟩ := bind_eq_ok_iff.mp asked
  cases same
  have there := Params.get?_of_string named
  cases shown : Params.filled found with
  | none =>
      rw [shown] at read
      cases read
      refine .plain (.inl fun name given => ?_)
      rw [(there name).mpr given] at shown
      simpa [Params.filled, Text.blankString, Text.allBlank] using shown
  | some name =>
      obtain ⟨rfl, -⟩ := Option.filter_eq_some_iff.mp shown
      have given := (there name).mp rfl
      rw [shown] at read
      cases parsed : TextFormat.parse? name with
      | none => simp [parsed] at read
      | some asked =>
          simp only [parsed] at read
          cases read
          rcases named_of_parse? parsed with ⟨rfl, known⟩ | ⟨rfl, known⟩ | ⟨rfl, known⟩
          · exact .plain (.inr ⟨name, given, known⟩)
          · exact .markdown ⟨name, given, known⟩
          · exact .html ⟨name, given, known⟩

/-! ## Texts -/

theorem toList_ne_nil {text : String} (filled : text ≠ "") : text.toList ≠ [] := by
  simpa using filled

theorem substituted_iff {edit : TextEdit} (filled : edit.find ≠ "") {text result : String} :
    Substituted edit text result ↔ result = applyEdit text edit := by
  have some := toList_ne_nil filled
  rw [applyEdit, Text.replaceString, Text.replace, ← String.toList_inj, String.toList_ofList]
  constructor
  · rintro ⟨parts, splits, made⟩
    rw [made, (Text.splits_iff some).mp splits]
  · intro made
    obtain ⟨parts, splits, -⟩ := Text.existsUnique_splits some text.toList
    exact ⟨parts, splits, by rw [made, (Text.splits_iff some).mp splits]⟩

/-- There is one result of edits that all look for something. -/
theorem edited_iff {edits : List TextEdit} (filled : ∀ edit ∈ edits, edit.find ≠ "")
    {text result : String} : Edited edits text result ↔ result = edits.foldl applyEdit text := by
  induction edits generalizing text with
  | nil =>
      constructor
      · rintro ⟨⟩
        rfl
      · rintro rfl
        exact .nil _
  | cons edit edits ih =>
      obtain ⟨here, later⟩ := List.forall_mem_cons.mp filled
      rw [List.foldl_cons, ← ih later]
      constructor
      · rintro (_ | ⟨first, rest⟩)
        rwa [(substituted_iff here).mp first] at rest
      · exact .cons ((substituted_iff here).mpr rfl)

end EditOptions

end Workflow
