import Workflow.Output.PdfFile
import Workflow.Output.TextFile
import Workflow.Proofs.Except
import Workflow.Proofs.Fields
import Workflow.Proofs.Files.Writing
import Workflow.Proofs.Node.Actions
import Workflow.Proofs.Rendering

/-!
# Files as they are reported

The nodes that save a document make its directory, write the file and report the name and the size
of what they have written. If there is nothing to write they have not touched the files yet.

## Main definitions

* `IsDocument` — the text of the previous output that is to be saved.
* `OutputTarget.IsReport` — a report tells of a file and its content.
* `OutputTarget.saveThenReport` — what the two nodes do once they have a content.
* `TextFile.run_cases`, `PdfFile.run_cases` — they have none, or that is what they do.
* `saved_as_reported` — what the two nodes write and what they report.
-/

namespace Workflow

open Workflow.Action
open FileTree (OnlyMakes Saved)

/-- The text to save: that under `text` of an object, if there is one, and else what the previous
output reads as, which is nothing if it is null or blank. -/
inductive IsDocument (state : State) : String → Prop
  | field {fields : Fields Value} {text : String} (output : state.output = some (.object fields))
      (there : Fields.get? fields "text" = some (.string text)) : IsDocument state text
  | whole {text : String}
      (none : ∀ fields own, state.output = some (.object fields) →
        Fields.get? fields "text" ≠ some (.string own))
      (renders : state.Renders text) : IsDocument state text

theorem documentText?_eq_some_iff {state : State} {text : String} :
    documentText? state = some text ↔ IsDocument state text := by
  have field : ∀ own, (state.output.bind (·.get? "text")).bind Value.string? = some own ↔
      ∃ fields, state.output = some (.object fields) ∧
        Fields.get? fields "text" = some (.string own) := by
    intro own
    constructor
    · intro found
      obtain ⟨value, inside, isString⟩ := Option.bind_eq_some_iff.mp found
      obtain ⟨output, put, inside⟩ := Option.bind_eq_some_iff.mp inside
      obtain ⟨fields, isObject, there⟩ := Option.bind_eq_some_iff.mp inside
      cases value <;> cases isString
      cases output <;> cases isObject
      exact ⟨fields, put, there⟩
    · rintro ⟨fields, put, there⟩
      simp [put, Value.get?, Value.object?, there, Value.string?]
  unfold documentText?
  cases own : (state.output.bind (·.get? "text")).bind Value.string? with
  | some other =>
      obtain ⟨fields, put, there⟩ := (field other).mp own
      constructor
      · rintro ⟨⟩
        exact .field put there
      · rintro (⟨put', there'⟩ | ⟨none, -⟩)
        · exact own.symm.trans ((field text).mpr ⟨_, put', there'⟩)
        · exact absurd there (none fields other put)
  | none =>
      constructor
      · intro filled
        refine .whole (fun fields other put there => ?_) (State.outputText?_eq_some_iff.mp filled)
        cases own.symm.trans ((field other).mpr ⟨fields, put, there⟩)
      · rintro (⟨put, there⟩ | ⟨-, renders⟩)
        · cases own.symm.trans ((field text).mpr ⟨_, put, there⟩)
        · exact State.outputText?_eq_some_iff.mpr renders

theorem documentText_eq_ok_iff {state : State} {text : String} :
    documentText state = .ok text ↔ IsDocument state text := by
  rw [← documentText?_eq_some_iff, documentText]
  cases documentText? state <;> simp

namespace OutputTarget

variable {target : OutputTarget} {content : String}

/-- A report tells the path and the name of a file, and how many bytes its content has. -/
structure IsReport (target : OutputTarget) (content : String) (report : Value) : Prop where
  filepath : report.get? "filepath" = some (.string target.path)
  filename : report.get? "filename" = some (.string target.filename)
  size : report.get? "size_bytes" = some (.ofNat content.toUTF8.size)

/-- A file that is written is saved where its path leads, and nothing else is changed. -/
theorem saved_of_writeInto {files : FileTree} (done : (target.writeInto content files).1 = .ok ()) :
    Saved target.path content files (target.writeInto content files).2 := by
  have made := FileTree.onlyMakes_makeDirectories files target.directory
  unfold writeInto at done ⊢
  split at done
  · cases done
  · rename_i left
    rw [left] at made
    split at done
    · cases done
    · rename_i written
      exact made.saved (FileTree.saved_of_write written)

theorem isReport_summary (target : OutputTarget) (content : String) :
    IsReport target content (.object (target.summary content.utf8ByteSize)) :=
  ⟨rfl, rfl, rfl⟩

theorem isReport_summary_insert (target : OutputTarget) (content : String) (pages : Value) :
    IsReport target content
      (.object ((target.summary content.utf8ByteSize).insert "pages" pages)) :=
  ⟨rfl, rfl, rfl⟩

/-- A content is saved first, and reported then. -/
def saveThenReport (target : OutputTarget) (content message note : String) (report : Value) :
    Action Unit := do
  target.write content
  Action.info message
  Action.modifyState fun state => (state.withExtra note report).withOutput report

theorem saved_of_saveThenReport {scene : Scene} {message note : String} {report : Value}
    (ok : (target.saveThenReport content message note report scene).1 = .ok ()) :
    let left := target.saveThenReport content message note report scene
    Saved target.path content scene.world.files left.2.world.files ∧
      left.2.state.output = some report ∧
      Fields.get? left.2.state.extras note = some report := by
  unfold saveThenReport at ok ⊢
  rcases bind_cases (target.write content) _ scene with ⟨failure, -, whole⟩ | ⟨_, done, whole⟩
  · rw [whole] at ok
    cases ok
  · rw [whole]
    refine ⟨saved_of_writeInto done, rfl, ?_⟩
    simp [Action.info, Action.notice, Action.modifyState, bind_apply, State.withOutput,
      State.withExtra, Fields.get?_insert]

end OutputTarget

/-! ## Runs -/

/-- A run of the text node fails before it has done anything, or it has a text to save. -/
theorem TextFile.run_cases {place : OutputPlace} {context : Context} {target : OutputTarget}
    (read : TextFile.target place context.params = .ok target) (scene : Scene) :
    (∃ failure, run place context scene = (.error failure, scene)) ∨
      ∃ text, IsDocument scene.state text ∧ run place context scene =
        target.saveThenReport text (wrote text.utf8ByteSize target.path) "download"
          (.object (target.summary text.utf8ByteSize)) scene := by
  rw [run, lift_bind_of_ok read, state_bind_apply]
  cases found : documentText scene.state with
  | error failure =>
      rw [lift_bind_of_error rfl]
      exact .inl ⟨failure, rfl⟩
  | ok text =>
      rw [lift_bind_of_ok rfl]
      exact .inr ⟨text, documentText_eq_ok_iff.mp found, rfl⟩

/-- A run of the PDF node fails before it has done anything, or it has a document to save. -/
theorem PdfFile.run_cases {place : OutputPlace} {context : Context} {target : OutputTarget}
    {title : Option String} (read : PdfFile.options place context.params = .ok (target, title))
    (scene : Scene) :
    (∃ failure, run place context scene = (.error failure, scene)) ∨
      ∃ text document, IsDocument scene.state text ∧ Pdf.render title text = .ok document ∧
        run place context scene =
          target.saveThenReport document.text (rendered document.pages target.path) "document"
            (.object ((target.summary document.text.utf8ByteSize).insert "pages"
              (.ofNat document.pages))) scene := by
  rw [run, lift_bind_of_ok read]
  dsimp only
  rw [state_bind_apply]
  cases found : documentText scene.state with
  | error failure =>
      rw [lift_bind_of_error rfl]
      exact .inl ⟨failure, rfl⟩
  | ok text =>
      rw [lift_bind_of_ok rfl]
      cases made : Pdf.render title text with
      | error failure =>
          rw [lift_bind_of_error rfl]
          exact .inl ⟨failure, rfl⟩
      | ok document =>
          rw [lift_bind_of_ok rfl]
          exact .inr ⟨text, document, documentText_eq_ok_iff.mp found, made, rfl⟩

end Workflow
