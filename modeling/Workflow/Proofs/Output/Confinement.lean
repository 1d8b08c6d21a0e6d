import Workflow.Engine
import Workflow.Proofs.Chain.Outcome
import Workflow.Proofs.Chain.Registration
import Workflow.Proofs.Files.Changes
import Workflow.Proofs.Node.Footprint

/-!
# Confined output

When output is confined to a root, the path of every file goes on from the root by plain names only.
So what is written lies below the root, and the directories that are made are the root, what leads
to it, and what lies between it and the file. Only the text node and the PDF node write at all.

## Main definitions

* `OutputTarget.IsBelow` — a target goes on from a root by plain names.
* `Confined` — what confined output may add to the files.
* `outputTarget?` — the file that a standard node may write.
* `standard_confined` — standard nodes, and chains of them, add nothing else.
-/

namespace Workflow

open FileTree (AddsOnly placeOf)

/-! ## Targets -/

namespace OutputTarget

/-- The target goes on from a root by plain names, the last of which is that of the file. -/
structure IsBelow (root : String) (names : List String) (target : OutputTarget) : Prop where
  plain : ∀ name ∈ names ++ [target.filename], Path.IsPlainName name
  directory : Path.steps target.directory = Path.steps root ++ names.map .name
  path : Path.steps target.path = Path.steps root ++ (names ++ [target.filename]).map .name

theorem isPlainName_of_isBareName {name : String} (bare : isBareName name = true)
    (counts : name ≠ "") : Path.IsPlainName name := by
  simp only [isBareName, Bool.and_eq_true, Bool.not_eq_true', decide_eq_true_eq] at bare
  obtain ⟨⟨free, notHere⟩, notUp⟩ := bare
  refine ⟨counts, notHere, notUp, fun slash => ?_⟩
  simpa using List.any_eq_false.mp free '/' slash

theorem ne_empty_of_filled {found : Option String} {s : String}
    (is : Params.filled found = some s) : s ≠ "" := by
  rintro rfl
  obtain ⟨-, blank⟩ := Option.filter_eq_some_iff.mp is
  cases blank

/-- A directory that is accepted goes on from the root by plain names. -/
theorem exists_names_of_directoryFor {root temporary directory : String} {asked : Option String}
    (accepted : directoryFor ⟨some root, temporary⟩ asked = .ok directory) :
    ∃ names : List String, Path.steps directory = Path.steps root ++ names.map .name ∧
      ∀ name ∈ names, Path.IsPlainName name := by
  unfold directoryFor at accepted
  cases asked with
  | none =>
      cases accepted
      exact ⟨[], by simp, by simp⟩
  | some path =>
      dsimp only at accepted
      split at accepted
      · rename_i down
        cases accepted
        obtain ⟨relative, names, steps, plain⟩ := Path.exists_names_of_descends down
        exact ⟨names, by rw [Path.steps_join relative, steps], plain⟩
      · cases accepted

/-- A confined target lies below its root. -/
theorem exists_isBelow_of_ofParams {root temporary defaultName : String} {params : Params}
    {target : OutputTarget} (named : defaultName ≠ "")
    (accepted : ofParams params defaultName ⟨some root, temporary⟩ = .ok target) :
    ∃ names, target.IsBelow root names := by
  unfold ofParams at accepted
  obtain ⟨asked, read, accepted⟩ := bind_eq_ok_iff.mp accepted
  have counts : asked.getD defaultName ≠ "" := by
    obtain ⟨found, -, filled⟩ := bind_eq_ok_iff.mp read
    cases filled
    cases is : Params.filled found with
    | none => exact named
    | some s => exact ne_empty_of_filled is
  dsimp only at accepted
  split at accepted
  · cases accepted
  · rename_i bare
    obtain ⟨path, -, accepted⟩ := bind_eq_ok_iff.mp accepted
    obtain ⟨directory, placed, made⟩ := bind_eq_ok_iff.mp accepted
    cases made
    obtain ⟨names, steps, plain⟩ := exists_names_of_directoryFor placed
    have last : Path.IsPlainName (asked.getD defaultName) :=
      isPlainName_of_isBareName (by simpa using bare) counts
    refine ⟨names, ?_, steps, ?_⟩
    · simpa [or_imp, forall_and] using ⟨plain, last⟩
    · rw [OutputTarget.path, Path.steps_join (Path.isAbsolute_of_plain last),
        Path.steps_of_plain last, steps]
      simp

end OutputTarget

/-- What confined output may add: the directories down to that of the file, and the file. -/
inductive Confined (root : String) (names : List String) (filename : String) :
    Place → FileEntry → Prop
  /-- The root, or a directory on the way to it. -/
  | root {front : List Path.Component} (leads : front <+: Path.steps root) :
      Confined root names filename (placeOf front) .directory
  /-- A directory below the root. -/
  | directory {inner : List String} (leads : inner <+: names) :
      Confined root names filename (placeOf (Path.steps root) ++ inner) .directory
  | file (content : String) :
      Confined root names filename (placeOf (Path.steps root) ++ names ++ [filename])
        (.file content)

namespace OutputTarget

variable {root : String} {names : List String} {target : OutputTarget}

/-- The beginnings of the way to the directory end at the root or above, or below the root. -/
theorem confined_of_prefix {front : List Path.Component} (below : target.IsBelow root names)
    (leads : front <+: Path.steps target.directory) :
    Confined root names target.filename (placeOf front) .directory := by
  rw [below.directory] at leads
  rcases List.prefix_or_prefix_of_prefix leads (List.prefix_append _ _) with above | ⟨later, rfl⟩
  · exact .root above
  · obtain ⟨rest, whole⟩ := (List.prefix_append_right_inj _).mp leads
    obtain ⟨inner, others, rfl, rfl, -⟩ := List.map_eq_append_iff.mp whole.symm
    rw [FileTree.placeOf_names]
    exact .directory (List.prefix_append inner others)

/-- Writing a target below a root adds what is confined there, and nothing else. -/
theorem addsOnly_writeInto (below : target.IsBelow root names) (content : String)
    (files : FileTree) :
    AddsOnly (Confined root names target.filename) files (target.writeInto content files).2 := by
  have made : AddsOnly (Confined root names target.filename) files
      (files.makeDirectories target.directory).2 := by
    refine (FileTree.addsOnly_makeDirectories files target.directory).mono ?_
    rintro place entry ⟨rfl, front, leads, rfl⟩
    exact confined_of_prefix below leads
  unfold writeInto
  split
  · rename_i left
    rw [left] at made
    exact made
  · rename_i left
    rw [left] at made
    split
    · exact made
    · rename_i done
      rw [FileTree.write_eq_ok done]
      refine made.trans (FileTree.addsOnly_put ?_)
      rw [below.path, FileTree.placeOf_names, ← List.append_assoc]
      exact .file content

end OutputTarget

/-! ## Nodes -/

namespace Action

variable {allowed : Place → FileEntry → Prop} {α : Type}

/-- Work makes no changes to the files but additions of an allowed kind. -/
def Adds (allowed : Place → FileEntry → Prop) (action : Action α) : Prop :=
  ∀ scene, AddsOnly allowed scene.world.files (action scene).2.world.files

theorem adds_of_files {action : Action α}
    (kept : ∀ scene, (action scene).2.world.files = scene.world.files) : Adds allowed action := by
  intro scene
  rw [kept scene]
  exact .refl _

theorem Quiet.adds {action : Action α} (quiet : Quiet action) : Adds allowed action :=
  adds_of_files fun scene => (quiet scene).2

theorem adds_modifyState (f : State → State) : Adds allowed (modifyState f) :=
  adds_of_files fun _ => rfl

theorem Adds.bind {β : Type} {action : Action α} {next : α → Action β} (first : Adds allowed action)
    (later : ∀ a, Adds allowed (next a)) : Adds allowed (action >>= next) :=
  rel_bind (R := fun before after => AddsOnly allowed before.world.files after.world.files)
    (fun first later => first.trans later) first later

/-- Work within a footprint that writes no file makes no changes to the files. -/
theorem Within.adds {footprint : Footprint} {work : Action Unit} (within : Within footprint work)
    (writes : footprint.writesFile = false) : Adds allowed work :=
  adds_of_files fun scene => (within scene).files writes

end Action

open Workflow.Action

/-- The file that a standard node may write: a text node and a PDF node have one if they accept
their parameters. -/
def outputTarget? (place : OutputPlace) (nodeId : String) (params : Params) :
    Option OutputTarget :=
  if nodeId = "text" then (TextFile.target place params).toOption
  else if nodeId = "pdf" then ((PdfFile.options place params).map Prod.fst).toOption
  else none

theorem OutputTarget.adds_write {allowed : Place → FileEntry → Prop} {target : OutputTarget}
    (fits : ∀ content files, AddsOnly allowed files (target.writeInto content files).2)
    (content : String) : Adds allowed (target.write content) := fun scene =>
  fits content scene.world.files

theorem TextFile.adds_run {place : OutputPlace} {context : Context}
    {allowed : Place → FileEntry → Prop}
    (fits : ∀ target, outputTarget? place "text" context.params = some target →
      ∀ content files, AddsOnly allowed files (target.writeInto content files).2) :
    Adds allowed (TextFile.run place context) := by
  unfold TextFile.run
  cases accepted : TextFile.target place context.params with
  | error failure =>
      rw [lift_bind_of_error rfl]
      exact (quiet_fail failure).adds
  | ok target =>
      rw [lift_bind_of_ok rfl]
      have writes := fits target (by simp [outputTarget?, accepted, Except.toOption])
      refine quiet_state.adds.bind fun state => ?_
      refine (quiet_lift _).adds.bind fun content => ?_
      refine (OutputTarget.adds_write writes content).bind fun _ => ?_
      exact (quiet_info _).adds.bind fun _ => adds_modifyState _

theorem PdfFile.adds_run {place : OutputPlace} {context : Context}
    {allowed : Place → FileEntry → Prop}
    (fits : ∀ target, outputTarget? place "pdf" context.params = some target →
      ∀ content files, AddsOnly allowed files (target.writeInto content files).2) :
    Adds allowed (PdfFile.run place context) := by
  unfold PdfFile.run
  cases accepted : PdfFile.options place context.params with
  | error failure =>
      rw [lift_bind_of_error rfl]
      exact (quiet_fail failure).adds
  | ok options =>
      obtain ⟨target, title⟩ := options
      rw [lift_bind_of_ok rfl]
      have writes := fits target (by
        simp [outputTarget?, accepted, Except.map, Except.toOption])
      refine quiet_state.adds.bind fun state => ?_
      refine (quiet_lift _).adds.bind fun content => ?_
      refine (quiet_lift _).adds.bind fun document => ?_
      refine (OutputTarget.adds_write writes document.text).bind fun _ => ?_
      exact (quiet_info _).adds.bind fun _ => adds_modifyState _

/-- A standard node makes no changes to the files but those of writing its target. -/
theorem adds_run {place : OutputPlace} {endpoints : Endpoints} {node : Node}
    (member : node ∈ standardNodes place endpoints) (context : Context)
    {allowed : Place → FileEntry → Prop}
    (fits : ∀ target, outputTarget? place node.id context.params = some target →
      ∀ content files, AddsOnly allowed files (target.writeInto content files).2) :
    Adds allowed (node.run context) := by
  cases isStandard_iff.mpr member with
  | openAi => exact (OpenAi.within_run _ context).adds rfl
  | openAiAdvanced => exact (OpenAi.within_runAdvanced _ context).adds rfl
  | gemini => exact (Gemini.within_run _ context).adds rfl
  | geminiAdvanced => exact (Gemini.within_runAdvanced _ context).adds rfl
  | claude => exact (Claude.within_run _ context).adds rfl
  | hashnode => exact (Hashnode.within_run _ context).adds rfl
  | email => exact (Email.within_run context).adds rfl
  | webhook => exact (Webhook.within_run context).adds rfl
  | database => exact (Database.within_run context).adds rfl
  | textEditor => exact (within_runTextEditor context).adds rfl
  | textFile => exact TextFile.adds_run fits
  | pdfFile => exact PdfFile.adds_run fits
  | whatsApp => exact (WhatsApp.within_run _ context).adds rfl
  | slack => exact (Slack.within_run _ context).adds rfl
  | videoSummary => exact (VideoSummary.within_run _ _ context).adds rfl

/-! ## Confinement -/

/-- Every target of a confined node lies below the root. -/
theorem exists_isBelow_of_outputTarget? {root temporary nodeId : String} {params : Params}
    {target : OutputTarget}
    (found : outputTarget? ⟨some root, temporary⟩ nodeId params = some target) :
    ∃ names, target.IsBelow root names := by
  unfold outputTarget? at found
  split at found
  · obtain ⟨format, -, accepted⟩ := bind_eq_ok_iff.mp (eq_ok_of_toOption found)
    exact OutputTarget.exists_isBelow_of_ofParams (by simp) accepted
  · split at found
    · obtain ⟨⟨target, title⟩, accepted, rfl⟩ := map_eq_ok_iff.mp (eq_ok_of_toOption found)
      obtain ⟨other, accepted, made⟩ := bind_eq_ok_iff.mp accepted
      obtain ⟨_, -, made⟩ := bind_eq_ok_iff.mp made
      cases made
      exact OutputTarget.exists_isBelow_of_ofParams (by simp) accepted
    · cases found

/-- What a chain of confined nodes may add: what is confined for one of its nodes. -/
def ConfinedAmong (root temporary : String) (nodeIds : List String) (nodeParams : Fields Params)
    (place : Place) (entry : FileEntry) : Prop :=
  ∃ nodeId ∈ nodeIds, ∃ target names,
    outputTarget? ⟨some root, temporary⟩ nodeId (Registry.boundTo nodeParams nodeId) = some target ∧
      target.IsBelow root names ∧ Confined root names target.filename place entry

/-- Confined to a root, a standard node writes no file but its target, which lies below the root,
and makes no directories but those that lead there. So does every chain of them, for its nodes. -/
theorem standard_confined (root temporary : String) (endpoints : Endpoints) :
    (∀ node ∈ standardNodes ⟨some root, temporary⟩ endpoints, ∀ context scene,
      let left := (node.run context scene).2.world.files
      match outputTarget? ⟨some root, temporary⟩ node.id context.params with
      | none => ∀ place, left.entry? place = scene.world.files.entry? place
      | some target => ∃ names, target.IsBelow root names ∧
          AddsOnly (Confined root names target.filename) scene.world.files left) ∧
    ∀ engine : Engine, standardRegistry ⟨some root, temporary⟩ endpoints = .ok engine.registry →
      ∀ nodeIds state world,
        AddsOnly (ConfinedAmong root temporary nodeIds state.nodeParams) world.files
          (engine.execute nodeIds state world).world.files := by
  constructor
  · intro node member context scene left
    cases found : outputTarget? ⟨some root, temporary⟩ node.id context.params with
    | none =>
        -- what is of no kind at all may be added, and that is nothing
        have adds : Adds (fun _ _ => False) (node.run context) :=
          adds_run member context (by simp [found])
        intro place
        rcases adds scene place with same | ⟨_, _, impossible⟩
        · exact same
        · exact impossible.elim
    | some target =>
        obtain ⟨names, below⟩ := exists_isBelow_of_outputTarget? found
        refine ⟨names, below, adds_run member context ?_ scene⟩
        intro other same content files
        obtain rfl := Option.some.inj (found.symm.trans same)
        exact OutputTarget.addsOnly_writeInto below content files
  · intro engine standard nodeIds state world
    unfold Engine.execute
    cases built : engine.build nodeIds (some state.nodeParams) with
    | error refusal => exact .refl _
    | ok chain =>
        have keeps : ∀ step ∈ chain.steps, ∀ scene : Scene,
            AddsOnly (ConfinedAmong root temporary nodeIds state.nodeParams) scene.world.files
              (step.node.run step.context scene).2.world.files := by
          intro step member
          obtain ⟨asked, registered, named, bound, -⟩ := Registry.step_of_build built member
          refine adds_run (Registry.mem_of_ofNodes standard registered) step.context ?_
          intro target found content files
          obtain ⟨names, below⟩ := exists_isBelow_of_outputTarget? found
          refine (OutputTarget.addsOnly_writeInto below content files).mono ?_
          intro place entry confined
          refine ⟨step.nodeId, asked, target, names, ?_, below, confined⟩
          have same : step.context.params = Registry.boundTo state.nodeParams step.nodeId := bound
          rw [← same, ← named]
          exact found
        exact Chain.world_of_run
          (R := fun before after => AddsOnly
            (ConfinedAmong root temporary nodeIds state.nodeParams) before.files after.files)
          (fun world => .refl world.files) (fun first second => first.trans second) keeps
          engine.policy state world

/-- A report two directories below the root, asked for by a way that stays where it is once: it is
written there, and nothing is added elsewhere. -/
theorem standard_confined_report :
    ∃ engine : Engine, standardRegistry ⟨some "out", "/tmp"⟩ {} = .ok engine.registry ∧
      let params : Params := ⟨[("filename", .string "a.txt"), ("save_path", .string "x/./y")]⟩
      let state : State := {
        userQuery := ""
        nodeParams := [("text", params)]
        output := some (.string "done") }
      let target : OutputTarget := ⟨"a.txt", "out/x/./y"⟩
      let left := (engine.execute ["text"] state default).world.files
      outputTarget? ⟨some "out", "/tmp"⟩ "text" params = some target ∧
        target.IsBelow "out" ["x", "y"] ∧
        left.entry? ["out", "x", "y", "a.txt"] = some (.file "done") ∧
        AddsOnly (ConfinedAmong "out" "/tmp" ["text"] state.nodeParams) default left := by
  refine ⟨⟨_, .goOn⟩, rfl, ?_⟩
  intro params state target left
  obtain ⟨-, runs⟩ := standard_confined "out" "/tmp" {}
  refine ⟨?_, ?_, ?_, runs ⟨_, .goOn⟩ rfl ["text"] state default⟩
  · decide +kernel
  · refine ⟨fun name member => ?_, by decide +kernel, by decide +kernel⟩
    have plain : name = "x" ∨ name = "y" ∨ name = "a.txt" := by simpa [target] using member
    rcases plain with rfl | rfl | rfl <;> constructor <;> decide +kernel
  · decide +kernel

end Workflow
