import Workflow.Proofs.Except
import Workflow.Proofs.Node.Calls
import Workflow.Proofs.Node.Standard

/-!
# What nodes touch

A node may touch only so much of the scene, and how much depends on whether it signals a failure. A
failed node leaves output and side notes as they were. The footprint of a node says what else it may
touch; what a run was given is in no node's footprint.

Nearly all work of the standard nodes is quiet, and the one change of the state comes last. So a
footprint is shown part by part: quiet parts do not count, whatever follows them.

## Main definitions

* `Footprint` — what a node may touch beyond the output.
* `Footprint.Permits` — what became of a scene stays within a footprint.
* `Footprint.ofStandard` — the footprint of each standard node.
* `standard_permits` — no standard node leaves its footprint.
-/

namespace Workflow

/-- What a node may touch. -/
structure Footprint where
  /-- The name of its side note, if it leaves one. -/
  note : Option String := none
  /-- It puts something out; else the output stays as it is. -/
  putsOut : Bool := true
  /-- It may record an error while it returns normally. -/
  failsSoftly : Bool := false
  /-- It may record an error before it signals a failure. -/
  recordsFailure : Bool := false
  /-- It may write files. -/
  writesFile : Bool := false
  deriving DecidableEq, Repr

namespace Footprint

/-- A state stays within a footprint, given the state before and the outcome of the work. -/
structure PermitsState (footprint : Footprint) (before : State) (outcome : Except Failure Unit)
    (after : State) : Prop where
  userQuery : after.userQuery = before.userQuery
  credentials : after.credentials = before.credentials
  nodeParams : after.nodeParams = before.nodeParams
  workflowId : after.workflowId = before.workflowId
  /-- A failure leaves output and side notes alone, and may at most be recorded. -/
  failed : ∀ failure, outcome = .error failure →
    after.output = before.output ∧ after.extras = before.extras ∧
      (after.error = before.error ∨ footprint.recordsFailure = true ∧ after.error.isSome = true)
  /-- Work that returns leaves an output, and no side note but its own. -/
  returned : outcome = .ok () →
    (if footprint.putsOut then after.output.isSome = true else after.output = before.output) ∧
      (after.error = before.error ∨ footprint.failsSoftly = true ∧ after.error.isSome = true) ∧
      ∀ name, footprint.note ≠ some name →
        Fields.get? after.extras name = Fields.get? before.extras name

/-- A scene stays within a footprint, given the scene before and the outcome of the work. -/
structure Permits (footprint : Footprint) (before : Scene) (outcome : Except Failure Unit)
    (after : Scene) : Prop extends footprint.PermitsState before.state outcome after.state where
  files : footprint.writesFile = false → after.world.files = before.world.files

/-- The footprints of the standard nodes, by identifier. -/
def ofStandard : String → Footprint
  | "openai/advanced" => { note := some "llm_metadata", recordsFailure := true }
  | "gemini/advanced" => { note := some "llm_metadata", recordsFailure := true }
  | "database" => { note := some "db_metadata", recordsFailure := true }
  | "email" => { failsSoftly := true }
  | "video_summary" => { failsSoftly := true }
  | "text" => { note := some "download", writesFile := true }
  | "pdf" => { note := some "document", writesFile := true }
  | "whatsapp" => { note := some "whatsapp_status", putsOut := false }
  | "slack" => { note := some "slack_ts", putsOut := false }
  | _ => {}

/-! ## Changes of the state -/

variable {footprint : Footprint}

theorem permitsState_refl (failure : Failure) (state : State) :
    footprint.PermitsState state (.error failure) state where
  userQuery := rfl
  credentials := rfl
  nodeParams := rfl
  workflowId := rfl
  failed _ _ := ⟨rfl, rfl, .inl rfl⟩
  returned ok := nomatch ok

/-- A footprint with an output permits to put something out. -/
theorem permitsState_withOutput (puts : footprint.putsOut = true) (state : State) (value : Value) :
    footprint.PermitsState state (.ok ()) (state.withOutput value) where
  userQuery := rfl
  credentials := rfl
  nodeParams := rfl
  workflowId := rfl
  failed _ failed := nomatch failed
  returned _ := ⟨by simp [puts, State.withOutput], .inl rfl, fun _ _ => rfl⟩

/-- A side note leaves the other side notes as they are. -/
theorem get?_withExtra {name other : String} (differs : some name ≠ some other) (state : State)
    (value : Value) :
    Fields.get? (state.withExtra name value).extras other = Fields.get? state.extras other := by
  have differs : other ≠ name := fun same => differs (congrArg some same.symm)
  simp [State.withExtra, Fields.get?_insert, differs]

/-- A footprint with a side note permits to leave it. -/
theorem permitsState_withExtra {name : String} (note : footprint.note = some name)
    (keeps : footprint.putsOut = false) (state : State) (value : Value) :
    footprint.PermitsState state (.ok ()) (state.withExtra name value) where
  userQuery := rfl
  credentials := rfl
  nodeParams := rfl
  workflowId := rfl
  failed _ failed := nomatch failed
  returned _ := ⟨by simp [keeps, State.withExtra], .inl rfl,
    fun _ differs => get?_withExtra (note ▸ differs) state value⟩

theorem permitsState_withExtra_withOutput {name : String} (note : footprint.note = some name)
    (puts : footprint.putsOut = true) (state : State) (extra value : Value) :
    footprint.PermitsState state (.ok ()) ((state.withExtra name extra).withOutput value) where
  userQuery := rfl
  credentials := rfl
  nodeParams := rfl
  workflowId := rfl
  failed _ failed := nomatch failed
  returned _ := ⟨by simp [puts, State.withOutput], .inl rfl,
    fun _ differs => get?_withExtra (note ▸ differs) state extra⟩

theorem permitsState_withError_withOutput (soft : footprint.failsSoftly = true)
    (puts : footprint.putsOut = true) (state : State) (message : String) (value : Value) :
    footprint.PermitsState state (.ok ()) ((state.withError message).withOutput value) where
  userQuery := rfl
  credentials := rfl
  nodeParams := rfl
  workflowId := rfl
  failed _ failed := nomatch failed
  returned _ := ⟨by simp [puts, State.withOutput], .inr ⟨soft, rfl⟩, fun _ _ => rfl⟩

theorem permitsState_withError (records : footprint.recordsFailure = true) (failure : Failure)
    (state : State) (message : String) :
    footprint.PermitsState state (.error failure) (state.withError message) where
  userQuery := rfl
  credentials := rfl
  nodeParams := rfl
  workflowId := rfl
  failed _ _ := ⟨rfl, rfl, .inr ⟨records, rfl⟩⟩
  returned ok := nomatch ok

end Footprint

/-! ## Work within a footprint -/

namespace Action

variable {footprint : Footprint} {α : Type}

/-- Work stays within a footprint, wherever it starts. -/
def Within (footprint : Footprint) (work : Action Unit) : Prop :=
  ∀ scene, footprint.Permits scene (work scene).1 (work scene).2

theorem within_fail (failure : Failure) : Within footprint (fail failure) :=
  fun scene => ⟨Footprint.permitsState_refl failure scene.state, fun _ => rfl⟩

theorem within_modifyState {f : State → State}
    (permits : ∀ state, footprint.PermitsState state (.ok ()) (f state)) :
    Within footprint (modifyState f) :=
  fun scene => ⟨permits scene.state, fun _ => rfl⟩

/-- Work that returns at once, with no output due. -/
theorem within_pure (keeps : footprint.putsOut = false) : Within footprint (pure ()) :=
  fun _ => {
    userQuery := rfl
    credentials := rfl
    nodeParams := rfl
    workflowId := rfl
    failed := fun _ failed => nomatch failed
    returned := fun _ => ⟨by simp [keeps], .inl rfl, fun _ _ => rfl⟩
    files := fun _ => rfl }

/-- A failure recorded and then signalled. -/
theorem within_record (records : footprint.recordsFailure = true) (message : String)
    (failure : Failure) :
    Within footprint (do modifyState (·.withError message); fail failure) :=
  fun scene => ⟨Footprint.permitsState_withError records failure scene.state message, fun _ => rfl⟩

/-- Work may write files behind quiet work if it may write files at all. -/
theorem within_bind_of_state {action : Action α} {next : α → Action Unit}
    (kept : ∀ scene, (action scene).2.state = scene.state)
    (files : footprint.writesFile = false →
      ∀ scene, (action scene).2.world.files = scene.world.files)
    (later : ∀ a, Within footprint (next a)) : Within footprint (action >>= next) := by
  intro scene
  rcases bind_cases action next scene with ⟨failure, -, whole⟩ | ⟨a, -, whole⟩
  · rw [whole]
    refine ⟨?_, fun writes => files writes scene⟩
    rw [kept scene]
    exact Footprint.permitsState_refl failure scene.state
  · have permitted := later a (action scene).2
    rw [whole]
    refine ⟨?_, fun writes => (permitted.files writes).trans (files writes scene)⟩
    rw [← kept scene]
    exact permitted.toPermitsState

/-- Quiet work in front does not count. -/
theorem Quiet.within {action : Action α} {next : α → Action Unit} (quiet : Quiet action)
    (later : ∀ a, Within footprint (next a)) : Within footprint (action >>= next) :=
  within_bind_of_state (fun scene => (quiet scene).1) (fun _ scene => (quiet scene).2) later

theorem Quiet.within_if {asked : Prop} [Decidable asked] {front : Action Unit}
    {work : Action Unit} (quiet : Quiet front) (later : Within footprint work) :
    Within footprint (if asked then front >>= fun _ => work else work) := by
  split
  · exact quiet.within fun _ => later
  · exact later

end Action

open Workflow.Action

/-! ## Models -/

theorem OpenAi.within_run (base : String) (context : Context) :
    Within {} (OpenAi.run base context) := by
  refine quiet_state.within fun state => ?_
  refine (quiet_lift _).within fun key => ?_
  refine (quiet_lift _).within fun asked => ?_
  refine (quiet_info _).within fun _ => ?_
  refine (Chat.quiet_complete _ _ _ _).within fun content => ?_
  exact within_modifyState fun state => Footprint.permitsState_withOutput rfl state _

theorem OpenAi.within_runAdvanced (base : String) (context : Context) :
    Within { note := some "llm_metadata", recordsFailure := true }
      (OpenAi.runAdvanced base context) := by
  refine (quiet_lift _).within fun options => ?_
  refine quiet_state.within fun state => ?_
  refine (quiet_lift _).within fun key => ?_
  refine Quiet.within_if (quiet_info _) ?_
  refine (Chat.quiet_complete _ _ _ _).attempt.within fun outcome => ?_
  cases outcome with
  | ok content =>
      exact within_modifyState fun state =>
        Footprint.permitsState_withExtra_withOutput rfl rfl state _ _
  | error failure => exact within_record rfl _ failure

theorem Gemini.within_run (base : String) (context : Context) :
    Within {} (Gemini.run base context) := by
  refine quiet_state.within fun state => ?_
  refine (quiet_lift _).within fun key => ?_
  refine (quiet_info _).within fun _ => ?_
  refine (Gemini.quiet_generate _ _ _ _).within fun (answer, text) => ?_
  exact within_modifyState fun state => Footprint.permitsState_withOutput rfl state _

theorem Gemini.within_runAdvanced (base : String) (context : Context) :
    Within { note := some "llm_metadata", recordsFailure := true }
      (Gemini.runAdvanced base context) := by
  refine (quiet_lift _).within fun options => ?_
  refine quiet_state.within fun state => ?_
  refine (quiet_lift _).within fun key => ?_
  refine (Gemini.quiet_generate _ _ _ _).attempt.within fun outcome => ?_
  cases outcome with
  | ok generated =>
      exact within_modifyState fun state =>
        Footprint.permitsState_withExtra_withOutput rfl rfl state _ _
  | error failure => exact within_record rfl _ failure

theorem Claude.within_run (base : String) (context : Context) :
    Within {} (Claude.run base context) := by
  refine quiet_state.within fun state => ?_
  refine (quiet_lift _).within fun key => ?_
  refine (quiet_lift _).within fun model => ?_
  refine (quiet_lift _).within fun maxTokens => ?_
  refine (Service.quiet_json _ _).within fun answer => ?_
  cases (answer.at? ["content", "0", "text"]).bind Json.string? with
  | some text => exact within_modifyState fun state => Footprint.permitsState_withOutput rfl state _
  | none => exact within_fail _

theorem VideoSummary.quiet_summary (youTube openAi : String) (options : VideoOptions) :
    Quiet (VideoSummary.summary youTube openAi options) := by
  refine (Transcript.quiet_fetch _ _ _ _).bind fun transcript => ?_
  refine quiet_state.bind fun state => ?_
  refine (quiet_lift _).bind fun key => ?_
  exact Chat.quiet_complete _ _ _ _

theorem VideoSummary.within_run (youTube openAi : String) (context : Context) :
    Within { failsSoftly := true } (VideoSummary.run youTube openAi context) := by
  refine (quiet_lift _).within fun options => ?_
  refine (quiet_info _).within fun _ => ?_
  refine (VideoSummary.quiet_summary _ _ _).attempt.within fun outcome => ?_
  cases outcome with
  | ok summary =>
      exact within_modifyState fun state => Footprint.permitsState_withOutput rfl state _
  | error failure =>
      exact within_modifyState fun state =>
        Footprint.permitsState_withError_withOutput rfl rfl state _ _

/-! ## Messages -/

theorem Hashnode.within_run (endpoint : String) (context : Context) :
    Within {} (Hashnode.run endpoint context) := by
  refine quiet_state.within fun state => ?_
  cases state.outputText? with
  | none => exact within_fail _
  | some content =>
      refine (quiet_lift _).within fun token => ?_
      refine (quiet_lift _).within fun publicationId => ?_
      refine (quiet_lift _).within fun title => ?_
      refine (quiet_lift _).within fun slug => ?_
      refine (Service.quiet_json _ _).within fun answer => ?_
      refine (quiet_lift _).within fun message => ?_
      refine (quiet_info _).within fun _ => ?_
      exact within_modifyState fun state => Footprint.permitsState_withOutput rfl state _

theorem Email.within_run (context : Context) :
    Within { failsSoftly := true } (Email.run context) := by
  refine quiet_state.within fun state => ?_
  cases state.outputText? with
  | none => exact within_fail _
  | some content =>
      refine (quiet_lift _).within fun fields => ?_
      refine (quiet_lift _).within fun settings => ?_
      refine (quiet_lift _).within fun asked => ?_
      refine (quiet_info _).within fun _ => ?_
      refine (Email.quiet_send _ _ _).within fun sent => ?_
      cases sent with
      | ok _ => exact within_modifyState fun state => Footprint.permitsState_withOutput rfl state _
      | error reason =>
          exact within_modifyState fun state =>
            Footprint.permitsState_withError_withOutput rfl rfl state _ _

theorem Webhook.within_run (context : Context) : Within {} (Webhook.run context) := by
  refine quiet_state.within fun state => ?_
  refine (quiet_lift _).within fun url => ?_
  refine (quiet_info _).within fun _ => ?_
  refine (Service.quiet_success _ _).attempt.within fun outcome => ?_
  cases outcome with
  | ok status =>
      refine (quiet_info _).within fun _ => ?_
      exact within_modifyState fun state => Footprint.permitsState_withOutput rfl state _
  | error failure => exact within_fail _

theorem WhatsApp.within_run (base : String) (context : Context) :
    Within { note := some "whatsapp_status", putsOut := false } (WhatsApp.run base context) := by
  refine quiet_state.within fun state => ?_
  refine (quiet_lift _).within fun account => ?_
  refine (quiet_lift _).within fun token => ?_
  refine (quiet_lift _).within fun recipient => ?_
  refine (quiet_lift _).within fun sender => ?_
  refine (Service.quiet_json _ _).within fun answer => ?_
  refine (quiet_info _).within fun _ => ?_
  exact within_modifyState fun state => Footprint.permitsState_withExtra rfl rfl state _

theorem Slack.within_run (endpoint : String) (context : Context) :
    Within { note := some "slack_ts", putsOut := false } (Slack.run endpoint context) := by
  refine quiet_state.within fun state => ?_
  refine (quiet_lift _).within fun token => ?_
  refine (quiet_lift _).within fun channel => ?_
  refine (quiet_lift _).within fun text => ?_
  refine (Service.quiet_json _ _).within fun answer => ?_
  split
  · cases answer.text? "ts" with
    | some stamp =>
        exact within_modifyState fun state => Footprint.permitsState_withExtra rfl rfl state _
    | none => exact within_pure rfl
  · exact within_fail _

/-! ## Databases -/

theorem Database.quiet_operationOn {credential : Value} {params : Params}
    {options : DatabaseOptions} {operation : Action DatabaseResult}
    (made : operationOn credential params options = .ok operation) : Quiet operation := by
  unfold operationOn at made
  split at made
  · obtain ⟨⟨uri, database⟩, -, rfl⟩ := map_eq_ok_iff.mp made
    exact quiet_runDocuments uri database options
  · obtain ⟨url, -, rfl⟩ := map_eq_ok_iff.mp made
    exact quiet_runStatement url options

theorem Database.within_run (context : Context) :
    Within { note := some "db_metadata", recordsFailure := true } (Database.run context) := by
  refine (quiet_lift _).within fun options => ?_
  refine quiet_state.within fun state => ?_
  cases state.credentials.get? options.kind.name with
  | none => exact within_fail _
  | some credential =>
      refine (quiet_info _).within fun _ => ?_
      cases made : operationOn credential context.params options with
      | error failure =>
          rw [lift_bind_of_error rfl]
          exact within_fail failure
      | ok operation =>
          rw [lift_bind_of_ok rfl]
          refine (quiet_operationOn made).attempt.within fun outcome => ?_
          cases outcome with
          | ok result =>
              exact within_modifyState fun state =>
                Footprint.permitsState_withExtra_withOutput rfl rfl state _ _
          | error failure => exact within_record rfl _ failure

/-! ## Texts and files -/

theorem within_runTextEditor (context : Context) : Within {} (runTextEditor context) := by
  refine (quiet_lift _).within fun options => ?_
  refine quiet_state.within fun state => ?_
  exact within_modifyState fun state => Footprint.permitsState_withOutput rfl state _

theorem OutputTarget.state_write (target : OutputTarget) (content : String) (scene : Scene) :
    (target.write content scene).2.state = scene.state := rfl

theorem TextFile.within_run (place : OutputPlace) (context : Context) :
    Within { note := some "download", writesFile := true } (TextFile.run place context) := by
  refine (quiet_lift _).within fun target => ?_
  refine quiet_state.within fun state => ?_
  refine (quiet_lift _).within fun content => ?_
  refine within_bind_of_state (target.state_write content) nofun fun _ => ?_
  refine (quiet_info _).within fun _ => ?_
  exact within_modifyState fun state =>
    Footprint.permitsState_withExtra_withOutput rfl rfl state _ _

theorem PdfFile.within_run (place : OutputPlace) (context : Context) :
    Within { note := some "document", writesFile := true } (PdfFile.run place context) := by
  refine (quiet_lift _).within fun (target, title) => ?_
  refine quiet_state.within fun state => ?_
  refine (quiet_lift _).within fun content => ?_
  refine (quiet_lift _).within fun document => ?_
  refine within_bind_of_state (target.state_write document.text) nofun fun _ => ?_
  refine (quiet_info _).within fun _ => ?_
  exact within_modifyState fun state =>
    Footprint.permitsState_withExtra_withOutput rfl rfl state _ _

/-! ## All standard nodes -/

/-- Every standard node stays within its footprint, each for its own reasons. -/
theorem within_ofStandard {place : OutputPlace} {endpoints : Endpoints} {node : Node}
    (member : node ∈ standardNodes place endpoints) (context : Context) :
    Within (Footprint.ofStandard node.id) (node.run context) := by
  cases isStandard_iff.mpr member with
  | openAi => exact OpenAi.within_run _ context
  | openAiAdvanced => exact OpenAi.within_runAdvanced _ context
  | gemini => exact Gemini.within_run _ context
  | geminiAdvanced => exact Gemini.within_runAdvanced _ context
  | claude => exact Claude.within_run _ context
  | hashnode => exact Hashnode.within_run _ context
  | email => exact Email.within_run context
  | webhook => exact Webhook.within_run context
  | database => exact Database.within_run context
  | textEditor => exact within_runTextEditor context
  | textFile => exact TextFile.within_run place context
  | pdfFile => exact PdfFile.within_run place context
  | whatsApp => exact WhatsApp.within_run _ context
  | slack => exact Slack.within_run _ context
  | videoSummary => exact VideoSummary.within_run _ _ context

/-- No standard node leaves its footprint, whatever it is told, finds or is answered. -/
theorem standard_permits {place : OutputPlace} {endpoints : Endpoints} {node : Node}
    (member : node ∈ standardNodes place endpoints) (context : Context) (scene : Scene) :
    (Footprint.ofStandard node.id).Permits scene (node.run context scene).1
      (node.run context scene).2 :=
  within_ofStandard member context scene

/-- A database that cannot be reached: the failure is recorded, and output and side notes stay. -/
theorem standard_permits_unreachable :
    let context : Context := ⟨"database", 0, ⟨[("query", .string "SELECT 1")]⟩⟩
    let scene : Scene := ⟨{
      userQuery := "How many?"
      credentials := ⟨[("postgresql", .string "postgres://db.test/orders")]⟩
      output := some (.string "draft")
      extras := [("slack_ts", .string "1.5")] }, default, []⟩
    let left := database.run context scene
    database ∈ standardNodes {} ∧ left.1 = .error Database.broken ∧
      left.2.state.output = some (.string "draft") ∧
      left.2.state.extras = [("slack_ts", .string "1.5")] ∧
      left.2.state.error = some "Database error: <db>" ∧ left.2.world.files.entries = [] := by
  intro context scene left
  have member : database ∈ standardNodes {} := by simp [standardNodes]
  have failed : left.1 = .error Database.broken := rfl
  have permitted := standard_permits member context scene
  obtain ⟨output, extras, -⟩ := permitted.failed Database.broken failed
  exact ⟨member, failed, output, extras, rfl, congrArg FileTree.entries (permitted.files rfl)⟩

end Workflow
