import Workflow.Proofs.Except
import Workflow.Proofs.Node.Calls
import Workflow.StandardNodes

/-!
# Parameters that were accepted

A node's parameters are checked before any node runs, and read again when it runs. A node that reads
them the same way both times never blames one in its run: what it read once it reads again, and its
other failures are about credentials, inputs and peers.

## Main definitions

* `BlamesNoParam` — a computation that does not fail because of a parameter.
* `OpenAi.sparesParams_run`, … — nodes that have accepted their parameters blame none in their run.
-/

namespace Workflow

open Workflow.Action

/-! ## Reading parameters and credentials -/

/-- A computation that does not fail because of a parameter. -/
abbrev BlamesNoParam {α : Type} (result : Except Failure α) : Prop :=
  ErrorIs (fun failure => failure.blamesParams = false) result

namespace Params
variable {params : Params} {name : String}

theorem filledString_eq (params : Params) (name : String) :
    params.filledString name = (params.string name).map filled := by
  unfold filledString
  cases params.string name <;> rfl

/-- What reads as a string for the check reads as a string again. -/
theorem filledString_of_string {found : Option String} (read : params.string name = .ok found) :
    params.filledString name = .ok (filled found) := by
  simp [filledString_eq, read, Except.map]

/-- What is read under a name is what stands there, in the shape that was asked for. -/
theorem eq_bind_of_typed {α : Type} {expected : String} {extract : Value → Option α}
    {found : Option α} (read : params.typed name expected extract = .ok found) :
    found = (params.get? name).bind extract := by
  unfold typed at read
  cases there : params.get? name with
  | none =>
      simp only [there] at read
      cases read
      rfl
  | some value =>
      cases taken : extract value with
      | none => simp [there, taken] at read
      | some a =>
          simp only [there, taken] at read
          cases read
          simp [taken]

theorem get?_of_string {found : Option String} (read : params.string name = .ok found)
    (s : String) : found = some s ↔ Fields.get? params.fields name = some (.string s) := by
  rw [eq_bind_of_typed read, get?]
  cases Fields.get? params.fields name with
  | none => simp
  | some value => cases value <;> simp [Option.filter_some, Value.isNull, Value.string?]

theorem get?_of_array {found : Option (List Value)} (read : params.array name = .ok found)
    (values : List Value) :
    found = some values ↔ Fields.get? params.fields name = some (.array values) := by
  rw [eq_bind_of_typed read, get?]
  cases Fields.get? params.fields name with
  | none => simp
  | some value => cases value <;> simp [Option.filter_some, Value.isNull, Value.array?]

/-- A parameter of the wrong type is to blame. -/
theorem blames_of_string {failure : Failure} (failed : params.string name = .error failure) :
    failure.blamesParams = true := by
  unfold string typed at failed
  split at failed
  · cases failed
  · split at failed
    · cases failed
    · cases failed
      rfl

end Params

theorem Credentials.blamesNoParam_require {α : Type} (provider : String) (found : Option α) :
    BlamesNoParam (Credentials.require provider found) := by
  cases found with
  | some a => exact errorIs_ok a
  | none => exact errorIs_error rfl

theorem blamesNoParam_documentText (state : State) : BlamesNoParam (documentText state) := by
  unfold documentText
  cases documentText? state with
  | some text => exact errorIs_ok text
  | none => exact errorIs_error rfl

namespace Action

variable {α : Type} {result : Except Failure α} {a : α}

/-- Reading again what could be read before does not fail. -/
theorem sparesParams_lift_ok (ok : result = .ok a) : SparesParams (liftM result : Action α) := by
  subst ok
  exact failsWith_lift (errorIs_ok a)

theorem sparesParams_lift (spares : BlamesNoParam result) :
    SparesParams (liftM result : Action α) := failsWith_lift spares

/-- A failure recorded and then signalled. -/
theorem sparesParams_record {failure : Failure} (spares : failure.blamesParams = false)
    (message : String) :
    SparesParams (do modifyState (·.withError message); fail failure : Action Unit) :=
  (failsWith_modifyState _).bind fun _ => failsWith_fail spares

/-- What is done with the outcome of an attempt decides which failures there are. -/
theorem FailsWith.bind_attempt {β : Type} {P Q : Failure → Prop} {action : Action α}
    {next : Except Failure α → Action β} (first : FailsWith Q action)
    (later : ∀ outcome, ErrorIs Q outcome → FailsWith P (next outcome)) :
    FailsWith P (action.attempt >>= next) := by
  intro scene failure failed
  rw [attempt_bind_apply] at failed
  exact later _ (first scene) _ failure failed

end Action

/-! ## Models -/

theorem OpenAi.sparesParams_run {base : String} {context : Context}
    (accepted : (openAi base).check context.params = .ok ()) :
    SparesParams (OpenAi.run base context) := by
  obtain ⟨model, read, -⟩ := map_eq_ok_iff.mp accepted
  refine failsWith_state.bind fun state => ?_
  refine (sparesParams_lift (Credentials.blamesNoParam_require _ _)).bind fun key => ?_
  refine (sparesParams_lift_ok (Params.filledString_of_string read)).bind fun asked => ?_
  refine (failsWith_info _).bind fun _ => ?_
  refine (Chat.sparesParams_complete _ _ _ _).bind fun content => ?_
  exact failsWith_modifyState _

theorem OpenAi.blamesNoParam_keyFor (credentials : Credentials) (options : ChatOptions) :
    BlamesNoParam (OpenAi.keyFor credentials options) := by
  unfold OpenAi.keyFor
  split
  · exact errorIs_ok _
  · exact errorIs_ok _
  · exact errorIs_error rfl

theorem OpenAi.sparesParams_runAdvanced {base : String} {context : Context}
    (accepted : (openAiAdvanced base).check context.params = .ok ()) :
    SparesParams (OpenAi.runAdvanced base context) := by
  obtain ⟨options, read, -⟩ := map_eq_ok_iff.mp accepted
  refine (sparesParams_lift_ok read).bind fun options => ?_
  refine failsWith_state.bind fun state => ?_
  refine (sparesParams_lift (OpenAi.blamesNoParam_keyFor _ options)).bind fun key => ?_
  refine FailsWith.bind_if (failsWith_info _) ?_
  refine (Chat.sparesParams_complete _ _ _ _).bind_attempt fun outcome spared => ?_
  cases outcome with
  | ok content => exact failsWith_modifyState _
  | error failure => exact sparesParams_record (spared failure rfl) _

theorem Gemini.sparesParams_run (base : String) (context : Context) :
    SparesParams (Gemini.run base context) := by
  refine failsWith_state.bind fun state => ?_
  refine (sparesParams_lift (Credentials.blamesNoParam_require _ _)).bind fun key => ?_
  refine (failsWith_info _).bind fun _ => ?_
  refine (Gemini.sparesParams_generate _ _ _ _).bind fun (answer, text) => ?_
  exact failsWith_modifyState _

theorem Gemini.sparesParams_runAdvanced {base : String} {context : Context}
    (accepted : (geminiAdvanced base).check context.params = .ok ()) :
    SparesParams (Gemini.runAdvanced base context) := by
  obtain ⟨options, read, -⟩ := map_eq_ok_iff.mp accepted
  refine (sparesParams_lift_ok read).bind fun options => ?_
  refine failsWith_state.bind fun state => ?_
  refine (sparesParams_lift (Credentials.blamesNoParam_require _ _)).bind fun key => ?_
  refine (Gemini.sparesParams_generate _ _ _ _).bind_attempt fun outcome spared => ?_
  cases outcome with
  | ok generated => exact failsWith_modifyState _
  | error failure => exact sparesParams_record (spared failure rfl) _

theorem Claude.sparesParams_run {base : String} {context : Context}
    (accepted : (claude base).check context.params = .ok ()) :
    SparesParams (Claude.run base context) := by
  obtain ⟨model, readModel, accepted⟩ := bind_eq_ok_iff.mp accepted
  obtain ⟨maxTokens, readTokens, -⟩ := bind_eq_ok_iff.mp accepted
  refine failsWith_state.bind fun state => ?_
  refine (sparesParams_lift (Credentials.blamesNoParam_require _ _)).bind fun key => ?_
  refine (sparesParams_lift_ok (Params.filledString_of_string readModel)).bind fun model => ?_
  refine (sparesParams_lift_ok readTokens).bind fun maxTokens => ?_
  refine (Service.sparesParams_json _ _).bind fun answer => ?_
  cases (answer.at? ["content", "0", "text"]).bind Json.string? with
  | some text => exact failsWith_modifyState _
  | none => exact failsWith_fail rfl

/-- What goes wrong with a summary is put out; the node itself does not fail. -/
theorem VideoSummary.sparesParams_run {youTube openAi : String} {context : Context}
    (accepted : (videoSummary youTube openAi).check context.params = .ok ()) :
    SparesParams (VideoSummary.run youTube openAi context) := by
  obtain ⟨options, read, -⟩ := map_eq_ok_iff.mp accepted
  refine (sparesParams_lift_ok read).bind fun options => ?_
  refine (failsWith_info _).bind fun _ => ?_
  refine (failsWith_attempt _).bind fun outcome => ?_
  cases outcome <;> exact failsWith_modifyState _

/-! ## Messages -/

theorem Hashnode.blamesNoParam_outcome (draft : Draft) (answer : Json) :
    BlamesNoParam (draft.outcome answer) := by
  unfold Draft.outcome
  split
  · exact errorIs_error rfl
  · split
    · exact errorIs_error rfl
    · exact errorIs_ok _

theorem Hashnode.sparesParams_run {endpoint : String} {context : Context}
    (accepted : (hashnode endpoint).check context.params = .ok ()) :
    SparesParams (Hashnode.run endpoint context) := by
  obtain ⟨title, readTitle, accepted⟩ := bind_eq_ok_iff.mp accepted
  obtain ⟨slug, readSlug, -⟩ := bind_eq_ok_iff.mp accepted
  refine failsWith_state.bind fun state => ?_
  cases state.outputText? with
  | none => exact failsWith_fail rfl
  | some content =>
      refine (sparesParams_lift (Credentials.blamesNoParam_require _ _)).bind fun token => ?_
      refine (sparesParams_lift (Credentials.blamesNoParam_require _ _)).bind fun blog => ?_
      refine (sparesParams_lift_ok (Params.filledString_of_string readTitle)).bind fun title => ?_
      refine (sparesParams_lift_ok (Params.filledString_of_string readSlug)).bind fun slug => ?_
      refine (Service.sparesParams_json _ _).bind fun answer => ?_
      refine (sparesParams_lift (Hashnode.blamesNoParam_outcome _ answer)).bind fun message => ?_
      refine (failsWith_info _).bind fun _ => ?_
      exact failsWith_modifyState _

theorem MailSettings.blamesNoParam_required (fields : Fields Value) (name : String) :
    BlamesNoParam (MailSettings.required fields name) := by
  unfold MailSettings.required
  split
  · exact errorIs_ok _
  · exact errorIs_error rfl

theorem MailSettings.blamesNoParam_ofFields (fields : Fields Value) :
    BlamesNoParam (MailSettings.ofFields fields) := by
  refine .bind (errorIs_mapError ?isSpared _) fun port _ => ?_
  case isSpared => exact fun _ => rfl
  refine (MailSettings.blamesNoParam_required fields _).bind fun server _ => ?_
  refine (MailSettings.blamesNoParam_required fields _).bind fun username _ => ?_
  refine (MailSettings.blamesNoParam_required fields _).bind fun password _ => ?_
  refine (MailSettings.blamesNoParam_required fields _).bind fun sender _ => ?_
  refine (MailSettings.blamesNoParam_required fields _).bind fun recipient _ => ?_
  exact errorIs_ok _

theorem Email.sparesParams_run {context : Context}
    (accepted : email.check context.params = .ok ()) : SparesParams (Email.run context) := by
  obtain ⟨subject, read, -⟩ := map_eq_ok_iff.mp accepted
  refine failsWith_state.bind fun state => ?_
  cases state.outputText? with
  | none => exact failsWith_fail rfl
  | some content =>
      refine (sparesParams_lift (Credentials.blamesNoParam_require _ _)).bind fun fields => ?_
      refine (sparesParams_lift (MailSettings.blamesNoParam_ofFields fields)).bind
        fun settings => ?_
      refine (sparesParams_lift_ok (Params.filledString_of_string read)).bind fun asked => ?_
      refine (failsWith_info _).bind fun _ => ?_
      refine (Email.failsWith_send _ _ _).bind fun sent => ?_
      cases sent <;> exact failsWith_modifyState _

theorem Webhook.sparesParams_run (context : Context) : SparesParams (Webhook.run context) := by
  refine failsWith_state.bind fun state => ?_
  refine (sparesParams_lift (Credentials.blamesNoParam_require _ _)).bind fun url => ?_
  refine (failsWith_info _).bind fun _ => ?_
  refine (failsWith_attempt _).bind fun outcome => ?_
  cases outcome with
  | ok status => exact (failsWith_info _).bind fun _ => failsWith_modifyState _
  | error failure => exact failsWith_fail rfl

theorem WhatsApp.sparesParams_run {base : String} {context : Context}
    (accepted : (whatsApp base).check context.params = .ok ()) :
    SparesParams (WhatsApp.run base context) := by
  obtain ⟨recipient, readRecipient, accepted⟩ := bind_eq_ok_iff.mp accepted
  obtain ⟨sender, readSender, -⟩ := bind_eq_ok_iff.mp accepted
  have senderFor : ∀ credentials, BlamesNoParam (senderFor context.params credentials) := by
    intro credentials
    unfold WhatsApp.senderFor
    rw [Params.filledString_of_string readSender]
    cases Params.filled sender with
    | some number => exact errorIs_ok number
    | none => exact Credentials.blamesNoParam_require _ _
  refine failsWith_state.bind fun state => ?_
  refine (sparesParams_lift (Credentials.blamesNoParam_require _ _)).bind fun account => ?_
  refine (sparesParams_lift (Credentials.blamesNoParam_require _ _)).bind fun token => ?_
  refine (sparesParams_lift_ok readRecipient).bind fun recipient => ?_
  refine (sparesParams_lift (senderFor _)).bind fun sender => ?_
  refine (Service.sparesParams_json _ _).bind fun answer => ?_
  refine (failsWith_info _).bind fun _ => ?_
  exact failsWith_modifyState _

theorem Slack.sparesParams_run {endpoint : String} {context : Context}
    (accepted : (slack endpoint).check context.params = .ok ()) :
    SparesParams (Slack.run endpoint context) := by
  obtain ⟨channel, readChannel, accepted⟩ := bind_eq_ok_iff.mp accepted
  obtain ⟨message, readMessage, -⟩ := bind_eq_ok_iff.mp accepted
  have textFor : ∀ state, BlamesNoParam (textFor context.params state) := by
    intro state
    unfold Slack.textFor
    rw [Params.filledString_of_string readMessage]
    cases Params.filled message with
    | some message => exact errorIs_ok message
    | none =>
        cases state.outputText? with
        | some text => exact errorIs_ok text
        | none => exact errorIs_error rfl
  refine failsWith_state.bind fun state => ?_
  refine (sparesParams_lift (Credentials.blamesNoParam_require _ _)).bind fun token => ?_
  refine (sparesParams_lift_ok readChannel).bind fun channel => ?_
  refine (sparesParams_lift (textFor state)).bind fun text => ?_
  refine (Service.sparesParams_json _ _).bind fun answer => ?_
  split
  · cases answer.text? "ts" with
    | some stamp => exact failsWith_modifyState _
    | none => exact failsWith_pure _
  · exact failsWith_fail rfl

/-! ## Texts and files -/

theorem sparesParams_runTextEditor {context : Context}
    (accepted : textEditor.check context.params = .ok ()) :
    SparesParams (runTextEditor context) := by
  obtain ⟨options, read, -⟩ := map_eq_ok_iff.mp accepted
  refine (sparesParams_lift_ok read).bind fun options => ?_
  exact failsWith_state.bind fun state => failsWith_modifyState _

/-- A file that cannot be written is a failed execution. -/
theorem OutputTarget.sparesParams_write (target : OutputTarget) (content : String) :
    SparesParams (target.write content) := by
  intro scene failure failed
  change (target.writeInto content scene.world.files).1 = .error failure at failed
  unfold OutputTarget.writeInto at failed
  split at failed
  · cases failed
    rfl
  · split at failed
    · cases failed
      rfl
    · cases failed

theorem Pdf.blamesNoParam_render (title : Option String) (content : String) :
    BlamesNoParam (Pdf.render title content) := by
  unfold Pdf.render
  split
  · exact errorIs_error rfl
  · exact errorIs_ok _

theorem TextFile.sparesParams_run {place : OutputPlace} {context : Context}
    (accepted : (textFile place).check context.params = .ok ()) :
    SparesParams (TextFile.run place context) := by
  obtain ⟨target, read, -⟩ := map_eq_ok_iff.mp accepted
  refine (sparesParams_lift_ok read).bind fun target => ?_
  refine failsWith_state.bind fun state => ?_
  refine (sparesParams_lift (blamesNoParam_documentText state)).bind fun content => ?_
  refine (OutputTarget.sparesParams_write target content).bind fun _ => ?_
  exact (failsWith_info _).bind fun _ => failsWith_modifyState _

theorem PdfFile.sparesParams_run {place : OutputPlace} {context : Context}
    (accepted : (pdfFile place).check context.params = .ok ()) :
    SparesParams (PdfFile.run place context) := by
  obtain ⟨options, read, -⟩ := map_eq_ok_iff.mp accepted
  refine (sparesParams_lift_ok read).bind fun (target, title) => ?_
  refine failsWith_state.bind fun state => ?_
  refine (sparesParams_lift (blamesNoParam_documentText state)).bind fun content => ?_
  refine (sparesParams_lift (Pdf.blamesNoParam_render title content)).bind fun document => ?_
  refine (OutputTarget.sparesParams_write target document.text).bind fun _ => ?_
  exact (failsWith_info _).bind fun _ => failsWith_modifyState _

end Workflow
