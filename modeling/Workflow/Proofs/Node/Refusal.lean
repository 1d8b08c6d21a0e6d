import Workflow.Proofs.Node.Parameters
import Workflow.Proofs.Node.Standard

/-!
# Parameters that are rejected

A node checks its parameters before a chain is built, but it may also be run without that. It then
reads again all that the check reads, and does so before it gives notice, sends anything, writes a
file or changes the state. So parameters that the check rejects are of no effect but a failure.

That failure is the one of the check, unless the run finds out first that it lacks an input or a
credential.

## Main definitions

* `Action.Refuses failure` — work that only fails, with that failure or for lack of something else.
* `OpenAi.refuses_run`, … — nodes refuse what their checks reject.
* `standard_refuses` — all standard nodes do.
-/

namespace Workflow

namespace Action

variable {α β : Type} {failure : Failure}

/-- Work that fails on every scene and leaves all of it as it was. It fails as expected, or for a
reason that has nothing to do with parameters. -/
def Refuses (failure : Failure) (action : Action α) : Prop :=
  ∀ scene, ∃ signalled, action scene = (.error signalled, scene) ∧
    (signalled = failure ∨ signalled.blamesParams = false)

theorem refuses_fail {other : Failure} (spares : other.blamesParams = false) :
    Refuses failure (fail other : Action α) := fun _ => ⟨other, rfl, .inr spares⟩

/-- To look at the state is no effect. -/
theorem refuses_state_bind {next : State → Action β}
    (later : ∀ state, Refuses failure (next state)) : Refuses failure (state >>= next) :=
  fun scene => later scene.state scene

/-- What fails in front ends the work there. -/
theorem refuses_of_error {result : Except Failure α} (failed : result = .error failure)
    (next : α → Action β) : Refuses failure ((liftM result : Action α) >>= next) := by
  rw [lift_bind_of_error failed]
  exact fun _ => ⟨failure, rfl, .inl rfl⟩

theorem refuses_of_ok {result : Except Failure α} {a : α} (ok : result = .ok a)
    {next : α → Action β} (later : Refuses failure (next a)) :
    Refuses failure ((liftM result : Action α) >>= next) := by
  rw [lift_bind_of_ok ok]
  exact later

/-- Something else than a parameter is asked for in front; it may be lacking or not. -/
theorem refuses_lift_bind {result : Except Failure α} (spares : BlamesNoParam result)
    {next : α → Action β} (later : ∀ a, Refuses failure (next a)) :
    Refuses failure ((liftM result : Action α) >>= next) := by
  cases found : result with
  | error other =>
      rw [lift_bind_of_error rfl]
      exact refuses_fail (spares other found)
  | ok a =>
      rw [lift_bind_of_ok rfl]
      exact later a

end Action

open Workflow.Action

variable {failure : Failure}

/-- What cannot be read as a string cannot be read as a filled string either. -/
theorem Params.filledString_of_error {params : Params} {name : String}
    (failed : params.string name = .error failure) : params.filledString name = .error failure := by
  rw [filledString_eq, map_eq_error_iff]
  exact failed

/-! ## Models -/

theorem OpenAi.refuses_run {base : String} {context : Context}
    (rejected : (openAi base).check context.params = .error failure) :
    Refuses failure (OpenAi.run base context) := by
  have failed := map_eq_error_iff.mp rejected
  refine refuses_state_bind fun state => ?_
  refine refuses_lift_bind (Credentials.blamesNoParam_require _ _) fun key => ?_
  exact refuses_of_error (Params.filledString_of_error failed) _

theorem OpenAi.refuses_runAdvanced {base : String} {context : Context}
    (rejected : (openAiAdvanced base).check context.params = .error failure) :
    Refuses failure (OpenAi.runAdvanced base context) :=
  refuses_of_error (map_eq_error_iff.mp rejected) _

theorem Gemini.refuses_runAdvanced {base : String} {context : Context}
    (rejected : (geminiAdvanced base).check context.params = .error failure) :
    Refuses failure (Gemini.runAdvanced base context) :=
  refuses_of_error (map_eq_error_iff.mp rejected) _

theorem Claude.refuses_run {base : String} {context : Context}
    (rejected : (claude base).check context.params = .error failure) :
    Refuses failure (Claude.run base context) := by
  refine refuses_state_bind fun state => ?_
  refine refuses_lift_bind (Credentials.blamesNoParam_require _ _) fun key => ?_
  rcases bind_eq_error_iff.mp rejected with failed | ⟨model, read, rejected⟩
  · exact refuses_of_error (Params.filledString_of_error failed) _
  · refine refuses_of_ok (Params.filledString_of_string read) ?_
    rcases bind_eq_error_iff.mp rejected with failed | ⟨_, _, nothing⟩
    · exact refuses_of_error failed _
    · cases nothing

theorem VideoSummary.refuses_run {youTube openAi : String} {context : Context}
    (rejected : (videoSummary youTube openAi).check context.params = .error failure) :
    Refuses failure (VideoSummary.run youTube openAi context) :=
  refuses_of_error (map_eq_error_iff.mp rejected) _

/-! ## Messages -/

theorem Hashnode.refuses_run {endpoint : String} {context : Context}
    (rejected : (hashnode endpoint).check context.params = .error failure) :
    Refuses failure (Hashnode.run endpoint context) := by
  refine refuses_state_bind fun state => ?_
  cases state.outputText? with
  | none => exact refuses_fail rfl
  | some content =>
      refine refuses_lift_bind (Credentials.blamesNoParam_require _ _) fun token => ?_
      refine refuses_lift_bind (Credentials.blamesNoParam_require _ _) fun blog => ?_
      rcases bind_eq_error_iff.mp rejected with failed | ⟨title, read, rejected⟩
      · exact refuses_of_error (Params.filledString_of_error failed) _
      · refine refuses_of_ok (Params.filledString_of_string read) ?_
        rcases bind_eq_error_iff.mp rejected with failed | ⟨_, _, nothing⟩
        · exact refuses_of_error (Params.filledString_of_error failed) _
        · cases nothing

theorem Email.refuses_run {context : Context}
    (rejected : email.check context.params = .error failure) :
    Refuses failure (Email.run context) := by
  have failed := map_eq_error_iff.mp rejected
  refine refuses_state_bind fun state => ?_
  cases state.outputText? with
  | none => exact refuses_fail rfl
  | some content =>
      refine refuses_lift_bind (Credentials.blamesNoParam_require _ _) fun fields => ?_
      refine refuses_lift_bind (MailSettings.blamesNoParam_ofFields fields) fun settings => ?_
      exact refuses_of_error (Params.filledString_of_error failed) _

theorem WhatsApp.refuses_run {base : String} {context : Context}
    (rejected : (whatsApp base).check context.params = .error failure) :
    Refuses failure (WhatsApp.run base context) := by
  refine refuses_state_bind fun state => ?_
  refine refuses_lift_bind (Credentials.blamesNoParam_require _ _) fun account => ?_
  refine refuses_lift_bind (Credentials.blamesNoParam_require _ _) fun token => ?_
  rcases bind_eq_error_iff.mp rejected with failed | ⟨recipient, read, rejected⟩
  · exact refuses_of_error failed _
  · refine refuses_of_ok read ?_
    rcases bind_eq_error_iff.mp rejected with failed | ⟨_, _, nothing⟩
    · have failed : senderFor context.params state.credentials = .error failure :=
        bind_eq_error_iff.mpr (.inl (Params.filledString_of_error failed))
      exact refuses_of_error failed _
    · cases nothing

theorem Slack.refuses_run {endpoint : String} {context : Context}
    (rejected : (slack endpoint).check context.params = .error failure) :
    Refuses failure (Slack.run endpoint context) := by
  refine refuses_state_bind fun state => ?_
  refine refuses_lift_bind (Credentials.blamesNoParam_require _ _) fun token => ?_
  rcases bind_eq_error_iff.mp rejected with failed | ⟨channel, read, rejected⟩
  · exact refuses_of_error failed _
  · refine refuses_of_ok read ?_
    rcases bind_eq_error_iff.mp rejected with failed | ⟨_, _, nothing⟩
    · have failed : textFor context.params state = .error failure :=
        bind_eq_error_iff.mpr (.inl (Params.filledString_of_error failed))
      exact refuses_of_error failed _
    · cases nothing

/-! ## Databases, texts and files -/

theorem Database.refuses_run {context : Context}
    (rejected : database.check context.params = .error failure) :
    Refuses failure (Database.run context) :=
  refuses_of_error (map_eq_error_iff.mp rejected) _

theorem refuses_runTextEditor {context : Context}
    (rejected : textEditor.check context.params = .error failure) :
    Refuses failure (runTextEditor context) :=
  refuses_of_error (map_eq_error_iff.mp rejected) _

theorem TextFile.refuses_run {place : OutputPlace} {context : Context}
    (rejected : (textFile place).check context.params = .error failure) :
    Refuses failure (TextFile.run place context) :=
  refuses_of_error (map_eq_error_iff.mp rejected) _

theorem PdfFile.refuses_run {place : OutputPlace} {context : Context}
    (rejected : (pdfFile place).check context.params = .error failure) :
    Refuses failure (PdfFile.run place context) :=
  refuses_of_error (map_eq_error_iff.mp rejected) _

/-! ## All of them -/

/-- A standard node that is run with parameters that its check rejects fails on every scene, and
leaves the scene as it was: no part of the state changes, no notice is given, nothing is delivered
to a peer, and no file is written. It fails as the check does, unless it lacks an input or a
credential. -/
theorem standard_refuses (place : OutputPlace) (endpoints : Endpoints) :
    ∀ node ∈ standardNodes place endpoints, ∀ (context : Context) (failure : Failure),
      node.check context.params = .error failure →
        ∀ scene, ∃ signalled, node.run context scene = (.error signalled, scene) ∧
          (signalled = failure ∨ signalled.blamesParams = false) := by
  intro node member context failure rejected
  change Refuses failure (node.run context)
  cases isStandard_iff.mpr member with
  | openAi => exact OpenAi.refuses_run rejected
  | openAiAdvanced => exact OpenAi.refuses_runAdvanced rejected
  | gemini => cases rejected
  | geminiAdvanced => exact Gemini.refuses_runAdvanced rejected
  | claude => exact Claude.refuses_run rejected
  | hashnode => exact Hashnode.refuses_run rejected
  | email => exact Email.refuses_run rejected
  | webhook => cases rejected
  | database => exact Database.refuses_run rejected
  | textEditor => exact refuses_runTextEditor rejected
  | textFile => exact TextFile.refuses_run rejected
  | pdfFile => exact PdfFile.refuses_run rejected
  | whatsApp => exact WhatsApp.refuses_run rejected
  | slack => exact Slack.refuses_run rejected
  | videoSummary => exact VideoSummary.refuses_run rejected

/-- A sender that is no text is refused though account, token and recipient are there. -/
theorem standard_refuses_whatsApp :
    ∃ node ∈ standardNodes {} {},
      let params : Params := ⟨[("from_number", .int 5), ("to_number", .string "+1")]⟩
      let failure := Failure.invalidParam "from_number" "expected string"
      let state : State := {
        userQuery := ""
        credentials := ⟨[("twilio_sid", .string "AC"), ("twilio_token", .string "t")]⟩
        output := some (.string "hello") }
      let scene : Scene := ⟨state, default, []⟩
      node.check params = .error failure ∧
        node.run ⟨"whatsapp", 0, params⟩ scene = (.error failure, scene) := by
  have member : whatsApp ({} : Endpoints).twilio ∈ standardNodes {} {} := by simp [standardNodes]
  refine ⟨_, member, ?_⟩
  intro params failure state scene
  have rejected : (whatsApp ({} : Endpoints).twilio).check params = .error failure := rfl
  obtain ⟨signalled, refused, reason⟩ :=
    standard_refuses {} {} _ member ⟨"whatsapp", 0, params⟩ failure rejected scene
  have same : signalled = failure := Except.error.inj (congrArg Prod.fst refused).symm
  exact ⟨rejected, same ▸ refused⟩

end Workflow
