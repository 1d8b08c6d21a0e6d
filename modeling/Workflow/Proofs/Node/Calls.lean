import Workflow.Completion.Gemini
import Workflow.Database
import Workflow.Messaging.Mail
import Workflow.Proofs.Node.Actions
import Workflow.Video.Summary

/-!
# What calls to the outside leave alone, and how they fail

Nodes reach services, databases and mail servers only by sending messages. None of that touches
state or files. A call to a service that comes to nothing is a failed execution or a timeout; it
never finds fault with a parameter.

## Main definitions

* `Failure.blamesParams` — a failure says that a parameter is missing or wrong.
* `Service.quiet_json`, `Transcript.quiet_fetch`, … — calls leave state and files as they are.
* `Service.failsWith_json`, `Transcript.failsWith_fetch`, … — calls do not blame parameters.
-/

namespace Workflow

open Workflow.Action

/-- A failure says that a parameter is missing or wrong. -/
def Failure.blamesParams : Failure → Bool
  | missingParam _ => true
  | invalidParam _ _ => true
  | _ => false

/-- Work that never fails because of a parameter. -/
abbrev Action.SparesParams {α : Type} (action : Action α) : Prop :=
  action.FailsWith fun failure => failure.blamesParams = false

/-! ## Messages -/

namespace World

@[simp] theorem files_http (world : World) (request : HttpRequest) :
    (world.http request).2.files = world.files := by
  unfold http
  split <;> rfl

@[simp] theorem files_sql (world : World) (url : String) (statement : SqlStatement) :
    (world.sql url statement).2.files = world.files := by
  unfold sql
  split <;> rfl

@[simp] theorem files_document (world : World) (uri : String) (command : DocumentCommand) :
    (world.document uri command).2.files = world.files := by
  unfold document
  split <;> rfl

@[simp] theorem files_mail (world : World) (session : MailSession) :
    (world.mail session).2.files = world.files := by
  unfold mail
  split <;> rfl

end World

/-! ## Services -/

namespace Service
variable (service : Service) (call : HttpCall)

theorem quiet_send : Quiet (send call) := by
  unfold send
  cases call.request? with
  | none => exact quiet_pure _
  | some request => exact quiet_onWorld fun world => world.files_http request

theorem quiet_answer : Quiet (service.answer call) := by
  refine (quiet_send call).bind fun reply => ?_
  cases reply with
  | answered status body => exact quiet_pure _
  | connectionLost => exact quiet_fail _
  | timedOut => exact quiet_fail _

theorem quiet_json : Quiet (service.json call) := by
  refine (quiet_answer service call).bind fun (status, body) => ?_
  cases body with
  | none => exact quiet_fail _
  | some body =>
      dsimp only
      split
      · exact quiet_fail _
      · split
        · exact quiet_pure _
        · exact quiet_fail _

theorem quiet_success : Quiet (service.success call) := by
  refine (quiet_answer service call).bind fun (status, body) => ?_
  dsimp only
  split
  · exact quiet_pure _
  · exact quiet_fail _

theorem sparesParams_send : SparesParams (send call) := by
  unfold send
  cases call.request? with
  | none => exact failsWith_pure _
  | some request => exact failsWith_onWorld _

theorem sparesParams_answer : SparesParams (service.answer call) := by
  refine (sparesParams_send call).bind fun reply => ?_
  cases reply with
  | answered status body => exact failsWith_pure _
  | connectionLost => exact failsWith_fail rfl
  | timedOut => exact failsWith_fail rfl

theorem sparesParams_json : SparesParams (service.json call) := by
  refine (sparesParams_answer service call).bind fun (status, body) => ?_
  cases body with
  | none => exact failsWith_fail rfl
  | some body =>
      dsimp only
      split
      · exact failsWith_fail rfl
      · split
        · exact failsWith_pure _
        · exact failsWith_fail rfl

end Service

/-! ## Models -/

theorem Chat.quiet_complete (base key : String) (body : Json) (patience : Nat) :
    Quiet (Chat.complete base key body patience) := by
  refine (Service.quiet_json _ _).bind fun answer => ?_
  cases Chat.content? answer with
  | some content => exact quiet_pure _
  | none => exact quiet_fail _

theorem Chat.sparesParams_complete (base key : String) (body : Json) (patience : Nat) :
    SparesParams (Chat.complete base key body patience) := by
  refine (Service.sparesParams_json _ _).bind fun answer => ?_
  cases Chat.content? answer with
  | some content => exact failsWith_pure _
  | none => exact failsWith_fail rfl

theorem Gemini.quiet_generate (base model key : String) (body : Json) :
    Quiet (Gemini.generate base model key body) :=
  (Service.quiet_json _ _).bind fun answer =>
    (quiet_lift (Gemini.text answer)).bind fun _ => quiet_pure _

theorem Gemini.sparesParams_generate (base model key : String) (body : Json) :
    SparesParams (Gemini.generate base model key body) := by
  refine (Service.sparesParams_json _ _).bind fun answer => ?_
  refine (failsWith_lift fun failure failed => ?_).bind fun text => failsWith_pure _
  unfold Gemini.text at failed
  split at failed
  · cases failed
  · cases failed
    rfl

/-! ## Transcripts -/

namespace Transcript
variable (base videoId language : String) (patience : Nat)

theorem quiet_page : Quiet (page base videoId language patience) := by
  refine (Service.quiet_send _).bind fun reply => ?_
  cases reply with
  | answered status body =>
      dsimp only
      split
      · exact quiet_fail _
      · cases body with
        | some page => exact quiet_pure _
        | none => exact quiet_fail _
  | connectionLost => exact quiet_fail _
  | timedOut => exact quiet_fail _

theorem quiet_fetch : Quiet (fetch base videoId language patience) := by
  refine (quiet_page base videoId language patience).bind fun page => ?_
  cases tracks? page with
  | none => exact quiet_fail _
  | some tracks =>
      cases found : trackAddress? tracks language with
      | none =>
          simp only [found]
          exact quiet_fail _
      | some address =>
          simp only [found]
          refine (Service.quiet_json _ _).bind fun document => ?_
          split
          · exact quiet_fail _
          · exact quiet_pure _

end Transcript

/-! ## Mail -/

theorem Email.quiet_send (settings : MailSettings) (subject content : String) :
    Quiet (Email.send settings subject content) := by
  unfold Email.send
  cases Email.session settings subject content with
  | error reason => exact quiet_pure _
  | ok session =>
      refine (quiet_onWorld fun world => world.files_mail session).bind fun reply => ?_
      cases reply <;> exact quiet_pure _

/-- Mail that is not sent is no failure. -/
theorem Email.failsWith_send {P : Failure → Prop} (settings : MailSettings)
    (subject content : String) : FailsWith P (Email.send settings subject content) := by
  unfold Email.send
  cases Email.session settings subject content with
  | error reason => exact failsWith_pure _
  | ok session =>
      refine (failsWith_onWorld _).bind fun reply => ?_
      cases reply <;> exact failsWith_pure _

/-! ## Databases -/

namespace Database

theorem quiet_runStatement (url : String) (options : DatabaseOptions) :
    Quiet (runStatement url options) :=
  (quiet_onWorld fun world => world.files_sql url _).bind fun _ => quiet_lift _

theorem quiet_runDocuments (uri database : String) (options : DatabaseOptions) :
    Quiet (runDocuments uri database options) := by
  refine (quiet_onWorld fun _ => rfl).bind fun known => ?_
  refine Quiet.bind_if (quiet_fail _) ?_
  refine (quiet_lift _).bind fun operation => ?_
  exact (quiet_onWorld fun world => world.files_document uri _).bind fun _ => quiet_lift _

/-- All that a statement fails with is the complaint of the database. -/
theorem failsWith_ofReply {P : Failure → Prop} (holds : P broken) (operation : DatabaseOperation)
    (reply : SqlReply) :
    FailsWith P (liftM (ofSqlReply operation reply) : Action DatabaseResult) := by
  refine failsWith_lift fun failure failed => ?_
  unfold ofSqlReply at failed
  split at failed
  · split at failed <;> cases failed
  · cases failed
    exact holds

theorem failsWith_runStatement {P : Failure → Prop} (holds : P broken) (url : String)
    (options : DatabaseOptions) : FailsWith P (runStatement url options) :=
  (failsWith_onWorld _).bind fun reply => failsWith_ofReply holds options.operation reply

end Database

end Workflow
