import Workflow.Proofs.Database.Running
import Workflow.Proofs.Node.Reading
import Workflow.Proofs.Node.Standard

/-!
# The credentials that nodes own

Each standard node owns the credentials of certain providers and goes by no others; which a database
node owns depends on its parameters. A node that reads the options or the credential of another
would only be noticed where both are set, so every reading of the state is gone through here.

## Main definitions

* `ownedBy nodeId params` — the providers whose credentials a standard node owns.
* `OpenAi.goesBy_run`, … — nodes go by their own credentials.
* `Email.mail`, `Database.operate` — what mail and database nodes do with a credential once read.
* `goesBy_run_of_standard` — all standard nodes do.
-/

namespace Workflow

open Workflow.Action

/-- The providers whose credentials a standard node owns, by its identifier and its parameters. -/
def ownedBy (nodeId : String) (params : Params) : List String :=
  match nodeId with
  | "openai" => ["openai"]
  | "openai/advanced" => ["openai"]
  | "video_summary" => ["openai"]
  | "gemini" => ["gemini"]
  | "gemini/advanced" => ["gemini"]
  | "claude" => ["anthropic"]
  | "hashnode" => ["hashnode_token", "hashnode_publication_id"]
  | "email" => ["email_config"]
  | "webhook" => ["webhook_url"]
  | "slack" => ["slack"]
  | "whatsapp" => ["twilio_sid", "twilio_token", "twilio_whatsapp_from"]
  | "database" =>
    match DatabaseOptions.kindOf params with
    | .ok kind => [kind.name]
    | .error _ => []
  | _ => []

variable {owned : List String}

/-! ## Models -/

theorem OpenAi.goesBy_run (owns : "openai" ∈ owned) (base : String) (context : Context) :
    GoesBy owned (OpenAi.run base context) := by
  refine goesBy_state_bind (fun first second alike => ?same) fun state => ?_
  case same => simp only [alike.requiredString owns, alike.userQuery]
  refine (goesBy_lift _).bind fun key => ?_
  refine (goesBy_lift _).bind fun asked => ?_
  refine (goesBy_info _).bind fun _ => ?_
  refine (Chat.goesBy_complete _ _ _ _).bind fun content => ?_
  exact goesBy_withOutput _

theorem OpenAi.goesBy_runAdvanced (owns : "openai" ∈ owned) (base : String) (context : Context) :
    GoesBy owned (OpenAi.runAdvanced base context) := by
  refine (goesBy_lift _).bind fun options => ?_
  refine goesBy_state_bind (fun first second alike => ?same) fun state => ?_
  case same => simp only [OpenAi.keyFor, alike.string? owns, alike.userQuery]
  refine (goesBy_lift _).bind fun key => ?_
  refine GoesBy.bind_if (goesBy_info _) ?_
  refine (Chat.goesBy_complete _ _ _ _).attempt.bind fun outcome => ?_
  cases outcome with
  | ok content => exact goesBy_withExtra_withOutput _ _ _
  | error failure => exact goesBy_record _ failure

theorem Gemini.goesBy_run (owns : "gemini" ∈ owned) (base : String) (context : Context) :
    GoesBy owned (Gemini.run base context) := by
  refine goesBy_state_bind (fun first second alike => ?same) fun state => ?_
  case same => simp only [alike.requiredString owns, alike.userQuery]
  refine (goesBy_lift _).bind fun key => ?_
  refine (goesBy_info _).bind fun _ => ?_
  refine (Gemini.goesBy_generate _ _ _ _).bind fun (answer, text) => ?_
  exact goesBy_withOutput _

theorem Gemini.goesBy_runAdvanced (owns : "gemini" ∈ owned) (base : String) (context : Context) :
    GoesBy owned (Gemini.runAdvanced base context) := by
  refine (goesBy_lift _).bind fun options => ?_
  refine goesBy_state_bind (fun first second alike => ?same) fun state => ?_
  case same => simp only [alike.requiredString owns, alike.userQuery]
  refine (goesBy_lift _).bind fun key => ?_
  refine (Gemini.goesBy_generate _ _ _ _).attempt.bind fun outcome => ?_
  cases outcome with
  | ok generated => exact goesBy_withExtra_withOutput _ _ _
  | error failure => exact goesBy_record _ failure

theorem Claude.goesBy_run (owns : "anthropic" ∈ owned) (base : String) (context : Context) :
    GoesBy owned (Claude.run base context) := by
  refine goesBy_state_bind (fun first second alike => ?same) fun state => ?_
  case same => simp only [alike.requiredString owns, alike.userQuery]
  refine (goesBy_lift _).bind fun key => ?_
  refine (goesBy_lift _).bind fun model => ?_
  refine (goesBy_lift _).bind fun maxTokens => ?_
  refine (Service.goesBy_json _ _).bind fun answer => ?_
  cases (answer.at? ["content", "0", "text"]).bind Json.string? with
  | some text => exact goesBy_withOutput _
  | none => exact goesBy_fail _

/-- The credential is read in the middle of the work, after the transcript has come. -/
theorem VideoSummary.goesBy_summary (owns : "openai" ∈ owned) (youTube openAi : String)
    (options : VideoOptions) : GoesBy owned (VideoSummary.summary youTube openAi options) := by
  refine (Transcript.goesBy_fetch _ _ _ _).bind fun transcript => ?_
  refine goesBy_state_bind (fun first second alike => ?same) fun state => ?_
  case same => simp only [alike.requiredString owns]
  refine (goesBy_lift _).bind fun key => ?_
  exact Chat.goesBy_complete _ _ _ _

theorem VideoSummary.goesBy_run (owns : "openai" ∈ owned) (youTube openAi : String)
    (context : Context) : GoesBy owned (VideoSummary.run youTube openAi context) := by
  refine (goesBy_lift _).bind fun options => ?_
  refine (goesBy_info _).bind fun _ => ?_
  refine (VideoSummary.goesBy_summary owns _ _ _).attempt.bind fun outcome => ?_
  cases outcome with
  | ok summary => exact goesBy_withOutput _
  | error failure => exact goesBy_withError_withOutput _ _

/-! ## Messages -/

theorem Hashnode.goesBy_run (ownsToken : "hashnode_token" ∈ owned)
    (ownsBlog : "hashnode_publication_id" ∈ owned) (endpoint : String) (context : Context) :
    GoesBy owned (Hashnode.run endpoint context) := by
  refine goesBy_state_bind (fun first second alike => ?same) fun state => ?_
  case same =>
    simp only [alike.outputText?, alike.requiredString ownsToken, alike.requiredString ownsBlog]
  cases state.outputText? with
  | none => exact goesBy_fail _
  | some content =>
      refine (goesBy_lift _).bind fun token => ?_
      refine (goesBy_lift _).bind fun publicationId => ?_
      refine (goesBy_lift _).bind fun title => ?_
      refine (goesBy_lift _).bind fun slug => ?_
      refine (Service.goesBy_json _ _).bind fun answer => ?_
      refine (goesBy_lift _).bind fun message => ?_
      refine (goesBy_info _).bind fun _ => ?_
      exact goesBy_withOutput _

/-- The work of the mail node, once content and credential have been read. -/
def Email.mail (context : Context) (content : Option String)
    (credential : Except Failure (Fields Value)) : Action Unit := do
  match content with
  | none => fail (.missingInput "No content to email from previous node")
  | some content =>
    let settings ← MailSettings.ofFields (← credential)
    let asked ← context.params.filledString "subject"
    let subject := (asked <|> settings.subject).getD Email.defaultSubject
    info ("Sending email to " ++ settings.recipient)
    match ← Email.send settings subject content with
    | .ok () => modifyState (·.withOutput (.string ("Email sent to " ++ settings.recipient)))
    | .error reason =>
      let message := "Email failed: " ++ reason
      modifyState fun state => (state.withError message).withOutput (.string message)

theorem Email.run_eq (context : Context) : Email.run context = (do
    let state ← state
    Email.mail context state.outputText? (state.credentials.requiredObject "email_config")) := rfl

theorem Email.goesBy_mail (context : Context) (content : Option String)
    (credential : Except Failure (Fields Value)) :
    GoesBy owned (Email.mail context content credential) := by
  cases content with
  | none => exact goesBy_fail _
  | some content =>
      refine (goesBy_lift _).bind fun fields => ?_
      refine (goesBy_lift _).bind fun settings => ?_
      refine (goesBy_lift _).bind fun asked => ?_
      refine (goesBy_info _).bind fun _ => ?_
      refine (Email.goesBy_send _ _ _).bind fun sent => ?_
      cases sent with
      | ok _ => exact goesBy_withOutput _
      | error reason => exact goesBy_withError_withOutput _ _

theorem Email.goesBy_run (owns : "email_config" ∈ owned) (context : Context) :
    GoesBy owned (Email.run context) := by
  rw [Email.run_eq]
  refine goesBy_state_bind (fun first second alike => ?same) fun state => ?_
  case same => simp only [alike.outputText?, alike.requiredObject owns]
  exact Email.goesBy_mail context _ _

/-- A webhook also tells the identifier of the workflow. -/
theorem Webhook.goesBy_run (owns : "webhook_url" ∈ owned) (context : Context) :
    GoesBy owned (Webhook.run context) := by
  refine goesBy_state_bind (fun first second alike => ?same) fun state => ?_
  case same =>
    simp only [alike.requiredString owns, Webhook.payload, alike.output, alike.workflowId]
  refine (goesBy_lift _).bind fun url => ?_
  refine (goesBy_info _).bind fun _ => ?_
  refine (Service.goesBy_success _ _).attempt.bind fun outcome => ?_
  cases outcome with
  | ok status =>
      refine (goesBy_info _).bind fun _ => ?_
      exact goesBy_withOutput _
  | error failure => exact goesBy_fail _

theorem WhatsApp.goesBy_run (ownsAccount : "twilio_sid" ∈ owned)
    (ownsToken : "twilio_token" ∈ owned) (ownsSender : "twilio_whatsapp_from" ∈ owned)
    (base : String) (context : Context) : GoesBy owned (WhatsApp.run base context) := by
  refine goesBy_state_bind (fun first second alike => ?same) fun state => ?_
  case same =>
    simp only [alike.requiredString ownsAccount, alike.requiredString ownsToken,
      WhatsApp.senderFor, alike.requiredString ownsSender, alike.outputText?]
  refine (goesBy_lift _).bind fun account => ?_
  refine (goesBy_lift _).bind fun token => ?_
  refine (goesBy_lift _).bind fun recipient => ?_
  refine (goesBy_lift _).bind fun sender => ?_
  refine (Service.goesBy_json _ _).bind fun answer => ?_
  refine (goesBy_info _).bind fun _ => ?_
  exact goesBy_withExtra _ _

theorem Slack.goesBy_run (owns : "slack" ∈ owned) (endpoint : String) (context : Context) :
    GoesBy owned (Slack.run endpoint context) := by
  refine goesBy_state_bind (fun first second alike => ?same) fun state => ?_
  case same => simp only [alike.requiredString owns, Slack.textFor, alike.outputText?]
  refine (goesBy_lift _).bind fun token => ?_
  refine (goesBy_lift _).bind fun channel => ?_
  refine (goesBy_lift _).bind fun text => ?_
  refine (Service.goesBy_json _ _).bind fun answer => ?_
  split
  · cases answer.text? "ts" with
    | some stamp => exact goesBy_withExtra _ _
    | none => exact goesBy_pure _
  · exact goesBy_fail _

/-! ## Databases -/

theorem Database.goesBy_operationOn {credential : Value} {params : Params}
    {options : DatabaseOptions} {operation : Action DatabaseResult}
    (found : operationOn credential params options = .ok operation) : GoesBy owned operation := by
  unfold operationOn at found
  split at found
  · obtain ⟨⟨uri, database⟩, _, rfl⟩ := map_eq_ok_iff.mp found
    exact goesBy_runDocuments uri database options
  · obtain ⟨url, _, rfl⟩ := map_eq_ok_iff.mp found
    exact goesBy_runStatement url options

/-- The work of the database node, once options and credential have been read. -/
def Database.operate (params : Params) (options : DatabaseOptions) (credential : Option Value) :
    Action Unit := do
  match credential with
  | none => fail (.missingCredential options.kind.name)
  | some credential =>
    info ("Running " ++ options.operation.name ++ " on " ++ options.kind.name)
    let operation ← operationOn credential params options
    match ← operation.attempt with
    | .ok result => modifyState fun state =>
        (state.withExtra "db_metadata" (metadata options result)).withOutput result.toValue
    | .error failure =>
      modifyState (·.withError failure.detail)
      fail failure

theorem Database.run_eq (context : Context) : Database.run context = (do
    let options ← DatabaseOptions.ofParams context.params
    let state ← state
    Database.operate context.params options (state.credentials.get? options.kind.name)) := rfl

theorem Database.goesBy_operate (params : Params) (options : DatabaseOptions)
    (credential : Option Value) : GoesBy owned (Database.operate params options credential) := by
  cases credential with
  | none => exact goesBy_fail _
  | some credential =>
      refine (goesBy_info _).bind fun _ => ?_
      cases found : operationOn credential params options with
      | error failure =>
          rw [lift_bind_of_error rfl]
          exact goesBy_fail failure
      | ok operation =>
          rw [lift_bind_of_ok rfl]
          refine (goesBy_operationOn found).attempt.bind fun outcome => ?_
          cases outcome with
          | ok result => exact goesBy_withExtra_withOutput _ _ _
          | error failure => exact goesBy_record _ failure

/-- The kind of database is read from the node's own parameters, and the credential goes by it. -/
theorem Database.goesBy_run {context : Context}
    (owns : ∀ kind, DatabaseOptions.kindOf context.params = .ok kind → kind.name ∈ owned) :
    GoesBy owned (Database.run context) := by
  rw [Database.run_eq]
  cases read : DatabaseOptions.ofParams context.params with
  | error failure =>
      rw [lift_bind_of_error rfl]
      exact goesBy_fail failure
  | ok options =>
      rw [lift_bind_of_ok rfl]
      have owns := owns options.kind (DatabaseOptions.of_ofParams read).1
      refine goesBy_state_bind (fun first second alike => ?same) fun state => ?_
      case same => simp only [alike.credentials _ owns]
      exact Database.goesBy_operate context.params options _

/-! ## Texts and files -/

theorem goesBy_runTextEditor (context : Context) : GoesBy owned (runTextEditor context) := by
  refine (goesBy_lift _).bind fun options => ?_
  refine goesBy_state_bind (fun first second alike => ?same) fun state => ?_
  case same => simp only [EditOptions.input, alike.outputText?]
  exact goesBy_withOutput _

theorem TextFile.goesBy_run (place : OutputPlace) (context : Context) :
    GoesBy owned (TextFile.run place context) := by
  refine (goesBy_lift _).bind fun target => ?_
  refine goesBy_state_bind (fun first second alike => ?same) fun state => ?_
  case same => simp only [alike.documentText]
  refine (goesBy_lift _).bind fun content => ?_
  refine (OutputTarget.goesBy_write target content).bind fun _ => ?_
  refine (goesBy_info _).bind fun _ => ?_
  exact goesBy_withExtra_withOutput _ _ _

theorem PdfFile.goesBy_run (place : OutputPlace) (context : Context) :
    GoesBy owned (PdfFile.run place context) := by
  refine (goesBy_lift _).bind fun (target, title) => ?_
  refine goesBy_state_bind (fun first second alike => ?same) fun state => ?_
  case same => simp only [alike.documentText]
  refine (goesBy_lift _).bind fun content => ?_
  refine (goesBy_lift _).bind fun document => ?_
  refine (OutputTarget.goesBy_write target document.text).bind fun _ => ?_
  refine (goesBy_info _).bind fun _ => ?_
  exact goesBy_withExtra_withOutput _ _ _

/-! ## All of them -/

/-- A standard node goes by the credentials that it owns and by no others. -/
theorem goesBy_run_of_standard {place : OutputPlace} {endpoints : Endpoints} {node : Node}
    (member : node ∈ standardNodes place endpoints) {context : Context}
    (owns : ∀ provider ∈ ownedBy node.id context.params, provider ∈ owned) :
    GoesBy owned (node.run context) := by
  cases isStandard_iff.mpr member with
  | openAi => exact OpenAi.goesBy_run (owns _ List.mem_cons_self) _ context
  | openAiAdvanced => exact OpenAi.goesBy_runAdvanced (owns _ List.mem_cons_self) _ context
  | gemini => exact Gemini.goesBy_run (owns _ List.mem_cons_self) _ context
  | geminiAdvanced => exact Gemini.goesBy_runAdvanced (owns _ List.mem_cons_self) _ context
  | claude => exact Claude.goesBy_run (owns _ List.mem_cons_self) _ context
  | hashnode =>
      have owns : ∀ provider ∈ ["hashnode_token", "hashnode_publication_id"], provider ∈ owned :=
        owns
      exact Hashnode.goesBy_run (owns _ (by simp)) (owns _ (by simp)) _ context
  | email => exact Email.goesBy_run (owns _ List.mem_cons_self) context
  | webhook => exact Webhook.goesBy_run (owns _ List.mem_cons_self) context
  | database =>
      refine Database.goesBy_run fun kind named => owns _ ?_
      simp [database, ownedBy, named]
  | textEditor => exact goesBy_runTextEditor context
  | textFile => exact TextFile.goesBy_run place context
  | pdfFile => exact PdfFile.goesBy_run place context
  | whatsApp =>
      have owns : ∀ provider ∈ ["twilio_sid", "twilio_token", "twilio_whatsapp_from"],
          provider ∈ owned := owns
      exact WhatsApp.goesBy_run (owns _ (by simp)) (owns _ (by simp)) (owns _ (by simp)) _ context
  | slack => exact Slack.goesBy_run (owns _ List.mem_cons_self) _ context
  | videoSummary => exact VideoSummary.goesBy_run (owns _ List.mem_cons_self) _ _ context

end Workflow
