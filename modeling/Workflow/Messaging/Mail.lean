import Workflow.Messaging.Address
import Workflow.Node
import Workflow.Port
/-!
# Mail

Settings and content have to be there; a mail that cannot be sent is no failure of the node, but is
put out and recorded.

## Main definitions

* `MailSettings` — server, login, sender and recipient.
* `email` — the node that mails the previous output.
-/

namespace Workflow

structure MailSettings where
  server : String
  port : Nat
  username : String
  password : String
  sender : String
  recipient : String
  subject : Option String := none
  deriving DecidableEq, Repr

namespace MailSettings

/-- The port for a connection that is encrypted from the start. -/
def encryptedPort : Nat := 465

/-- A field that has to be filled. -/
def required (fields : Fields Value) (name : String) : Except Failure String :=
  match Params.filled ((Fields.get? fields name).bind Value.string?) with
  | some s => .ok s
  | none => .error (.missingCredential ("email_config." ++ name))

def invalidPort (value : Value) : Failure := .configuration ("invalid SMTP port: " ++ value.text)

/-- The settings in a credential. -/
def ofFields (fields : Fields Value) : Except Failure MailSettings := do
  let port ← (Port.field fields "smtp_port" encryptedPort).mapError invalidPort
  let server ← required fields "smtp_server"
  let username ← required fields "username"
  let password ← required fields "password"
  let sender ← required fields "from_email"
  let recipient ← required fields "to_email"
  let subject := (Fields.get? fields "subject").bind Value.string?
  return { server, port, username, password, sender, recipient, subject }

end MailSettings

namespace Email

def defaultSubject : String := "Workflow Output"

/-- The reason why a mail cannot be made up or does not arrive. -/
def notSent : String := "<smtp>"

/-- A mail ready to be sent. It goes to and from the addresses that its head spells. -/
def session (settings : MailSettings) (subject content : String) : Except String MailSession := do
  match MailAddress.parse? settings.sender, MailAddress.parse? settings.recipient with
  | none, _ => throw "invalid sender: <address>"
  | some _, none => throw "invalid recipient: <address>"
  | some sender, some recipient =>
    match sender.sent?, recipient.sent? with
    | some sender, some recipient => return {
        server := settings.server
        port := settings.port
        username := settings.username
        password := settings.password
        mail := {
          sender := String.ofList sender.text
          recipient := String.ofList recipient.text
          subject
          body := content } }
    | _, _ => throw notSent

/-- Send a mail; what comes back is the reason why it was not sent. -/
def send (settings : MailSettings) (subject content : String) : Action (Except String Unit) := do
  match session settings subject content with
  | .error reason => return .error reason
  | .ok session =>
    match ← Action.onWorld (·.mail session) with
    | .accepted => return .ok ()
    | _ => return .error notSent

/-- The node's work. -/
def run (context : Context) : Action Unit := do
  let state ← Action.state
  match state.outputText? with
  | none => Action.fail (.missingInput "No content to email from previous node")
  | some content =>
    let settings ← MailSettings.ofFields (← state.credentials.requiredObject "email_config")
    let asked ← context.params.filledString "subject"
    let subject := (asked <|> settings.subject).getD defaultSubject
    Action.info ("Sending email to " ++ settings.recipient)
    match ← send settings subject content with
    | .ok () => Action.modifyState (·.withOutput (.string ("Email sent to " ++ settings.recipient)))
    | .error reason =>
      let message := "Email failed: " ++ reason
      Action.modifyState fun state => (state.withError message).withOutput (.string message)

end Email

def email : Node where
  id := "email"
  run := Email.run
  check params := (params.string "subject").map fun _ => ()
  description := {
    text := "Email the previous output over SMTP"
    category := "notification"
    params := [⟨"subject", "Subject line (default \"Workflow Output\")", false⟩] }

end Workflow
