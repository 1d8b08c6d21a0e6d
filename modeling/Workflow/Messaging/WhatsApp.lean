import Workflow.Http
/-!
# Messages over WhatsApp

## Main definitions

* `whatsApp base` — the node that sends the previous output through Twilio.
-/

namespace Workflow

namespace WhatsApp

/-- A message between two numbers. -/
structure Message where
  sender : String
  recipient : String
  text : String
  deriving DecidableEq, Repr

def Message.pairs (message : Message) : List (String × String) :=
  [("From", "whatsapp:" ++ message.sender), ("To", "whatsapp:" ++ message.recipient),
    ("Body", message.text)]

def call (base account token : String) (message : Message) : HttpCall where
  address := HttpCall.below base ("/Accounts/" ++ account ++ "/Messages.json")
  headers := [HttpCall.basic account (some token)]
  content := .form message.pairs

/-- The number to send from: a parameter or else a credential. -/
def senderFor (params : Params) (credentials : Credentials) : Except Failure String := do
  match ← params.filledString "from_number" with
  | some number => return number
  | none => credentials.requiredString "twilio_whatsapp_from"

/-- The node's work. The output stays as it is. -/
def run (base : String) (context : Context) : Action Unit := do
  let state ← Action.state
  let account ← state.credentials.requiredString "twilio_sid"
  let token ← state.credentials.requiredString "twilio_token"
  let recipient ← context.params.requiredString "to_number"
  let sender ← senderFor context.params state.credentials
  let text := state.outputText?.getD ""
  let answer ← Service.json ⟨"Twilio", 120⟩ (call base account token { sender, recipient, text })
  let status := (answer.text? "status").getD "unknown"
  Action.info ("WhatsApp message to " ++ recipient ++ " is " ++ status)
  Action.modifyState (·.withExtra "whatsapp_status" (.string status))

def check (params : Params) : Except Failure Unit := do
  let _ ← params.requiredString "to_number"
  let _ ← params.string "from_number"

end WhatsApp

def whatsApp (base : String) : Node where
  id := "whatsapp"
  run := WhatsApp.run base
  check := WhatsApp.check
  description := {
    text := "Send the previous output as a WhatsApp message via Twilio"
    category := "notification"
    params := [
      ⟨"to_number", "Recipient phone number", true⟩,
      ⟨"from_number", "Sender number; falls back to api_keys.twilio_whatsapp_from", false⟩] }

end Workflow
