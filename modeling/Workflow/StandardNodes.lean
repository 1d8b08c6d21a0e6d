import Workflow.Completion.Claude
import Workflow.Completion.Gemini
import Workflow.Completion.OpenAi
import Workflow.Database
import Workflow.Messaging.Mail
import Workflow.Messaging.Slack
import Workflow.Messaging.Webhook
import Workflow.Messaging.WhatsApp
import Workflow.Output.PdfFile
import Workflow.Output.TextFile
import Workflow.Publishing.Draft
import Workflow.Registry
import Workflow.Transform.TextEditor
import Workflow.Video.Summary
/-!
# The standard nodes

## Main definitions

* `Endpoints` — where the services are.
* `standardNodes` — every standard node.
* `standardRegistry` — the registry of the standard nodes.
-/

namespace Workflow

/-- Where the services are. -/
structure Endpoints where
  openAi : String := "https://api.openai.com/v1"
  gemini : String := "https://generativelanguage.googleapis.com/v1beta"
  anthropic : String := "https://api.anthropic.com/v1"
  hashnode : String := "https://gql.hashnode.com"
  twilio : String := "https://api.twilio.com/2010-04-01"
  slack : String := "https://slack.com/api/chat.postMessage"
  youTube : String := "https://www.youtube.com"
  deriving DecidableEq, Repr

/-- Every standard node. -/
def standardNodes (place : OutputPlace) (endpoints : Endpoints := {}) : List Node := [
  openAi endpoints.openAi,
  openAiAdvanced endpoints.openAi,
  gemini endpoints.gemini,
  geminiAdvanced endpoints.gemini,
  claude endpoints.anthropic,
  hashnode endpoints.hashnode,
  email,
  webhook,
  database,
  textEditor,
  textFile place,
  pdfFile place,
  whatsApp endpoints.twilio,
  slack endpoints.slack,
  videoSummary endpoints.youTube endpoints.openAi]

/-- The registry of the standard nodes. -/
def standardRegistry (place : OutputPlace) (endpoints : Endpoints := {}) :
    Except DuplicateNode Registry :=
  Registry.ofNodes (standardNodes place endpoints)

end Workflow
