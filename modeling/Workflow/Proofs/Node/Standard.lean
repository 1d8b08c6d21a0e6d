import Mathlib.Data.List.Nodup
import Workflow.StandardNodes

/-!
# The standard nodes one by one

What is said of all standard nodes is shown for each of them. So there is one case for each, by its
name, and an identifier tells which one it is.

## Main definitions

* `IsStandard place endpoints node` — a standard node, with one case for each.
* `isStandard_iff` — these are the nodes of the list.
* `IsStandard.eq_of_id` — an identifier belongs to one of them only.
-/

namespace Workflow

/-- A standard node, with one case for each. -/
inductive IsStandard (place : OutputPlace) (endpoints : Endpoints) : Node → Prop
  | openAi : IsStandard place endpoints (openAi endpoints.openAi)
  | openAiAdvanced : IsStandard place endpoints (openAiAdvanced endpoints.openAi)
  | gemini : IsStandard place endpoints (gemini endpoints.gemini)
  | geminiAdvanced : IsStandard place endpoints (geminiAdvanced endpoints.gemini)
  | claude : IsStandard place endpoints (claude endpoints.anthropic)
  | hashnode : IsStandard place endpoints (hashnode endpoints.hashnode)
  | email : IsStandard place endpoints email
  | webhook : IsStandard place endpoints webhook
  | database : IsStandard place endpoints database
  | textEditor : IsStandard place endpoints textEditor
  | textFile : IsStandard place endpoints (textFile place)
  | pdfFile : IsStandard place endpoints (pdfFile place)
  | whatsApp : IsStandard place endpoints (whatsApp endpoints.twilio)
  | slack : IsStandard place endpoints (slack endpoints.slack)
  | videoSummary : IsStandard place endpoints (videoSummary endpoints.youTube endpoints.openAi)

variable {place : OutputPlace} {endpoints : Endpoints} {node other : Node}

theorem isStandard_iff :
    IsStandard place endpoints node ↔ node ∈ standardNodes place endpoints := by
  constructor
  · intro standard
    cases standard <;> simp [standardNodes]
  · simp only [standardNodes, List.mem_cons, List.not_mem_nil, or_false]
    rintro (rfl | rfl | rfl | rfl | rfl | rfl | rfl | rfl | rfl | rfl | rfl | rfl | rfl | rfl | rfl)
    all_goals constructor

/-- No two standard nodes have one identifier. -/
theorem IsStandard.eq_of_id (standard : IsStandard place endpoints node)
    (standard' : IsStandard place endpoints other) (same : node.id = other.id) : node = other := by
  have distinct : ((standardNodes place endpoints).map Node.id).Nodup := by
    change ["openai", "openai/advanced", "gemini", "gemini/advanced", "claude", "hashnode", "email",
      "webhook", "database", "text_editor", "text", "pdf", "whatsapp", "slack",
      "video_summary"].Nodup
    decide
  exact List.inj_on_of_nodup_map distinct (isStandard_iff.mp standard)
    (isStandard_iff.mp standard') same

end Workflow
