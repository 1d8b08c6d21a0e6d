import Workflow.Http
/-!
# Drafts on Hashnode

## Main definitions

* `hashnode endpoint` — the node that puts the previous output there as a draft.
-/

namespace Workflow

namespace Hashnode

def mutation : String :=
  "\nmutation CreateDraft($input: CreateDraftInput!) \x7b\n  createDraft(input: $input) \x7b\n"
    ++ "    draft \x7b\n      id\n      title\n    \x7d\n  \x7d\n\x7d\n"

structure Draft where
  title : String
  slug : String
  content : String
  publicationId : String
  deriving DecidableEq, Repr

namespace Draft

def body (draft : Draft) : Json :=
  .object [("query", .string mutation),
    ("variables", .object [("input", .object [
      ("title", .string draft.title),
      ("contentMarkdown", .string draft.content),
      ("publicationId", .string draft.publicationId),
      ("slug", .string draft.slug)])])]

def call (draft : Draft) (endpoint token : String) : HttpCall where
  address := endpoint
  headers := [("authorization", token)]
  content := .json draft.body

/-- What to say of the draft that an answer describes. -/
def created (draft : Draft) (answer : Json) : String :=
  "Draft '" ++ (answer.text? "title").getD draft.title
    ++ "' created successfully on Hashnode with ID: " ++ (answer.text? "id").getD ""

/-- What to say of an answer; errors in it, whatever they are, are a failure. -/
def outcome (draft : Draft) (answer : Json) : Except Failure String :=
  match answer.member? "errors" with
  | some errors => .error (.execution ("Hashnode GraphQL error: " ++ errors.compact))
  | none =>
    match answer.at? ["data", "createDraft", "draft"] with
    | none => .error (.execution "Hashnode response had no draft")
    | some created => .ok (draft.created created)

end Draft

/-- The node's work. -/
def run (endpoint : String) (context : Context) : Action Unit := do
  let state ← Action.state
  match state.outputText? with
  | none => Action.fail (.missingInput "No content to publish from previous node")
  | some content =>
    let token ← state.credentials.requiredString "hashnode_token"
    let publicationId ← state.credentials.requiredString "hashnode_publication_id"
    let title := (← context.params.filledString "title").getD "AI Generated Post"
    let slug := (← context.params.filledString "slug").getD "ai-generated-post"
    let draft : Draft := { title, slug, content, publicationId }
    let answer ← Service.json ⟨"Hashnode", 120⟩ (draft.call endpoint token)
    let message ← draft.outcome answer
    Action.info message
    Action.modifyState (·.withOutput (.string message))

def check (params : Params) : Except Failure Unit := do
  let _ ← params.string "title"
  let _ ← params.string "slug"

end Hashnode

def hashnode (endpoint : String) : Node where
  id := "hashnode"
  run := Hashnode.run endpoint
  check := Hashnode.check
  description := {
    text := "Publish the previous output as a Hashnode draft"
    category := "publishing"
    params := [⟨"title", "Draft title", false⟩, ⟨"slug", "Draft slug", false⟩] }

end Workflow
