import Workflow.Proofs.Chain.Building
import Workflow.Proofs.Fields
import Workflow.Proofs.Node.Footprint
import Workflow.Proofs.Node.Ownership

/-!
# Null means absent

An editor that clears a field leaves null behind. Fields that differ in nothing but nulls hold the
same: under every name the same content, where null counts as none. Nodes read their parameters and
the objects among their credentials field by field, and every reader treats null that way, so such
fields are one to all of them.

## Main definitions

* `Fields.SameButNulls` — fields differ in nothing but nulls.
* `Fields.sameButNulls_withoutNulls`, `Fields.sameButNulls_insert` — nulls erased, a null put in.
* `standard_sameButNulls` — a standard node checks and does the same with such parameters.
* `State.SameButNulls` — states that differ in nothing but nulls.
* `standard_ends` — a standard node ends alike on such states, and leaves such states.
-/

namespace Workflow

namespace Fields

/-- The content under a name, where null counts as none. -/
def filled? (fields : Fields Value) (name : String) : Option Value :=
  (get? fields name).filter (! ·.isNull)

/-- The fields, the nulls erased. -/
def withoutNulls (fields : Fields Value) : Fields Value := fields.filter (! ·.2.isNull)

/-- Under every name the same content, where null counts as none. -/
def SameButNulls (first second : Fields Value) : Prop :=
  ∀ name, first.filled? name = second.filled? name

variable {first second fields : Fields Value} {name : String}

/-- With each name once, nothing but nulls is lost when the nulls are erased. -/
theorem sameButNulls_withoutNulls (distinct : fields.names.Nodup) :
    SameButNulls fields fields.withoutNulls := by
  intro name
  simp only [withoutNulls]
  induction fields with
  | nil => rfl
  | cons field rest ih =>
      obtain ⟨n, value⟩ := field
      obtain ⟨absent, tail⟩ := List.nodup_cons.mp distinct
      have later := ih tail
      by_cases here : name = n
      · have gone : get? rest name = none := get?_eq_none_iff.mpr (here ▸ absent)
        by_cases null : value.isNull = true
        · simp only [filled?, gone] at later
          simpa [filled?, here, null, Option.filter_some] using here ▸ later
        · simp [filled?, here, null, Option.filter_some]
      · by_cases null : value.isNull = true
        · simpa [filled?, here, null] using later
        · simpa [filled?, here, null] using later

/-- A null put in under a name that was absent changes nothing else. -/
theorem sameButNulls_insert (absent : get? fields name = none) :
    SameButNulls fields (insert fields name .null) := by
  intro other
  by_cases here : other = name
  · simp [filled?, get?_insert, here, absent, Option.filter_some, Value.isNull]
  · simp [filled?, get?_insert, here]

/-- Null is no text. -/
theorem SameButNulls.bind_string? (same : first.SameButNulls second) (name : String) :
    (get? first name).bind Value.string? = (get? second name).bind Value.string? := by
  have text (fields : Fields Value) :
      (get? fields name).bind Value.string? = (fields.filled? name).bind Value.string? := by
    rw [filled?]
    cases get? fields name with
    | none => rfl
    | some value => cases value <;> rfl
  rw [text first, text second, same name]

end Fields

/-! ## Readers of fields -/

section
variable {first second : Fields Value}
open Fields

theorem Port.field_congr (same : first.SameButNulls second) (name : String) (default : Nat) :
    Port.field first name default = Port.field second name default := by
  have content := same name
  simp only [filled?] at content
  simp only [Port.field, content]

theorem MailSettings.ofFields_congr (same : first.SameButNulls second) :
    ofFields first = ofFields second := by
  simp only [ofFields, required, Port.field_congr same, same.bind_string?]

namespace Connection

theorem field_congr (same : first.SameButNulls second) (name : String) :
    field first name = field second name := by
  simp only [field, same.bind_string?]

theorem url_congr (same : first.SameButNulls second) (kind : DatabaseKind) :
    url kind (.object first) = url kind (.object second) := by
  simp only [url, assembled, eitherField, field_congr same, Port.field_congr same]

theorem documentParts_congr (same : first.SameButNulls second) :
    documentParts (.object first) = documentParts (.object second) := by
  simp only [documentParts, eitherField, field_congr same]

end Connection

end

/-! ## Parameters -/

/-- The parameters differ in nothing but nulls. -/
def Params.SameButNulls (first second : Params) : Prop := first.fields.SameButNulls second.fields

namespace Params.SameButNulls
variable {first second : Params} (same : first.SameButNulls second) (name : String)
include same

theorem get? : first.get? name = second.get? name := same name

theorem typed {α : Type} (expected : String) (extract : Value → Option α) :
    first.typed name expected extract = second.typed name expected extract := by
  simp only [Params.typed, same.get?]

theorem string : first.string name = second.string name := same.typed name _ _

theorem filledString : first.filledString name = second.filledString name := by
  simp only [Params.filledString, same.string]

theorem number : first.number name = second.number name := same.typed name _ _

theorem nat : first.nat name = second.nat name := same.typed name _ _

theorem bool : first.bool name = second.bool name := same.typed name _ _

theorem array : first.array name = second.array name := same.typed name _ _

theorem requiredString : first.requiredString name = second.requiredString name := by
  simp only [Params.requiredString, same.filledString]

theorem numberBetween (least most : Int) :
    first.numberBetween name least most = second.numberBetween name least most := by
  simp only [Params.numberBetween, same.number]

omit name in
theorem firstFilled (names : List String) : first.firstFilled names = second.firstFilled names := by
  induction names with
  | nil => rfl
  | cons name rest ih => simp only [Params.firstFilled, same.filledString, ih]

end Params.SameButNulls

/-! ## Options -/

section
variable {p q : Params} (same : p.SameButNulls q)
include same

theorem Prompt.ofParams_congr : Prompt.ofParams p = Prompt.ofParams q := by
  simp only [Prompt.ofParams, same.firstFilled]

theorem ChatOptions.ofParams_congr : ChatOptions.ofParams p = ChatOptions.ofParams q := by
  simp only [ChatOptions.ofParams, same.filledString, same.numberBetween, same.nat, same.bool,
    Prompt.ofParams_congr same]

theorem GeminiOptions.ofParams_congr : GeminiOptions.ofParams p = GeminiOptions.ofParams q := by
  simp only [GeminiOptions.ofParams, same.filledString, same.numberBetween, same.nat,
    Prompt.ofParams_congr same]

theorem VideoOptions.ofParams_congr : VideoOptions.ofParams p = VideoOptions.ofParams q := by
  simp only [VideoOptions.ofParams, same.requiredString, same.filledString]

theorem TextFormat.ofParams_congr : TextFormat.ofParams p = TextFormat.ofParams q := by
  simp only [TextFormat.ofParams, same.filledString]

theorem EditOptions.ofParams_congr : EditOptions.ofParams p = EditOptions.ofParams q := by
  simp only [EditOptions.ofParams, same.array, same.string, TextFormat.ofParams_congr same]

theorem OutputTarget.ofParams_congr (defaultName : String) (place : OutputPlace) :
    OutputTarget.ofParams p defaultName place = OutputTarget.ofParams q defaultName place := by
  simp only [OutputTarget.ofParams, same.filledString]

theorem TextFile.target_congr (place : OutputPlace) :
    TextFile.target place p = TextFile.target place q := by
  simp only [TextFile.target, TextFormat.ofParams_congr same, OutputTarget.ofParams_congr same]

theorem PdfFile.options_congr (place : OutputPlace) :
    PdfFile.options place p = PdfFile.options place q := by
  simp only [PdfFile.options, OutputTarget.ofParams_congr same, same.filledString]

theorem DatabaseOptions.ofParams_congr :
    DatabaseOptions.ofParams p = DatabaseOptions.ofParams q := by
  simp only [DatabaseOptions.ofParams, kindOf, operationOf, named, queryOf, parametersOf,
    same.filledString, same.get?, same.array]

theorem Database.operationOn_congr (credential : Value) (options : DatabaseOptions) :
    Database.operationOn credential p options = Database.operationOn credential q options := by
  simp only [Database.operationOn, Connection.documents, same.filledString]

/-! ## Nodes -/

/-- A standard node takes parameters for what they are without nulls, when a chain is built and when
it runs. -/
theorem standard_sameButNulls {place : OutputPlace} {endpoints : Endpoints} {node : Node}
    (member : node ∈ standardNodes place endpoints) (nodeId : String) (position : Nat) :
    node.check p = node.check q ∧
      node.run ⟨nodeId, position, p⟩ = node.run ⟨nodeId, position, q⟩ := by
  cases isStandard_iff.mpr member with
  | openAi => simp only [openAi, OpenAi.run, same.string, same.filledString, and_self]
  | openAiAdvanced =>
      simp only [openAiAdvanced, OpenAi.runAdvanced, ChatOptions.ofParams_congr same, and_self]
  | gemini => exact ⟨rfl, rfl⟩
  | geminiAdvanced =>
      simp only [geminiAdvanced, Gemini.runAdvanced, GeminiOptions.ofParams_congr same, and_self]
  | claude =>
      simp only [claude, Claude.check, Claude.run, same.string, same.filledString, same.nat, and_self]
  | hashnode =>
      simp only [hashnode, Hashnode.check, Hashnode.run, same.string, same.filledString, and_self]
  | email => simp only [email, Email.run, same.string, same.filledString, and_self]
  | webhook => exact ⟨rfl, rfl⟩
  | database =>
      simp only [database, Database.run, DatabaseOptions.ofParams_congr same,
        Database.operationOn_congr same, and_self]
  | textEditor => simp only [textEditor, runTextEditor, EditOptions.ofParams_congr same, and_self]
  | textFile => simp only [textFile, TextFile.run, TextFile.target_congr same, and_self]
  | pdfFile => simp only [pdfFile, PdfFile.run, PdfFile.options_congr same, and_self]
  | whatsApp =>
      simp only [whatsApp, WhatsApp.check, WhatsApp.run, WhatsApp.senderFor, same.requiredString,
        same.string, same.filledString, and_self]
  | slack =>
      simp only [slack, Slack.check, Slack.run, Slack.textFor, same.requiredString, same.string,
        same.filledString, and_self]
  | videoSummary =>
      simp only [videoSummary, VideoSummary.run, VideoOptions.ofParams_congr same, and_self]

end

/-! ## Credentials -/

/-- The providers whose credential may be an object that a node reads. -/
def objectProviders : List String :=
  "email_config" :: [DatabaseKind.postgresql, .mysql, .mongodb].map DatabaseKind.name

/-- Two credentials of a provider are one, or two objects that differ in nothing but nulls. -/
inductive CredentialsAgree : Option Value → Option Value → Prop
  | same (credential : Option Value) : CredentialsAgree credential credential
  | objects {first second : Fields Value} (same : first.SameButNulls second) :
      CredentialsAgree (some (.object first)) (some (.object second))

/-- The credentials differ in nothing but nulls, at the top and in the objects that nodes read. -/
structure Credentials.SameButNulls (first second : Credentials) : Prop where
  objects : ∀ provider ∈ objectProviders,
    CredentialsAgree (first.fields.filled? provider) (second.fields.filled? provider)
  others : ∀ provider ∉ objectProviders,
    first.fields.filled? provider = second.fields.filled? provider

/-- Every node gets parameters that differ in nothing but nulls. -/
def ParamsAgree (first second : Fields Params) : Prop :=
  ∀ nodeId, (Registry.boundTo first nodeId).SameButNulls (Registry.boundTo second nodeId)

/-- The states differ in nothing but nulls among the credentials and the parameters. -/
structure State.SameButNulls (first second : State) : Prop where
  userQuery : first.userQuery = second.userQuery
  workflowId : first.workflowId = second.workflowId
  output : first.output = second.output
  error : first.error = second.error
  extras : first.extras = second.extras
  credentials : first.credentials.SameButNulls second.credentials
  nodeParams : ParamsAgree first.nodeParams second.nodeParams

open Workflow.Action

/-- Once the credential is read, it makes no difference. -/
theorem Email.mail_congr {first second : Credentials} (same : first.SameButNulls second)
    (context : Context) (content : Option String) :
    mail context content (first.requiredObject "email_config")
      = mail context content (second.requiredObject "email_config") := by
  have agree : CredentialsAgree (first.get? "email_config") (second.get? "email_config") :=
    same.objects "email_config" List.mem_cons_self
  simp only [Credentials.requiredObject]
  generalize first.get? "email_config" = one at agree ⊢
  generalize second.get? "email_config" = other at agree ⊢
  cases agree with
  | same => rfl
  | objects same =>
      cases content with
      | none => rfl
      | some content =>
          simp only [mail, Option.bind_some, Value.object?, Credentials.require]
          rw [lift_bind_of_ok rfl, lift_bind_of_ok rfl, MailSettings.ofFields_congr same]

theorem Database.operate_congr {one other : Option Value} (agree : CredentialsAgree one other)
    (params : Params) (options : DatabaseOptions) :
    operate params options one = operate params options other := by
  cases agree with
  | same => rfl
  | @objects first second same =>
      have found : operationOn (.object first) params options
          = operationOn (.object second) params options := by
        simp only [operationOn, Connection.documents, Connection.documentParts_congr same,
          Connection.url_congr same]
      simp only [operate, found]

/-! ## Nodes on states that differ in nulls -/

variable {first second : State}

theorem State.SameButNulls.alike (same : first.SameButNulls second) {owned : List String}
    (apart : ∀ provider ∈ owned, provider ∉ objectProviders) : first.Alike owned second where
  userQuery := same.userQuery
  workflowId := same.workflowId
  output := same.output
  error := same.error
  credentials provider owns := same.credentials.others provider (apart provider owns)

/-- Work that goes by no state once it has read it ends alike where it reads the same. -/
theorem ends_of_state_bind {α : Type} {next : State → Action α} {owned : List String}
    (reads : next first = next second) (goes : GoesBy owned (next second))
    (alike : first.Alike owned second) (world : World) :
    let left := (state >>= next) ⟨first, world, []⟩
    let right := (state >>= next) ⟨second, world, []⟩
    left.1 = right.1 ∧ left.2.Alike owned right.2 ∧
      (first.extras = second.extras → left.2.state.extras = right.2.state.extras) := by
  rw [state_bind_apply, state_bind_apply, reads]
  exact goes ⟨first, world, []⟩ ⟨second, world, []⟩ ⟨alike, rfl, rfl⟩

/-- Nodes other than for mail and databases own no credential that is an object. -/
theorem apart_of_ownedBy {nodeId : String} (mail : nodeId ≠ "email") (data : nodeId ≠ "database")
    (params : Params) : ∀ provider ∈ ownedBy nodeId params, provider ∉ objectProviders := by
  unfold ownedBy
  split
  all_goals first
    | decide
    | exact absurd rfl mail
    | exact absurd rfl data

/-- What a standard node makes of states that differ in nothing but nulls, credentials apart. -/
theorem standard_alike {place : OutputPlace} {endpoints : Endpoints} {node : Node}
    (member : node ∈ standardNodes place endpoints) (same : first.SameButNulls second)
    (context : Context) (world : World) :
    let left := node.run context ⟨first, world, []⟩
    let right := node.run context ⟨second, world, []⟩
    left.1 = right.1 ∧ left.2.Alike [] right.2 ∧
      (first.extras = second.extras → left.2.state.extras = right.2.state.extras) := by
  have alike : first.Alike [] second := same.alike (by simp)
  by_cases mail : node.id = "email"
  · cases (isStandard_iff.mpr member).eq_of_id .email mail
    rw [show email.run context = _ from Email.run_eq context]
    refine ends_of_state_bind ?_ (Email.goesBy_mail context _ _) alike world
    simp only [alike.outputText?, Email.mail_congr same.credentials]
  · by_cases data : node.id = "database"
    · cases (isStandard_iff.mpr member).eq_of_id .database data
      rw [show database.run context = _ from Database.run_eq context]
      cases DatabaseOptions.ofParams context.params with
      | error failure =>
          rw [lift_bind_of_error rfl]
          exact goesBy_fail failure _ _ ⟨alike, rfl, rfl⟩
      | ok options =>
          have known : options.kind.name ∈ objectProviders := by
            cases options.kind <;> decide
          rw [lift_bind_of_ok rfl]
          refine ends_of_state_bind ?_ (Database.goesBy_operate _ options _) alike world
          exact Database.operate_congr (same.credentials.objects _ known) _ options
    · have goes : GoesBy (ownedBy node.id context.params) (node.run context) :=
        goesBy_run_of_standard member fun _ owns => owns
      have owned := same.alike (apart_of_ownedBy mail data context.params)
      obtain ⟨result, left, extras⟩ := goes ⟨first, world, []⟩ ⟨second, world, []⟩ ⟨owned, rfl, rfl⟩
      exact ⟨result, ⟨{ left.state with credentials := by simp }, left.world, left.notices⟩, extras⟩

/-- A standard node ends alike on states that differ in nothing but nulls, and leaves states that
differ in nothing but nulls. -/
theorem standard_ends {place : OutputPlace} {endpoints : Endpoints} {node : Node}
    (member : node ∈ standardNodes place endpoints) (same : first.SameButNulls second)
    (context : Context) (world : World) :
    let left := node.run context ⟨first, world, []⟩
    let right := node.run context ⟨second, world, []⟩
    left.1 = right.1 ∧ left.2.state.SameButNulls right.2.state ∧ left.2.world = right.2.world ∧
      left.2.notices = right.2.notices := by
  intro left right
  obtain ⟨result, alike, extras⟩ := standard_alike member same context world
  have before := within_ofStandard member context ⟨first, world, []⟩
  have after := within_ofStandard member context ⟨second, world, []⟩
  refine ⟨result, ?_, alike.world, alike.notices⟩
  exact {
    userQuery := alike.state.userQuery
    workflowId := alike.state.workflowId
    output := alike.state.output
    error := alike.state.error
    extras := extras same.extras
    credentials := by
      rw [before.credentials, after.credentials]
      exact same.credentials
    nodeParams := by
      rw [before.nodeParams, after.nodeParams]
      exact same.nodeParams }

end Workflow
