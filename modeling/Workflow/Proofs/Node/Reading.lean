import Workflow.Proofs.Node.Calls
import Workflow.StandardNodes

/-!
# What work goes by

All of the state is within reach of work on a scene. What it goes by shows when it is done twice: on
two scenes that differ in nothing else, it has the same result, and the scenes it leaves differ in
nothing else again. So of two runs neither can tell what the other has been given beyond that.

Work goes by the query, by the output and the error so far, and by the credentials of the providers
that it owns. It goes by no other credential, by no side note, and by no parameters but those that
its context hands to it. Of the side notes it leaves nothing is asked but that they are the same
where they were the same before.

## Main definitions

* `State.Alike owned`, `Scene.Alike owned` — states and scenes that differ in nothing that counts.
* `Action.GoesBy owned` — work that goes by nothing but that.
* `Action.GoesBy.bind`, `Action.goesBy_state_bind` — the whole goes by what its parts go by.
* `Service.goesBy_json`, `Transcript.goesBy_fetch`, … — calls do not go by the state at all.
-/

namespace Workflow

/-! ## States that are alike -/

/-- Two states differ in nothing that counts for work that owns the credentials of some providers.
Neither parameters nor side notes count. -/
structure State.Alike (owned : List String) (first second : State) : Prop where
  userQuery : first.userQuery = second.userQuery
  workflowId : first.workflowId = second.workflowId
  output : first.output = second.output
  error : first.error = second.error
  credentials : ∀ provider ∈ owned,
    first.credentials.get? provider = second.credentials.get? provider

/-- The states of two scenes are alike, and the scenes do not differ in anything else. -/
structure Scene.Alike (owned : List String) (first second : Scene) : Prop where
  state : first.state.Alike owned second.state
  world : first.world = second.world
  notices : first.notices = second.notices

namespace State.Alike

variable {owned : List String} {first second : State} {provider : String}

theorem outputText? (alike : first.Alike owned second) :
    first.outputText? = second.outputText? := by
  simp only [State.outputText?, alike.output]

theorem documentText (alike : first.Alike owned second) :
    documentText first = documentText second := by
  simp only [Workflow.documentText, documentText?, alike.output, alike.outputText?]

theorem string? (alike : first.Alike owned second) (owns : provider ∈ owned) :
    first.credentials.string? provider = second.credentials.string? provider := by
  simp only [Credentials.string?, alike.credentials provider owns]

theorem requiredString (alike : first.Alike owned second) (owns : provider ∈ owned) :
    first.credentials.requiredString provider = second.credentials.requiredString provider := by
  simp only [Credentials.requiredString, alike.string? owns]

theorem requiredObject (alike : first.Alike owned second) (owns : provider ∈ owned) :
    first.credentials.requiredObject provider = second.credentials.requiredObject provider := by
  simp only [Credentials.requiredObject, alike.credentials provider owns]

theorem withOutput (alike : first.Alike owned second) (value : Value) :
    (first.withOutput value).Alike owned (second.withOutput value) :=
  { alike with output := rfl }

theorem withError (alike : first.Alike owned second) (message : String) :
    (first.withError message).Alike owned (second.withError message) :=
  { alike with error := rfl }

/-- Side notes do not count, so a new one makes no difference. -/
theorem withExtra (alike : first.Alike owned second) (name : String) (value : Value) :
    (first.withExtra name value).Alike owned (second.withExtra name value) :=
  { alike with }

end State.Alike

/-! ## Work that goes by the owned credentials alone -/

namespace Action

variable {α β : Type} {owned : List String}

/-- On scenes that differ in nothing that counts, the work has the same result, and the scenes it
leaves differ in nothing that counts. Side notes that were the same stay the same. -/
def GoesBy (owned : List String) (action : Action α) : Prop :=
  ∀ first second : Scene, first.Alike owned second →
    (action first).1 = (action second).1 ∧ (action first).2.Alike owned (action second).2 ∧
      (first.state.extras = second.state.extras →
        (action first).2.state.extras = (action second).2.state.extras)

theorem goesBy_pure (a : α) : GoesBy owned (pure a : Action α) :=
  fun _ _ alike => ⟨rfl, alike, id⟩

theorem goesBy_fail (failure : Failure) : GoesBy owned (fail failure : Action α) :=
  fun _ _ alike => ⟨rfl, alike, id⟩

theorem goesBy_lift (result : Except Failure α) : GoesBy owned (liftM result : Action α) :=
  fun _ _ alike => ⟨rfl, alike, id⟩

theorem goesBy_info (message : String) : GoesBy owned (info message) :=
  fun _ _ alike => ⟨rfl, ⟨alike.state, alike.world,
    congrArg (· ++ [Notice.info message]) alike.notices⟩, id⟩

theorem goesBy_onWorld (f : World → α × World) : GoesBy owned (onWorld f) := by
  intro first second alike
  have same : f first.world = f second.world := congrArg f alike.world
  simp only [onWorld, same]
  exact ⟨trivial, ⟨alike.state, rfl, alike.notices⟩, id⟩

/-- A change goes by the owned credentials if it leads from states that are alike to states that
are alike, and does the same to the side notes of both. -/
theorem goesBy_modifyState {f : State → State}
    (keeps : ∀ first second, first.Alike owned second → (f first).Alike owned (f second))
    (notes : ∀ first second : State, first.extras = second.extras →
      (f first).extras = (f second).extras) : GoesBy owned (modifyState f) :=
  fun first second alike =>
    ⟨rfl, ⟨keeps first.state second.state alike.state, alike.world, alike.notices⟩,
      notes first.state second.state⟩

theorem goesBy_withOutput (value : Value) : GoesBy owned (modifyState (·.withOutput value)) :=
  goesBy_modifyState (fun _ _ alike => alike.withOutput value) fun _ _ => id

theorem goesBy_withError (message : String) : GoesBy owned (modifyState (·.withError message)) :=
  goesBy_modifyState (fun _ _ alike => alike.withError message) fun _ _ => id

theorem goesBy_withExtra (name : String) (value : Value) :
    GoesBy owned (modifyState (·.withExtra name value)) :=
  goesBy_modifyState (fun _ _ alike => alike.withExtra name value)
    fun _ _ same => congrArg (·.insert name value) same

theorem goesBy_withError_withOutput (message : String) (value : Value) :
    GoesBy owned (modifyState fun state => (state.withError message).withOutput value) :=
  goesBy_modifyState (fun _ _ alike => (alike.withError message).withOutput value) fun _ _ => id

theorem goesBy_withExtra_withOutput (name : String) (extra value : Value) :
    GoesBy owned (modifyState fun state => (state.withExtra name extra).withOutput value) :=
  goesBy_modifyState (fun _ _ alike => (alike.withExtra name extra).withOutput value)
    fun _ _ same => congrArg (·.insert name extra) same

theorem GoesBy.attempt {action : Action α} (goes : GoesBy owned action) :
    GoesBy owned action.attempt := by
  intro first second alike
  obtain ⟨result, left⟩ := goes first second alike
  exact ⟨congrArg Except.ok result, left⟩

theorem GoesBy.bind {action : Action α} {next : α → Action β} (goes : GoesBy owned action)
    (later : ∀ a, GoesBy owned (next a)) : GoesBy owned (action >>= next) := by
  intro first second alike
  have parts := goes first second alike
  rcases done : action first with ⟨result, left⟩
  rcases done' : action second with ⟨result', left'⟩
  rw [done, done'] at parts
  obtain ⟨same, alike, notes⟩ := parts
  -- the first part has one result on both scenes, so the same work comes second
  change result = result' at same
  subst same
  simp only [bind_apply, done, done']
  cases result with
  | error failure => exact ⟨rfl, alike, notes⟩
  | ok a =>
      obtain ⟨result, alike, rest⟩ := later a left left' alike
      exact ⟨result, alike, fun same => rest (notes same)⟩

/-- A failure recorded and then signalled. -/
theorem goesBy_record (message : String) (failure : Failure) :
    GoesBy owned (do modifyState (·.withError message); fail failure : Action Unit) :=
  (goesBy_withError message).bind fun _ => goesBy_fail failure

/-- Work in front of other work, done or not. -/
theorem GoesBy.bind_if {asked : Prop} [Decidable asked] {front : Action Unit} {work : Action β}
    (first : GoesBy owned front) (later : GoesBy owned work) :
    GoesBy owned (if asked then front >>= fun _ => work else work) := by
  split
  · exact first.bind fun _ => later
  · exact later

/-- Work that starts with the state goes by the owned credentials if it is the same work for states
that are alike. This is where it counts what is read. -/
theorem goesBy_state_bind {next : State → Action β}
    (same : ∀ first second, State.Alike owned first second → next first = next second)
    (later : ∀ state, GoesBy owned (next state)) : GoesBy owned (state >>= next) := by
  intro first second alike
  rw [state_bind_apply, state_bind_apply, same first.state second.state alike.state]
  exact later second.state first second alike

end Action

open Workflow.Action

variable {owned : List String}

/-! ## Services -/

namespace Service
variable (service : Service) (call : HttpCall)

theorem goesBy_send : GoesBy owned (send call) := by
  unfold send
  cases call.request? with
  | none => exact goesBy_pure _
  | some request => exact goesBy_onWorld _

theorem goesBy_answer : GoesBy owned (service.answer call) := by
  refine (goesBy_send call).bind fun reply => ?_
  cases reply with
  | answered status body => exact goesBy_pure _
  | connectionLost => exact goesBy_fail _
  | timedOut => exact goesBy_fail _

theorem goesBy_json : GoesBy owned (service.json call) := by
  refine (goesBy_answer service call).bind fun (status, body) => ?_
  cases body with
  | none => exact goesBy_fail _
  | some body =>
      dsimp only
      split
      · exact goesBy_fail _
      · split
        · exact goesBy_pure _
        · exact goesBy_fail _

theorem goesBy_success : GoesBy owned (service.success call) := by
  refine (goesBy_answer service call).bind fun (status, body) => ?_
  dsimp only
  split
  · exact goesBy_pure _
  · exact goesBy_fail _

end Service

/-! ## Models -/

theorem Chat.goesBy_complete (base key : String) (body : Json) (patience : Nat) :
    GoesBy owned (Chat.complete base key body patience) := by
  refine (Service.goesBy_json _ _).bind fun answer => ?_
  cases Chat.content? answer with
  | some content => exact goesBy_pure _
  | none => exact goesBy_fail _

theorem Gemini.goesBy_generate (base model key : String) (body : Json) :
    GoesBy owned (Gemini.generate base model key body) :=
  (Service.goesBy_json _ _).bind fun answer =>
    (goesBy_lift (Gemini.text answer)).bind fun _ => goesBy_pure _

/-! ## Transcripts -/

namespace Transcript
variable (base videoId language : String) (patience : Nat)

theorem goesBy_page : GoesBy owned (page base videoId language patience) := by
  refine (Service.goesBy_send _).bind fun reply => ?_
  cases reply with
  | answered status body =>
      dsimp only
      split
      · exact goesBy_fail _
      · cases body with
        | some page => exact goesBy_pure _
        | none => exact goesBy_fail _
  | connectionLost => exact goesBy_fail _
  | timedOut => exact goesBy_fail _

theorem goesBy_fetch : GoesBy owned (fetch base videoId language patience) := by
  refine (goesBy_page base videoId language patience).bind fun page => ?_
  cases tracks? page with
  | none => exact goesBy_fail _
  | some tracks =>
      cases found : trackAddress? tracks language with
      | none =>
          simp only [found]
          exact goesBy_fail _
      | some address =>
          simp only [found]
          refine (Service.goesBy_json _ _).bind fun document => ?_
          split
          · exact goesBy_fail _
          · exact goesBy_pure _

end Transcript

/-! ## Mail, databases and files -/

theorem Email.goesBy_send (settings : MailSettings) (subject content : String) :
    GoesBy owned (Email.send settings subject content) := by
  unfold Email.send
  cases Email.session settings subject content with
  | error reason => exact goesBy_pure _
  | ok session =>
      refine (goesBy_onWorld _).bind fun reply => ?_
      cases reply <;> exact goesBy_pure _

namespace Database

theorem goesBy_runStatement (url : String) (options : DatabaseOptions) :
    GoesBy owned (runStatement url options) :=
  (goesBy_onWorld _).bind fun _ => goesBy_lift _

theorem goesBy_runDocuments (uri database : String) (options : DatabaseOptions) :
    GoesBy owned (runDocuments uri database options) := by
  refine (goesBy_onWorld _).bind fun known => ?_
  refine GoesBy.bind_if (goesBy_fail _) ?_
  refine (goesBy_lift _).bind fun operation => ?_
  exact (goesBy_onWorld _).bind fun _ => goesBy_lift _

end Database

theorem OutputTarget.goesBy_write (target : OutputTarget) (content : String) :
    GoesBy owned (target.write content) :=
  (goesBy_onWorld _).bind fun result => goesBy_lift result

end Workflow
