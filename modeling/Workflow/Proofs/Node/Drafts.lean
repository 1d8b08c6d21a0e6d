import Workflow.Proofs.Except
import Workflow.Proofs.Node.Actions
import Workflow.Publishing.Draft

/-!
# Drafts that were found

The service is taken to have created a draft if its answer holds anything at all at the place of the
draft: a success, JSON, no errors, and a value there. In every other case nothing is said and
nothing is put out. A null stands for a draft that was not created, but it is a value; so what is
said is true exactly if no answer holds anything but an object there.

## Main definitions

* `Service.reply`, `Service.Gives` — what a call is replied, and the JSON that a reply gives.
* `Hashnode.Asks`, `Hashnode.Holds` — what the node asks for, and what a reply holds for a draft.
* `Hashnode.created_iff_found` — when the node says that a draft was created, and when that is so.
-/

namespace Workflow

open Workflow.Action

/-! ## Replies -/

namespace Service
variable (service : Service) (call : HttpCall) (scene : Scene)

/-- What a call is replied in a world; one that cannot be sent is a lost connection. -/
def reply (call : HttpCall) (world : World) : HttpReply :=
  match call.request? with
  | some request => (world.http request).1
  | none => .connectionLost

/-- A reply is a success and its body a JSON text. -/
def Gives (reply : HttpReply) (answer : Json) : Prop :=
  ∃ status body, reply = .answered status (some body) ∧ HttpStatus.isSuccess status = true ∧
    Json.parse body = some answer

theorem Gives.unique {reply : HttpReply} {answer other : Json} (gives : Gives reply answer)
    (gives' : Gives reply other) : answer = other := by
  obtain ⟨status, body, rfl, -, parses⟩ := gives
  obtain ⟨_, _, same, -, parses'⟩ := gives'
  cases same
  exact Option.some.inj (parses.symm.trans parses')

/-- What a reply comes to. -/
def ofReply (service : Service) : HttpReply → Except Failure Json
  | .answered status (some body) =>
    if ! HttpStatus.isSuccess status then .error (service.refused status body)
    else match Json.parse body with
      | some json => .ok json
      | none => .error service.invalidJson
  | .answered _ none => .error service.unreadable
  | .connectionLost => .error service.unreachable
  | .timedOut => .error (.timeout service.patience)

theorem ofReply_eq_ok_iff {reply : HttpReply} {answer : Json} :
    service.ofReply reply = .ok answer ↔ Gives reply answer := by
  constructor
  · intro ok
    unfold ofReply at ok
    split at ok
    · split at ok
      · cases ok
      · rename_i success
        split at ok
        · rename_i parses
          cases ok
          exact ⟨_, _, rfl, by simpa using success, parses⟩
        · cases ok
    all_goals cases ok
  · rintro ⟨status, body, rfl, success, parses⟩
    simp [ofReply, success, parses]

/-- A call changes nothing but the world. -/
theorem json_apply :
    ∃ world, service.json call scene =
      (service.ofReply (reply call scene.world), { scene with world }) := by
  have sent : ∃ world, send call scene =
      (.ok (reply call scene.world), { scene with world }) := by
    unfold send reply
    cases call.request? with
    | none => exact ⟨scene.world, rfl⟩
    | some request => exact ⟨_, rfl⟩
  obtain ⟨world, sent⟩ := sent
  refine ⟨world, ?_⟩
  simp only [json, answer, bind_apply, sent]
  rcases reply call scene.world with ⟨status, _ | body⟩ | _ | _
  case answered.some =>
    unfold ofReply
    cases success : HttpStatus.isSuccess status with
    | false => simp [success]
    | true => cases parses : Json.parse body <;> simp [success, parses]
  all_goals rfl

end Service

namespace Hashnode

/-- What the node asks for: a draft of the previous output, with the blog and the token from the
credentials. -/
structure Asks (context : Context) (state : State) (draft : Draft) (token : String) : Prop where
  content : state.outputText? = some draft.content
  token : state.credentials.requiredString "hashnode_token" = .ok token
  blog : state.credentials.requiredString "hashnode_publication_id" = .ok draft.publicationId
  title : (context.params.filledString "title").map (·.getD "AI Generated Post") = .ok draft.title
  slug : (context.params.filledString "slug").map (·.getD "ai-generated-post") = .ok draft.slug

/-- A reply is a success with JSON that tells of no errors, and holds a value at the place of the
draft. -/
def Holds (reply : HttpReply) (found : Json) : Prop :=
  ∃ answer, Service.Gives reply answer ∧ answer.member? "errors" = none ∧
    answer.at? ["data", "createDraft", "draft"] = some found

/-- The node asks for a draft, and the reply holds a value at its place. -/
def Finds (endpoint : String) (context : Context) (scene : Scene) (draft : Draft) (found : Json) :
    Prop :=
  ∃ token, Asks context scene.state draft token ∧
    Holds (Service.reply (draft.call endpoint token) scene.world) found

variable {endpoint : String} {context : Context} {scene : Scene} {draft other : Draft}
  {token : String} {found found' : Json}

theorem Asks.unique {token' : String} (asks : Asks context scene.state draft token)
    (asks' : Asks context scene.state other token') : draft = other ∧ token = token' := by
  rcases draft with ⟨title, slug, content, blog⟩
  rcases other with ⟨title', slug', content', blog'⟩
  obtain rfl := Option.some.inj (asks.content.symm.trans asks'.content)
  obtain rfl := Except.ok.inj (asks.token.symm.trans asks'.token)
  obtain rfl := Except.ok.inj (asks.blog.symm.trans asks'.blog)
  obtain rfl := Except.ok.inj (asks.title.symm.trans asks'.title)
  obtain rfl := Except.ok.inj (asks.slug.symm.trans asks'.slug)
  exact ⟨rfl, rfl⟩

theorem Finds.unique (finds : Finds endpoint context scene draft found)
    (finds' : Finds endpoint context scene other found') : draft = other ∧ found = found' := by
  obtain ⟨token, asks, answer, gives, -, there⟩ := finds
  obtain ⟨token', asks', answer', gives', -, there'⟩ := finds'
  obtain ⟨rfl, rfl⟩ := asks.unique asks'
  cases gives.unique gives'
  exact ⟨rfl, Option.some.inj (there.symm.trans there')⟩

theorem outcome_eq_ok_iff {answer : Json} {message : String} :
    draft.outcome answer = .ok message ↔ answer.member? "errors" = none ∧
      ∃ found, answer.at? ["data", "createDraft", "draft"] = some found ∧
        message = draft.created found := by
  unfold Draft.outcome
  cases answer.member? "errors" with
  | some errors => simp
  | none => cases answer.at? ["data", "createDraft", "draft"] <;> simp [eq_comm]

/-! ## Runs -/

/-- Something to ask with that is missing fails the node before it has done anything. -/
theorem run_of_not_asks (endpoint : String)
    (missing : ∀ draft token, ¬ Asks context scene.state draft token) :
    ∃ failure, run endpoint context scene = (.error failure, scene) := by
  unfold run
  rw [state_bind_apply]
  rcases content : scene.state.outputText? with _ | text
  · exact ⟨_, rfl⟩
  rcases ownToken : scene.state.credentials.requiredString "hashnode_token" with failure | token
  · exact ⟨failure, rfl⟩
  rcases blog : scene.state.credentials.requiredString "hashnode_publication_id" with failure | id
  · exact ⟨failure, rfl⟩
  rcases title : context.params.filledString "title" with failure | named
  · exact ⟨failure, rfl⟩
  rcases slug : context.params.filledString "slug" with failure | address
  · exact ⟨failure, rfl⟩
  refine absurd ?_ (missing ⟨named.getD "AI Generated Post", address.getD "ai-generated-post", text,
    id⟩ token)
  exact ⟨content, ownToken, blog, map_eq_ok_iff.mpr ⟨named, title, rfl⟩,
    map_eq_ok_iff.mpr ⟨address, slug, rfl⟩⟩

/-- What is left to do for a node that can ask. -/
theorem run_of_asks (endpoint : String) (asks : Asks context scene.state draft token) :
    run endpoint context scene = (do
      let answer ← Service.json ⟨"Hashnode", 120⟩ (draft.call endpoint token)
      let message ← draft.outcome answer
      Action.info message
      Action.modifyState (·.withOutput (.string message)) : Action Unit) scene := by
  obtain ⟨named, title, titled⟩ := map_eq_ok_iff.mp asks.title
  obtain ⟨address, slug, placed⟩ := map_eq_ok_iff.mp asks.slug
  have content := asks.content
  rcases draft with ⟨_, _, text, id⟩
  subst titled placed
  unfold run
  rw [state_bind_apply]
  simp only [content, lift_bind_of_ok asks.token, lift_bind_of_ok asks.blog, lift_bind_of_ok title,
    lift_bind_of_ok slug]

/-- Only a reply that holds a value for the draft makes a difference. -/
theorem run_cases (endpoint : String) (context : Context) (scene : Scene) :
    (∃ failure world, run endpoint context scene = (.error failure, { scene with world }) ∧
      ∀ draft found, ¬ Finds endpoint context scene draft found) ∨
    ∃ draft found world, Finds endpoint context scene draft found ∧
      run endpoint context scene = (.ok (), {
        state := scene.state.withOutput (.string (draft.created found)), world,
        notices := scene.notices ++ [.info (draft.created found)] }) := by
  by_cases able : ∃ draft token, Asks context scene.state draft token
  case neg =>
    have missing : ∀ draft token, ¬ Asks context scene.state draft token :=
      fun draft token asks => able ⟨draft, token, asks⟩
    obtain ⟨failure, failed⟩ := run_of_not_asks endpoint missing
    exact .inl ⟨failure, scene.world, failed, fun draft _ ⟨token, asks, _⟩ =>
      missing draft token asks⟩
  obtain ⟨draft, token, asks⟩ := able
  obtain ⟨world, called⟩ := Service.json_apply ⟨"Hashnode", 120⟩ (draft.call endpoint token) scene
  rw [run_of_asks endpoint asks]
  rcases bind_cases (Service.json ⟨"Hashnode", 120⟩ (draft.call endpoint token)) _ scene with
    ⟨failure, failed, whole⟩ | ⟨answer, answered, whole⟩
  · rw [called] at failed whole
    refine .inl ⟨failure, world, whole, ?_⟩
    rintro other found ⟨token', asks', answer, gives, -⟩
    obtain ⟨rfl, rfl⟩ := asks.unique asks'
    cases failed.symm.trans ((Service.ofReply_eq_ok_iff _).mpr gives)
  · rw [called] at answered whole
    have gives := (Service.ofReply_eq_ok_iff _).mp answered
    cases told : draft.outcome answer with
    | error failure =>
        rw [lift_bind_of_error told] at whole
        refine .inl ⟨failure, world, whole, ?_⟩
        rintro other found ⟨token', asks', answer', gives', unharmed, there⟩
        obtain ⟨rfl, rfl⟩ := asks.unique asks'
        cases gives.unique gives'
        cases told.symm.trans (outcome_eq_ok_iff.mpr ⟨unharmed, found, there, rfl⟩)
    | ok message =>
        rw [lift_bind_of_ok told] at whole
        obtain ⟨unharmed, found, there, rfl⟩ := outcome_eq_ok_iff.mp told
        exact .inr ⟨draft, found, world, ⟨token, asks, answer, gives, unharmed, there⟩, whole⟩

/-- The node returns normally exactly if it can ask for a draft and the reply holds a value at the
place of the draft. Then it says and puts out that the draft was created; else it says nothing and
leaves the state as it was. So no draft is ever made up exactly if a value that is found there is an
object. -/
theorem created_iff_found (endpoint : String) (context : Context) (scene : Scene) :
    let left := (hashnode endpoint).run context scene
    (left.1 = .ok () ↔ ∃ draft found, Finds endpoint context scene draft found) ∧
      (∀ draft found, Finds endpoint context scene draft found →
        left.2.state = scene.state.withOutput (.string (draft.created found)) ∧
          left.2.notices = scene.notices ++ [.info (draft.created found)]) ∧
      (left.1 ≠ .ok () → left.2.state = scene.state ∧ left.2.notices = scene.notices) ∧
      ((left.1 = .ok () →
          ∃ draft found, Finds endpoint context scene draft found ∧ found.isObject = true) ↔
        ∀ draft found, Finds endpoint context scene draft found → found.isObject = true) := by
  intro left
  rcases run_cases endpoint context scene with
    ⟨failure, world, run, missing⟩ | ⟨draft, found, world, finds, run⟩
  · have failed : left = _ := run
    rw [failed]
    refine ⟨⟨nofun, ?_⟩, ?_, fun _ => ⟨rfl, rfl⟩, ⟨?_, fun _ => nofun⟩⟩
    · exact fun ⟨draft, found, finds⟩ => absurd finds (missing draft found)
    · exact fun draft found finds => absurd finds (missing draft found)
    · exact fun _ draft found finds => absurd finds (missing draft found)
  · have told : left = _ := run
    rw [told]
    refine ⟨⟨fun _ => ⟨draft, found, finds⟩, fun _ => rfl⟩, ?_, fun failed => absurd rfl failed,
      ⟨?_, fun objects _ => ⟨draft, found, finds, objects draft found finds⟩⟩⟩
    · intro other found' finds'
      obtain ⟨rfl, rfl⟩ := finds.unique finds'
      exact ⟨rfl, rfl⟩
    · intro objects other found' finds'
      obtain ⟨_, _, finds'', object⟩ := objects rfl
      obtain ⟨-, rfl⟩ := finds'.unique finds''
      exact object

/-- A text to publish with its credentials, and a service that replies with a body whatever it is
asked. -/
def replying (body : String) : Scene where
  state := { userQuery := "", output := some (.string "text"), credentials := ⟨[
    ("hashnode_publication_id", .string "blog"), ("hashnode_token", .string "token")]⟩ }
  world := { peers := { Peers.none with http := fun _ _ => some (.answered 200 (some body)) } }

/-- The draft that is asked for there without any parameters. -/
def untitled : Draft := ⟨"AI Generated Post", "ai-generated-post", "text", "blog"⟩

theorem reply_replying (body : String) :
    Service.reply (untitled.call "http://[::1]" "token") (replying body).world =
      .answered 200 (some body) := by
  have sent : (untitled.call "http://[::1]" "token").request?.isSome = true := by
    decide +kernel
  obtain ⟨request, sent⟩ := Option.isSome_iff_exists.mp sent
  rw [Service.reply, sent]
  rfl

/-- A draft with a title of its own. -/
theorem created_iff_found_titled :
    let scene := replying
      "\x7b\"data\":\x7b\"createDraft\":\x7b\"draft\":\x7b\"id\":\"1\",\"title\":\"T\"\x7d\x7d\x7d\x7d"
    let left := (hashnode "http://[::1]").run ⟨"hashnode", 0, ⟨[]⟩⟩ scene
    left.1 = .ok () ∧ left.2.state.output =
      some (.string "Draft 'T' created successfully on Hashnode with ID: 1") := by
  intro scene left
  have finds : Finds "http://[::1]" ⟨"hashnode", 0, ⟨[]⟩⟩ scene untitled
      (.object [("id", .string "1"), ("title", .string "T")]) :=
    ⟨"token", ⟨rfl, rfl, rfl, rfl, rfl⟩, _, ⟨200, _, reply_replying _, rfl, rfl⟩, rfl, rfl⟩
  obtain ⟨created, told, -, -⟩ := created_iff_found "http://[::1]" ⟨"hashnode", 0, ⟨[]⟩⟩ scene
  exact ⟨created.mpr ⟨_, _, finds⟩, congrArg State.output (told _ _ finds).1⟩

/-- A null is taken for a draft. -/
theorem created_from_null :
    let scene := replying "\x7b\"data\":\x7b\"createDraft\":\x7b\"draft\":null\x7d\x7d\x7d"
    let left := (hashnode "http://[::1]").run ⟨"hashnode", 0, ⟨[]⟩⟩ scene
    (hashnode "http://[::1]").check ⟨[]⟩ = .ok () ∧ left.1 = .ok () ∧
      (∀ draft found, Finds "http://[::1]" ⟨"hashnode", 0, ⟨[]⟩⟩ scene draft found →
        found = .null) ∧
      left.2.state.output = some (.string
        "Draft 'AI Generated Post' created successfully on Hashnode with ID: ") := by
  intro scene left
  have finds : Finds "http://[::1]" ⟨"hashnode", 0, ⟨[]⟩⟩ scene untitled .null :=
    ⟨"token", ⟨rfl, rfl, rfl, rfl, rfl⟩, _, ⟨200, _, reply_replying _, rfl, rfl⟩, rfl, rfl⟩
  rcases run_cases "http://[::1]" ⟨"hashnode", 0, ⟨[]⟩⟩ scene with
    ⟨_, _, -, missing⟩ | ⟨draft, found, world, finds', run⟩
  · exact absurd finds (missing _ _)
  · obtain ⟨rfl, rfl⟩ := finds.unique finds'
    exact ⟨rfl, congrArg Prod.fst run, fun _ _ other => (finds.unique other).2.symm,
      congrArg (·.2.state.output) run⟩

end Hashnode

end Workflow
