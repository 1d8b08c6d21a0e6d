import Workflow.CommandLine
import Workflow.Proofs.Engine.Invocation
import Workflow.Server

/-!
# One verdict on every way in

A request reaches the engine directly, over HTTP, or in a file on the command line, where it can be
checked as well as run. On each of these ways it is built first, and the verdict of building is the
same: a refused request runs nothing and is answered with the reason, and any other is run.

## Main definitions

* `Console.PastValidation` — a console shows that a run has started.
* `Engine.run_eq_build_iff` — a request is refused exactly if it cannot be built.
* `JsonReader.Lawful` — what the server relies on of the framework that hands it bodies.
* `Server.answer_of_query` — the answer to a query is the outcome of the run.
* `CommandLine.failure_of_validate`, `CommandLine.pastValidation_run_iff` — checking and running.
* `verdict_on_every_surface` — all ways in agree on which requests are refused.
-/

namespace Workflow

/-! ## The engine -/

namespace Engine

variable {engine : Engine} {request : Request} {error : BuildError}

/-- A request is built from the state it starts from as it is built from its own parameters. The
policy has no part in that. -/
theorem build_initialState (engine : Engine) (request : Request) :
    engine.build request.nodeIds (some request.initialState.nodeParams) =
      build { registry := engine.registry } request.nodeIds request.nodeParams := by
  simp [build, Request.initialState]

/-- A request gives an error of building exactly if it cannot be built, and it gives that error. -/
theorem run_eq_build_iff {world : World} :
    (engine.run request world).result = .error (.build error) ↔
      build { registry := engine.registry } request.nodeIds request.nodeParams = .error error := by
  rw [← build_initialState]
  exact runFrom_eq_build_iff

/-- A request that cannot be built leaves the world as it is, and there are no events. -/
theorem run_of_refused
    (refused : build { registry := engine.registry } request.nodeIds request.nodeParams =
      .error error) (world : World) :
    engine.run request world = ⟨.error (.build error), world, []⟩ :=
  runFrom_of_refused ((build_initialState engine request).trans refused) world

end Engine

/-! ## The server -/

namespace JsonReader

/-- What the server relies on of a framework: a body is handed on as it is if it is declared as JSON
and keeps within the limit, and otherwise it is not handed on. -/
structure Lawful (reader : JsonReader) : Prop where
  takes : ∀ contentType body, contentType.any MediaType.isJson = true →
    body.utf8ByteSize ≤ sizeLimit → reader.handOn contentType body = .ok body
  refuses : ∀ contentType body,
    contentType.any MediaType.isJson = false ∨ sizeLimit < body.utf8ByteSize →
      ∃ complaint, reader.handOn contentType body = .error complaint

theorem lawful_standard : standard.Lawful where
  takes contentType body isJson small := by
    simp [standard, isJson, Nat.not_lt.mpr small]
  refuses contentType body unfit := by
    cases isJson : contentType.any MediaType.isJson with
    | false => simp [standard, isJson]
    | true =>
        have large := unfit.resolve_left (by simp [isJson])
        simp [standard, isJson, large]

end JsonReader

/-- A client posts a request: as JSON that stands for it, of a size that is accepted. -/
structure WebRequest.Posts (web : WebRequest) (request : Request) : Prop where
  route : Route.of? web = some .query
  isJson : web.contentType.any MediaType.isJson = true
  small : web.body.utf8ByteSize ≤ JsonReader.sizeLimit
  stands : Request.parse web.body = some request

namespace Server

variable {server : Server} {reader : JsonReader} {web : WebRequest} {request : Request}

/-- A query is answered with the outcome of its run. -/
theorem answer_of_posts (lawful : reader.Lawful) (posts : web.Posts request) (world : World) :
    let answer := server.engine.run request world
    server.answer web world reader =
      ⟨outcomeReply answer.result, answer.world, answer.events⟩ := by
  have taken := lawful.takes _ _ posts.isJson posts.small
  simp [answer, posts.route, runChain, readBody, taken, posts.stands]

/-- A query that is not handed on is answered with the complaint, and nothing is run. -/
theorem answer_of_unfit (lawful : reader.Lawful) (route : Route.of? web = some .query)
    (unfit : web.contentType.any MediaType.isJson = false ∨
      JsonReader.sizeLimit < web.body.utf8ByteSize) (world : World) :
    ∃ complaint, server.answer web world reader =
      ⟨⟨400, some (.object [("detail", .string complaint)])⟩, world, []⟩ := by
  obtain ⟨complaint, refused⟩ := lawful.refuses _ _ unfit
  exact ⟨complaint, by simp [answer, route, runChain, readBody, refused, detail]⟩

/-- A request that can be built is answered with its output, or with the place of the failure. -/
theorem outcomeReply_of_built {engine : Engine} {chain : Chain}
    (built : Engine.build { registry := engine.registry } request.nodeIds request.nodeParams =
      .ok chain) (world : World) :
    let answer := engine.run request world
    (∃ output, answer.result = .ok output ∧
      outcomeReply answer.result = ⟨200, some (.object [("result", output.toJson)])⟩) ∨
    ∃ failure, answer.result = .error (.run failure) ∧
      request.nodeIds[failure.position]? = some failure.nodeId ∧
      outcomeReply answer.result = ⟨500, some (.object [("detail", .string failure.message),
        ("node_id", .string failure.nodeId), ("position", .int failure.position)])⟩ := by
  intro answer
  cases result : answer.result with
  | ok output => exact .inl ⟨output, rfl, rfl⟩
  | error error =>
      cases error with
      | build error =>
          have refused := Engine.run_eq_build_iff.mp result
          rw [built] at refused
          cases refused
      | run failure => exact .inr ⟨failure, rfl, Engine.place_of_run result, rfl⟩

end Server

/-! ## The command line -/

/-- The line that tells the start of a run. -/
def CommandLine.startLine : String := "▶️  Chain started"

/-- What a console shows tells that a run has started. -/
def Console.PastValidation (console : Console) : Prop := CommandLine.startLine ∈ console.lines

/-- Two consoles show the same but for the first line, where the file is named. -/
def Console.SameBelow (first second : Console) : Prop :=
  first.lines.tail = second.lines.tail ∧ first.failure = second.failure

namespace CommandLine

variable {registry : Registry} {elapsed file : String} {query : Option String} {policy : Policy}
  {world : World} {request : Request}

/-- A line that starts with another character is not the line that tells the start. -/
theorem ne_startLine {line : String} {c : Char} (head : line.toList.head? = some c)
    (differs : c ≠ '▶') : startLine ≠ line := by
  rintro rfl
  have same : startLine.toList.head? = some '▶' := rfl
  rw [same] at head
  exact differs (Option.some.inj head).symm

/-- The lines above the events of a run do not tell its start. -/
theorem startLine_not_mem (file : String) (nodeIds : List String) :
    startLine ∉ ["🚀 Loading request from: " ++ file, "📋 Chain: " ++ arrows nodeIds, ""] := by
  have loading : startLine ≠ "🚀 Loading request from: " ++ file := by
    refine ne_startLine (c := '🚀') ?_ (by decide)
    simp
  have chain : startLine ≠ "📋 Chain: " ++ arrows nodeIds := by
    refine ne_startLine (c := '📋') ?_ (by decide)
    simp
  have blank : startLine ≠ "" := by decide
  simp [loading, chain, blank]

/-! ### Checking a file -/

/-- A check accepts exactly the files with a request that a chain can be built from. -/
theorem failure_validate_iff :
    (validate registry file world).failure = none ↔
      ∃ request chain, load world file = .ok request ∧
        Engine.build { registry } request.nodeIds request.nodeParams = .ok chain := by
  unfold validate
  cases loaded : load world file with
  | error message => simp [Console.fail]
  | ok request =>
      cases built : Engine.build { registry } request.nodeIds request.nodeParams with
      | error error => simp [Console.fail, built]
      | ok chain => simp [Console.print, built]

theorem failure_of_validate {error : BuildError} (loaded : load world file = .ok request)
    (refused : Engine.build { registry } request.nodeIds request.nodeParams = .error error) :
    (validate registry file world).failure = some (.failed error.message) := by
  simp [validate, loaded, refused, Console.fail]

/-! ### Running a file -/

/-- A request that is refused leaves the world as it is, and the console ends with the reason. -/
theorem run_of_refused {error : BuildError} (loaded : load world file = .ok request)
    (refused : Engine.build { registry } request.nodeIds request.nodeParams = .error error) :
    run registry elapsed file query policy world =
      (⟨["🚀 Loading request from: " ++ file, "📋 Chain: " ++ arrows request.nodeIds, ""],
        some (.failed error.message)⟩, world) := by
  -- another query has no part in building
  have gives : Engine.run ⟨registry, policy⟩ (asking request query) world = _ :=
    Engine.run_of_refused refused world
  simp [run, loaded, gives, Console.print, Console.fail, InvocationError.message]

/-- The events of a run tell its start. -/
theorem startLine_mem (elapsed : String) (chain : Chain) (policy : Policy) (state : State)
    (world : World) :
    startLine ∈ (chain.run policy state world).events.map (eventLine elapsed) := by
  rw [Chain.run_eq]
  exact List.mem_map.mpr ⟨_, List.mem_cons_self, rfl⟩

/-- Any other is run, whatever comes of that. -/
theorem pastValidation_of_built {chain : Chain} (loaded : load world file = .ok request)
    (built : Engine.build { registry } request.nodeIds request.nodeParams = .ok chain) :
    (run registry elapsed file query policy world).1.PastValidation := by
  have gives := Engine.runFrom_of_built
    ((Engine.build_initialState ⟨registry, policy⟩ (asking request query)).trans built) world
  have told := startLine_mem elapsed chain policy (asking request query).initialState world
  simp only [run, loaded, Engine.run]
  rw [gives]
  unfold Console.PastValidation
  dsimp only [Console.print, Console.fail]
  split
  · exact List.mem_append_right _ told
  · exact List.mem_append_left _ (List.mem_append_right _ told)

/-- A run gets past its validation exactly for the files that a check accepts. -/
theorem pastValidation_run_iff :
    (run registry elapsed file query policy world).1.PastValidation ↔
      ∃ request chain, load world file = .ok request ∧
        Engine.build { registry } request.nodeIds request.nodeParams = .ok chain := by
  constructor
  · intro past
    cases loaded : load world file with
    | error message =>
        have quiet := startLine_not_mem file []
        simp only [run, loaded] at past
        simp only [List.mem_cons, not_or] at quiet
        simp [Console.PastValidation, Console.fail, quiet.1] at past
    | ok request =>
        cases built : Engine.build { registry } request.nodeIds request.nodeParams with
        | ok chain => exact ⟨request, chain, rfl, built⟩
        | error error =>
            rw [run_of_refused loaded built] at past
            exact absurd past (startLine_not_mem file request.nodeIds)
  · rintro ⟨request, chain, loaded, built⟩
    exact pastValidation_of_built loaded built

/-! ### Parameters that are left out -/

/-- A check makes no difference between no parameters and empty ones. -/
theorem validate_absent {other : String} (absent : request.nodeParams = none)
    (loaded : load world file = .ok request)
    (loaded' : load world other = .ok { request with nodeParams := some [] }) :
    (validate registry file world).SameBelow (validate registry other world) := by
  have same : Engine.build { registry } request.nodeIds (some []) =
      Engine.build { registry } request.nodeIds none := rfl
  simp only [validate, loaded, loaded', absent, same]
  cases Engine.build { registry } request.nodeIds none <;> exact ⟨rfl, rfl⟩

/-- Neither does a run. -/
theorem run_absent {other : String} (absent : request.nodeParams = none)
    (loaded : load world file = .ok request)
    (loaded' : load world other = .ok { request with nodeParams := some [] }) :
    let first := run registry elapsed file query policy world
    let second := run registry elapsed other query policy world
    first.1.SameBelow second.1 ∧ first.2 = second.2 := by
  have same : Engine.run ⟨registry, policy⟩
        (asking { request with nodeParams := some [] } query) world =
      Engine.run ⟨registry, policy⟩ (asking request query) world := by
    simp [Engine.run, asking, Request.initialState, absent]
  simp only [run, loaded, loaded', same]
  cases (Engine.run ⟨registry, policy⟩ (asking request query) world).result <;>
    exact ⟨⟨rfl, rfl⟩, rfl⟩

end CommandLine

/-! ## All of them -/

open CommandLine in
/-- What building a request gives is its verdict on every way in. A refused request gives that very
error, runs nothing and is answered with status 400; any other is run, and answered with its output
or with the place of the failure. What the framework does not hand on as a request runs nothing
either. A check of a file accepts it exactly if a run of it gets past validation. Parameters that
are left out count as none, on all of these ways. -/
theorem verdict_on_every_surface (registry : Registry) (request : Request) :
    let verdict := Engine.build { registry } request.nodeIds request.nodeParams
    (∀ (policy : Policy) (world : World),
      let answer := Engine.run ⟨registry, policy⟩ request world
      ∀ error, (answer.result = .error (.build error) ↔ verdict = .error error) ∧
        (verdict = .error error → answer.world = world ∧ answer.events = [])) ∧
    (∀ (reader : JsonReader) (server : Server) (web : WebRequest) (world : World),
      reader.Lawful → server.engine.registry = registry → web.Posts request →
      let answer := server.engine.run request world
      let exchange := server.answer web world reader
      exchange.world = answer.world ∧ exchange.events = answer.events ∧
      (∀ error, verdict = .error error →
        exchange.reply = ⟨400, some (.object [("detail", .string error.message)])⟩) ∧
      ∀ chain, verdict = .ok chain →
        (∃ output, answer.result = .ok output ∧
          exchange.reply = ⟨200, some (.object [("result", output.toJson)])⟩) ∨
        ∃ failure, answer.result = .error (.run failure) ∧
          request.nodeIds[failure.position]? = some failure.nodeId ∧
          exchange.reply = ⟨500, some (.object [("detail", .string failure.message),
            ("node_id", .string failure.nodeId), ("position", .int failure.position)])⟩) ∧
    (∀ (reader : JsonReader) (server : Server) (web : WebRequest) (world : World),
      reader.Lawful → Route.of? web = some .query →
      (web.contentType.any MediaType.isJson = false ∨
        JsonReader.sizeLimit < web.body.utf8ByteSize) →
      ∃ complaint, server.answer web world reader =
        ⟨⟨400, some (.object [("detail", .string complaint)])⟩, world, []⟩) ∧
    (∀ (elapsed file : String) (query : Option String) (policy : Policy) (world : World),
      let checked := (carryOut registry elapsed (.validate file) world).1
      let ran := (carryOut registry elapsed (.run file query policy) world).1
      (checked.failure = none ↔ ran.PastValidation) ∧
      (load world file = .ok request →
        (checked.failure = none ↔ ∃ chain, verdict = .ok chain) ∧
        ∀ error, verdict = .error error →
          checked.failure = some (.failed error.message) ∧
            ran.failure = some (.failed error.message))) ∧
    (request.nodeParams = none →
      let empty : Request := { request with nodeParams := some [] }
      Engine.build { registry } empty.nodeIds empty.nodeParams = verdict ∧
      (∀ (policy : Policy) (world : World),
        Engine.run ⟨registry, policy⟩ empty world = Engine.run ⟨registry, policy⟩ request world) ∧
      (∀ (reader : JsonReader) (server : Server) (web other : WebRequest) (world : World),
        reader.Lawful → web.Posts request → other.Posts empty →
        server.answer other world reader = server.answer web world reader) ∧
      ∀ (elapsed file other : String) (query : Option String) (policy : Policy) (world : World),
        load world file = .ok request → load world other = .ok empty →
        (carryOut registry elapsed (.validate file) world).1.SameBelow
            (carryOut registry elapsed (.validate other) world).1 ∧
          (carryOut registry elapsed (.run file query policy) world).1.SameBelow
            (carryOut registry elapsed (.run other query policy) world).1 ∧
          (carryOut registry elapsed (.run file query policy) world).2 =
            (carryOut registry elapsed (.run other query policy) world).2) := by
  intro verdict
  refine ⟨?engine, ?server, fun _ _ _ world lawful route unfit =>
    Server.answer_of_unfit lawful route unfit world, ?commandLine, ?absent⟩
  case engine =>
    intro policy world answer error
    refine ⟨Engine.run_eq_build_iff, fun refused => ?_⟩
    have gives : answer = ⟨.error (.build error), world, []⟩ :=
      Engine.run_of_refused refused world
    rw [gives]
    exact ⟨rfl, rfl⟩
  case server =>
    intro reader server web world lawful shared posts answer exchange
    subst shared
    have replies : exchange = ⟨Server.outcomeReply answer.result, answer.world, answer.events⟩ :=
      Server.answer_of_posts lawful posts world
    rw [replies]
    refine ⟨rfl, rfl, fun error refused => ?_, fun chain built => ?_⟩
    · rw [Engine.run_eq_build_iff.mpr refused]
      rfl
    · exact Server.outcomeReply_of_built built world
  case commandLine =>
    intro elapsed file query policy world checked ran
    refine ⟨failure_validate_iff.trans pastValidation_run_iff.symm, ?_⟩
    intro loaded
    constructor
    · refine failure_validate_iff.trans ⟨?_, ?_⟩
      · rintro ⟨other, chain, loaded', built⟩
        rw [loaded, Except.ok.injEq] at loaded'
        subst loaded'
        exact ⟨chain, built⟩
      · rintro ⟨chain, built⟩
        exact ⟨request, chain, loaded, built⟩
    · intro error refused
      refine ⟨failure_of_validate loaded refused, ?_⟩
      have gives : run registry elapsed file query policy world = _ := run_of_refused loaded refused
      exact congrArg (fun ended : Console × World => ended.1.failure) gives
  case absent =>
    intro absent empty
    have builds : Engine.build { registry } empty.nodeIds empty.nodeParams = verdict := by
      simp [verdict, empty, Engine.build, absent]
    have runs (engine : Engine) (world : World) :
        engine.run empty world = engine.run request world := by
      simp [Engine.run, empty, Request.initialState, absent]
    refine ⟨builds, fun policy => runs ⟨registry, policy⟩, ?_, ?_⟩
    · intro reader server web other world lawful posts posts'
      have first : server.answer web world reader = _ := Server.answer_of_posts lawful posts world
      have second : server.answer other world reader = _ :=
        Server.answer_of_posts lawful posts' world
      rw [runs] at second
      exact second.trans first.symm
    · intro elapsed file other query policy world loaded loaded'
      exact ⟨validate_absent absent loaded loaded', run_absent absent loaded loaded'⟩

/-- The text of a request for nodes whose identifiers are given as JSON. -/
def Request.rehearsal (nodeIds : String) : String :=
  "\x7b\"node_ids\":[" ++ nodeIds ++ "],\"user_query\":\"\"\x7d"

/-- The request as a client posts it. -/
def WebRequest.rehearsal (nodeIds : String) : WebRequest :=
  ⟨"POST", "/query", some "application/json", Request.rehearsal nodeIds⟩

/-- A world where the request stands in a file. -/
def World.rehearsal (nodeIds : String) : World where
  peers := default
  files := ⟨[(["a.json"], .file (Request.rehearsal nodeIds))]⟩

/-- A request that runs to its end, one that stops at a soft failure, and one with an unknown node,
as a server answers them. The last two are run from a file, too. -/
theorem verdict_on_every_surface_rehearsal :
    let server : Server := ⟨⟨.rehearsal, .abort⟩, { outputDirectory := "/tmp" }⟩
    let served (nodeIds : String) := server.answer (.rehearsal nodeIds) default .standard
    let console (nodeIds : String) :=
      (CommandLine.run .rehearsal "0" "a.json" none .goOn (.rehearsal nodeIds)).1
    (served "\"writer\"").reply = ⟨200, some (.object [("result", .string "draft")])⟩ ∧
      (served "\"writer\",\"flaky\"").reply = ⟨500, some (.object [
        ("detail", .string "Node 'flaky' at position 1 reported an error: quota exceeded"),
        ("node_id", .string "flaky"), ("position", .int 1)])⟩ ∧
      (served "\"writer\",\"ghost\"").reply =
        ⟨400, some (.object [("detail", .string "Unknown node: ghost")])⟩ ∧
      (console "\"writer\",\"flaky\"").PastValidation ∧
      (console "\"writer\",\"ghost\"").failure = some (.failed "Unknown node: ghost") := by
  intro server served console
  have lawful := JsonReader.lawful_standard
  have written : (WebRequest.rehearsal "\"writer\"").Posts ⟨["writer"], "", {}, none, none⟩ :=
    ⟨rfl, rfl, by decide, rfl⟩
  have failing : (WebRequest.rehearsal "\"writer\",\"flaky\"").Posts
      ⟨["writer", "flaky"], "", {}, none, none⟩ := ⟨rfl, rfl, by decide, rfl⟩
  have haunted : (WebRequest.rehearsal "\"writer\",\"ghost\"").Posts
      ⟨["writer", "ghost"], "", {}, none, none⟩ := ⟨rfl, rfl, by decide, rfl⟩
  obtain ⟨_, writes, _⟩ :=
    verdict_on_every_surface .rehearsal ⟨["writer"], "", {}, none, none⟩
  obtain ⟨_, fails, _, failsInFile, _⟩ :=
    verdict_on_every_surface .rehearsal ⟨["writer", "flaky"], "", {}, none, none⟩
  obtain ⟨_, haunts, _, hauntsFile, _⟩ :=
    verdict_on_every_surface .rehearsal ⟨["writer", "ghost"], "", {}, none, none⟩
  refine ⟨?_, ?_, ?_, ?_, ?_⟩
  · obtain ⟨_, _, _, built⟩ := writes .standard server _ default lawful rfl written
    rcases built _ rfl with ⟨_, succeeds, replied⟩ | ⟨_, stops, _⟩
    · cases succeeds
      exact replied
    · cases stops
  · obtain ⟨_, _, _, built⟩ := fails .standard server _ default lawful rfl failing
    rcases built _ rfl with ⟨_, succeeds, _⟩ | ⟨_, stops, _, replied⟩
    · cases succeeds
    · cases stops
      exact replied
  · obtain ⟨_, _, refused, _⟩ := haunts .standard server _ default lawful rfl haunted
    exact refused _ rfl
  · obtain ⟨agree, loaded⟩ :=
      failsInFile "0" "a.json" none .goOn (.rehearsal "\"writer\",\"flaky\"")
    exact agree.mp ((loaded rfl).1.mpr ⟨_, rfl⟩)
  · obtain ⟨_, loaded⟩ :=
      hauntsFile "0" "a.json" none .goOn (.rehearsal "\"writer\",\"ghost\"")
    exact ((loaded rfl).2 _ rfl).2

end Workflow
