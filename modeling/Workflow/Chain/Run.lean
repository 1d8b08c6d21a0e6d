import Workflow.Chain
/-!
# Running a chain

The steps run one after another on one state. A signalled failure stops the run. A failure that a
node records in the state while it returns normally is governed by the policy: it is a soft failure
if the recorded text is not the one that stood there before the step.

## Main definitions

* `Policy` — what a soft failure does to a run.
* `Progress` — where a run has got to: state or error, world, events.
* `Step.run`, `Chain.run` — run a step, run a chain.
-/

namespace Workflow

/-- What happens when a node records an error but returns normally. -/
inductive Policy where
  /-- Warn and go on. -/
  | goOn
  /-- Stop as if the node had signalled a failure. -/
  | abort
  deriving DecidableEq, Repr, Inhabited

namespace Policy

/-- The policy that a text names, in any case and with space around it; any other text is refused
with what was read. -/
def parse (text : String) : Except String Policy :=
  let name := Text.lowerAscii (Text.trimString text)
  if name = "continue" then .ok goOn
  else if name = "abort" then .ok abort
  else .error ("unknown soft failure policy: " ++ name)

/-- The one exact name of each policy. -/
def name : Policy → String
  | goOn => "continue"
  | abort => "abort"

/-- The policy of an exact name. -/
def ofName? (s : String) : Option Policy :=
  if s = "continue" then some goOn else if s = "abort" then some abort else none

end Policy

/-- Where a run has got to. -/
structure Progress where
  outcome : Except RunError State
  world : World
  events : List Event

/-- The error that a step has recorded, if it is not the one from before. -/
def freshError (before after : State) : Option String :=
  if after.error = before.error then none else after.error

namespace Step

/-- The warning that a run goes on after a soft failure. -/
def continuing (reason : String) : Notice := .warning ("Continuing after error: " ++ reason)

/-- Run a step. -/
def run (policy : Policy) (step : Step) (state : State) (world : World) : Progress :=
  let (result, scene) := step.node.run step.context ⟨state, world, []⟩
  let noticed (notice : Notice) : Event := .noticed step.nodeId step.position notice
  let started := Event.nodeStarted step.nodeId step.position :: scene.notices.map noticed
  let completed := Event.nodeCompleted step.nodeId step.position scene.state.output
  let failed (error : RunError) (text : String) : Progress :=
    ⟨.error error, scene.world, started ++ [.nodeFailed step.nodeId step.position text]⟩
  match result with
  | .error failure => failed (.nodeFailed step.nodeId step.position failure) failure.message
  | .ok () =>
    match freshError state scene.state, policy with
    | none, _ => ⟨.ok scene.state, scene.world, started ++ [completed]⟩
    | some reason, .goOn =>
      ⟨.ok scene.state, scene.world, started ++ [noticed (continuing reason), completed]⟩
    | some reason, .abort => failed (.softFailure step.nodeId step.position reason) reason

end Step

namespace Chain

/-- Run steps up to the first that stops the run. -/
def runSteps (policy : Policy) : List Step → State → World → Progress
  | [], state, world => ⟨.ok state, world, []⟩
  | step :: rest, state, world =>
    let progress := step.run policy state world
    match progress.outcome with
    | .error _ => progress
    | .ok state =>
      let later := runSteps policy rest state progress.world
      { later with events := progress.events ++ later.events }

/-- Run a chain, with an event at either end. -/
def run (chain : Chain) (policy : Policy) (state : State) (world : World) : Progress :=
  let progress := runSteps policy chain.steps state world
  { progress with
    events := .runStarted state.workflowId chain.nodeIds :: progress.events
      ++ [.runCompleted progress.outcome.isOk] }

end Chain

end Workflow
