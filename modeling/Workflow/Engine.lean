import Workflow.Chain.Run
import Workflow.Request
/-!
# The engine

Builds a chain for an invocation, runs it, and picks the output from the final state.

## Main definitions

* `Engine` — a registry and a policy.
* `Engine.execute` — build against the state's own parameters, then run.
* `Engine.run` — run a request and give its output, null if there is none.
-/

namespace Workflow

structure Engine where
  registry : Registry
  policy : Policy := .goOn

/-- What an invocation gives: an `α` or an error, the world it leaves, and its events. -/
structure Invocation (α : Type) where
  result : Except InvocationError α
  world : World
  events : List Event

namespace Engine

def build (engine : Engine) (nodeIds : List String) (nodeParams : Option (Fields Params)) :
    Except BuildError Chain :=
  engine.registry.build nodeIds (nodeParams.getD [])

/-- Build against the state's own parameters, then run to the end. -/
def execute (engine : Engine) (nodeIds : List String) (state : State) (world : World) :
    Invocation State :=
  match engine.build nodeIds (some state.nodeParams) with
  | .error error => ⟨.error (.build error), world, []⟩
  | .ok chain =>
    let progress := chain.run engine.policy state world
    ⟨progress.outcome.mapError .run, progress.world, progress.events⟩

/-- The output of a final state, null if there is none. -/
def output (state : State) : Value := state.output.getD .null

/-- Run nodes from a fresh state and give the output. -/
def runFrom (engine : Engine) (nodeIds : List String) (state : State) (world : World) :
    Invocation Value :=
  let invocation := engine.execute nodeIds state world
  ⟨invocation.result.map output, invocation.world, invocation.events⟩

/-- Run a request and give its output. -/
def run (engine : Engine) (request : Request) (world : World) : Invocation Value :=
  engine.runFrom request.nodeIds request.initialState world

end Engine

end Workflow
