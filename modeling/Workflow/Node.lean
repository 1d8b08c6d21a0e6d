import Workflow.Event
import Workflow.State
import Workflow.World
/-!
# Nodes

A node is a named step of work. It reads its context and the scene it finds, and leaves another
scene, together with a failure or none.

## Main definitions

* `Scene` — all that a running node can change: the state, the world, its own notices.
* `Action` — work on a scene that may fail; what has been changed stays changed when it does.
* `Node` — identifier, work, check of parameters, description.
-/

namespace Workflow

/-- What a node is told about the step it runs in. -/
structure Context where
  nodeId : String
  position : Nat
  params : Params
  deriving Repr

/-- What a running node can change. -/
structure Scene where
  state : State
  world : World
  notices : List Notice := []

/-- Work on a scene that gives an `α` or fails. -/
def Action (α : Type) : Type := Scene → Except Failure α × Scene

namespace Action
variable {α β : Type}

protected def pure (a : α) : Action α := fun scene => (.ok a, scene)

protected def bind (action : Action α) (next : α → Action β) : Action β := fun scene =>
  match action scene with
  | (.ok a, scene) => next a scene
  | (.error failure, scene) => (.error failure, scene)

instance : Monad Action where
  pure := Action.pure
  bind := Action.bind

/-- Fail and change nothing. -/
def fail (failure : Failure) : Action α := fun scene => (.error failure, scene)

/-- Work that needs no scene. -/
def ofExcept (result : Except Failure α) : Action α := fun scene => (result, scene)

instance : MonadLift (Except Failure) Action := ⟨ofExcept⟩

/-- The outcome of an action, a failure included, as a value. -/
def attempt (action : Action α) : Action (Except Failure α) := fun scene =>
  let (result, scene) := action scene
  (.ok result, scene)

def state : Action State := fun scene => (.ok scene.state, scene)

def modifyState (f : State → State) : Action Unit := fun scene =>
  (.ok (), { scene with state := f scene.state })

/-- Work on the world alone. -/
def onWorld (f : World → α × World) : Action α := fun scene =>
  let (a, world) := f scene.world
  (.ok a, { scene with world })

def notice (notice : Notice) : Action Unit := fun scene =>
  (.ok (), { scene with notices := scene.notices ++ [notice] })

def info (message : String) : Action Unit := notice (.info message)

@[simp] theorem pure_apply (a : α) (scene : Scene) :
    (pure a : Action α) scene = (.ok a, scene) := rfl

@[simp] theorem bind_apply (action : Action α) (next : α → Action β) (scene : Scene) :
    (action >>= next) scene = match action scene with
      | (.ok a, scene) => next a scene
      | (.error failure, scene) => (.error failure, scene) := rfl

@[simp] theorem fail_apply (failure : Failure) (scene : Scene) :
    (fail failure : Action α) scene = (.error failure, scene) := rfl

@[simp] theorem state_apply (scene : Scene) : state scene = (.ok scene.state, scene) := rfl

end Action

/-- What a description says of one parameter. -/
structure ParamNote where
  name : String
  description : String
  required : Bool
  deriving DecidableEq, Repr

/-- The description of a node. -/
structure Description where
  text : String := ""
  category : String := "general"
  params : List ParamNote := []
  deriving DecidableEq, Repr

/-- A node. -/
structure Node where
  id : String
  run : Context → Action Unit
  /-- The check of its parameters when a chain is built. -/
  check : Params → Except Failure Unit := fun _ => .ok ()
  description : Description := {}

end Workflow
