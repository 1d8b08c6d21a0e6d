import Workflow.Node

/-!
# What actions leave alone, and how they fail

The work of a node is put together from primitive actions, one after another. Two properties of such
work are built up the same way: that it leaves the state and the files as they are, and that every
failure it signals is of a certain kind.

## Main definitions

* `Action.Quiet` — work that leaves state and files as they are, whatever its outcome.
* `Action.FailsWith P` — work all of whose failures have the property `P`.
* `Action.Quiet.bind`, `Action.FailsWith.bind` — both carry over from the parts to the whole.
-/

namespace Workflow

/-- The scene after a message. -/
def Scene.told (scene : Scene) (message : String) : Scene :=
  { scene with notices := scene.notices ++ [.info message] }

namespace Action

variable {α β : Type}

/-- Work that leaves state and files as they are, whatever its outcome. It may talk to the peers and
give notice. -/
def Quiet (action : Action α) : Prop :=
  ∀ scene, (action scene).2.state = scene.state ∧
    (action scene).2.world.files = scene.world.files

/-- Every failure that the work signals has a property. -/
def FailsWith (P : Failure → Prop) (action : Action α) : Prop :=
  ∀ scene failure, (action scene).1 = .error failure → P failure

/-! ## Sequencing -/

/-- Work of two parts either fails in the first part or goes on where that has led. -/
theorem bind_cases (action : Action α) (next : α → Action β) (scene : Scene) :
    (∃ failure, (action scene).1 = .error failure ∧
        (action >>= next) scene = (.error failure, (action scene).2)) ∨
      ∃ a, (action scene).1 = .ok a ∧ (action >>= next) scene = next a (action scene).2 := by
  rw [bind_apply]
  rcases action scene with ⟨failure | a, after⟩
  · exact .inl ⟨failure, rfl, rfl⟩
  · exact .inr ⟨a, rfl, rfl⟩

/-- What holds of two changes in a row, and of each part, holds of the whole. -/
theorem rel_bind {R : Scene → Scene → Prop} {action : Action α} {next : α → Action β}
    (trans : ∀ {before between after}, R before between → R between after → R before after)
    (first : ∀ scene, R scene (action scene).2) (later : ∀ a scene, R scene (next a scene).2)
    (scene : Scene) : R scene ((action >>= next) scene).2 := by
  rcases bind_cases action next scene with ⟨failure, -, whole⟩ | ⟨a, -, whole⟩
  · rw [whole]
    exact first scene
  · rw [whole]
    exact trans (first scene) (later a _)

theorem lift_apply (result : Except Failure α) (scene : Scene) :
    (liftM result : Action α) scene = (result, scene) := rfl

/-- A result that is at hand is handed on. -/
theorem lift_bind_of_ok {result : Except Failure α} {a : α} (ok : result = .ok a)
    (next : α → Action β) : (liftM result : Action α) >>= next = next a := by
  subst ok
  rfl

theorem lift_bind_of_error {result : Except Failure α} {failure : Failure}
    (failed : result = .error failure) (next : α → Action β) :
    (liftM result : Action α) >>= next = fail failure := by
  subst failed
  rfl

/-- A look at the state first, and then the rest with what it shows. -/
theorem state_bind_apply (next : State → Action α) (scene : Scene) :
    (state >>= next) scene = next scene.state scene := rfl

/-- A message first, and then the rest. -/
theorem info_bind_apply (message : String) (next : Unit → Action α) (scene : Scene) :
    (info message >>= next) scene = next () (scene.told message) := rfl

/-- An attempt first, and then the rest with its outcome. -/
theorem attempt_bind_apply (action : Action α) (next : Except Failure α → Action β)
    (scene : Scene) :
    (action.attempt >>= next) scene = next (action scene).1 (action scene).2 := rfl

/-! ## Quiet work -/

theorem quiet_pure (a : α) : Quiet (pure a) := fun _ => ⟨rfl, rfl⟩

theorem quiet_fail (failure : Failure) : Quiet (fail failure : Action α) := fun _ => ⟨rfl, rfl⟩

theorem quiet_lift (result : Except Failure α) : Quiet (liftM result : Action α) :=
  fun _ => ⟨rfl, rfl⟩

theorem quiet_state : Quiet state := fun _ => ⟨rfl, rfl⟩

theorem quiet_info (message : String) : Quiet (info message) := fun _ => ⟨rfl, rfl⟩

theorem quiet_onWorld {f : World → α × World} (files : ∀ world, (f world).2.files = world.files) :
    Quiet (onWorld f) := fun scene => ⟨rfl, files scene.world⟩

theorem Quiet.attempt {action : Action α} (quiet : Quiet action) : Quiet action.attempt := quiet

theorem Quiet.bind {action : Action α} {next : α → Action β} (first : Quiet action)
    (later : ∀ a, Quiet (next a)) : Quiet (action >>= next) :=
  rel_bind (R := fun before after =>
      after.state = before.state ∧ after.world.files = before.world.files)
    (fun first later => ⟨later.1.trans first.1, later.2.trans first.2⟩) first later

/-- Quiet work in front of other quiet work, done or not. -/
theorem Quiet.bind_if {asked : Prop} [Decidable asked] {front : Action Unit} {work : Action β}
    (first : Quiet front) (later : Quiet work) :
    Quiet (if asked then front >>= fun _ => work else work) := by
  split
  · exact first.bind fun _ => later
  · exact later

/-! ## Kinds of failures -/

variable {P : Failure → Prop}

theorem failsWith_of_ok {action : Action α} (ok : ∀ scene, ∃ a, (action scene).1 = .ok a) :
    FailsWith P action := by
  intro scene failure failed
  obtain ⟨a, ok⟩ := ok scene
  rw [ok] at failed
  cases failed

theorem failsWith_pure (a : α) : FailsWith P (pure a : Action α) :=
  failsWith_of_ok fun _ => ⟨a, rfl⟩

theorem failsWith_state : FailsWith P state := failsWith_of_ok fun _ => ⟨_, rfl⟩

theorem failsWith_info (message : String) : FailsWith P (info message) :=
  failsWith_of_ok fun _ => ⟨_, rfl⟩

theorem failsWith_modifyState (f : State → State) : FailsWith P (modifyState f) :=
  failsWith_of_ok fun _ => ⟨_, rfl⟩

theorem failsWith_onWorld (f : World → α × World) : FailsWith P (onWorld f) :=
  failsWith_of_ok fun _ => ⟨_, rfl⟩

/-- What is only attempted does not fail. -/
theorem failsWith_attempt (action : Action α) : FailsWith P action.attempt :=
  failsWith_of_ok fun _ => ⟨_, rfl⟩

theorem failsWith_fail {failure : Failure} (holds : P failure) :
    FailsWith P (fail failure : Action α) := by
  intro scene other failed
  cases failed
  exact holds

theorem failsWith_lift {result : Except Failure α}
    (holds : ∀ failure, result = .error failure → P failure) :
    FailsWith P (liftM result : Action α) := fun _ => holds

theorem FailsWith.bind {action : Action α} {next : α → Action β} (first : FailsWith P action)
    (later : ∀ a, FailsWith P (next a)) : FailsWith P (action >>= next) := by
  intro scene failure failed
  rcases bind_cases action next scene with ⟨other, signalled, whole⟩ | ⟨a, -, whole⟩
  · rw [whole] at failed
    cases failed
    exact first scene failure signalled
  · rw [whole] at failed
    exact later a _ failure failed

/-- Work in front of other work, done or not. -/
theorem FailsWith.bind_if {asked : Prop} [Decidable asked] {front : Action Unit} {work : Action β}
    (first : FailsWith P front) (later : FailsWith P work) :
    FailsWith P (if asked then front >>= fun _ => work else work) := by
  split
  · exact first.bind fun _ => later
  · exact later

end Action

end Workflow
