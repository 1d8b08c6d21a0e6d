import Workflow.Chain
import Workflow.Node.Scripted
import Workflow.Proofs.Except

/-!
# Which chains are built

A sequence of identifiers makes a chain exactly when it is not empty, every identifier is
registered, and every node accepts the parameters kept for it. The steps are then determined: one
for each identifier, in the order of the request and numbered from zero.

## Main definitions

* `Registry.stepsFrom` — the steps for identifiers, numbered from a position on.
* `Registry.Accepts` — an identifier is registered and its node accepts its parameters.
* `Registry.build_eq_ok_iff` — when a chain is built, and which one.
* `Registry.build_congr` — building goes by no parameters but those for the identifiers.
-/

namespace Workflow.Registry

/-- The parameters kept for an identifier, none by default. -/
def boundTo (nodeParams : Fields Params) (nodeId : String) : Params :=
  (Fields.get? nodeParams nodeId).getD {}

/-- The steps for identifiers, numbered from a position on. An identifier that is not registered
gets none. -/
def stepsFrom (registry : Registry) (nodeParams : Fields Params) (position : Nat) :
    List String → List Step
  | [] => []
  | nodeId :: rest =>
    match registry.lookup nodeId with
    | none => registry.stepsFrom nodeParams (position + 1) rest
    | some node =>
      ⟨nodeId, position, node, boundTo nodeParams nodeId⟩
        :: registry.stepsFrom nodeParams (position + 1) rest

/-- An identifier is registered, and its node accepts the parameters kept for it. -/
def Accepts (registry : Registry) (nodeParams : Fields Params) (nodeId : String) : Prop :=
  ∃ node, registry.lookup nodeId = some node ∧ node.check (boundTo nodeParams nodeId) = .ok ()

variable {registry : Registry} {nodeParams : Fields Params}

/-! ## The steps of accepted identifiers -/

/-- There is a step for every identifier, in order and numbered. -/
theorem map_stepsFrom {nodeIds : List String}
    (accepted : ∀ nodeId ∈ nodeIds, registry.Accepts nodeParams nodeId) (position : Nat) :
    (registry.stepsFrom nodeParams position nodeIds).map
      (fun step => (step.nodeId, step.position)) = nodeIds.zipIdx position := by
  induction nodeIds generalizing position with
  | nil => rfl
  | cons nodeId rest ih =>
      obtain ⟨node, found, _⟩ := accepted nodeId (by simp)
      have later := ih (fun other member => accepted other (by simp [member])) (position + 1)
      simp [stepsFrom, found, later]

/-- Every step has the node registered under its identifier and the parameters kept for it. -/
theorem bound_of_mem_stepsFrom {nodeIds : List String} {position : Nat} {step : Step}
    (member : step ∈ registry.stepsFrom nodeParams position nodeIds) :
    registry.lookup step.nodeId = some step.node ∧
      step.params = boundTo nodeParams step.nodeId := by
  induction nodeIds generalizing position with
  | nil => simp [stepsFrom] at member
  | cons nodeId rest ih =>
      simp only [stepsFrom] at member
      cases found : registry.lookup nodeId with
      | none =>
          simp only [found] at member
          exact ih member
      | some node =>
          simp only [found, List.mem_cons] at member
          rcases member with rfl | member
          · exact ⟨found, rfl⟩
          · exact ih member

/-! ## Building -/

theorem resolve_cons_eq_ok_iff {nodeId : String} {rest : List String}
    {entries : List (String × Node)} :
    registry.resolve (nodeId :: rest) = .ok entries ↔
      ∃ node later, registry.lookup nodeId = some node ∧ registry.resolve rest = .ok later ∧
        entries = (nodeId, node) :: later := by
  cases found : registry.lookup nodeId with
  | none => simp [resolve, found]
  | some node => simp [resolve, found, map_eq_ok_iff]

theorem bindFrom_cons_eq_ok_iff {position : Nat} {nodeId : String} {node : Node}
    {rest : List (String × Node)} {steps : List Step} :
    bindFrom nodeParams position ((nodeId, node) :: rest) = .ok steps ↔
      node.check (boundTo nodeParams nodeId) = .ok () ∧
        ∃ later, bindFrom nodeParams (position + 1) rest = .ok later ∧
          steps = ⟨nodeId, position, node, boundTo nodeParams nodeId⟩ :: later := by
  cases checked : node.check (boundTo nodeParams nodeId) with
  | error source =>
      rw [boundTo] at checked
      simp [bindFrom, checked]
  | ok _ =>
      rw [boundTo] at checked
      simp [bindFrom, checked, map_eq_ok_iff, boundTo]

/-- Looking up and then binding gives the steps of accepted identifiers, and fails on others. -/
theorem resolve_bindFrom_iff {nodeIds : List String} {position : Nat} {steps : List Step} :
    (∃ entries, registry.resolve nodeIds = .ok entries ∧
        bindFrom nodeParams position entries = .ok steps) ↔
      (∀ nodeId ∈ nodeIds, registry.Accepts nodeParams nodeId) ∧
        steps = registry.stepsFrom nodeParams position nodeIds := by
  induction nodeIds generalizing position steps with
  | nil => simp [resolve, bindFrom, stepsFrom, eq_comm]
  | cons nodeId rest ih =>
      constructor
      · rintro ⟨entries, resolved, bound⟩
        obtain ⟨node, later, found, others, rfl⟩ := resolve_cons_eq_ok_iff.mp resolved
        obtain ⟨checked, tail, numbered, rfl⟩ := bindFrom_cons_eq_ok_iff.mp bound
        obtain ⟨accepted, rfl⟩ := ih.mp ⟨later, others, numbered⟩
        refine ⟨List.forall_mem_cons.mpr ⟨⟨node, found, checked⟩, accepted⟩, ?_⟩
        simp [stepsFrom, found]
      · rintro ⟨accepted, rfl⟩
        obtain ⟨⟨node, found, checked⟩, accepted⟩ := List.forall_mem_cons.mp accepted
        obtain ⟨later, resolved, bound⟩ := ih.mpr ⟨accepted, rfl⟩
        refine ⟨(nodeId, node) :: later, ?_, ?_⟩
        · exact resolve_cons_eq_ok_iff.mpr ⟨node, later, found, resolved, rfl⟩
        · rw [bindFrom_cons_eq_ok_iff]
          exact ⟨checked, _, bound, by simp [stepsFrom, found]⟩

/-- A chain is built exactly from a sequence that is not empty and all of whose identifiers are
accepted; its steps are then determined. -/
theorem build_eq_ok_iff {nodeIds : List String} {chain : Chain} :
    registry.build nodeIds nodeParams = .ok chain ↔
      nodeIds ≠ [] ∧ (∀ nodeId ∈ nodeIds, registry.Accepts nodeParams nodeId) ∧
        chain.steps = registry.stepsFrom nodeParams 0 nodeIds := by
  rw [← resolve_bindFrom_iff, build]
  cases nodeIds with
  | nil => simp
  | cons nodeId rest =>
      cases resolved : registry.resolve (nodeId :: rest) with
      | error failure => simp [bind, Except.bind]
      | ok entries =>
          cases bound : bindFrom nodeParams 0 entries with
          | error failure => simp [bound, bind, Except.bind]
          | ok steps =>
              obtain ⟨built⟩ := chain
              simp [bound, bind, Except.bind, pure, Except.pure]

/-- A chain has the identifiers that it was built from. -/
theorem nodeIds_of_build {nodeIds : List String} {chain : Chain}
    (built : registry.build nodeIds nodeParams = .ok chain) : chain.nodeIds = nodeIds := by
  obtain ⟨_, accepted, steps⟩ := build_eq_ok_iff.mp built
  have named := congrArg (List.map Prod.fst) (map_stepsFrom accepted 0)
  rw [List.map_map, List.zipIdx_map_fst] at named
  rw [Chain.nodeIds, steps]
  exact named

/-! ## What building goes by -/

/-- What is found for identifiers goes under these. -/
theorem fst_mem_of_resolve {nodeIds : List String} {entries : List (String × Node)}
    (resolved : registry.resolve nodeIds = .ok entries) :
    ∀ entry ∈ entries, entry.1 ∈ nodeIds := by
  induction nodeIds generalizing entries with
  | nil =>
      cases resolved
      simp
  | cons nodeId rest ih =>
      obtain ⟨node, later, -, others, rfl⟩ := resolve_cons_eq_ok_iff.mp resolved
      refine List.forall_mem_cons.mpr ⟨List.mem_cons_self, fun entry member => ?_⟩
      exact List.mem_cons_of_mem nodeId (ih others entry member)

theorem bindFrom_congr {first second : Fields Params} {entries : List (String × Node)}
    (same : ∀ entry ∈ entries, boundTo first entry.1 = boundTo second entry.1) (position : Nat) :
    bindFrom first position entries = bindFrom second position entries := by
  induction entries generalizing position with
  | nil => rfl
  | cons entry rest ih =>
      obtain ⟨nodeId, node⟩ := entry
      obtain ⟨here, later⟩ := List.forall_mem_cons.mp same
      simp only [boundTo] at here
      simp only [bindFrom, here, ih later]

/-- Parameters that agree for the identifiers make no difference. -/
theorem build_congr {first second : Fields Params} {nodeIds : List String}
    (same : ∀ nodeId ∈ nodeIds, boundTo first nodeId = boundTo second nodeId) :
    registry.build nodeIds first = registry.build nodeIds second := by
  unfold build
  cases resolved : registry.resolve nodeIds with
  | error failure => rfl
  | ok entries =>
      have bound : bindFrom first 0 entries = bindFrom second 0 entries :=
        bindFrom_congr (fun entry member => same _ (fst_mem_of_resolve resolved entry member)) 0
      simp only [bind, Except.bind, bound]

/-! ## A rehearsal -/

/-- Two nodes that need nothing: one records an error, the other puts out a text. -/
def rehearsal : Registry where
  nodes := [
    Scripted.node "flaky" [.setError "quota exceeded", .setOutput (.string "failed")] none {},
    Scripted.node "writer" [.notice (.info "writing"), .setOutput (.string "draft")] none {}]
  ascending := by decide

theorem accepts_rehearsal {nodeId : String} (known : nodeId = "writer" ∨ nodeId = "flaky")
    (nodeParams : Fields Params) : rehearsal.Accepts nodeParams nodeId := by
  rcases known with rfl | rfl <;> exact ⟨_, rfl, rfl⟩

end Workflow.Registry
