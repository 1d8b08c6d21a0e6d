import Mathlib.Data.List.Nodup
import Workflow.Proofs.Chain.Building

/-!
# What is in a registry

A registry made of given nodes holds these nodes and no other, and an identifier leads to a node
that has it. So every step of a chain is for a registered node, which has accepted its parameters.

## Main definitions

* `Registry.mem_of_ofNodes` — a registered node is one of those that were given.
* `Registry.lookup_eq_some_iff` — where an identifier leads.
* `Registry.step_of_build` — what is known of every step of a chain.
-/

namespace Workflow.Registry

variable {registry : Registry} {nodes : List Node}

theorem mem_of_register {node n : Node} {after : Registry}
    (registered : registry.register node = .ok after) :
    n ∈ after.nodes ↔ n = node ∨ n ∈ registry.nodes := by
  unfold register at registered
  split at registered
  · cases registered
  · cases registered
    exact mem_place

/-- A registered node was there before or is one of the new ones. -/
theorem mem_of_registerAll {node : Node} (member : node ∈ (registry.registerAll nodes).2.nodes) :
    node ∈ registry.nodes ∨ node ∈ nodes := by
  induction nodes generalizing registry with
  | nil => exact .inl member
  | cons first rest ih =>
      unfold registerAll at member
      cases registered : registry.register first with
      | error taken =>
          simp only [registered] at member
          exact .inl member
      | ok after =>
          simp only [registered] at member
          rcases ih member with member | member
          · rcases (mem_of_register registered).mp member with rfl | member
            · exact .inr List.mem_cons_self
            · exact .inl member
          · exact .inr (List.mem_cons_of_mem first member)

/-- A registry of given nodes has no other. -/
theorem mem_of_ofNodes {node : Node} (made : ofNodes nodes = .ok registry)
    (member : node ∈ registry.nodes) : node ∈ nodes := by
  unfold ofNodes at made
  split at made
  · rename_i after all
    cases made
    have member : node ∈ (registerAll {} nodes).2.nodes := by rw [all]; exact member
    rcases mem_of_registerAll member with member | member
    · cases member
    · exact member
  · cases made

theorem mem_of_lookup {nodeId : String} {node : Node}
    (found : registry.lookup nodeId = some node) : node ∈ registry.nodes ∧ node.id = nodeId :=
  ⟨List.mem_of_find?_eq_some found, by simpa using List.find?_some found⟩

/-- An identifier leads to the one node of the registry that has it. -/
theorem lookup_eq_some_iff {nodeId : String} {node : Node} :
    registry.lookup nodeId = some node ↔ node ∈ registry.nodes ∧ node.id = nodeId := by
  refine ⟨mem_of_lookup, fun ⟨member, named⟩ => ?_⟩
  have distinct : (registry.nodes.map Node.id).Nodup :=
    (List.pairwise_map.mpr registry.ascending).imp Std.ne_of_lt
  cases found : registry.lookup nodeId with
  | none => simpa [named] using List.find?_eq_none.mp found node member
  | some other =>
      obtain ⟨member', named'⟩ := mem_of_lookup found
      rw [List.inj_on_of_nodup_map distinct member' member (named'.trans named.symm)]

/-- A step is for one of the identifiers; its node is registered under that and has accepted the
parameters kept for it. -/
theorem step_of_build {nodeIds : List String} {nodeParams : Fields Params} {chain : Chain}
    (built : registry.build nodeIds nodeParams = .ok chain) {step : Step}
    (member : step ∈ chain.steps) :
    step.nodeId ∈ nodeIds ∧ step.node ∈ registry.nodes ∧ step.node.id = step.nodeId ∧
      step.params = boundTo nodeParams step.nodeId ∧ step.node.check step.params = .ok () := by
  have asked : step.nodeId ∈ nodeIds := by
    rw [← nodeIds_of_build built]
    exact List.mem_map_of_mem member
  obtain ⟨_, accepted, steps⟩ := build_eq_ok_iff.mp built
  rw [steps] at member
  obtain ⟨found, params⟩ := bound_of_mem_stepsFrom member
  obtain ⟨registered, named⟩ := mem_of_lookup found
  obtain ⟨node, same, checked⟩ := accepted step.nodeId asked
  rw [found, Option.some.injEq] at same
  rw [← params, ← same] at checked
  exact ⟨asked, registered, named, params, checked⟩

end Workflow.Registry
