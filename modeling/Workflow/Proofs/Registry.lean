import Mathlib.Data.List.Induction
import Mathlib.Data.List.Nodup
import Workflow.Proofs.Chain.Registration
import Workflow.Server

/-!
# Registries, call after call

A registry is filled by calls, one node each. An identifier belongs to the first call that came with
it, and later calls with the same one are refused and change nothing. So all that can be read off a
registry can be told from the calls, whatever their number.

## Main definitions

* `Registry.behind`, `Registry.after` — the registry behind a call, and behind many, which start
  with `Registry.empty`.
* `Registry.Registers nodes node` — one of the calls has registered `node`.
* `Registry.Repeats nodes node` — `node` is the first whose identifier has been there before.
* `Registry.Lists registry nodeIds` — all ways to read a registry tell the same identifiers.
* `Registry.Holds nodes registry` — what calls come to, and what the registry behind them holds.
* `Registry.registers_first_of_each` — calls for any nodes, and a registry made of them.
-/

namespace Workflow.Registry

/-- The registry behind a call to register a node. A call that is refused leaves it as it was. -/
def behind (registry : Registry) (node : Node) : Registry :=
  match registry.register node with
  | .ok registry => registry
  | .error _ => registry

theorem ascending_nil : ([] : List Node).Pairwise (·.id < ·.id) := .nil

/-- A registry without nodes. -/
def empty : Registry := ⟨[], ascending_nil⟩

/-- The registry behind calls for nodes, one after another; there is no node before the first. -/
def after (nodes : List Node) : Registry := nodes.foldl behind empty

/-- One of the calls has registered the node. -/
def Registers (nodes : List Node) (node : Node) : Prop :=
  ∃ front back registry, nodes = front ++ node :: back ∧
    (after front).register node = .ok registry

/-- `node` is the first whose identifier one in front of it has. -/
def Repeats (nodes : List Node) (node : Node) : Prop :=
  ∃ front back, nodes = front ++ node :: back ∧ (front.map Node.id).Nodup ∧
    node.id ∈ front.map Node.id

/-- The identifiers of a registry, as each way to read it tells them. -/
structure Lists (registry : Registry) (nodeIds : List String) : Prop where
  listed : registry.nodeIds = nodeIds
  ascending : nodeIds.Pairwise (· < ·)
  size : registry.size = nodeIds.length
  contains : ∀ nodeId, registry.contains nodeId = true ↔ nodeId ∈ nodeIds
  lookup : ∀ nodeId, (∃ node, registry.lookup nodeId = some node) ↔ nodeId ∈ nodeIds
  description : ∀ nodeId, (∃ description, registry.description? nodeId = some description) ↔
    nodeId ∈ nodeIds
  /-- The server has one entry for each, in this order. -/
  served : ∀ policy settings web world, web.method = "GET" → Route.path web = "/api/nodes" →
    ∃ entries : List Json, entries.map (·.text? "type") = nodeIds.map some ∧
      (Server.answer ⟨{ registry, policy }, settings⟩ web world).reply =
        ⟨200, some (.array entries)⟩

/-- What calls for nodes come to, and what the registry behind them holds. -/
structure Holds (nodes : List Node) (registry : Registry) : Prop where
  /-- One call more is accepted exactly if none before it has registered its identifier. -/
  accepts : ∀ node, (∃ more, registry.register node = .ok more) ↔
    ∀ earlier, Registers nodes earlier → earlier.id ≠ node.id
  /-- If it is refused, the identifier is named, and the registry stays. -/
  refuses : ∀ node error, registry.register node = .error error →
    error = ⟨node.id⟩ ∧ behind registry node = registry
  /-- The nodes that have been registered are the first ones with their identifiers. -/
  registers : ∀ node, Registers nodes node ↔ IsFirst (·.id = node.id) nodes node
  /-- An identifier leads to the first node that came with it. -/
  lookup : ∀ nodeId node, registry.lookup nodeId = some node ↔ IsFirst (·.id = nodeId) nodes node
  lists : Lists registry registry.nodeIds

variable {registry more : Registry} {nodes : List Node} {node : Node} {nodeId : String}

/-! ## One call -/

theorem find?_place (fresh : ∀ n ∈ nodes, n.id ≠ node.id) :
    (place node nodes).find? (·.id = nodeId) =
      if node.id = nodeId then some node else nodes.find? (·.id = nodeId) := by
  induction nodes with
  | nil => by_cases same : node.id = nodeId <;> simp [place, same]
  | cons first rest ih =>
      obtain ⟨here, later⟩ := List.forall_mem_cons.mp fresh
      rw [place]
      split
      · by_cases same : node.id = nodeId <;> simp [same]
      · rw [List.find?_cons, List.find?_cons, ih later]
        by_cases same : first.id = nodeId
        · have other : node.id ≠ nodeId := fun own => here (same.trans own.symm)
          simp [same, other]
        · simp [same]

theorem lookup_eq_none_iff :
    registry.lookup nodeId = none ↔ ∀ n ∈ registry.nodes, n.id ≠ nodeId := by
  simp [lookup]

theorem register_of_known (known : registry.lookup node.id ≠ none) :
    registry.register node = .error ⟨node.id⟩ := by
  have taken : registry.nodes.any (·.id = node.id) = true := by
    simpa [lookup_eq_none_iff] using known
  simp [register, taken]

/-- A node whose identifier is new is registered, and leads nobody else astray. -/
theorem register_of_new (new : registry.lookup node.id = none) :
    ∃ more, registry.register node = .ok more ∧ ∀ nodeId, more.lookup nodeId =
      if node.id = nodeId then some node else registry.lookup nodeId := by
  have fresh := lookup_eq_none_iff.mp new
  have free : ¬ registry.nodes.any (·.id = node.id) = true := by simpa using fresh
  refine ⟨_, dif_neg free, fun nodeId => find?_place fresh⟩

theorem register_eq_ok_iff :
    (∃ more, registry.register node = .ok more) ↔ registry.lookup node.id = none := by
  constructor
  · rintro ⟨more, registered⟩
    by_contra known
    rw [register_of_known known] at registered
    cases registered
  · intro new
    obtain ⟨more, registered, -⟩ := register_of_new new
    exact ⟨more, registered⟩

theorem register_eq_error_iff {error : DuplicateNode} :
    registry.register node = .error error ↔
      registry.lookup node.id ≠ none ∧ error = ⟨node.id⟩ := by
  by_cases new : registry.lookup node.id = none
  · obtain ⟨more, registered, -⟩ := register_of_new new
    simp [registered, new]
  · simp [register_of_known new, new, eq_comm]

theorem behind_of_known (known : registry.lookup node.id ≠ none) :
    behind registry node = registry := by
  simp [behind, register_of_known known]

/-- What is registered stays, and of the rest only the new identifier leads to a node. -/
theorem lookup_behind : (behind registry node).lookup nodeId =
    (registry.lookup nodeId).or (if node.id = nodeId then some node else none) := by
  cases known : registry.lookup node.id with
  | none =>
      obtain ⟨more, registered, found⟩ := register_of_new known
      rw [behind, registered, found]
      by_cases same : node.id = nodeId
      · simp [← same, known]
      · simp [same]
  | some own =>
      rw [behind_of_known (by simp [known])]
      by_cases same : node.id = nodeId
      · simp [← same, known]
      · simp [same]

/-! ## Many calls -/

theorem after_append_singleton (nodes : List Node) (node : Node) :
    after (nodes ++ [node]) = behind (after nodes) node := by
  simp [after]

/-- An identifier leads to the first node that came with it. -/
theorem lookup_after (nodes : List Node) (nodeId : String) :
    (after nodes).lookup nodeId = nodes.find? (·.id = nodeId) := by
  induction nodes using List.reverseRecOn with
  | nil => rfl
  | append_singleton nodes node ih =>
      rw [after_append_singleton, lookup_behind, ih, List.find?_append]
      by_cases same : node.id = nodeId <;> simp [same]

theorem lookup_after_eq_none_iff :
    (after nodes).lookup nodeId = none ↔ nodeId ∉ nodes.map Node.id := by
  simp [lookup_after]

theorem lookup_after_eq_some_iff :
    (after nodes).lookup nodeId = some node ↔ IsFirst (·.id = nodeId) nodes node := by
  rw [lookup_after, find?_eq_some_iff_isFirst]
  simp

/-- Of the calls with one identifier, the first registers its node. -/
theorem registers_iff : Registers nodes node ↔ IsFirst (·.id = node.id) nodes node := by
  have free : ∀ front, (∃ more, (after front).register node = .ok more) ↔
      ∀ n ∈ front, n.id ≠ node.id := by
    intro front
    rw [register_eq_ok_iff, lookup_after_eq_none_iff]
    simp
  constructor
  · rintro ⟨front, back, more, whole, registered⟩
    exact ⟨front, back, whole, rfl, (free front).mp ⟨more, registered⟩⟩
  · rintro ⟨front, back, whole, -, others⟩
    obtain ⟨more, registered⟩ := (free front).mpr others
    exact ⟨front, back, more, whole, registered⟩

/-- One call more is accepted unless an accepted one came with the same identifier. -/
theorem register_after_eq_ok_iff :
    (∃ more, (after nodes).register node = .ok more) ↔
      ∀ earlier, Registers nodes earlier → earlier.id ≠ node.id := by
  rw [register_eq_ok_iff]
  constructor
  · intro new earlier registers same
    have found := lookup_after_eq_some_iff.mpr (registers_iff.mp registers)
    rw [same, new] at found
    cases found
  · intro others
    cases known : (after nodes).lookup node.id with
    | none => rfl
    | some earlier =>
        have same := (mem_of_lookup known).2
        have isFirst := lookup_after_eq_some_iff.mp known
        exact absurd same (others earlier (registers_iff.mpr (same ▸ isFirst)))

/-! ## Up to the first refusal -/

theorem registerAll_append (registry : Registry) (front back : List Node) :
    registry.registerAll (front ++ back) = match registry.registerAll front with
      | (none, more) => more.registerAll back
      | (some error, more) => (some error, more) := by
  induction front generalizing registry with
  | nil => rfl
  | cons first rest ih =>
      rw [List.cons_append, registerAll, registerAll]
      cases registry.register first with
      | ok more => exact ih more
      | error error => rfl

/-- Nodes with different identifiers are all registered. -/
theorem registerAll_of_nodup (distinct : (nodes.map Node.id).Nodup) :
    registerAll empty nodes = (none, after nodes) := by
  induction nodes using List.reverseRecOn with
  | nil => rfl
  | append_singleton nodes node ih =>
      rw [List.map_append, List.nodup_append] at distinct
      obtain ⟨distinct, -, apart⟩ := distinct
      have new : (after nodes).lookup node.id = none := by
        rw [lookup_after_eq_none_iff]
        exact fun member => apart _ member _ (by simp) rfl
      obtain ⟨registry, registered⟩ := register_eq_ok_iff.mpr new
      rw [registerAll_append, ih distinct, after_append_singleton]
      simp [registerAll, registered, behind]

theorem ofNodes_eq (nodes : List Node) :
    ofNodes nodes = match registerAll empty nodes with
      | (none, registry) => .ok registry
      | (some error, _) => .error error :=
  rfl

theorem ofNodes_of_nodup (distinct : (nodes.map Node.id).Nodup) :
    ofNodes nodes = .ok (after nodes) := by
  rw [ofNodes_eq, registerAll_of_nodup distinct]

/-- A node with an identifier that has been there before is where registering ends. -/
theorem ofNodes_of_repeats (repeats : Repeats nodes node) : ofNodes nodes = .error ⟨node.id⟩ := by
  obtain ⟨front, back, rfl, distinct, member⟩ := repeats
  have known : (after front).lookup node.id ≠ none := by
    rw [Ne, lookup_after_eq_none_iff]
    exact not_not_intro member
  simp [ofNodes_eq, registerAll_append, registerAll_of_nodup distinct, registerAll,
    register_of_known known]

theorem exists_repeats (repeated : ¬ (nodes.map Node.id).Nodup) : ∃ node, Repeats nodes node := by
  induction nodes using List.reverseRecOn with
  | nil => exact absurd List.nodup_nil repeated
  | append_singleton nodes last ih =>
      by_cases distinct : (nodes.map Node.id).Nodup
      · refine ⟨last, nodes, [], rfl, distinct, ?_⟩
        by_contra new
        exact repeated (by simpa [List.nodup_append, distinct] using new)
      · obtain ⟨node, front, back, rfl, earlier⟩ := ih distinct
        exact ⟨node, front, back ++ [last], by simp, earlier⟩

theorem ofNodes_eq_ok_iff :
    ofNodes nodes = .ok registry ↔ (nodes.map Node.id).Nodup ∧ registry = after nodes := by
  constructor
  · intro made
    by_cases distinct : (nodes.map Node.id).Nodup
    · rw [ofNodes_of_nodup distinct] at made
      cases made
      exact ⟨distinct, rfl⟩
    · obtain ⟨node, repeats⟩ := exists_repeats distinct
      rw [ofNodes_of_repeats repeats] at made
      cases made
  · rintro ⟨distinct, rfl⟩
    exact ofNodes_of_nodup distinct

theorem ofNodes_eq_error_iff {error : DuplicateNode} :
    ofNodes nodes = .error error ↔ ∃ node, Repeats nodes node ∧ error = ⟨node.id⟩ := by
  constructor
  · intro refused
    by_cases distinct : (nodes.map Node.id).Nodup
    · rw [ofNodes_of_nodup distinct] at refused
      cases refused
    · obtain ⟨node, repeats⟩ := exists_repeats distinct
      rw [ofNodes_of_repeats repeats] at refused
      cases refused
      exact ⟨node, repeats, rfl⟩
  · rintro ⟨node, repeats, rfl⟩
    exact ofNodes_of_repeats repeats

/-! ## Reading a registry -/

theorem lookup_ne_none_iff : registry.lookup nodeId ≠ none ↔ nodeId ∈ registry.nodeIds := by
  simp [lookup, nodeIds]

theorem of?_of_nodes {web : WebRequest} (method : web.method = "GET")
    (path : Route.path web = "/api/nodes") : Route.of? web = some .nodes := by
  rw [Route.of?, method, path]
  rfl

theorem description?_of_mem (member : node ∈ registry.nodes) :
    registry.description? node.id = some node.description := by
  rw [description?, lookup_eq_some_iff.mpr ⟨member, rfl⟩, Option.map_some]

/-- The server tells of every node what its description says. -/
theorem nodesReply_eq (registry : Registry) :
    Server.nodesReply registry =
      ⟨200, some (.array (registry.nodes.map fun node =>
        Server.nodeJson node.id node.description))⟩ := by
  have told : ∀ node ∈ registry.nodes,
      Server.nodeJson node.id ((registry.description? node.id).getD {}) =
        Server.nodeJson node.id node.description := by
    intro node member
    rw [description?_of_mem member, Option.getD_some]
  rw [Server.nodesReply, nodeIds, List.map_map, ← List.map_congr_left told]
  rfl

/-- Every way to read a registry tells the identifiers of its nodes. -/
theorem lists_nodeIds (registry : Registry) : Lists registry registry.nodeIds where
  listed := rfl
  ascending := List.pairwise_map.mpr registry.ascending
  size := by simp [size, nodeIds]
  contains nodeId := by
    rw [← lookup_ne_none_iff, contains, Option.isSome_iff_ne_none]
  lookup nodeId := by
    rw [← lookup_ne_none_iff, Option.ne_none_iff_exists']
  description nodeId := by
    rw [← lookup_ne_none_iff, ← Option.ne_none_iff_exists', description?]
    simp
  served policy settings web world method path := by
    refine ⟨registry.nodes.map fun node => Server.nodeJson node.id node.description, ?_, ?_⟩
    · rw [nodeIds, List.map_map, List.map_map]
      rfl
    · rw [Server.answer, of?_of_nodes method path]
      exact nodesReply_eq registry

/-! ## Calls -/

/-- A call comes to an end in one of two ways, and what it leaves is read in one way. A registry is
made of nodes exactly if no identifier is repeated, else the first that is repeated is named. -/
theorem registers_first_of_each (nodes : List Node) :
    Holds nodes (after nodes) ∧
    (∀ registry, ofNodes nodes = .ok registry ↔
      (nodes.map Node.id).Nodup ∧ registry = after nodes) ∧
    (∀ error, ofNodes nodes = .error error ↔ ∃ node, Repeats nodes node ∧ error = ⟨node.id⟩) := by
  refine ⟨⟨fun _ => register_after_eq_ok_iff, fun node error refused => ?_,
    fun _ => registers_iff, fun _ _ => lookup_after_eq_some_iff, lists_nodeIds _⟩,
    fun _ => ofNodes_eq_ok_iff, fun _ => ofNodes_eq_error_iff⟩
  obtain ⟨known, named⟩ := register_eq_error_iff.mp refused
  exact ⟨named, behind_of_known known⟩

/-- The second of three calls comes too late for its identifier. -/
example :
    let nodes := ["writer", "writer", "flaky"].map fun nodeId => Scripted.node nodeId [] none {}
    (after nodes).nodeIds = ["flaky", "writer"] ∧
      (registerAll empty nodes).1 = some ⟨"writer"⟩ := by
  decide

end Workflow.Registry
