import Workflow.Node
/-!
# Registries

The nodes that chains can be built from, in order of their identifiers, each identifier once.

## Main definitions

* `Registry` — the nodes.
* `Registry.register` — one node more; an identifier that is taken is refused.
* `Registry.lookup` — the node under an identifier.
-/

namespace Workflow

/-- Nodes in strictly ascending order of their identifiers. -/
structure Registry where
  nodes : List Node := []
  ascending : nodes.Pairwise (·.id < ·.id) := by simp

/-- An identifier that is taken already. -/
structure DuplicateNode where
  nodeId : String
  deriving DecidableEq, Repr

def DuplicateNode.message (error : DuplicateNode) : String :=
  "Node '" ++ error.nodeId ++ "' is registered more than once"

namespace Registry

/-- A node put in its place. -/
def place (node : Node) : List Node → List Node
  | [] => [node]
  | m :: rest => if node.id < m.id then node :: m :: rest else m :: place node rest

theorem mem_place {node n : Node} {nodes : List Node} :
    n ∈ place node nodes ↔ n = node ∨ n ∈ nodes := by
  induction nodes with
  | nil => simp [place]
  | cons m rest ih =>
    simp only [place]
    split
    · simp
    · simp only [List.mem_cons, ih]
      constructor
      · rintro (h | h | h) <;> simp [h]
      · rintro (h | h | h) <;> simp [h]

theorem pairwise_place {node : Node} {nodes : List Node}
    (ascending : nodes.Pairwise (·.id < ·.id)) (fresh : ∀ n ∈ nodes, n.id ≠ node.id) :
    (place node nodes).Pairwise (·.id < ·.id) := by
  induction nodes with
  | nil => simp [place]
  | cons m rest ih =>
    rw [List.pairwise_cons] at ascending
    simp only [place]
    split
    · rename_i h
      refine List.pairwise_cons.mpr ⟨?_, List.pairwise_cons.mpr ascending⟩
      intro n hn
      rcases List.mem_cons.mp hn with rfl | hn
      · exact h
      · exact String.lt_trans h (ascending.1 n hn)
    · rename_i h
      refine List.pairwise_cons.mpr ⟨?_, ih ascending.2 fun n hn => fresh n (by simp [hn])⟩
      intro n hn
      rcases mem_place.mp hn with rfl | hn
      · have hne : m.id ≠ n.id := fresh m (by simp)
        rcases String.le_total m.id n.id with hle | hle
        · exact Std.lt_of_le_of_ne hle hne
        · exact absurd (Std.lt_of_le_of_ne hle hne.symm) h
      · exact ascending.1 n hn

/-- The node under an identifier. -/
def lookup (registry : Registry) (nodeId : String) : Option Node :=
  registry.nodes.find? (·.id = nodeId)

def contains (registry : Registry) (nodeId : String) : Bool := (registry.lookup nodeId).isSome

/-- One node more. -/
def register (registry : Registry) (node : Node) : Except DuplicateNode Registry :=
  if taken : registry.nodes.any (·.id = node.id) then .error ⟨node.id⟩
  else .ok {
    nodes := place node registry.nodes
    ascending := pairwise_place registry.ascending (by simpa using taken) }

/-- Nodes more, one after another up to the first that is refused; what was added stays. -/
def registerAll (registry : Registry) : List Node → Option DuplicateNode × Registry
  | [] => (none, registry)
  | node :: rest =>
    match registry.register node with
    | .ok registry => registry.registerAll rest
    | .error error => (some error, registry)

/-- A registry of the given nodes. -/
def ofNodes (nodes : List Node) : Except DuplicateNode Registry :=
  match registerAll {} nodes with
  | (none, registry) => .ok registry
  | (some error, _) => .error error

/-- The identifiers, in ascending order. -/
def nodeIds (registry : Registry) : List String := registry.nodes.map Node.id

def size (registry : Registry) : Nat := registry.nodes.length

/-- The description of the node under an identifier. -/
def description? (registry : Registry) (nodeId : String) : Option Description :=
  (registry.lookup nodeId).map Node.description

end Registry

end Workflow
