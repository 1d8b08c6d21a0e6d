import Workflow.Proofs.Chain.Registration

/-!
# Which requests are refused, and why

A request is refused for the first reason that it gives, in a fixed order of reasons: that it is
empty, that an identifier is not registered, that a node refuses its parameters. The second is
looked for in the whole sequence before the third.

## Main definitions

* `Registry.FirstUnknown` — the first identifier that is not registered.
* `Registry.Refuses` — an identifier is registered, but its node refuses its parameters.
* `Registry.FirstRefused` — the first position whose parameters are refused.
* `Registry.Binds` — a chain has a step for every identifier, with its node and its parameters.
* `Registry.build_verdict` — what building gives for each request.
-/

namespace Workflow.Registry

/-- The first identifier of a sequence that is not registered. -/
def FirstUnknown (registry : Registry) : List String → String → Prop :=
  IsFirst (registry.lookup · = none)

/-- An identifier is registered, and its node refuses the parameters kept for it. -/
def Refuses (registry : Registry) (nodeParams : Fields Params) (nodeId : String)
    (source : Failure) : Prop :=
  ∃ node, registry.lookup nodeId = some node ∧
    node.check (boundTo nodeParams nodeId) = .error source

/-- The first position of a sequence at which parameters are refused. -/
structure FirstRefused (registry : Registry) (nodeParams : Fields Params) (nodeIds : List String)
    (nodeId : String) (position : Nat) (source : Failure) : Prop where
  stands : nodeIds[position]? = some nodeId
  refused : registry.Refuses nodeParams nodeId source
  earlier : ∀ other ∈ nodeIds.take position, registry.Accepts nodeParams other

/-- A chain has a step for every identifier, in order, each with the node registered for it and the
parameters kept for it. -/
structure Binds (registry : Registry) (nodeParams : Fields Params) (nodeIds : List String)
    (chain : Chain) : Prop where
  length_eq : chain.steps.length = nodeIds.length
  step : ∀ (position : Nat) (nodeId : String), nodeIds[position]? = some nodeId →
    ∃ node, registry.lookup nodeId = some node ∧
      chain.steps[position]? = some ⟨nodeId, position, node, boundTo nodeParams nodeId⟩

variable {registry : Registry} {nodeParams : Fields Params}

/-! ## Identifiers that are not registered -/

/-- Looking up fails at the first identifier that is not registered. -/
theorem resolve_eq_error_iff {nodeIds : List String} {error : BuildError} :
    registry.resolve nodeIds = .error error ↔
      ∃ nodeId, registry.FirstUnknown nodeIds nodeId ∧ error = .unknownNode nodeId := by
  induction nodeIds with
  | nil => simp [resolve, FirstUnknown, not_isFirst_nil]
  | cons first rest ih =>
      rw [FirstUnknown] at ih ⊢
      cases found : registry.lookup first with
      | none => simp [resolve, found, isFirst_cons_iff, eq_comm]
      | some node => simp [resolve, found, isFirst_cons_iff, map_eq_error_iff, ih]

/-! ## Parameters that are refused -/

theorem firstRefused_zero_iff {first nodeId : String} {rest : List String} {source : Failure} :
    registry.FirstRefused nodeParams (first :: rest) nodeId 0 source ↔
      nodeId = first ∧ registry.Refuses nodeParams first source := by
  constructor
  · rintro ⟨stands, refused, -⟩
    cases stands
    exact ⟨rfl, refused⟩
  · rintro ⟨rfl, refused⟩
    exact ⟨rfl, refused, by simp⟩

theorem firstRefused_succ_iff {first nodeId : String} {rest : List String} {position : Nat}
    {source : Failure} :
    registry.FirstRefused nodeParams (first :: rest) nodeId (position + 1) source ↔
      registry.Accepts nodeParams first ∧
        registry.FirstRefused nodeParams rest nodeId position source := by
  constructor
  · rintro ⟨stands, refused, earlier⟩
    rw [List.take_succ_cons, List.forall_mem_cons] at earlier
    exact ⟨earlier.1, stands, refused, earlier.2⟩
  · rintro ⟨accepted, stands, refused, earlier⟩
    refine ⟨stands, refused, ?_⟩
    rw [List.take_succ_cons, List.forall_mem_cons]
    exact ⟨accepted, earlier⟩

theorem bindFrom_cons_eq_error_iff {position : Nat} {nodeId : String} {node : Node}
    {rest : List (String × Node)} {error : BuildError} :
    bindFrom nodeParams position ((nodeId, node) :: rest) = .error error ↔
      (∃ source, node.check (boundTo nodeParams nodeId) = .error source ∧
        error = .invalidParams nodeId position source) ∨
      (node.check (boundTo nodeParams nodeId) = .ok () ∧
        bindFrom nodeParams (position + 1) rest = .error error) := by
  cases checked : node.check (boundTo nodeParams nodeId) with
  | error source =>
      rw [boundTo] at checked
      simp [bindFrom, checked, eq_comm]
  | ok _ =>
      rw [boundTo] at checked
      simp [bindFrom, checked, map_eq_error_iff]

/-- Looking up succeeds when every identifier is registered. -/
theorem exists_resolve_eq_ok_iff {nodeIds : List String} :
    (∃ entries, registry.resolve nodeIds = .ok entries) ↔
      ∀ nodeId ∈ nodeIds, registry.lookup nodeId ≠ none := by
  induction nodeIds with
  | nil => simp [resolve]
  | cons first rest ih =>
      rw [List.forall_mem_cons, ← ih]
      constructor
      · rintro ⟨entries, resolved⟩
        obtain ⟨node, later, found, others, rfl⟩ := resolve_cons_eq_ok_iff.mp resolved
        exact ⟨by simp [found], later, others⟩
      · rintro ⟨known, later, others⟩
        obtain ⟨node, found⟩ := Option.ne_none_iff_exists'.mp known
        exact ⟨_, resolve_cons_eq_ok_iff.mpr ⟨node, later, found, others, rfl⟩⟩

/-- Binding what has been looked up fails at the first position whose parameters are refused. -/
theorem bindFrom_eq_error_iff {nodeIds : List String} {entries : List (String × Node)}
    (resolved : registry.resolve nodeIds = .ok entries) {start : Nat} {error : BuildError} :
    bindFrom nodeParams start entries = .error error ↔
      ∃ nodeId position source, registry.FirstRefused nodeParams nodeIds nodeId position source ∧
        error = .invalidParams nodeId (start + position) source := by
  induction nodeIds generalizing entries start with
  | nil =>
      cases resolved
      constructor
      · intro failed
        cases failed
      · rintro ⟨nodeId, position, source, isFirst, -⟩
        cases isFirst.stands
  | cons first rest ih =>
      obtain ⟨node, later, found, others, rfl⟩ := resolve_cons_eq_ok_iff.mp resolved
      rw [bindFrom_cons_eq_error_iff, ih others]
      constructor
      · rintro (⟨source, refused, rfl⟩ | ⟨checked, nodeId, position, source, isFirst, rfl⟩)
        · exact ⟨first, 0, source, firstRefused_zero_iff.mpr ⟨rfl, node, found, refused⟩, rfl⟩
        · refine ⟨nodeId, position + 1, source,
            firstRefused_succ_iff.mpr ⟨⟨node, found, checked⟩, isFirst⟩, ?_⟩
          rw [Nat.add_assoc, Nat.add_comm 1 position]
      · rintro ⟨nodeId, position, source, isFirst, rfl⟩
        cases position with
        | zero =>
            obtain ⟨rfl, other, same, refused⟩ := firstRefused_zero_iff.mp isFirst
            cases found.symm.trans same
            exact .inl ⟨source, refused, rfl⟩
        | succ position =>
            obtain ⟨⟨other, same, checked⟩, isFirst⟩ := firstRefused_succ_iff.mp isFirst
            cases found.symm.trans same
            refine .inr ⟨checked, nodeId, position, source, isFirst, ?_⟩
            rw [Nat.add_assoc, Nat.add_comm 1 position]

/-! ## Requests -/

/-- A request that is not empty is refused because looking up fails, or binding behind it. -/
theorem build_eq_error_iff {nodeIds : List String} (some : nodeIds ≠ []) {error : BuildError} :
    registry.build nodeIds nodeParams = .error error ↔
      (∃ nodeId, registry.FirstUnknown nodeIds nodeId ∧ error = .unknownNode nodeId) ∨
      ((∀ nodeId ∈ nodeIds, registry.lookup nodeId ≠ none) ∧
        ∃ nodeId position source, registry.FirstRefused nodeParams nodeIds nodeId position source ∧
          error = .invalidParams nodeId position source) := by
  have counts : nodeIds.isEmpty = false := by simpa using some
  rw [build, counts, ← resolve_eq_error_iff, ← exists_resolve_eq_ok_iff]
  cases resolved : registry.resolve nodeIds with
  | error failure => simp [bind, Except.bind]
  | ok entries =>
      have refused : bindFrom nodeParams 0 entries = .error error ↔ _ :=
        bindFrom_eq_error_iff resolved
      simp only [Nat.zero_add] at refused
      rw [← refused]
      cases bound : bindFrom nodeParams 0 entries with
      | error failure => simp [bound, bind, Except.bind]
      | ok steps => simp [bound, bind, Except.bind, pure, Except.pure]

theorem build_eq_emptySequence_iff {nodeIds : List String} :
    registry.build nodeIds nodeParams = .error .emptySequence ↔ nodeIds = [] := by
  by_cases empty : nodeIds = []
  · subst empty
    simp [build]
  · rw [build_eq_error_iff empty]
    simp [empty]

theorem build_eq_unknownNode_iff {nodeIds : List String} {nodeId : String} :
    registry.build nodeIds nodeParams = .error (.unknownNode nodeId) ↔
      registry.FirstUnknown nodeIds nodeId := by
  by_cases empty : nodeIds = []
  · subst empty
    simp [build, FirstUnknown, not_isFirst_nil]
  · rw [build_eq_error_iff empty]
    simp

theorem build_eq_invalidParams_iff {nodeIds : List String} {nodeId : String} {position : Nat}
    {source : Failure} :
    registry.build nodeIds nodeParams = .error (.invalidParams nodeId position source) ↔
      (∀ other ∈ nodeIds, registry.lookup other ≠ none) ∧
        registry.FirstRefused nodeParams nodeIds nodeId position source := by
  by_cases empty : nodeIds = []
  · subst empty
    refine ⟨nofun, ?_⟩
    rintro ⟨-, isFirst⟩
    cases isFirst.stands
  · rw [build_eq_error_iff empty]
    constructor
    · rintro (⟨_, -, other⟩ | ⟨known, _, _, _, isFirst, same⟩)
      · cases other
      · cases same
        exact ⟨known, isFirst⟩
    · rintro ⟨known, isFirst⟩
      exact .inr ⟨known, nodeId, position, source, isFirst, rfl⟩

/-! ## Chains -/

theorem getElem?_stepsFrom {nodeIds : List String}
    (accepted : ∀ nodeId ∈ nodeIds, registry.Accepts nodeParams nodeId) (start : Nat)
    {position : Nat} {nodeId : String} (stands : nodeIds[position]? = some nodeId) :
    ∃ node, registry.lookup nodeId = some node ∧
      (registry.stepsFrom nodeParams start nodeIds)[position]? =
        some ⟨nodeId, start + position, node, boundTo nodeParams nodeId⟩ := by
  induction nodeIds generalizing start position with
  | nil => cases stands
  | cons first rest ih =>
      obtain ⟨⟨node, found, -⟩, later⟩ := List.forall_mem_cons.mp accepted
      cases position with
      | zero =>
          cases stands
          exact ⟨node, found, by simp [stepsFrom, found]⟩
      | succ position =>
          obtain ⟨other, known, step⟩ := ih later (start + 1) stands
          refine ⟨other, known, ?_⟩
          rw [stepsFrom, found]
          simpa [Nat.add_assoc, Nat.add_comm 1 position] using step

/-- The steps of a chain are given one by one. -/
theorem binds_iff {nodeIds : List String} {chain : Chain}
    (accepted : ∀ nodeId ∈ nodeIds, registry.Accepts nodeParams nodeId) :
    registry.Binds nodeParams nodeIds chain ↔
      chain.steps = registry.stepsFrom nodeParams 0 nodeIds := by
  have many : (registry.stepsFrom nodeParams 0 nodeIds).length = nodeIds.length := by
    simpa using congrArg List.length (map_stepsFrom accepted 0)
  constructor
  · rintro ⟨length_eq, step⟩
    refine List.ext_getElem? fun position => ?_
    cases stands : nodeIds[position]? with
    | none =>
        have beyond := List.getElem?_eq_none_iff.mp stands
        rw [List.getElem?_eq_none (by omega), List.getElem?_eq_none (by omega)]
    | some nodeId =>
        obtain ⟨node, found, here⟩ := step position nodeId stands
        obtain ⟨other, same, there⟩ := getElem?_stepsFrom accepted 0 stands
        cases found.symm.trans same
        rw [here, there, Nat.zero_add]
  · intro steps
    refine ⟨by rw [steps, many], fun position nodeId stands => ?_⟩
    rw [steps]
    simpa using getElem?_stepsFrom accepted 0 stands

/-- What building gives for each request. The reasons for a refusal exclude one another, and a
request that gives none of them makes a chain. A node is found for an identifier exactly if it is in
the registry and has that identifier. -/
theorem build_verdict (registry : Registry) (nodeIds : List String)
    (nodeParams : Option (Fields Params)) :
    let kept := nodeParams.getD []
    (∀ nodeId node, registry.lookup nodeId = some node ↔
      node ∈ registry.nodes ∧ node.id = nodeId) ∧
    (registry.build nodeIds kept = .error .emptySequence ↔ nodeIds = []) ∧
    (∀ nodeId, registry.build nodeIds kept = .error (.unknownNode nodeId) ↔
      registry.FirstUnknown nodeIds nodeId) ∧
    (∀ nodeId position source,
      registry.build nodeIds kept = .error (.invalidParams nodeId position source) ↔
        (∀ other ∈ nodeIds, registry.lookup other ≠ none) ∧
          registry.FirstRefused kept nodeIds nodeId position source) ∧
    ((∃ chain, registry.build nodeIds kept = .ok chain) ↔
      nodeIds ≠ [] ∧ ∀ nodeId ∈ nodeIds, registry.Accepts kept nodeId) ∧
    (∀ chain, registry.build nodeIds kept = .ok chain ↔
      nodeIds ≠ [] ∧ (∀ nodeId ∈ nodeIds, registry.Accepts kept nodeId) ∧
        registry.Binds kept nodeIds chain) ∧
    (∀ chain, registry.build nodeIds kept = .ok chain → chain.nodeIds = nodeIds) ∧
    (∀ other, (∀ nodeId ∈ nodeIds, Fields.get? other nodeId = Fields.get? kept nodeId) →
      registry.build nodeIds other = registry.build nodeIds kept) := by
  intro kept
  refine ⟨fun _ _ => lookup_eq_some_iff, build_eq_emptySequence_iff,
    fun _ => build_eq_unknownNode_iff,
    fun _ _ _ => build_eq_invalidParams_iff, ?_, fun chain => ?_, fun _ => nodeIds_of_build,
    fun other same => build_congr fun nodeId member => ?_⟩
  · constructor
    · rintro ⟨chain, built⟩
      obtain ⟨some, accepted, -⟩ := build_eq_ok_iff.mp built
      exact ⟨some, accepted⟩
    · rintro ⟨some, accepted⟩
      exact ⟨_, build_eq_ok_iff.mpr ⟨some, accepted, rfl⟩⟩
  · rw [build_eq_ok_iff]
    refine and_congr_right fun _ => and_congr_right fun accepted => ?_
    rw [binds_iff accepted]
  · rw [boundTo, boundTo, same nodeId member]

/-- An unknown identifier counts before parameters that are refused further in front. -/
example : Registry.build ⟨[Scripted.node "strict" [] (some "text") {}], by decide⟩
    ["strict", "nobody"] [] = .error (.unknownNode "nobody") := rfl

end Workflow.Registry
