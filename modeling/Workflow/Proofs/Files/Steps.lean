import Workflow.Files
import Workflow.Proofs.Text.Pieces

/-!
# The steps of a path

A path says step by step where to go, and steps that stay where they are do not matter. A path put
behind another goes on where that one ends, unless it starts at the root.

## Main definitions

* `Path.steps` — the steps of a path that go anywhere.
* `Path.steps_join` — a joined path has the steps of both.
* `Path.IsPlainName` — a text that is one step down and nothing else.
* `Path.exists_names_of_descends` — a path that descends is a sequence of such names.
-/

namespace Workflow.Path

/-- The steps of a path that go anywhere. -/
def steps (path : String) : List Component := (components path).filter (· ≠ .here)

/-- A text that is one step down and nothing else. -/
structure IsPlainName (name : String) : Prop where
  nonempty : name ≠ ""
  notHere : name ≠ "."
  notUp : name ≠ ".."
  whole : '/' ∉ name.toList

/-! ## Steps behind the first -/

theorem laterStep?_of_plain {name : String} (plain : IsPlainName name) :
    laterStep? name = some (.name name) := by
  simp [laterStep?, plain.nonempty, plain.notHere, plain.notUp]

/-- A later step goes up or down. -/
theorem laterStep?_eq_some {slice : String} {step : Component}
    (goes : laterStep? slice = some step) :
    step = .up ∨ (step = .name slice ∧ slice ≠ "" ∧ slice ≠ "." ∧ slice ≠ "..") := by
  unfold laterStep? at goes
  split at goes
  · cases goes
  · rename_i counts
    obtain ⟨nonempty, notHere⟩ := not_or.mp counts
    split at goes
    · cases goes
      exact .inl rfl
    · rename_i notUp
      cases goes
      exact .inr ⟨rfl, nonempty, notHere, notUp⟩

theorem ne_slash_of_mem_slices {path slice : String} (member : slice ∈ slices path) :
    '/' ∉ slice.toList := by
  obtain ⟨piece, cut, rfl⟩ := List.mem_map.mp member
  rw [String.toList_ofList]
  intro inside
  simpa using (Text.of_mem_pieces cut inside).2

/-- The later steps of a path go up, or down by a plain name. -/
theorem of_mem_laterSteps {path : String} {step : Component}
    (member : step ∈ (slices path).filterMap laterStep?) :
    step = .up ∨ ∃ name, step = .name name ∧ IsPlainName name := by
  obtain ⟨slice, cut, goes⟩ := List.mem_filterMap.mp member
  rcases laterStep?_eq_some goes with up | ⟨down, nonempty, notHere, notUp⟩
  · exact .inl up
  · exact .inr ⟨slice, down, nonempty, notHere, notUp, ne_slash_of_mem_slices cut⟩

/-! ## Steps of whole paths -/

/-- A path may start at the root, and goes on with a step for each slice that counts. -/
theorem steps_eq (path : String) :
    steps path = (if isAbsolute path then [.root] else []) ++
      (slices path).filterMap laterStep? := by
  have kept : ∀ slices : List String, (slices.filterMap laterStep?).filter (· ≠ .here) =
      slices.filterMap laterStep? := by
    intro slices
    rw [List.filter_eq_self]
    intro step member
    obtain ⟨slice, -, goes⟩ := List.mem_filterMap.mp member
    rcases laterStep?_eq_some goes with rfl | ⟨rfl, -⟩ <;> simp
  unfold steps components
  split
  · rw [List.filter_cons_of_pos (by simp), kept]
    rfl
  · split
    · rename_i starts
      rw [List.filter_cons_of_neg (by simp), kept, starts]
      rfl
    · exact kept _

theorem slices_append (front back : String) :
    slices (front ++ "/" ++ back) = slices front ++ slices back := by
  have whole : (front ++ "/" ++ back).toList = front.toList ++ '/' :: back.toList := by simp
  rw [slices, whole, Text.pieces_append_cut _ (by decide), List.map_append]
  rfl

theorem laterSteps_append (front back : String) :
    (slices (front ++ "/" ++ back)).filterMap laterStep? =
      (slices front).filterMap laterStep? ++ (slices back).filterMap laterStep? := by
  rw [slices_append, List.filterMap_append]

theorem isAbsolute_append {front : String} (some : front ≠ "") (back : String) :
    isAbsolute (front ++ back) = isAbsolute front := by
  have some : front.toList ≠ [] := by simpa using some
  obtain ⟨c, cs, spelled⟩ := List.exists_cons_of_ne_nil some
  simp [isAbsolute, spelled]

/-- A path goes on where the one before it ends. -/
theorem steps_join {base path : String} (relative : isAbsolute path = false) :
    steps (join base path) = steps base ++ steps path := by
  have behind : steps path = (slices path).filterMap laterStep? := by
    rw [steps_eq, relative]
    rfl
  unfold join
  rw [relative, Bool.false_or]
  by_cases none : base = ""
  · simp only [none, decide_true, if_true]
    rfl
  · simp only [none, decide_false, Bool.false_eq_true, if_false]
    by_cases ends : (base.toList.getLast? == some '/') = true
    · -- the slash at the end of the base parts the slices already
      obtain ⟨front, spelled⟩ := List.getLast?_eq_some_iff.mp (beq_iff_eq.mp ends)
      have split : base = String.ofList front ++ "/" ++ "" := by
        rw [← String.toList_inj]
        simpa using spelled
      have joined : base ++ path = String.ofList front ++ "/" ++ path := by
        rw [split]
        simp
      have last : (slices "").filterMap laterStep? = [] := rfl
      rw [if_pos ends, steps_eq, isAbsolute_append none, joined, laterSteps_append, behind,
        steps_eq base]
      conv => rhs; rw [split, laterSteps_append, last, ← split]
      simp
    · rw [if_neg ends, steps_eq, laterSteps_append, String.append_assoc, isAbsolute_append none,
        steps_eq base, behind, List.append_assoc]

/-! ## Names -/

theorem isAbsolute_of_plain {name : String} (plain : IsPlainName name) :
    isAbsolute name = false := by
  cases spelled : name.toList with
  | nil => simp [isAbsolute, spelled]
  | cons c cs =>
      have differs : c ≠ '/' := by
        rintro rfl
        exact plain.whole (by simp [spelled])
      simpa [isAbsolute, spelled] using differs

/-- A plain name is a single step. -/
theorem steps_of_plain {name : String} (plain : IsPlainName name) : steps name = [.name name] := by
  have uncut : ∀ c ∈ name.toList, (c == '/') = false := by
    intro c member
    simpa using fun same : c = '/' => plain.whole (same ▸ member)
  have single : slices name = [name] := by
    rw [slices, Text.pieces_eq_singleton uncut]
    simp
  rw [steps_eq, isAbsolute_of_plain plain, single]
  simp [laterStep?_of_plain plain]

/-- A path that descends is made of plain names, and does not start at the root. -/
theorem exists_names_of_descends {path : String} (down : descends path = true) :
    isAbsolute path = false ∧
      ∃ names : List String, steps path = names.map .name ∧ ∀ name ∈ names, IsPlainName name := by
  have goes : ∀ step ∈ components path, step ≠ .root ∧ step ≠ .up := by
    intro step member
    have := List.all_eq_true.mp down step member
    cases step <;> simp at this ⊢
  have relative : isAbsolute path = false := by
    cases absolute : isAbsolute path with
    | false => rfl
    | true => exact absurd rfl (goes .root (by simp [components, absolute])).1
  have down : ∀ step ∈ steps path, ∃ name, step = .name name ∧ IsPlainName name := by
    intro step member
    have notUp := (goes step (List.mem_filter.mp member).1).2
    rw [steps_eq, relative] at member
    exact (of_mem_laterSteps member).resolve_left notUp
  refine ⟨relative, ?_⟩
  generalize steps path = all at down
  induction all with
  | nil => exact ⟨[], rfl, by simp⟩
  | cons step all ih =>
      obtain ⟨⟨name, rfl, plain⟩, later⟩ := List.forall_mem_cons.mp down
      obtain ⟨names, rfl, others⟩ := ih later
      exact ⟨name :: names, rfl, List.forall_mem_cons.mpr ⟨plain, others⟩⟩

end Workflow.Path
