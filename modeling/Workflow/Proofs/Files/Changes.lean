import Mathlib.Data.List.TakeWhile
import Workflow.Proofs.Except
import Workflow.Proofs.Files.Steps

/-!
# What file operations change

Where a path leads is a matter of its steps alone: every place on the way is a directory, and going
up takes the last name off. Making a directory and writing a file change one place each, the one
that the path leads to. Making a directory with all that leads to it changes only places on the way.

## Main definitions

* `FileTree.placeOf` — the place that steps lead to.
* `FileTree.AddsOnly` — one tree comes from another by additions of an allowed kind.
* `FileTree.write_eq_ok` — writing puts a file where its path leads.
* `FileTree.addsOnly_makeDirectories` — making directories adds them on the way, and nothing else.
-/

namespace Workflow.FileTree

open Workflow.Path (Component)

/-- The place that a step leads to. -/
def move (place : Place) : Component → Place
  | .root => ["/"]
  | .here => place
  | .up => above place
  | .name name => place ++ [name]

/-- The place that steps lead to from the working directory. -/
def placeOf (steps : List Component) : Place := steps.foldl move []

theorem placeOf_names (steps : List Component) (names : List String) :
    placeOf (steps ++ names.map .name) = placeOf steps ++ names := by
  unfold placeOf
  rw [List.foldl_append]
  generalize steps.foldl move [] = place
  induction names generalizing place with
  | nil => simp
  | cons name names ih => simp [move, ih]

/-! ## Where paths lead -/

theorem foldl_filterMap_cons (place : Place) (slice : String) (rest : List String) :
    ((slice :: rest).filterMap Path.laterStep?).foldl move place =
      (rest.filterMap Path.laterStep?).foldl move
        (((Path.laterStep? slice).map (move place)).getD place) := by
  cases step : Path.laterStep? slice <;> simp [step]

/-- A walk that gets to its end follows the slices step by step. -/
theorem walk_eq_ok {tree : FileTree} {place last : Place} {slices : List String}
    (walked : tree.walk place slices = .ok last) :
    last = (slices.filterMap Path.laterStep?).foldl move place := by
  induction slices generalizing place with
  | nil =>
      cases walked
      rfl
  | cons slice rest ih =>
      rw [foldl_filterMap_cons]
      unfold walk at walked
      unfold Path.laterStep?
      split at walked
      · cases walked
      · cases walked
      · split at walked
        · rename_i stays
          rw [if_pos stays]
          exact ih walked
        · rename_i counts
          rw [if_neg counts]
          split at walked
          · rename_i up
            rw [if_pos up]
            exact ih walked
          · rename_i notUp
            rw [if_neg notUp]
            split at walked
            · cases walked
            · exact ih walked

theorem placeOf_steps (path : String) :
    placeOf (Path.steps path) =
      ((Path.slices path).filterMap Path.laterStep?).foldl move (start path) := by
  rw [Path.steps_eq, placeOf, List.foldl_append]
  unfold start
  split <;> rfl

/-- The place that a path leads to is that of its steps. -/
theorem locate_eq_ok {tree : FileTree} {path : String} {place : Place}
    (located : tree.locate path = .ok place) : place = placeOf (Path.steps path) := by
  unfold locate at located
  split at located
  · cases located
  · split at located
    · cases located
    · split at located
      · cases located
      · rw [placeOf_steps]
        exact walk_eq_ok located

/-! ## Additions -/

/-- One tree comes from another by additions of an allowed kind: whatever is otherwise than before
is allowed. -/
def AddsOnly (allowed : Place → FileEntry → Prop) (before after : FileTree) : Prop :=
  ∀ place, after.entry? place = before.entry? place ∨
    ∃ entry, after.entry? place = some entry ∧ allowed place entry

variable {allowed : Place → FileEntry → Prop} {before after : FileTree}

theorem AddsOnly.refl (tree : FileTree) : AddsOnly allowed tree tree := fun _ => .inl rfl

theorem AddsOnly.trans {last : FileTree} (first : AddsOnly allowed before after)
    (second : AddsOnly allowed after last) : AddsOnly allowed before last := by
  intro place
  rcases second place with same | added
  · rw [same]
    exact first place
  · exact .inr added

theorem AddsOnly.mono {more : Place → FileEntry → Prop} (adds : AddsOnly allowed before after)
    (allows : ∀ place entry, allowed place entry → more place entry) :
    AddsOnly more before after := fun place =>
  (adds place).imp_right fun ⟨entry, found, fits⟩ => ⟨entry, found, allows place entry fits⟩

theorem lookup_filter_ne {place other : Place} (differs : other ≠ place)
    (entries : List (Place × FileEntry)) :
    (entries.filter (·.1 ≠ place)).lookup other = entries.lookup other := by
  induction entries with
  | nil => rfl
  | cons first rest ih =>
      obtain ⟨next, content⟩ := first
      by_cases dropped : next = place
      · have passed : (other == next) = false := by simpa [dropped] using differs
        rw [List.filter_cons_of_neg (by simp [dropped]), List.lookup_cons, passed, ih]
      · rw [List.filter_cons_of_pos (by simp [dropped]), List.lookup_cons, List.lookup_cons, ih]

theorem entry?_put (tree : FileTree) (place other : Place) (entry : FileEntry) :
    FileTree.entry? (tree.put place entry) other = tree.entry? other ∨
      (other = place ∧ FileTree.entry? (tree.put place entry) other = some entry) := by
  unfold entry?
  split
  · exact .inl rfl
  · by_cases same : other = place
    · subst same
      exact .inr ⟨rfl, by simp [put]⟩
    · refine .inl ?_
      have passed : (other == place) = false := by simpa using same
      simp only [put, List.lookup_cons, passed, lookup_filter_ne same]

/-- A tree with one more entry. -/
theorem addsOnly_put {tree : FileTree} {place : Place} {entry : FileEntry}
    (fits : allowed place entry) : AddsOnly allowed tree (tree.put place entry) := by
  intro other
  rcases entry?_put tree place other entry with same | ⟨rfl, found⟩
  · exact .inl same
  · exact .inr ⟨entry, found, fits⟩

/-! ## Single operations -/

/-- Slices at the end that are left off lead nowhere. -/
theorem filterMap_dropTrailing (slices : List String) :
    (dropTrailing slices).filterMap Path.laterStep? = slices.filterMap Path.laterStep? := by
  let isEmpty (slice : String) : Bool := slice = ""
  have split : slices = dropTrailing slices ++ (slices.reverse.takeWhile isEmpty).reverse := by
    have parts := List.takeWhile_append_dropWhile (p := isEmpty) (l := slices.reverse)
    rw [dropTrailing, ← List.reverse_append, parts, List.reverse_reverse]
  have nothing : (slices.reverse.takeWhile isEmpty).reverse.filterMap Path.laterStep? = [] := by
    rw [List.filterMap_eq_nil_iff]
    intro slice member
    have none : slice = "" := by
      simpa [isEmpty] using List.mem_takeWhile_imp (List.mem_reverse.mp member)
    rw [none]
    rfl
  conv => rhs; rw [split, List.filterMap_append, nothing, List.append_nil]

theorem getLast?_dropTrailing {slices : List String} {last : String}
    (ends : (dropTrailing slices).getLast? = some last) : last ≠ "" := by
  rw [dropTrailing, List.getLast?_reverse] at ends
  have kept := List.head?_dropWhile_not (fun slice : String => decide (slice = "")) slices.reverse
  simpa [ends] using kept

/-- A directory that is made is where its path leads. -/
theorem makeDirectory_eq_ok {tree made : FileTree} {path : String}
    (done : tree.makeDirectory path = .ok made) :
    made = tree.put (placeOf (Path.steps path)) .directory := by
  unfold makeDirectory at done
  dsimp only at done
  split at done
  · cases done
  split at done
  · cases done
  split at done
  · cases done
  rename_i last ends
  obtain ⟨parent, walked, done⟩ := bind_eq_ok_iff.mp done
  -- the last slice that counts is made in the place that the slices before it lead to
  have counts : last ≠ "" := getLast?_dropTrailing ends
  obtain ⟨front, slices⟩ := List.getLast?_eq_some_iff.mp ends
  rw [slices, List.dropLast_concat] at walked
  split at done
  · cases done
  · cases done
  split at done
  · cases done
  rename_i notDots
  obtain ⟨notHere, notUp⟩ := not_or.mp notDots
  split at done
  · cases done
  split at done
  · cases done
  cases done
  have step : Path.laterStep? last = some (.name last) := by
    simp [Path.laterStep?, counts, notHere, notUp]
  rw [placeOf_steps, ← filterMap_dropTrailing, slices, List.filterMap_append, List.foldl_append,
    ← walk_eq_ok walked]
  simp [step, move]

/-- A file that is written is where its path leads. -/
theorem write_eq_ok {tree written : FileTree} {path content : String}
    (done : tree.write path content = .ok written) :
    written = tree.put (placeOf (Path.steps path)) (.file content) := by
  unfold write at done
  obtain ⟨place, located, done⟩ := bind_eq_ok_iff.mp done
  obtain rfl := locate_eq_ok located
  split at done
  · cases done
  · split at done
    · cases done
      rfl
    · cases done
    · cases done

/-! ## The way to a directory -/

/-- Steps from the last to the first, as a path has them: only the first can start at the root or
stay, and names are plain. -/
def IsTrail : List Component → Prop
  | [] => True
  | .root :: rest => rest = []
  | .here :: rest => rest = []
  | .up :: rest => IsTrail rest
  | .name name :: rest => Path.IsPlainName name ∧ IsTrail rest

theorem IsTrail.tail {step : Component} {rest : List Component} (trail : IsTrail (step :: rest)) :
    IsTrail rest := by
  cases step with
  | root =>
      obtain rfl : rest = [] := trail
      trivial
  | here =>
      obtain rfl : rest = [] := trail
      trivial
  | up => exact trail
  | name name => exact trail.2

theorem IsTrail.suffix {later trail : List Component} (whole : IsTrail (later ++ trail)) :
    IsTrail trail := by
  induction later with
  | nil => exact whole
  | cons step later ih => exact ih whole.tail

theorem isTrail_append {later front : List Component} (first : IsTrail front)
    (steps : ∀ step ∈ later, step = .up ∨ ∃ name, step = .name name ∧ Path.IsPlainName name) :
    IsTrail (later ++ front) := by
  induction later with
  | nil => exact first
  | cons step later ih =>
      obtain ⟨here, others⟩ := List.forall_mem_cons.mp steps
      rcases here with rfl | ⟨name, rfl, plain⟩
      · exact ih others
      · exact ⟨plain, ih others⟩

theorem isTrail_components (path : String) : IsTrail (Path.components path).reverse := by
  have later : ∀ step ∈ ((Path.slices path).filterMap Path.laterStep?).reverse,
      step = .up ∨ ∃ name, step = .name name ∧ Path.IsPlainName name :=
    fun step member => Path.of_mem_laterSteps (List.mem_reverse.mp member)
  unfold Path.components
  split
  · rw [List.reverse_cons]
    have first : IsTrail [.root] := rfl
    exact isTrail_append first later
  · split
    · rename_i starts
      rw [List.reverse_cons]
      rw [starts] at later
      have first : IsTrail [.here] := rfl
      exact isTrail_append first later
    · have first : IsTrail [] := trivial
      simpa using isTrail_append first later

theorem pathOfSteps_cons (step : Component) (rest : List Component) :
    pathOfSteps (step :: rest) = match step with
      | .root => "/"
      | .here => "."
      | .up => Path.join (pathOfSteps rest) ".."
      | .name name => Path.join (pathOfSteps rest) name := by
  unfold pathOfSteps
  rw [List.reverse_cons, List.foldl_append]
  rfl

/-- The path of steps has these steps. -/
theorem steps_pathOfSteps {trail : List Component} (isTrail : IsTrail trail) :
    Path.steps (pathOfSteps trail) = trail.reverse.filter (· ≠ .here) := by
  induction trail with
  | nil => rfl
  | cons step rest ih =>
      have before := ih isTrail.tail
      rw [pathOfSteps_cons, List.reverse_cons, List.filter_append]
      cases step with
      | root =>
          obtain rfl : rest = [] := isTrail
          rfl
      | here =>
          obtain rfl : rest = [] := isTrail
          rfl
      | up =>
          rw [Path.steps_join rfl, before]
          rfl
      | name name =>
          dsimp only
          rw [Path.steps_join (Path.isAbsolute_of_plain isTrail.1), before,
            Path.steps_of_plain isTrail.1]
          rfl

/-! ## Making a directory with all that leads to it -/

/-- What holds from a tree to itself, of two changes in a row and of every directory that is made
for a path, holds of making a directory unless it is there. -/
theorem rel_ensure {R : FileTree → FileTree → Prop} {tree : FileTree} {path : String}
    {before : FileTree → Option FileError × FileTree} (refl : ∀ tree, R tree tree)
    (trans : ∀ {first second third}, R first second → R second third → R first third)
    (made : ∀ {tree after : FileTree}, tree.makeDirectory path = .ok after → R tree after)
    (earlier : ∀ tree, R tree (before tree).2) : R tree (tree.ensure path before).2 := by
  unfold ensure
  dsimp only
  split
  · rename_i done
    exact made done
  · have behind := earlier tree
    split
    · rename_i left
      rw [left] at behind
      exact behind
    · rename_i left
      rw [left] at behind
      split
      · rename_i done
        exact trans behind (made done)
      · exact behind
  · exact refl tree

theorem addsOnly_ensure {tree : FileTree} {path : String}
    {before : FileTree → Option FileError × FileTree}
    (fits : allowed (placeOf (Path.steps path)) .directory)
    (earlier : ∀ tree, AddsOnly allowed tree (before tree).2) :
    AddsOnly allowed tree (tree.ensure path before).2 := by
  refine rel_ensure .refl .trans ?_ earlier
  intro tree after done
  rw [makeDirectory_eq_ok done]
  exact addsOnly_put fits

theorem addsOnly_makeSteps {trail : List Component}
    (fits : ∀ part, part <:+ trail → part ≠ [] →
      allowed (placeOf (Path.steps (pathOfSteps part))) .directory) (tree : FileTree) :
    AddsOnly allowed tree (makeSteps trail tree).2 := by
  induction trail generalizing tree with
  | nil => exact .refl tree
  | cons step rest ih =>
      have later : ∀ part, part <:+ rest → part ≠ [] →
          allowed (placeOf (Path.steps (pathOfSteps part))) .directory :=
        fun part ends => fits part (ends.trans (List.suffix_cons step rest))
      exact addsOnly_ensure (fits _ List.suffix_rfl (List.cons_ne_nil step rest)) (ih later)

/-- Directories are made only where a beginning of the path leads. -/
theorem addsOnly_makeDirectories (tree : FileTree) (path : String) :
    AddsOnly (fun place entry => entry = .directory ∧
      ∃ front, front <+: Path.steps path ∧ place = placeOf front)
      tree (tree.makeDirectories path).2 := by
  unfold makeDirectories
  split
  · exact .refl tree
  · refine addsOnly_ensure ⟨rfl, _, List.prefix_rfl, rfl⟩ (addsOnly_makeSteps ?_)
    intro part ends _
    -- steps run from the last to the first here, so the end of a trail is a beginning of the path
    have whole : part <:+ (Path.components path).reverse := ends.trans (List.tail_suffix _)
    have front : part.reverse <+: Path.components path := by
      rw [← List.reverse_suffix, List.reverse_reverse]
      exact whole
    have isTrail : IsTrail part := by
      obtain ⟨later, split⟩ := whole
      exact IsTrail.suffix (split ▸ isTrail_components path)
    refine ⟨rfl, _, ?_, rfl⟩
    rw [steps_pathOfSteps isTrail]
    exact front.filter _

end Workflow.FileTree
