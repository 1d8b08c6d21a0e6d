import Workflow.Proofs.Files.Changes

/-!
# Files that were written

A path leads where it leads because of the directories on its way. Writing a file takes none of them
away, so the path of a file that was written still leads there. And what is made on the way to a
file is made where there was nothing before, so no other file is lost.

## Main definitions

* `FileTree.OnlyMakes` — directories were made where there was nothing, and all else is as before.
* `FileTree.Saved path content` — a file was written, and all else is as before in that sense.
* `FileTree.onlyMakes_makeDirectories`, `FileTree.saved_of_write` — the two operations do that.
-/

namespace Workflow.FileTree

variable {tree before after : FileTree} {path content : String}

/-- Directories were made where there was nothing, and all else is as before. -/
def OnlyMakes (before after : FileTree) : Prop :=
  ∀ place, after.entry? place = before.entry? place ∨
    (before.entry? place = none ∧ after.entry? place = some .directory)

/-- The path leads to a file with the content, and everywhere else directories were made where there
was nothing, and all else is as before. -/
structure Saved (path content : String) (before after : FileTree) : Prop where
  there : after.read? path = some content
  elsewhere : ∀ place, after.locate path ≠ .ok place →
    after.entry? place = before.entry? place ∨
      (before.entry? place = none ∧ after.entry? place = some .directory)

theorem OnlyMakes.refl (tree : FileTree) : OnlyMakes tree tree := fun _ => .inl rfl

/-- What is made in two steps at a place is made there. -/
theorem OnlyMakes.step {last : FileTree} (first : OnlyMakes before after) {place : Place}
    (second : last.entry? place = after.entry? place ∨
      (after.entry? place = none ∧ last.entry? place = some .directory)) :
    last.entry? place = before.entry? place ∨
      (before.entry? place = none ∧ last.entry? place = some .directory) := by
  rcases second with same | ⟨none, made⟩
  · rw [same]
    exact first place
  · rcases first place with same | ⟨-, made'⟩
    · exact .inr ⟨same ▸ none, made⟩
    · cases none.symm.trans made'

theorem OnlyMakes.trans {last : FileTree} (first : OnlyMakes before after)
    (second : OnlyMakes after last) : OnlyMakes before last :=
  fun place => first.step (second place)

/-- Directories made before a file is saved are made where there was nothing. -/
theorem OnlyMakes.saved {last : FileTree} (first : OnlyMakes before after)
    (saved : Saved path content after last) : Saved path content before last where
  there := saved.there
  elsewhere place apart := first.step (saved.elsewhere place apart)

/-! ## Directories -/

/-- A directory is made where there is nothing. -/
theorem onlyMakes_makeDirectory (done : before.makeDirectory path = .ok after) :
    OnlyMakes before after := by
  have nothing : ∃ place, before.entry? place = none ∧ after = before.put place .directory := by
    unfold makeDirectory at done
    dsimp only at done
    split at done
    · cases done
    split at done
    · cases done
    split at done
    · cases done
    rename_i last ends
    obtain ⟨parent, -, done⟩ := bind_eq_ok_iff.mp done
    split at done
    · cases done
    · cases done
    split at done
    · cases done
    split at done
    · cases done
    split at done
    · cases done
    rename_i free
    cases done
    exact ⟨parent ++ [last], by simpa using free, rfl⟩
  obtain ⟨place, none, rfl⟩ := nothing
  intro other
  rcases entry?_put before place other .directory with same | ⟨rfl, found⟩
  · exact .inl same
  · exact .inr ⟨none, found⟩

theorem onlyMakes_makeSteps (trail : List Path.Component) (tree : FileTree) :
    OnlyMakes tree (makeSteps trail tree).2 := by
  induction trail generalizing tree with
  | nil => exact .refl tree
  | cons step rest ih => exact rel_ensure .refl .trans onlyMakes_makeDirectory ih

theorem onlyMakes_makeDirectories (tree : FileTree) (path : String) :
    OnlyMakes tree (tree.makeDirectories path).2 := by
  unfold makeDirectories
  split
  · exact .refl tree
  · exact rel_ensure .refl .trans onlyMakes_makeDirectory (onlyMakes_makeSteps _)

/-! ## Files -/

/-- A walk goes the same way where all directories are still there. -/
theorem walk_of_directories
    (kept : ∀ place, before.entry? place = some .directory → after.entry? place = some .directory)
    {place last : Place} {slices : List String} (walked : before.walk place slices = .ok last) :
    after.walk place slices = .ok last := by
  induction slices generalizing place with
  | nil => exact walked
  | cons slice rest ih =>
      unfold walk at walked ⊢
      split at walked
      · cases walked
      · cases walked
      · rename_i here
        rw [kept place here]
        dsimp only
        split at walked
        · rename_i stays
          rw [if_pos stays]
          exact ih walked
        · rename_i counts
          rw [if_neg counts]
          split at walked
          · rename_i up
            rw [if_pos up]
            exact ih walked
          · rename_i down
            rw [if_neg down]
            split at walked
            · cases walked
            · rename_i short
              rw [if_neg short]
              exact ih walked

theorem locate_of_directories
    (kept : ∀ place, before.entry? place = some .directory → after.entry? place = some .directory)
    {place : Place} (located : before.locate path = .ok place) : after.locate path = .ok place := by
  unfold locate at located ⊢
  split at located
  · cases located
  rename_i plain
  split at located
  · cases located
  rename_i some
  split at located
  · cases located
  rename_i short
  rw [if_neg plain, if_neg some, if_neg short]
  exact walk_of_directories kept located

/-- What is put where there is no directory is found there. -/
theorem entry?_put_self {place : Place} (free : tree.entry? place ≠ some .directory)
    (entry : FileEntry) : FileTree.entry? (tree.put place entry) place = some entry := by
  have counts : alwaysThere place = false := by
    cases always : alwaysThere place with
    | false => rfl
    | true => exact absurd (by rw [FileTree.entry?, if_pos always]) free
  simp [FileTree.entry?, counts, put]

theorem saved_of_write (done : before.write path content = .ok after) :
    Saved path content before after := by
  unfold write at done
  obtain ⟨place, located, done⟩ := bind_eq_ok_iff.mp done
  have free : before.entry? place ≠ some .directory ∧ after = before.put place (.file content) := by
    split at done
    · cases done
    · rename_i free
      split at done
      · cases done
        exact ⟨free, rfl⟩
      · cases done
      · cases done
  obtain ⟨free, rfl⟩ := free
  have kept : ∀ other, before.entry? other = some .directory →
      FileTree.entry? (before.put place (.file content)) other = some .directory := by
    intro other directory
    rcases entry?_put before place other (.file content) with same | ⟨rfl, -⟩
    · exact same.trans directory
    · exact absurd directory free
  have leads := locate_of_directories kept located
  constructor
  case there =>
    rw [read?, leads]
    simp only [entry?_put_self free]
  case elsewhere =>
    intro other apart
    rcases entry?_put before place other (.file content) with same | ⟨rfl, -⟩
    · exact .inl same
    · exact absurd leads apart

end Workflow.FileTree
