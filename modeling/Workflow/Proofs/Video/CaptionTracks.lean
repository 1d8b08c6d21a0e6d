import Workflow.Proofs.Json.Grammar
import Workflow.Proofs.Text.Occurrences
import Workflow.Video.Transcript

/-!
# The caption tracks of a page

A page is no document of its own: it is a script in which an array stands behind a marker. The
marker is looked for from the left, and the array ends where it is closed, so whatever the page goes
on with is not read, and what comes before the marker may be anything that does not have it.

## Main definitions

* `Transcript.Opens after tracks` — a text starts with an array.
* `Transcript.Marked page after` — what stands behind the first marker of a page.
* `Transcript.Extracts page found` — what is to be found in a page, or is not.
* `Transcript.extracts_tracks` — the tracks of any page.
-/

namespace Workflow.Transcript
open Json.Reader (IsBlank maxDepth)

variable {page before after : List Char} {tracks : List Json}

/-- The text starts with an array, perhaps with space in front, and may go on with anything. -/
def Opens (after : List Char) (tracks : List Json) : Prop :=
  ∃ space text behind, after = space ++ (text ++ behind) ∧ IsBlank space ∧
    Json.Spells maxDepth (.array tracks) text

/-- The page has `after` behind its first marker. -/
def Marked (page after : List Char) : Prop :=
  ∃ before, page = before ++ marker ++ after ∧ ¬ marker <:+: before

/-- What is found in a page. -/
structure Extracts (page : List Char) (found : Option (List Json)) : Prop where
  /-- Tracks are the array behind the first marker, unless it is empty. -/
  some_iff : ∀ tracks, found = some tracks ↔
    tracks ≠ [] ∧ ∃ after, Marked page after ∧ Opens after tracks
  /-- Any text that is read as an array by itself is such an array. -/
  parsed : ∀ text behind tracks, Marked page (text.toList ++ behind) →
    Json.parse text = some (.array tracks) → tracks ≠ [] → found = some tracks
  /-- Nothing is found without a marker, or if no array is behind the first but an empty one. -/
  none_iff : found = none ↔ ¬ marker <:+: page ∨
    ∃ after, Marked page after ∧ ∀ tracks, Opens after tracks → tracks = []

/-! ## The marker -/

theorem marker_ne_nil : marker ≠ [] := by decide

/-- Two markers do not overlap, so none is missed by looking at what is before one. -/
theorem borderless_marker : Text.Borderless marker := by
  rw [Text.borderless_iff]
  decide

theorem marked_iff : Marked page after ↔ ∃ before, Text.cut marker page = some (before, after) := by
  simp only [Marked, Text.cut_eq_some_iff marker_ne_nil,
    Text.endsFirst_iff marker_ne_nil borderless_marker]

/-! ## The array -/

theorem opens_iff : Opens after tracks ↔ ∃ behind,
    Json.Reader.value maxDepth (Json.Reader.skipSpace after) = some (.array tracks, behind) := by
  constructor
  · rintro ⟨space, text, behind, rfl, isBlank, spelled⟩
    refine ⟨behind, ?_⟩
    rw [Json.Reader.skipSpace_append isBlank, Json.Reader.skipSpace_of_spells spelled]
    exact Json.Reader.value_array_iff.mpr ⟨text, rfl, spelled⟩
  · rintro ⟨behind, read⟩
    obtain ⟨text, whole, spelled⟩ := Json.Reader.value_array_iff.mp read
    obtain ⟨space, isBlank, same⟩ := Json.Reader.exists_eq_append_skipSpace after
    exact ⟨space, text, behind, whole ▸ same, isBlank, spelled⟩

theorem opens_of_parse {text : String} (read : Json.parse text = some (.array tracks))
    (behind : List Char) : Opens (text.toList ++ behind) tracks := by
  obtain ⟨space, spelling, more, whole, isBlank, spelled, -⟩ := Json.parse_eq_some_iff.mp read
  exact ⟨space, spelling, more ++ behind, by simp [whole], isBlank, spelled⟩

/-! ## The tracks -/

theorem tracks?_eq_some_iff {page : String} : tracks? page = some tracks ↔
    tracks ≠ [] ∧ ∃ after, Marked page.toList after ∧ Opens after tracks := by
  constructor
  · intro found
    obtain ⟨⟨before, after⟩, cut, found⟩ := Option.bind_eq_some_iff.mp found
    obtain ⟨⟨json, behind⟩, read, found⟩ := Option.bind_eq_some_iff.mp found
    cases json with
    | array items =>
        change (if items.isEmpty then none else some items) = some tracks at found
        split at found
        · cases found
        · rename_i filled
          cases found
          refine ⟨by simpa using filled, after, marked_iff.mpr ⟨before, cut⟩, ?_⟩
          exact opens_iff.mpr ⟨behind, read⟩
    | _ => cases found
  · rintro ⟨filled, after, marked, opens⟩
    obtain ⟨before, cut⟩ := marked_iff.mp marked
    obtain ⟨behind, read⟩ := opens_iff.mp opens
    simp [tracks?, cut, read, Json.array?, filled]

theorem tracks?_eq_none_iff {page : String} : tracks? page = none ↔
    ∀ after, Marked page.toList after → ∀ tracks, Opens after tracks → tracks = [] := by
  rw [Option.eq_none_iff_forall_ne_some]
  simp only [ne_eq, tracks?_eq_some_iff]
  constructor
  · intro none after marked tracks opens
    by_contra filled
    exact none tracks ⟨filled, after, marked, opens⟩
  · rintro empty tracks ⟨filled, after, marked, opens⟩
    exact filled (empty after marked tracks opens)

/-- The tracks of a page are the array behind its first marker, if one is there, and not empty. -/
theorem extracts_tracks (page : String) : Extracts page.toList (tracks? page) where
  some_iff tracks := tracks?_eq_some_iff
  parsed text behind tracks marked read filled :=
    tracks?_eq_some_iff.mpr ⟨filled, _, marked, opens_of_parse read behind⟩
  none_iff := by
    rw [tracks?_eq_none_iff]
    cases cut : Text.cut marker page.toList with
    | none =>
        have absent := (Text.cut_eq_none_iff marker_ne_nil).mp cut
        simp [marked_iff, cut, absent]
    | some place =>
        obtain ⟨before, after⟩ := place
        have present : marker <:+: page.toList := ⟨before, after, (Text.eq_of_cut cut).symm⟩
        simp [marked_iff, cut, present]

/-- Another marker, brackets and quotes stand behind the array. -/
example :
    tracks? "<p>\"captionTracks\": [[\"]\"], null] ]\x7d \"captionTracks\":[1]"
      = some [.array [.string "]"], .null] := by
  rfl

end Workflow.Transcript
