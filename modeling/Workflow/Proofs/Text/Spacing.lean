import Mathlib.Data.List.Chain
import Workflow.Proofs.Text.Pieces

/-!
# Words with one space between them

Where a text has white space, and how much of it, does not matter once its words are joined by
single spaces. So it makes no difference whether texts are spaced one by one and then joined,
without those that have come to nothing, or joined first and then spaced as a whole.

## Main definitions

* `Text.IsSpaced cs` — no white space but single spaces, and none at either end.
* `Text.words_joinWith` — joined texts have the words of the one and then of the other.
* `Text.isSpaced_joinWith` — words with spaces between them are spaced.
* `Text.joinWith_filter_map` — groups that are joined first and then joined again.
-/

namespace Workflow.Text

/-- No white space but single spaces, and none at either end. -/
structure IsSpaced (cs : List Char) : Prop where
  starts : ∀ c ∈ cs.head?, isBlank c = false
  ends : ∀ c ∈ cs.getLast?, isBlank c = false
  space : ∀ c ∈ cs, isBlank c = true → c = ' '
  single : cs.IsChain fun c d => isBlank c = false ∨ isBlank d = false

variable {c : Char} {cs word front back sep : List Char}

theorem nil_not_mem_words (cs : List Char) : [] ∉ words cs := fun empty =>
  ne_nil_of_mem_words empty rfl

/-! ## What joined texts have -/

/-- Joined texts have the words of the one and then of the other. -/
theorem words_joinWith (blank : isBlank c = true) (ts : List (List Char)) :
    words (joinWith [c] ts) = ts.flatMap words := by
  induction ts with
  | nil => rfl
  | cons t ts ih =>
      by_cases last : ts = []
      · simp [last, joinWith]
      · rw [joinWith_cons last, List.append_assoc, List.singleton_append,
          words_append_blank blank, ih, List.flatMap_cons]

/-- Words that are joined are the words of what they make. -/
theorem words_joinWith_words (blank : isBlank c = true) (cs : List Char) :
    words (joinWith [c] (words cs)) = words cs := by
  have whole : ∀ word ∈ words cs, words word = [word] := fun word member =>
    words_eq_singleton (ne_nil_of_mem_words member) fun _ inside => (of_mem_words member inside).2
  rw [words_joinWith blank, List.flatMap_congr whole, List.flatMap_singleton']

/-- Joining by white space adds nothing else. -/
theorem filter_joinWith (blank : isBlank c = true) (ts : List (List Char)) :
    (joinWith [c] ts).filter (! isBlank ·) = ts.flatten.filter (! isBlank ·) := by
  induction ts with
  | nil => rfl
  | cons t ts ih =>
      by_cases last : ts = []
      · simp [last, joinWith]
      · simp [joinWith_cons last, blank, ih]

/-! ## Groups -/

/-- Texts come to nothing only if there are none. -/
theorem joinWith_eq_nil_iff {ts : List (List Char)} (filled : [] ∉ ts) :
    joinWith sep ts = [] ↔ ts = [] := by
  cases ts with
  | nil => simp [joinWith]
  | cons t ts =>
      have some : t ≠ [] := fun none => filled (none ▸ List.mem_cons_self)
      cases ts <;> simp [joinWith, some]

theorem joinWith_append {ts us : List (List Char)} (some : ts ≠ []) (more : us ≠ []) :
    joinWith sep (ts ++ us) = joinWith sep ts ++ sep ++ joinWith sep us := by
  induction ts with
  | nil => exact absurd rfl some
  | cons t ts ih =>
      by_cases last : ts = []
      · simp [last, joinWith, joinWith_cons more]
      · rw [List.cons_append, joinWith_cons (by simp [last]), ih last, joinWith_cons last]
        simp only [List.append_assoc]

/-- Groups that are joined, and then joined without those that came to nothing, are joined as
one. -/
theorem joinWith_filter_map {groups : List (List (List Char))}
    (filled : ∀ group ∈ groups, [] ∉ group) :
    joinWith sep ((groups.map (joinWith sep)).filter (! ·.isEmpty)) =
      joinWith sep groups.flatten := by
  have kept : ∀ {group : List (List Char)}, [] ∉ group →
      (! (joinWith sep group).isEmpty) = ! group.isEmpty := by
    intro group filled
    rw [Bool.eq_iff_iff]
    simp [joinWith_eq_nil_iff filled]
  induction groups with
  | nil => rfl
  | cons group groups ih =>
      obtain ⟨here, later⟩ := List.forall_mem_cons.mp filled
      have rest := ih later
      have there : [] ∉ groups.flatten := by simpa using later
      rw [List.map_cons, List.filter_cons, kept here, List.flatten_cons]
      by_cases none : group = []
      · simpa [none] using rest
      · have some : (! group.isEmpty) = true := by simpa using none
        rw [if_pos some]
        by_cases last : groups.flatten = []
        · rw [last, joinWith, joinWith_eq_nil_iff] at rest
          · simp [rest, last, joinWith]
          · simp
        · rw [joinWith_append none last, joinWith_cons, rest]
          intro nothing
          rw [nothing, joinWith, eq_comm, joinWith_eq_nil_iff there] at rest
          exact last rest

/-! ## Spaced texts -/

theorem isSpaced_of_unblank (unblank : ∀ d ∈ word, isBlank d = false) : IsSpaced word where
  starts d first := unblank d (List.mem_of_mem_head? first)
  ends d last := unblank d (List.mem_of_mem_getLast? last)
  space d member blank := by simp [unblank d member] at blank
  single := (List.pairwise_of_forall_mem_list fun d member _ _ => .inl (unblank d member)).isChain

/-- A space between two texts that are spaced. -/
theorem IsSpaced.append_space (first : IsSpaced front) (second : IsSpaced back)
    (some : front ≠ []) (more : back ≠ []) : IsSpaced (front ++ ' ' :: back) where
  starts := by simpa [List.head?_append_of_ne_nil front some] using first.starts
  ends := by
    have last : (front ++ ' ' :: back).getLast? = back.getLast? := by
      rw [List.getLast?_append_of_ne_nil _ (List.cons_ne_nil _ _),
        List.getLast?_cons_of_ne_nil more]
    simpa [last] using second.ends
  space d member blank := by
    rcases List.mem_append.mp member with member | member
    · exact first.space d member blank
    · rcases List.mem_cons.mp member with rfl | member
      · rfl
      · exact second.space d member blank
  single := by
    refine List.isChain_append.mpr ⟨first.single, ?_, fun d last _ _ => .inl (first.ends d last)⟩
    exact second.single.cons fun d head => .inr (second.starts d head)

/-- Words with spaces between them are spaced. -/
theorem isSpaced_joinWith {ws : List (List Char)}
    (each : ∀ word ∈ ws, word ≠ [] ∧ ∀ d ∈ word, isBlank d = false) :
    IsSpaced (joinWith [' '] ws) := by
  induction ws with
  | nil => exact isSpaced_of_unblank (by simp [joinWith])
  | cons word ws ih =>
      obtain ⟨⟨some, unblank⟩, others⟩ := List.forall_mem_cons.mp each
      by_cases last : ws = []
      · simpa [last, joinWith] using isSpaced_of_unblank unblank
      · rw [joinWith_cons last, List.append_assoc, List.singleton_append]
        refine (isSpaced_of_unblank unblank).append_space (ih others) some ?_
        rw [Ne, joinWith_eq_nil_iff]
        · exact last
        · exact fun none => (others [] none).1 rfl

end Workflow.Text
