import Mathlib.Data.List.Induction
import Mathlib.Data.String.Basic
import Workflow.Fields

/-!
# Fields in order

Fields in order are known by what stands under each name. So it does not matter in which way they
were put together.

## Main definitions

* `Fields.IsOrdered` — the names ascend, none of them twice.
* `Fields.isOrdered_ofList` — fields from pairs are in order.
* `Fields.ext_of_get?` — ordered fields with the same contents are the same.
* `Fields.ofList_of_isOrdered` — ordered fields are the fields of themselves.
-/

namespace Workflow.Fields
variable {α β : Type} {name : String} {a : α} {fields others : Fields α}

/-- The names ascend, none of them twice. -/
def IsOrdered (fields : Fields α) : Prop := fields.Pairwise (·.1 < ·.1)

instance (fields : Fields α) : Decidable (IsOrdered fields) :=
  inferInstanceAs (Decidable (fields.Pairwise (·.1 < ·.1)))

/-! ## Looking up -/

theorem mem_of_get? (found : get? fields name = some a) : (name, a) ∈ fields := by
  induction fields with
  | nil => simp at found
  | cons field rest ih =>
      obtain ⟨n, b⟩ := field
      by_cases same : name = n
      · simp_all
      · simp only [get?_cons, if_neg same] at found
        exact List.mem_cons_of_mem _ (ih found)

theorem get?_eq_none_iff : get? fields name = none ↔ name ∉ fields.names := by
  induction fields with
  | nil => simp [names]
  | cons field rest ih =>
      obtain ⟨n, b⟩ := field
      by_cases same : name = n
      · simp [same, names]
      · simpa [same, names] using ih

theorem get?_append (front back : Fields α) :
    get? (front ++ back) name = (get? front name).or (get? back name) := by
  induction front with
  | nil => simp
  | cons field rest ih =>
      obtain ⟨n, b⟩ := field
      by_cases same : name = n <;> simp [same, ih]

theorem get?_map (f : String → α → β) :
    get? (fields.map fun field => (field.1, f field.1 field.2)) name
      = (get? fields name).map (f name) := by
  induction fields with
  | nil => simp
  | cons field rest ih =>
      obtain ⟨n, b⟩ := field
      by_cases same : name = n <;> simp [same, ih]

/-- With each name once a field is the only one under its name. -/
theorem filter_eq_singleton (distinct : fields.names.Nodup) {field : String × α}
    (member : field ∈ fields) : fields.filter (·.1 = field.1) = [field] := by
  induction fields with
  | nil => simp at member
  | cons first rest ih =>
      obtain ⟨absent, tail⟩ := List.nodup_cons.mp distinct
      rcases List.mem_cons.mp member with rfl | member
      · have none : rest.filter (·.1 = field.1) = [] := by
          simp only [List.filter_eq_nil_iff, decide_eq_true_eq]
          intro other among same
          exact absent (same ▸ List.mem_map_of_mem among)
        simp [none]
      · have differs : first.1 ≠ field.1 := by
          intro same
          exact absent (same ▸ List.mem_map_of_mem member)
        simpa [differs] using ih tail member

/-! ## Order -/

theorem IsOrdered.nodup (ordered : IsOrdered fields) : fields.names.Nodup :=
  List.pairwise_map.mpr (ordered.imp ne_of_lt)

theorem mem_insert {field : String × α} (member : field ∈ insert fields name a) :
    field = (name, a) ∨ field ∈ fields := by
  induction fields with
  | nil => simpa [insert] using member
  | cons first rest ih =>
      obtain ⟨n, b⟩ := first
      rcases lt_trichotomy name n with before | rfl | behind
      · simpa [insert, before] using member
      · simp only [insert, lt_irrefl, if_false, if_true, List.mem_cons] at member
        exact member.imp_right (List.mem_cons_of_mem _)
      · simp only [insert, if_neg behind.not_gt, if_neg behind.ne', List.mem_cons] at member
        rcases member with rfl | member
        · exact .inr List.mem_cons_self
        · exact (ih member).imp_right (List.mem_cons_of_mem _)

theorem isOrdered_map (f : α → β) :
    IsOrdered (fields.map fun field => (field.1, f field.2)) ↔ IsOrdered fields := by
  simp [IsOrdered, List.pairwise_map]

theorem isOrdered_insert (ordered : IsOrdered fields) (name : String) (a : α) :
    IsOrdered (insert fields name a) := by
  induction fields with
  | nil => exact List.pairwise_singleton _ _
  | cons field rest ih =>
      obtain ⟨n, b⟩ := field
      obtain ⟨later, tail⟩ := List.pairwise_cons.mp ordered
      rcases lt_trichotomy name n with before | rfl | behind
      · simp only [insert, if_pos before]
        refine List.pairwise_cons.mpr ⟨?_, ordered⟩
        intro other member
        rcases List.mem_cons.mp member with rfl | member
        · exact before
        · exact lt_trans before (later other member)
      · simp only [insert, lt_irrefl, if_false, if_true]
        exact List.pairwise_cons.mpr ⟨later, tail⟩
      · simp only [insert, if_neg behind.not_gt, if_neg behind.ne']
        refine List.pairwise_cons.mpr ⟨?_, ih tail⟩
        intro other member
        rcases mem_insert member with rfl | member
        · exact behind
        · exact later other member

theorem ofList_append (pairs : List (String × α)) (name : String) (a : α) :
    ofList (pairs ++ [(name, a)]) = insert (ofList pairs) name a := by
  simp [ofList]

theorem isOrdered_ofList (pairs : List (String × α)) : IsOrdered (ofList pairs) := by
  induction pairs using List.reverseRecOn with
  | nil => exact .nil
  | append_singleton pairs pair ih =>
      exact ofList_append pairs pair.1 pair.2 ▸ isOrdered_insert ih _ _

/-- Of pairs with one name the last is looked up. -/
theorem get?_ofList_eq_reverse (pairs : List (String × α)) (name : String) :
    get? (ofList pairs) name = get? pairs.reverse name := by
  induction pairs using List.reverseRecOn with
  | nil => rfl
  | append_singleton pairs pair ih =>
      rw [ofList_append, get?_insert, ih, List.reverse_append, List.reverse_singleton,
        List.singleton_append, get?_cons]

/-- Pairs with each name once are looked up as they are. -/
theorem get?_ofList {pairs : List (String × α)} (distinct : (names pairs).Nodup) :
    get? (ofList pairs) name = get? pairs name := by
  induction pairs using List.reverseRecOn with
  | nil => rfl
  | append_singleton pairs pair ih =>
      rw [names, List.map_append, List.nodup_append] at distinct
      obtain ⟨front, -, apart⟩ := distinct
      rw [ofList_append, get?_insert, ih front, get?_append, get?_cons, get?_nil]
      split
      · rename_i same
        have absent : name ∉ names pairs := fun member =>
          apart name member pair.1 (by simp) same
        rw [get?_eq_none_iff.mpr absent, Option.none_or]
      · rw [Option.or_none]

/-- Ordered fields are known by what stands under each name. -/
theorem ext_of_get? (ordered : IsOrdered fields) (othersOrdered : IsOrdered others)
    (same : ∀ name, get? fields name = get? others name) : fields = others := by
  induction fields generalizing others with
  | nil =>
      rcases others with _ | ⟨⟨n, b⟩, others⟩
      · rfl
      · simpa using same n
  | cons field rest ih =>
      obtain ⟨n, a⟩ := field
      rcases others with _ | ⟨⟨m, b⟩, others⟩
      · simpa using same n
      · obtain ⟨later, tail⟩ := List.pairwise_cons.mp ordered
        obtain ⟨othersLater, othersTail⟩ := List.pairwise_cons.mp othersOrdered
        obtain rfl : n = m := by
          by_contra differs
          have there : get? others n = some a := by simpa [differs] using (same n).symm
          have here : get? rest m = some b := by simpa [Ne.symm differs] using same m
          exact lt_asymm (othersLater _ (mem_of_get? there)) (later _ (mem_of_get? here))
        obtain rfl : a = b := by simpa using same n
        have absent : get? rest n = none :=
          get?_eq_none_iff.mpr (List.nodup_cons.mp ordered.nodup).1
        have absent' : get? others n = none :=
          get?_eq_none_iff.mpr (List.nodup_cons.mp othersOrdered.nodup).1
        rw [ih tail othersTail fun name => ?_]
        by_cases first : name = n
        · rw [first, absent, absent']
        · simpa [first] using same name

theorem ofList_of_isOrdered (ordered : IsOrdered fields) : ofList fields = fields :=
  ext_of_get? (isOrdered_ofList fields) ordered fun _ => get?_ofList ordered.nodup

end Workflow.Fields
