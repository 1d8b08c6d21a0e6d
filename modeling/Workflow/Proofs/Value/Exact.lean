import Workflow.Proofs.Json.Written
import Workflow.Proofs.Value.Untagged

/-!
# Values that JSON holds

Without a number in floating point a value goes to JSON and comes back unchanged: whole numbers of
64 bits stay whole numbers, and the fields of an object, in order as they are kept, are put back in
that order.

## Main definitions

* `Value.IsOrdered` — the fields of every object are in order of name.
* `Value.IsWhole` — no leaf is a number in floating point.
* `Value.ofJson_toJson` — such a value comes back from JSON.
-/

namespace Workflow.Value

/-- The fields of every object are in order of name, as values keep them. -/
inductive IsOrdered : Value → Prop
  | null : IsOrdered .null
  | bool (b : Bool) : IsOrdered (.bool b)
  | int (n : Int64) : IsOrdered (.int n)
  | number (x : Binary64) : IsOrdered (.number x)
  | string (s : String) : IsOrdered (.string s)
  | array {items : List Value} (each : ∀ item ∈ items, IsOrdered item) : IsOrdered (.array items)
  | object {fields : Fields Value} (ordered : fields.IsOrdered)
      (each : ∀ field ∈ fields, IsOrdered field.2) : IsOrdered (.object fields)

/-- No leaf is a number in floating point. -/
inductive IsWhole : Value → Prop
  | null : IsWhole .null
  | bool (b : Bool) : IsWhole (.bool b)
  | int (n : Int64) : IsWhole (.int n)
  | string (s : String) : IsWhole (.string s)
  | array {items : List Value} (each : ∀ item ∈ items, IsWhole item) : IsWhole (.array items)
  | object {fields : Fields Value} (each : ∀ field ∈ fields, IsWhole field.2) :
      IsWhole (.object fields)

attribute [simp] IsOrdered.null IsOrdered.bool IsOrdered.int IsOrdered.number IsOrdered.string
  IsWhole.null IsWhole.bool IsWhole.int IsWhole.string

@[simp] theorem isOrdered_array_iff {items : List Value} :
    IsOrdered (.array items) ↔ ∀ item ∈ items, IsOrdered item :=
  ⟨fun | .array each => each, .array⟩

@[simp] theorem isWhole_array_iff {items : List Value} :
    IsWhole (.array items) ↔ ∀ item ∈ items, IsWhole item :=
  ⟨fun | .array each => each, .array⟩

@[simp] theorem isOrdered_object_iff {fields : Fields Value} : IsOrdered (.object fields) ↔
    fields.IsOrdered ∧ ∀ field ∈ fields, IsOrdered field.2 :=
  ⟨fun | .object ordered each => ⟨ordered, each⟩, fun ⟨ordered, each⟩ => .object ordered each⟩

@[simp] theorem isWhole_object_iff {fields : Fields Value} :
    IsWhole (.object fields) ↔ ∀ field ∈ fields, IsWhole field.2 :=
  ⟨fun | .object each => each, .object⟩

theorem toItems_eq_map (items : List Value) : toItems items = items.map toJson := by
  induction items with
  | nil => rfl
  | cons item rest ih => rw [toItems, ih, List.map_cons]

theorem toMembers_eq_map (fields : List (String × Value)) :
    toMembers fields = fields.map (Prod.map id toJson) := by
  induction fields with
  | nil => rfl
  | cons field rest ih =>
      rw [toMembers, ih, List.map_cons]
      rfl

/-- A whole number of 64 bits stays one. -/
theorem ofInt_toInt (n : Int64) : ofInt n.toInt = .int n := by
  have least := n.le_toInt
  have most := n.toInt_lt
  have fits : int64OfInt? n.toInt = some n := by
    simp only [int64OfInt?, Int64.ofInt_toInt]
    exact if_pos ⟨least, most⟩
  simp [ofInt, fits]

variable {value : Value}

/-- Without floating point nothing is lost on the way to JSON. -/
theorem IsWhole.isExact_toJson (isWhole : value.IsWhole) : value.toJson.IsExact := by
  induction isWhole with
  | null => exact .scalar trivial
  | bool b => exact .scalar trivial
  | int n =>
      have least := n.le_toInt
      have most := n.toInt_lt
      refine .scalar ⟨least, ?_⟩
      omega
  | string s => exact .scalar trivial
  | @array items each ih =>
      rw [toJson, toItems_eq_map]
      refine .array ?_
      intro item member
      obtain ⟨value, among, rfl⟩ := List.mem_map.mp member
      exact ih value among
  | @object fields each ih =>
      rw [toJson, toMembers_eq_map]
      refine .object ?_
      intro entry member
      obtain ⟨field, among, rfl⟩ := List.mem_map.mp member
      exact ih field among

/-- A value without floating point comes back from JSON. -/
theorem ofJson_toJson (isOrdered : value.IsOrdered) (isWhole : value.IsWhole) :
    ofJson value.toJson = value := by
  induction isOrdered with
  | null => rfl
  | bool b => rfl
  | int n => exact ofInt_toInt n
  | number x => cases isWhole
  | string s => rfl
  | @array items each ih =>
      cases isWhole with
      | array whole =>
          have same : items.map (ofJson ∘ toJson) = items.map id :=
            List.map_congr_left fun item member => ih item member (whole item member)
          rw [toJson, toItems_eq_map, ofJson, ofItems_eq_map, List.map_map, same, List.map_id]
  | @object fields ordered each ih =>
      cases isWhole with
      | object whole =>
          have same : fields.map ((fun entry => (entry.1, ofJson entry.2)) ∘ Prod.map id toJson)
              = fields.map id :=
            List.map_congr_left fun field member =>
              Prod.ext rfl (ih field member (whole field member))
          rw [toJson, toMembers_eq_map, ofJson, ofMembers_eq_map, List.map_map, same, List.map_id,
            Fields.ofList_of_isOrdered ordered]

end Workflow.Value
