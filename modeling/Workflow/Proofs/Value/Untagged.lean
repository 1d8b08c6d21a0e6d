import Workflow.Proofs.Fields
import Workflow.Value

/-!
# Two ways from a text to a value

A value is read either kind by kind, from the members of an object as they come, or by way of JSON,
whose objects have each name once. The two readers of texts go along together, the kinds do not
overlap, and of a repeated name the last content stays on both ways. So the ways agree on every
text.

## Main definitions

* `Json.mergedAll` — every object with each name once.
* `Json.Reader.value_eq` — the two readers take the same part of a text.
* `Value.untagged?_eq` — the kind that is tried first is the right one.
* `Value.parse_eq` — both ways lead to the same value.
-/

namespace Workflow

namespace Json

/-! ## Members with each name once -/

section
variable {members : Fields Json} {n name : String} {content : Json}

theorem get?_put : Fields.get? (put members n content) name
    = if name = n then some content else Fields.get? members name := by
  induction members with
  | nil => simp [put]
  | cons member rest ih =>
      obtain ⟨m, c⟩ := member
      by_cases same : m = n
      · by_cases here : name = n <;> simp [put, same, here]
      · by_cases here : name = m
        · simp [put, here, same]
        · simp [put, here, same, ih]

theorem nodup_put (distinct : members.names.Nodup) (n : String) (content : Json) :
    (Fields.names (put members n content)).Nodup := by
  induction members with
  | nil => simp [put, Fields.names]
  | cons member rest ih =>
      obtain ⟨m, c⟩ := member
      obtain ⟨absent, tail⟩ := List.nodup_cons.mp distinct
      by_cases same : m = n
      · simp only [put, if_pos same]
        exact List.nodup_cons.mpr ⟨same ▸ absent, tail⟩
      · simp only [put, if_neg same]
        refine List.nodup_cons.mpr ⟨?_, ih tail⟩
        rw [← Fields.names, ← Fields.get?_eq_none_iff, get?_put, if_neg same]
        exact Fields.get?_eq_none_iff.mpr absent

theorem merged_append (members : Fields Json) (n : String) (content : Json) :
    merged (members ++ [(n, content)]) = put (merged members) n content := by
  simp [merged]

theorem nodup_merged (members : Fields Json) : (Fields.names (merged members)).Nodup := by
  induction members using List.reverseRecOn with
  | nil => simp [merged, Fields.names]
  | append_singleton members member ih => exact merged_append members _ _ ▸ nodup_put ih _ _

end

mutual

/-- The same value, every object with each name once. -/
def mergedAll : Json → Json
  | .array items => .array (mergedItems items)
  | .object members => ofMembers (mergedMembers members)
  | json => json

def mergedItems : List Json → List Json
  | [] => []
  | item :: rest => mergedAll item :: mergedItems rest

def mergedMembers : List (String × Json) → List (String × Json)
  | [] => []
  | (name, content) :: rest => (name, mergedAll content) :: mergedMembers rest

end

theorem mergedItems_eq_map (items : List Json) : mergedItems items = items.map mergedAll := by
  induction items with
  | nil => rfl
  | cons item rest ih => rw [mergedItems, ih, List.map_cons]

theorem mergedMembers_eq_map (members : List (String × Json)) :
    mergedMembers members = members.map (Prod.map id mergedAll) := by
  induction members with
  | nil => rfl
  | cons member rest ih =>
      rw [mergedMembers, ih, List.map_cons]
      rfl

namespace Reader

/-! ## The two readers -/

section
variable {α β ν : Type} (f : α → β)

theorem listed_map (close : Char) (item : List Char → Option (α × List Char)) (fuel : Nat)
    (cs : List Char) :
    listed close (fun cs => (item cs).map (Prod.map f id)) fuel cs
      = (listed close item fuel cs).map (Prod.map (List.map f) id) := by
  induction fuel generalizing cs with
  | zero => rfl
  | succ fuel ih =>
      simp only [listed]
      cases item (skipSpace cs) with
      | none => rfl
      | some read =>
          simp only [Option.map_some, Option.bind_eq_bind, Option.bind_some, Prod.map_snd, id_eq,
            ih]
          split
          · rfl
          · split
            · simp [Function.comp_def]
            · split <;> rfl

theorem listRest_map (close : Char) (item : List Char → Option (α × List Char)) (cs : List Char) :
    listRest close (fun cs => (item cs).map (Prod.map f id)) cs
      = (listRest close item cs).map (Prod.map (List.map f) id) := by
  simp only [listRest, listed_map]
  split
  · rfl
  · split <;> rfl

theorem member_map (name : List Char → Option (ν × List Char))
    (content : ν → List Char → Option (α × List Char)) (cs : List Char) :
    member name (fun n cs => (content n cs).map (Prod.map f id)) cs
      = (member name content cs).map (Prod.map (Prod.map id f) id) := by
  simp only [member]
  cases name cs with
  | none => rfl
  | some read =>
      simp only [Option.bind_eq_bind, Option.bind_some]
      split
      · simp [Function.comp_def]
      · rfl

theorem arrayRest_map (item : List Char → Option (α × List Char)) (cs : List Char) :
    arrayRest (fun cs => (item cs).map (Prod.map f id)) cs
      = (arrayRest item cs).map (Prod.map (List.map f) id) :=
  listRest_map f ']' item cs

theorem objectRest_map (name : List Char → Option (ν × List Char))
    (content : ν → List Char → Option (α × List Char)) (cs : List Char) :
    objectRest name (fun n cs => (content n cs).map (Prod.map f id)) cs
      = (objectRest name content cs).map (Prod.map (List.map (Prod.map id f)) id) := by
  rw [objectRest, funext (member_map f name content), listRest_map, objectRest]

end

theorem mergedAll_of_value? {literal : NumberLiteral} {json : Json}
    (read : literal.value? = some json) : json.mergedAll = json := by
  simp only [NumberLiteral.value?] at read
  split at read
  · cases read
    rfl
  · obtain ⟨x, -, rfl⟩ := Option.map_eq_some_iff.mp read
    rfl

theorem plain_map_mergedAll (cs : List Char) :
    (plain cs).map (Prod.map mergedAll id) = plain cs := by
  simp only [plain]
  split
  -- a number is looked at more closely, for its literal may have no value
  case h_5 =>
    cases NumberLiteral.read cs with
    | none => rfl
    | some read =>
        cases known : read.1.value? with
        | none => simp [known]
        | some json => simp [known, mergedAll_of_value? known]
  all_goals simp [Function.comp_def, mergedAll]

/-- The readers take the same part of a text, and one merges what the other leaves. -/
theorem value_eq (depth : Nat) :
    value depth = fun cs => (verbatim depth cs).map (Prod.map mergedAll id) := by
  induction depth with
  | zero =>
      funext cs
      simp only [value, verbatim, valueWith]
      split
      · rfl
      · rfl
      · exact (plain_map_mergedAll _).symm
  | succ depth ih =>
      funext cs
      simp only [value, verbatim] at ih
      simp only [value, verbatim, valueWith, ih]
      split
      · simp [arrayRest_map, Function.comp_def, mergedAll, mergedItems_eq_map]
      · simp [objectRest_map, Function.comp_def, mergedAll, mergedMembers_eq_map]
      · exact (plain_map_mergedAll _).symm

theorem whole_map {α β : Type} (f : α → β) (read : List Char → Option (α × List Char))
    (cs : List Char) :
    whole (fun cs => (read cs).map (Prod.map f id)) cs = (whole read cs).map f := by
  simp only [whole]
  cases read (skipSpace cs) with
  | none => rfl
  | some read => simp

end Reader

theorem parse_eq_map (text : String) : parse text = (parseVerbatim text).map mergedAll := by
  rw [parse, Reader.value_eq, Reader.whole_map, parseVerbatim]

end Json

namespace Value

/-! ## The two ways -/

theorem ofItems_eq_map (items : List Json) : ofItems items = items.map ofJson := by
  induction items with
  | nil => rfl
  | cons item rest ih => rw [ofItems, ih, List.map_cons]

theorem ofMembers_eq_map (members : List (String × Json)) :
    ofMembers members = members.map fun member => (member.1, ofJson member.2) := by
  induction members with
  | nil => rfl
  | cons member rest ih => rw [ofMembers, ih, List.map_cons]

mutual

/-- The kinds do not overlap: the first that takes a value is the one it is made of. -/
theorem untagged?_eq : ∀ json, untagged? json = some (ofJson json)
  | .null => by simp [untagged?, ofJson]
  | .bool b => by simp [untagged?, ofJson, Json.bool?]
  | .int n => by
      cases fits : int64OfInt? n <;>
        simp [untagged?, ofJson, ofInt, whole?, float?, Json.bool?, fits]
  | .float x => by simp [untagged?, ofJson, whole?, float?, Json.bool?]
  | .string s => by simp [untagged?, ofJson, whole?, float?, Json.bool?, Json.string?]
  | .array items => by
      simp [untagged?, ofJson, whole?, float?, Json.bool?, Json.string?, untaggedItems_eq items]
  | .object members => by
      simp [untagged?, ofJson, whole?, float?, Json.bool?, Json.string?, untaggedMembers_eq members]

theorem untaggedItems_eq : ∀ items, untaggedItems items = some (ofItems items)
  | [] => rfl
  | item :: rest => by simp [untaggedItems, ofItems, untagged?_eq item, untaggedItems_eq rest]

theorem untaggedMembers_eq : ∀ members, untaggedMembers members = some (ofMembers members)
  | [] => rfl
  | (name, content) :: rest => by
      simp [untaggedMembers, ofMembers, untagged?_eq content, untaggedMembers_eq rest]

end

/-- Of a repeated name the last content stays, whether the members are merged first or not. -/
theorem ofList_ofMembers_merged (members : List (String × Json)) :
    Fields.ofList (ofMembers (Json.merged members)) = Fields.ofList (ofMembers members) := by
  apply Fields.ext_of_get? (Fields.isOrdered_ofList _) (Fields.isOrdered_ofList _)
  intro name
  have distinct : (Fields.names (ofMembers (Json.merged members))).Nodup := by
    simpa [ofMembers_eq_map, Fields.names, Function.comp_def] using Json.nodup_merged members
  rw [Fields.get?_ofList distinct, ofMembers_eq_map, Fields.get?_map fun _ => ofJson,
    ofMembers_eq_map]
  clear distinct
  induction members using List.reverseRecOn with
  | nil => rfl
  | append_singleton members member ih =>
      rw [Json.merged_append, Json.get?_put, List.map_append, List.map_singleton,
        Fields.ofList_append, Fields.get?_insert, ← ih]
      by_cases here : name = member.1 <;> simp [here]

mutual

theorem ofJson_mergedAll : ∀ json : Json, ofJson json.mergedAll = ofJson json
  | .null => rfl
  | .bool _ => rfl
  | .int _ => rfl
  | .float _ => rfl
  | .string _ => rfl
  | .array items => by rw [Json.mergedAll, ofJson, ofJson, ofItems_mergedItems items]
  | .object members => by
      rw [Json.mergedAll, Json.ofMembers, ofJson, ofJson, ofList_ofMembers_merged,
        ofMembers_mergedMembers members]

theorem ofItems_mergedItems : ∀ items, ofItems (Json.mergedItems items) = ofItems items
  | [] => rfl
  | item :: rest => by
      rw [Json.mergedItems, ofItems, ofItems, ofJson_mergedAll item, ofItems_mergedItems rest]

theorem ofMembers_mergedMembers :
    ∀ members, ofMembers (Json.mergedMembers members) = ofMembers members
  | [] => rfl
  | (name, content) :: rest => by
      rw [Json.mergedMembers, ofMembers, ofMembers, ofJson_mergedAll content,
        ofMembers_mergedMembers rest]

end

/-- A text stands for the same value read kind by kind and by way of JSON. -/
theorem parse_eq (text : String) : parse text = (Json.parse text).map ofJson := by
  rw [Json.parse_eq_map, parse]
  cases Json.parseVerbatim text with
  | none => rfl
  | some json => simp [untagged?_eq, ofJson_mergedAll]

end Value

end Workflow
