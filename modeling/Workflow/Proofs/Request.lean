import Workflow.Proofs.Except
import Workflow.Proofs.Value.Exact
import Workflow.Request

/-!
# Requests read back

A request is written as an object with one member for each field, and a reader that knows the fields
finds each of them once. Inside the fields values are read kind by kind; on every text that gives
the value that JSON stands for. So a request comes back from either layout, unless it holds a number
in floating point or nests too deep.

## Main definitions

* `Json.Record.parse_members` — the contents of the fields are found under their names.
* `Request.IsOrdered`, `Request.IsWhole` — what is asked of every value in a request.
* `Request.parse_written` — a request is read back from both layouts.
-/

namespace Workflow

namespace Json.Record
open Reader
open Text (joinWith)
variable {names : List String} {members : List (String × Json)}

/-- With each name once every field has its content. -/
theorem arrange_eq (distinct : (Fields.names members).Nodup) :
    arrange (Fields.names members) (members.map (Prod.map id some))
      = some (members.map (some ·.2)) := by
  rw [arrange, Fields.names, List.mapM_map]
  refine mapM_eq_some ?_
  intro entry member
  have found := Fields.filter_eq_singleton distinct member
  simp [List.filter_map, Function.comp_def, found]

/-- A known field is read, not skipped. -/
theorem content_of_mem {name : String} (known : name ∈ names) (d : Nat) {json : Json}
    {text : List Char} (reads : Reads (verbatim d) json text) :
    Reads (content names d name) (some json) text := by
  intro rest ends
  simp [content, known, reads rest ends]

/-- An object with one member for each field is read, in either layout. -/
theorem parse_members {text : String × Json → List Char} {space : List Char}
    (distinct : (Fields.names members).Nodup)
    (each : ∀ entry ∈ members,
      Reads (member Reader.string (content (Fields.names members) (maxDepth - 1)))
        (entry.1, some entry.2) (text entry))
    (isBlank : IsBlank space) :
    parse (Fields.names members)
        (String.ofList ('\x7b' :: (joinWith [','] (members.map text) ++ (space ++ ['\x7d']))))
      = some (members.map (some ·.2)) := by
  have isClose : IsClose '\x7d' := .inr rfl
  have read := listRest_joinWith (β := String × Json) isClose (member_close _) each isBlank []
  have arranged := arrange_eq distinct
  have opens : isSpace '\x7b' = false := by decide
  simp only [Prod.map_def, id_eq] at arranged
  simp [parse, Record.read, skipSpace_of_visible opens, objectRest, read, arranged]
  rfl

end Json.Record

namespace Request
open Json (IsExact)
open Json.Reader
variable {request : Request} {value : Value}

/-- The dynamic values of a request. -/
def values (request : Request) : List Value :=
  request.credentials.toValue :: (request.nodeParams.map nodeParamsValue).toList

/-! ## Fields -/

theorem mapM_string? (texts : List String) :
    texts.mapM (Json.string? ∘ Json.string) = some texts := by
  induction texts with
  | nil => rfl
  | cons text texts ih => simp [List.mapM_cons, Json.string?, ih]

theorem fields?_toJson {fields : Fields Value} (ordered : (Value.object fields).IsOrdered)
    (whole : (Value.object fields).IsWhole) :
    fields? (Value.object fields).toJson = some fields := by
  simp [fields?, Value.untagged?_eq, Value.ofJson_toJson ordered whole, Value.object?]

/-- What is written for an optional field is read as that. -/
theorem optional_orNull {α : Type} {read : Json → Option α} {write : α → Json} {found : Option α}
    (filled : ∀ a ∈ found, write a ≠ .null) (reads : ∀ a ∈ found, read (write a) = some a) :
    optional read (orNull write found) = some found := by
  cases found with
  | none => rfl
  | some a =>
      have filled : write a ≠ .null := filled a rfl
      have reads : read (write a) = some a := reads a rfl
      simp only [orNull]
      cases written : write a <;> simp_all [optional]

theorem member?_toJson {entry : String × Params} (ordered : entry.2.toValue.IsOrdered)
    (whole : entry.2.toValue.IsWhole) : member? (entry.1, entry.2.toValue.toJson) = some entry := by
  simp [member?, Params.toValue, fields?_toJson ordered whole]

theorem nodeParams?_toJson {params : Fields Params} (ordered : (nodeParamsValue params).IsOrdered)
    (whole : (nodeParamsValue params).IsWhole) :
    nodeParams? (nodeParamsValue params).toJson = some params := by
  rw [nodeParamsValue] at ordered whole ⊢
  rcases ordered with - | - | - | - | - | - | ⟨ordered, eachOrdered⟩
  rcases whole with - | - | - | - | - | ⟨eachWhole⟩
  have names : params.IsOrdered := (Fields.isOrdered_map Params.toValue).mp ordered
  have read : (params.map fun entry => (entry.1, entry.2.toValue.toJson)).mapM member?
      = some params := by
    rw [List.mapM_map, mapM_eq_some (g := id), List.map_id]
    intro entry member
    have among := List.mem_map_of_mem (f := fun entry => (entry.1, entry.2.toValue)) member
    exact member?_toJson (eachOrdered _ among) (eachWhole _ among)
  simp [nodeParams?, Value.toJson, Value.toMembers_eq_map, Json.object?, Function.comp_def, read,
    Fields.ofList_of_isOrdered names]

/-! ## The whole request -/

/-- The fields of a request, in the order in which they are written. -/
def members (request : Request) : List (String × Json) := request.toJson.object?.getD []

theorem toJson_eq (request : Request) : request.toJson = .object request.members := rfl

theorem names_members (request : Request) : Fields.names request.members = fieldNames := rfl

theorem isExact_of_mem (whole : ∀ value ∈ request.values, value.IsWhole) :
    ∀ entry ∈ request.members, IsExact entry.2 := by
  have scalar (s : String) : IsExact (.string s) := .scalar trivial
  have null : IsExact .null := .scalar trivial
  obtain ⟨credentials, params⟩ := List.forall_mem_cons.mp whole
  intro entry member
  simp only [members, toJson, Json.object?, Option.getD_some, List.mem_cons, List.not_mem_nil,
    or_false] at member
  rcases member with rfl | rfl | rfl | rfl | rfl
  · refine .array ?_
    intro item among
    obtain ⟨nodeId, -, rfl⟩ := List.mem_map.mp among
    exact scalar nodeId
  · exact scalar request.userQuery
  · exact credentials.isExact_toJson
  · cases given : request.nodeParams with
    | none => exact null
    | some found => exact (params _ (by simp [given])).isExact_toJson
  · cases request.workflowId with
    | none => exact null
    | some workflowId => exact scalar workflowId

theorem ofContents?_members (ordered : ∀ value ∈ request.values, value.IsOrdered)
    (whole : ∀ value ∈ request.values, value.IsWhole) :
    ofContents? (request.members.map (some ·.2)) = some request := by
  have credentials : fields? request.credentials.toValue.toJson = some request.credentials.fields :=
    fields?_toJson (ordered _ List.mem_cons_self) (whole _ List.mem_cons_self)
  have params : optional nodeParams?
      (orNull (fun params => (nodeParamsValue params).toJson) request.nodeParams)
        = some request.nodeParams := by
    refine optional_orNull (fun params _ => by simp [nodeParamsValue, Value.toJson]) ?_
    intro params given
    have among : nodeParamsValue params ∈ request.values := by
      simp [values, Option.mem_def.mp given]
    exact nodeParams?_toJson (ordered _ among) (whole _ among)
  have workflowId : optional Json.string? (orNull .string request.workflowId)
      = some request.workflowId :=
    optional_orNull (fun _ _ => by simp) fun _ _ => rfl
  simp [members, toJson, Json.object?, ofContents?, Json.array?, Json.string?, mapM_string?,
    credentials, params, workflowId]

open Json.Record in
/-- A request is read back from the members of a text, whatever stands between them. -/
theorem parse_members {text : String × Json → List Char} {space : List Char}
    (ordered : ∀ value ∈ request.values, value.IsOrdered)
    (whole : ∀ value ∈ request.values, value.IsWhole)
    (each : ∀ entry ∈ request.members,
      Reads (member Json.Reader.string (content fieldNames (maxDepth - 1))) (entry.1, some entry.2)
        (text entry))
    (isBlank : IsBlank space) :
    parse (String.ofList ('\x7b' :: (Text.joinWith [','] (request.members.map text)
      ++ (space ++ ['\x7d'])))) = some request := by
  have distinct : (Fields.names request.members).Nodup := by
    rw [names_members]
    decide
  have read := Json.Record.parse_members distinct each isBlank
  rw [names_members] at read
  simp only [parse, read, Option.bind_eq_bind, Option.bind_some]
  exact ofContents?_members ordered whole

/-- A request without numbers in floating point that does not nest too deep is read back from
either layout, and its text stands for the same value read kind by kind and by way of JSON. -/
theorem parse_written (request : Request) (ordered : ∀ value ∈ request.values, value.IsOrdered)
    (whole : ∀ value ∈ request.values, value.IsWhole) (nested : request.toJson.depth ≤ maxDepth)
    (text : String) (written : text = request.toJson.compact ∨ text = request.toJson.pretty) :
    parse text = some request ∧
      Value.parse text = some (.ofJson request.toJson) ∧
      (Json.parse text).map .ofJson = some (Value.ofJson request.toJson) := by
  have exact := isExact_of_mem whole
  have inside : ∀ entry ∈ request.members, entry.2.depth ≤ maxDepth - 1 := by
    intro entry member
    have bound := Json.depth_le_of_mem_members member
    rw [toJson_eq, Json.depth] at nested
    omega
  have known : ∀ entry ∈ request.members, entry.1 ∈ fieldNames := fun entry member =>
    names_members request ▸ List.mem_map_of_mem member
  have value : Value.parse text = some (.ofJson request.toJson) := by
    have read := Json.parseVerbatim_written (.object exact) nested written
    simp [Value.parse, toJson_eq, read, Value.untagged?_eq]
  refine ⟨?_, value, Value.parse_eq text ▸ value⟩
  rcases written with rfl | rfl
  · rw [Json.compact, toJson_eq, write_object]
    refine parse_members ordered whole ?_ isBlank_nil
    intro entry member
    have reads := reads_write (exact entry member) (inside entry member)
    exact reads_member (Json.Record.content_of_mem (known entry member) _ reads)
  · rw [Json.pretty, toJson_eq, writeIndented_object]
    refine parse_members ordered whole ?_ (isBlank_closing 0 request.members)
    intro entry member
    have reads := reads_writeIndented (exact entry member) (inside entry member) 1
    exact reads_indentedMember (Json.Record.content_of_mem (known entry member) _ reads)

/-- The least whole number, an empty set of parameters, escapes in names and texts. -/
def edgeCases : Request where
  nodeIds := ["webhook", "no such \"node\""]
  userQuery := "first\nsecond \\ \x01\x7f"
  credentials := ⟨[("email_config", .object [("password", .null), ("port", .int 587)])]⟩
  nodeParams := some [("", ⟨[]⟩), ("webhook", ⟨[("limit\t", .int (-9223372036854775808)),
    ("tags", .array [.string "ä€", .bool true])]⟩)]

theorem parse_written_edgeCases :
    (∀ value ∈ edgeCases.values, value.IsOrdered) ∧ (∀ value ∈ edgeCases.values, value.IsWhole) ∧
      edgeCases.toJson.depth ≤ maxDepth ∧ parse edgeCases.toJson.pretty = some edgeCases ∧
      (Json.parse edgeCases.toJson.pretty).map .ofJson
        = Value.parse edgeCases.toJson.pretty := by
  have ordered : ∀ value ∈ edgeCases.values, value.IsOrdered := by
    simp +decide [values, edgeCases, Credentials.toValue, nodeParamsValue, Params.toValue]
  have whole : ∀ value ∈ edgeCases.values, value.IsWhole := by
    simp [values, edgeCases, Credentials.toValue, nodeParamsValue, Params.toValue]
  have nested : edgeCases.toJson.depth ≤ maxDepth := by decide
  obtain ⟨same, value, viaJson⟩ := parse_written edgeCases ordered whole nested _ (.inr rfl)
  exact ⟨ordered, whole, nested, same, viaJson.trans value.symm⟩

end Request

end Workflow
