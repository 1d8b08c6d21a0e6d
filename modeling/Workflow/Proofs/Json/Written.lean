import Workflow.Proofs.Json.Tokens
import Workflow.Proofs.Text.Pieces

/-!
# JSON read back

Both layouts put the items of an array, and the members of an object, between commas, with space
around them or not. So one lemma on lists between commas serves both: level by level, what is
written is spelled as the grammar has it, and is read back.

## Main definitions

* `Json.depth` — how deep arrays and objects nest.
* `Json.IsExact` — no number in floating point, and whole numbers of at most 64 bits.
* `Json.Reader.spells_write`, `Json.Reader.spells_writeIndented` — each layout spells its value.
* `Json.parseVerbatim_written` — a text in either layout is read back.
-/

namespace Workflow.Json
open Text (joinWith joinWith_cons)

/-! ## Depth -/

mutual

/-- How deep arrays and objects nest. -/
def depth : Json → Nat
  | .array items => depthOfItems items + 1
  | .object members => depthOfMembers members + 1
  | _ => 0

def depthOfItems : List Json → Nat
  | [] => 0
  | item :: rest => max (depth item) (depthOfItems rest)

def depthOfMembers : List (String × Json) → Nat
  | [] => 0
  | (_, content) :: rest => max (depth content) (depthOfMembers rest)

end

theorem depth_le_of_mem_items {items : List Json} {item : Json} (member : item ∈ items) :
    depth item ≤ depthOfItems items := by
  induction items with
  | nil => simp at member
  | cons first rest ih =>
      rw [depthOfItems]
      rcases List.mem_cons.mp member with rfl | member
      · omega
      · have := ih member
        omega

theorem depth_le_of_mem_members {members : List (String × Json)} {entry : String × Json}
    (member : entry ∈ members) : depth entry.2 ≤ depthOfMembers members := by
  induction members with
  | nil => simp at member
  | cons first rest ih =>
      rw [depthOfMembers]
      rcases List.mem_cons.mp member with rfl | member
      · omega
      · have := ih member
        omega

/-- A bound for the depth of an array is above one for its items. -/
theorem exists_bound_of_array {items : List Json} {d : Nat} (nested : (array items).depth ≤ d) :
    ∃ below, d = below + 1 ∧ ∀ item ∈ items, item.depth ≤ below := by
  rw [depth] at nested
  refine ⟨d - 1, by omega, fun item member => ?_⟩
  have := depth_le_of_mem_items member
  omega

/-- A bound for the depth of an object is above one for its members. -/
theorem exists_bound_of_object {members : List (String × Json)} {d : Nat}
    (nested : (object members).depth ≤ d) :
    ∃ below, d = below + 1 ∧ ∀ entry ∈ members, entry.2.depth ≤ below := by
  rw [depth] at nested
  refine ⟨d - 1, by omega, fun entry member => ?_⟩
  have := depth_le_of_mem_members member
  omega

/-- No number in floating point, and whole numbers of at most 64 bits. -/
inductive IsExact : Json → Prop
  | scalar {json : Json} (isScalar : json.IsScalar) : IsExact json
  | array {items : List Json} (each : ∀ item ∈ items, IsExact item) : IsExact (.array items)
  | object {members : List (String × Json)} (each : ∀ member ∈ members, IsExact member.2) :
      IsExact (.object members)

namespace Reader
variable {α β : Type} {item : List Char → Option (α × List Char)} {a : α}
  {space rest : List Char}

/-! ## Lists between commas -/

section
variable {close : Char} {content : β → α} {text : β → List Char} {entries : List β}
  {spells : α → List Char → Prop}

theorem separated_joinWith (before : List Char) (filled : entries ≠ [])
    (each : ∀ entry ∈ entries, spells (content entry) (text entry)) (isBlank : IsBlank before)
    (isBlank' : IsBlank space) : Separated spells (entries.map content)
      (joinWith [','] (entries.map fun entry => before ++ text entry) ++ space) := by
  induction entries with
  | nil => exact absurd rfl filled
  | cons entry entries ih =>
      obtain ⟨first, later⟩ := List.forall_mem_cons.mp each
      by_cases last : entries = []
      · subst last
        simpa [joinWith] using Separated.last isBlank first isBlank'
      · have more : entries.map (fun entry => before ++ text entry) ≠ [] := by simp [last]
        have separated := Separated.more isBlank first isBlank_nil (ih last later)
        simpa [joinWith_cons more] using separated

/-- A list between brackets, empty or not, with the same space in front of all its items. -/
theorem enclosed_joinWith (close : Char) (before : List Char)
    (each : ∀ entry ∈ entries, spells (content entry) (text entry)) (isBlank : IsBlank before)
    (isBlank' : IsBlank space) : Enclosed spells close (entries.map content)
      (joinWith [','] (entries.map fun entry => before ++ text entry) ++ (space ++ [close])) := by
  rw [← List.append_assoc]
  by_cases filled : entries = []
  · subst filled
    exact .none isBlank'
  · exact .some (separated_joinWith before filled each isBlank isBlank')

theorem listRest_joinWith (isClose : IsClose close) (closed : ∀ cs, item (close :: cs) = none)
    (each : ∀ entry ∈ entries, Reads item (content entry) (text entry)) (isBlank : IsBlank space)
    (rest : List Char) :
    listRest close item (joinWith [','] (entries.map text) ++ (space ++ close :: rest))
      = some (entries.map content, rest) := by
  have enclosed := enclosed_joinWith close [] each isBlank_nil isBlank
  simpa using listRest_of_enclosed isClose closed (fun _ _ reads => reads) enclosed rest

end

/-! ## Members -/

theorem reads_member {n : String} {content : String → List Char → Option (α × List Char)}
    {text : List Char} (reads : Reads (content n) a text) :
    Reads (member string content) (n, a) (quoted n ++ ':' :: text) := by
  simpa using reads_member_of_spells (spellsString_quoted n) isBlank_nil isBlank_nil reads

theorem spellsMember_quoted {spells : Json → List Char → Prop} {entry : String × Json}
    {behind text : List Char} (isBlank : IsBlank behind) (spelled : spells entry.2 text) :
    SpellsMember spells entry (quoted entry.1 ++ ':' :: (behind ++ text)) :=
  .intro (spellsString_quoted entry.1) isBlank_nil isBlank spelled

/-! ## Values -/

section
variable {d : Nat}

theorem spells_array {items : List Json} {text : Json → List Char} (before : List Char)
    (each : ∀ item ∈ items, SpellsWith .object d item (text item)) (isBlank : IsBlank before)
    (isBlank' : IsBlank space) : SpellsWith .object (d + 1) (.array items) ('[' :: (joinWith [',']
      (items.map fun item => before ++ text item) ++ (space ++ [']']))) := by
  have enclosed := enclosed_joinWith ']' before each isBlank isBlank'
  rw [List.map_id'] at enclosed
  exact .array enclosed

theorem spells_object {members : List (String × Json)} {text : String × Json → List Char}
    (before : List Char)
    (each : ∀ entry ∈ members, SpellsMember (SpellsWith .object d) entry (text entry))
    (isBlank : IsBlank before) (isBlank' : IsBlank space) :
    SpellsWith .object (d + 1) (.object members) ('\x7b' :: (joinWith [',']
      (members.map fun entry => before ++ text entry) ++ (space ++ ['\x7d']))) := by
  have enclosed := enclosed_joinWith '\x7d' before each isBlank isBlank'
  rw [List.map_id'] at enclosed
  exact .object enclosed

end

/-! ## The compact layout -/

theorem writeItems_eq (items : List Json) :
    writeItems items = joinWith [','] (items.map write) := by
  induction items with
  | nil => rfl
  | cons item rest ih => cases rest <;> simp_all [writeItems, joinWith]

/-- A member in the compact layout. -/
def memberText (entry : String × Json) : List Char := quoted entry.1 ++ ':' :: write entry.2

theorem writeMembers_eq (members : List (String × Json)) :
    writeMembers members = joinWith [','] (members.map memberText) := by
  induction members with
  | nil => rfl
  | cons entry rest ih => cases rest <;> simp_all [writeMembers, joinWith, memberText]

theorem write_scalar {json : Json} (isScalar : json.IsScalar) : write json = scalar json := by
  cases json with
  | array items => exact isScalar.elim
  | object members => exact isScalar.elim
  | _ => rfl

theorem write_array (items : List Json) :
    write (.array items) = '[' :: (joinWith [','] (items.map write) ++ ([] ++ [']'])) := by
  simp [write, writeItems_eq]

theorem write_object (members : List (String × Json)) : write (.object members)
    = '\x7b' :: (joinWith [','] (members.map memberText) ++ ([] ++ ['\x7d'])) := by
  simp [write, writeMembers_eq]

/-- What is written in the compact layout is spelled. -/
theorem spells_write {json : Json} (isExact : json.IsExact) {d : Nat} (nested : json.depth ≤ d) :
    SpellsWith .object d json (write json) := by
  induction isExact generalizing d with
  | scalar isScalar =>
      rw [write_scalar isScalar]
      exact (spellsPlain_scalar isScalar).spellsWith .object d
  | @array items each ih =>
      obtain ⟨below, rfl, bounded⟩ := exists_bound_of_array nested
      rw [write_array]
      refine spells_array [] ?_ isBlank_nil isBlank_nil
      exact fun item member => ih item member (bounded item member)
  | @object members each ih =>
      obtain ⟨below, rfl, bounded⟩ := exists_bound_of_object nested
      rw [write_object]
      refine spells_object [] ?_ isBlank_nil isBlank_nil
      exact fun entry member =>
        spellsMember_quoted isBlank_nil (ih entry member (bounded entry member))

theorem reads_write {json : Json} (isExact : json.IsExact) {d : Nat} (nested : json.depth ≤ d) :
    Reads (verbatim d) json (write json) :=
  complete_valueWith .object d _ _ (spells_write isExact nested)

/-! ## The indented layout -/

theorem isBlank_newLine (level : Nat) : IsBlank (newLine level) := by
  intro c member
  rcases List.mem_cons.mp member with rfl | member
  · decide
  · rw [List.eq_of_mem_replicate member]
    decide

theorem indentedItems_eq (level : Nat) (items : List Json) : indentedItems level items
    = joinWith [','] (items.map fun item => newLine level ++ writeIndented level item) := by
  induction items with
  | nil => rfl
  | cons item rest ih => cases rest <;> simp_all [indentedItems, joinWith]

/-- A member in the indented layout. -/
def indentedMember (level : Nat) (entry : String × Json) : List Char :=
  newLine level ++ (quoted entry.1 ++ ':' :: ([' '] ++ writeIndented level entry.2))

theorem indentedMembers_eq (level : Nat) (members : List (String × Json)) :
    indentedMembers level members = joinWith [','] (members.map (indentedMember level)) := by
  induction members with
  | nil => rfl
  | cons entry rest ih => cases rest <;> simp_all [indentedMembers, joinWith, indentedMember]

/-- The space in front of a closing bracket: none if nothing stands between the brackets. -/
def closing {α : Type} (level : Nat) (entries : List α) : List Char :=
  if entries.isEmpty then [] else newLine level

theorem isBlank_closing {α : Type} (level : Nat) (entries : List α) :
    IsBlank (closing level entries) := by
  cases entries with
  | nil => exact isBlank_nil
  | cons _ _ => exact isBlank_newLine level

theorem writeIndented_array (level : Nat) (items : List Json) : writeIndented level (.array items)
    = '[' :: (joinWith [','] (items.map fun item =>
        newLine (level + 1) ++ writeIndented (level + 1) item)
          ++ (closing level items ++ [']'])) := by
  cases items <;> simp [writeIndented, indentedItems_eq, closing, joinWith]

theorem writeIndented_object (level : Nat) (members : List (String × Json)) :
    writeIndented level (.object members)
      = '\x7b' :: (joinWith [','] (members.map (indentedMember (level + 1)))
          ++ (closing level members ++ ['\x7d'])) := by
  cases members <;> simp [writeIndented, indentedMembers_eq, closing, joinWith]

theorem writeIndented_scalar {json : Json} (isScalar : json.IsScalar) (level : Nat) :
    writeIndented level json = scalar json := by
  cases json with
  | array items => exact isScalar.elim
  | object members => exact isScalar.elim
  | _ => rfl

theorem isBlank_space : IsBlank [' '] := by simp [IsBlank, isSpace]

theorem reads_indentedMember {entry : String × Json} {level : Nat}
    {content : String → List Char → Option (α × List Char)}
    (reads : Reads (content entry.1) a (writeIndented level entry.2)) :
    Reads (member string content) (entry.1, a) (indentedMember level entry) :=
  (reads_member (reads.behind isBlank_space)).behind (isBlank_newLine level)

/-- What is written in the indented layout is spelled. -/
theorem spells_writeIndented {json : Json} (isExact : json.IsExact) {d : Nat}
    (nested : json.depth ≤ d) (level : Nat) :
    SpellsWith .object d json (writeIndented level json) := by
  induction isExact generalizing d level with
  | scalar isScalar =>
      rw [writeIndented_scalar isScalar]
      exact (spellsPlain_scalar isScalar).spellsWith .object d
  | @array items each ih =>
      obtain ⟨below, rfl, bounded⟩ := exists_bound_of_array nested
      rw [writeIndented_array]
      refine spells_array _ ?_ (isBlank_newLine _) (isBlank_closing level items)
      exact fun item member => ih item member (bounded item member) (level + 1)
  | @object members each ih =>
      obtain ⟨below, rfl, bounded⟩ := exists_bound_of_object nested
      rw [writeIndented_object]
      refine spells_object _ ?_ (isBlank_newLine _) (isBlank_closing level members)
      exact fun entry member =>
        spellsMember_quoted isBlank_space (ih entry member (bounded entry member) (level + 1))

theorem reads_writeIndented {json : Json} (isExact : json.IsExact) {d : Nat}
    (nested : json.depth ≤ d) (level : Nat) : Reads (verbatim d) json (writeIndented level json) :=
  complete_valueWith .object d _ _ (spells_writeIndented isExact nested level)

/-! ## Whole texts -/

theorem Reads.whole {text : List Char} (reads : Reads item a text) :
    whole item text = some a := by
  have read := reads [] endsToken_nil
  rw [List.append_nil] at read
  simp only [Reader.whole, read]
  rfl

end Reader

/-- Both layouts of a value without floating point are read back. -/
theorem parseVerbatim_written {json : Json} (isExact : json.IsExact)
    (nested : json.depth ≤ Reader.maxDepth) {text : String}
    (written : text = json.compact ∨ text = json.pretty) : parseVerbatim text = some json := by
  rcases written with rfl | rfl
  · rw [parseVerbatim, compact, String.toList_ofList]
    exact (Reader.reads_write isExact nested).whole
  · rw [parseVerbatim, pretty, String.toList_ofList]
    exact (Reader.reads_writeIndented isExact nested 0).whole

end Workflow.Json
