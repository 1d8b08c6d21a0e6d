import Workflow.Proofs.Database.Running
import Workflow.Proofs.Fields

/-!
# Rows as records

A select puts out the names of the columns in order, and every row as a record by those names. Of
columns with one name a record keeps the last; so every cell can be looked up exactly if, in each
row, cells under one name hold the same.

## Main definitions

* `DatabaseResult.Agrees names row` — cells of a row under one name hold the same.
* `DatabaseResult.forall_get?_record_iff` — when all cells of a row can be looked up.
* `Database.Selects` — a run is answered with the rows of a select.
* `Database.cells_of_select` — what a select puts out, and when every cell can be looked up in it.
-/

namespace Workflow

open Workflow.Action

/-! ## Records -/

namespace DatabaseResult

variable {names : List String} {row : List SqlCell}

/-- A cell of a row holds a value, and its column has a name. -/
def Holds (names : List String) (row : List SqlCell) (name : String) (value : Value) : Prop :=
  ∃ (i : ℕ) (cell : SqlCell), names[i]? = some name ∧ row[i]? = some cell ∧ cell.toValue = value

/-- Cells of a row under one name hold the same. -/
def Agrees (names : List String) (row : List SqlCell) : Prop :=
  ∀ name value other, Holds names row name value → Holds names row name other → value = other

theorem holds_iff_mem {name : String} {value : Value} :
    Holds names row name value ↔ (name, value) ∈ names.zip (row.map SqlCell.toValue) := by
  simp only [Holds, List.mem_iff_getElem?, List.getElem?_zip_eq_some, List.getElem?_map,
    Option.map_eq_some_iff]
  constructor
  · rintro ⟨i, cell, named, there, holds⟩
    exact ⟨i, named, cell, there, holds⟩
  · rintro ⟨i, named, cell, there, holds⟩
    exact ⟨i, cell, named, there, holds⟩

/-- A record keeps the last of the columns with one name. -/
theorem get?_record (names : List String) (row : List SqlCell) (name : String) :
    (record names row).get? name =
      Fields.get? (names.zip (row.map SqlCell.toValue)).reverse name :=
  Fields.get?_ofList_eq_reverse _ name

/-- What a record has under a name, a cell holds. -/
theorem holds_of_get?_record {name : String} {value : Value}
    (found : (record names row).get? name = some value) : Holds names row name value := by
  rw [get?_record] at found
  exact holds_iff_mem.mpr (List.mem_reverse.mp (Fields.mem_of_get? found))

/-- What stands in a column is looked up under its name, or something else is. -/
theorem exists_get?_record {name : String} {value : Value} (holds : Holds names row name value) :
    ∃ other, (record names row).get? name = some other := by
  rw [get?_record, ← Option.isSome_iff_exists, ← Option.ne_none_iff_isSome]
  intro none
  refine Fields.get?_eq_none_iff.mp none ?_
  rw [Fields.names, List.map_reverse, List.mem_reverse]
  exact List.mem_map_of_mem (holds_iff_mem.mp holds)

/-- All cells can be looked up in the record of their row if and only if cells under one name hold
the same. -/
theorem forall_get?_record_iff :
    (∀ name value, Holds names row name value → (record names row).get? name = some value) ↔
      Agrees names row := by
  constructor
  · intro found name value other holds holds'
    exact Option.some.inj ((found name value holds).symm.trans (found name other holds'))
  · intro agrees name value holds
    obtain ⟨other, found⟩ := exists_get?_record holds
    rw [found, agrees name value other holds (holds_of_get?_record found)]

/-- No two columns with one name, and cells agree. -/
theorem agrees_of_nodup (distinct : names.Nodup) (row : List SqlCell) : Agrees names row := by
  rintro name value other ⟨i, cell, named, there, rfl⟩ ⟨j, cell', named', there', rfl⟩
  obtain ⟨inside, -⟩ := List.getElem?_eq_some_iff.mp named
  obtain rfl := (List.getElem?_inj inside distinct).mp (named.trans named'.symm)
  rw [Option.some.inj (there.symm.trans there')]

end DatabaseResult

/-! ## Selects -/

namespace Database

open DatabaseResult

variable {context : Context} {scene : Scene} {options : DatabaseOptions} {columns : List String}
  {rows : List (List SqlCell)}

/-- A run asks an SQL database for a select, its credential leads to a connection, and there the
statement is answered with rows. -/
structure Selects (context : Context) (scene : Scene) (options : DatabaseOptions)
    (columns : List String) (rows : List (List SqlCell)) : Prop where
  read : DatabaseOptions.ofParams context.params = .ok options
  sql : options.kind ≠ .mongodb
  select : options.operation = .select
  answered : ∃ credential url affected,
    scene.state.credentials.get? options.kind.name = some credential ∧
    Connection.url options.kind credential = .ok url ∧
    (scene.world.sql url ⟨options.query, options.parameters⟩).1 = .completed columns rows affected

/-- Every cell can be looked up in the record of its row, under the name of its column. -/
def CanLookUp (columns : List String) (rows : List (List SqlCell)) (data : List Value) : Prop :=
  ∀ (r i : ℕ) row record name cell, rows[r]? = some row → data[r]? = some record →
    columns[i]? = some name → row[i]? = some cell → record.get? name = some cell.toValue

/-- What the record of a row has under a name, a cell of that row holds. -/
def IsTaken (columns : List String) (rows : List (List SqlCell)) (data : List Value) : Prop :=
  ∀ (r : ℕ) row record name value, rows[r]? = some row → data[r]? = some record →
    record.get? name = some value → Holds columns row name value

/-- The rows of a select, with the names of the columns if there is any row. -/
def selected (columns : List String) (rows : List (List SqlCell)) : DatabaseResult :=
  .rows (if rows.isEmpty then [] else columns) rows

theorem operationOn_of_sql {credential : Value} {url : String} (sql : options.kind ≠ .mongodb)
    (leads : Connection.url options.kind credential = .ok url) (params : Params) :
    operationOn credential params options = .ok (runStatement url options) := by
  unfold operationOn
  split
  · rename_i kind
    exact absurd kind sql
  · rw [leads]
    rfl

/-- A select that is answered leaves its rows and a note of them. -/
theorem run_of_selects (selects : Selects context scene options columns rows) :
    (run context scene).1 = .ok () ∧ (run context scene).2.state =
      (scene.state.withExtra "db_metadata" (metadata options (selected columns rows))).withOutput
        (selected columns rows).toValue := by
  obtain ⟨credential, url, affected, known, leads, replied⟩ := selects.answered
  have result : (runStatement url options (scene.told ("Running " ++ options.operation.name ++
      " on " ++ options.kind.name))).1 = .ok (selected columns rows) := by
    change ofSqlReply options.operation (scene.world.sql url _).1 = _
    rw [replied, ofSqlReply, if_pos selects.select]
    rfl
  rw [run_of_leads selects.read known (operationOn_of_sql selects.sql leads _),
    attempt_bind_apply, result]
  exact ⟨rfl, rfl⟩

theorem isTaken_records :
    IsTaken columns rows (rows.map (record (if rows.isEmpty then [] else columns))) := by
  intro r row record name value there recorded found
  have some : rows.isEmpty = false := by
    rw [List.isEmpty_eq_false_iff]
    exact List.ne_nil_of_mem (List.mem_of_getElem? there)
  rw [some, List.getElem?_map, there] at recorded
  cases recorded
  exact holds_of_get?_record found

theorem canLookUp_iff :
    CanLookUp columns rows (rows.map (record (if rows.isEmpty then [] else columns))) ↔
      ∀ row ∈ rows, Agrees columns row := by
  cases some : rows.isEmpty with
  | true => simp [CanLookUp, List.isEmpty_iff.mp some]
  | false =>
      simp only [Bool.false_eq_true, if_false]
      constructor
      · intro found row member
        obtain ⟨r, there⟩ := List.mem_iff_getElem?.mp member
        refine forall_get?_record_iff.mp ?_
        rintro name _ ⟨i, cell, named, holds, rfl⟩
        exact found r i row _ name cell there (by rw [List.getElem?_map, there]; rfl) named holds
      · intro agrees r i row record name cell there recorded named holds
        rw [List.getElem?_map, there] at recorded
        cases recorded
        exact forall_get?_record_iff.mpr (agrees row (List.mem_of_getElem? there)) name _
          ⟨i, cell, named, holds, rfl⟩

/-- A select puts out the names of the columns and a record for every row, in order, and notes how
many there are. What a record has under a name, a cell of its row holds. Every cell can be looked up
in the record of its row if and only if cells of a row under one name hold the same, as they do
where no two columns have one name. -/
theorem cells_of_select (selects : Selects context scene options columns rows) :
    let left := database.run context scene
    left.1 = .ok () ∧ ∃ output note data, left.2.state.output = some output ∧
      Fields.get? left.2.state.extras "db_metadata" = some note ∧
      output.get? "columns" =
        some (.array ((if rows.isEmpty then [] else columns).map .string)) ∧
      output.get? "data" = some (.array data) ∧ data.length = rows.length ∧
      note.get? "rows_affected" = some (.ofNat rows.length) ∧
      IsTaken columns rows data ∧
      (CanLookUp columns rows data ↔ ∀ row ∈ rows, Agrees columns row) ∧
      (columns.Nodup → CanLookUp columns rows data) := by
  intro left
  obtain ⟨ok, state⟩ := run_of_selects selects
  refine ⟨ok, (selected columns rows).toValue, metadata options (selected columns rows),
    rows.map (record (if rows.isEmpty then [] else columns)), ?_, ?_, rfl, rfl, by simp, rfl,
    isTaken_records, canLookUp_iff, ?_⟩
  · exact congrArg State.output state
  · change Fields.get? (run context scene).2.state.extras _ = _
    rw [state]
    simp [State.withOutput, State.withExtra, Fields.get?_insert]
  · exact fun distinct => canLookUp_iff.mpr fun row _ => agrees_of_nodup distinct row

/-- A database that answers any statement with rows, and a credential for it. -/
def answering (columns : List String) (rows : List (List SqlCell)) : Scene where
  state := { userQuery := "", credentials := ⟨[
    ("postgresql", .string "postgres://db.test/orders")]⟩ }
  world := { peers := { Peers.none with sql := fun _ _ _ => .completed columns rows 0 } }

/-- A select without parameters. -/
def selecting : Context := ⟨"database", 0, ⟨[("query", .string "SELECT")]⟩⟩

theorem selects_answering (columns : List String) (rows : List (List SqlCell)) :
    Selects selecting (answering columns rows) ⟨.postgresql, .select, "SELECT", [], none⟩ columns
      rows :=
  ⟨rfl, by decide, rfl, _, "postgres://db.test/orders", 0, rfl, rfl, rfl⟩

/-- Two columns with names of their own. -/
theorem cells_of_select_distinct :
    let columns := ["id", "note"]
    let rows : List (List SqlCell) := [[.int 1, .text "a"], [.int 2, .null]]
    let left := database.run selecting (answering columns rows)
    columns.Nodup ∧ left.1 = .ok () ∧ ∃ output data, left.2.state.output = some output ∧
      output.get? "data" = some (.array data) ∧ data.length = 2 ∧ CanLookUp columns rows data := by
  intro columns rows left
  have distinct : columns.Nodup := by decide
  obtain ⟨ok, output, _, data, put, -, -, has, size, -, -, -, found⟩ :=
    cells_of_select (selects_answering columns rows)
  exact ⟨distinct, ok, output, data, put, has, size, found distinct⟩

/-- Of two columns with one name the first cannot be looked up. -/
theorem cell_of_select_lost :
    let columns := ["a", "a"]
    let rows : List (List SqlCell) := [[.int 1, .int 2]]
    let left := database.run selecting (answering columns rows)
    left.1 = .ok () ∧ left.2.state.output = some (.object [
        ("columns", .array [.string "a", .string "a"]),
        ("data", .array [.object [("a", .int 2)]])]) ∧
      ¬ CanLookUp columns rows [.object [("a", .int 2)]] := by
  intro columns rows left
  obtain ⟨ok, state⟩ := run_of_selects (selects_answering columns rows)
  refine ⟨ok, (congrArg State.output state).trans rfl, fun found => ?_⟩
  have first := found 0 0 _ _ "a" (.int 1) rfl rfl rfl rfl
  simp [Value.get?, Value.object?, SqlCell.toValue] at first

end Database

end Workflow
