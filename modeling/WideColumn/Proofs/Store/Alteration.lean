import WideColumn.Execution
import WideColumn.Proofs.SortedMap

/-!
# A write alters one row

A write is refused for its table or its family, and changes nothing then. Otherwise it alters the
row at its key and nothing else: a put and an append place one cell, a removal takes cells out and
the row with its last one. What it answers depends on that row alone.
-/
namespace WideColumn

namespace Store

/-- A table with one row altered. -/
def Table.alterRow (table : Table) (key : Bytes) (change : Option Row → Option Row) : Table :=
  { table with rows := table.rows.alter key change }

/-- A store with one row altered, if there is the table. -/
def alterRow (store : Store) (name key : Bytes) (change : Option Row → Option Row) : Store :=
  { store with tables := store.tables.alter name (Option.map (·.alterRow key change)) }

/-- The row at a key of a table. -/
def row? (store : Store) (name key : Bytes) : Option Row :=
  (store.tables.get? name).bind fun table => table.rows.get? key

/-- The value of a cell in what may be a row, which counts as empty when absent. -/
def valueAt (row : Option Row) (coordinate : Coordinate) : Bytes :=
  ((row.getD .empty).get? coordinate).elim [] Entry.value

/-- What may be a row with a cell placed in it. -/
def placed (coordinate : Coordinate) (entry : Entry) (row : Option Row) : Option Row :=
  some ((row.getD .empty).insert coordinate entry)

/-- The cells of a row outside of columns. -/
def Row.outside (columns : Columns) (row : Row) : Row :=
  SortedMap.filter row fun coordinate _ => !columns.contains coordinate

/-- What is left of a row, if anything, when columns of it are removed. -/
def removed (columns : Columns) (row : Option Row) : Option Row :=
  row.bind fun row =>
    if columns.family.isNone || (row.outside columns).isEmpty then none
    else some (row.outside columns)

/-- Placing a row that was made from the old one alters it. -/
theorem setTable_setRow {store : Store} {name key : Bytes} {table : Table} {row : Row}
    (found : store.tables.get? name = some table) {change : Option Row → Option Row}
    (made : change (table.rows.get? key) = some row) :
    store.setTable name (table.setRow key row) = store.alterRow name key change := by
  have rows : table.rows.insert key row = table.rows.alter key change := by
    rw [SortedMap.insert_eq_alter]
    exact table.rows.alter_congr made.symm
  unfold setTable alterRow Table.setRow
  rw [rows, SortedMap.insert_eq_alter]
  congr 1
  apply store.tables.alter_congr
  rw [found]
  rfl

/-- Removing columns of a row alters it. -/
theorem setTable_remove {store : Store} {name key : Bytes} {table : Table} (columns : Columns)
    (found : store.tables.get? name = some table) :
    store.setTable name (table.remove key columns) =
      store.alterRow name key (removed columns) := by
  have rows : table.remove key columns = table.alterRow key (removed columns) := by
    unfold Table.remove Table.alterRow
    cases stands : table.rows.get? key with
    | none =>
      have unchanged : removed columns (table.rows.get? key) = table.rows.get? key := by
        rw [stands]
        rfl
      rw [table.rows.alter_unchanged unchanged]
    | some row =>
      simp only
      split
      · rename_i gone
        have taken : removed columns (some row) = none := if_pos gone
        rw [SortedMap.erase_eq_alter]
        congr 1
        apply table.rows.alter_congr
        rw [stands, taken]
      · rename_i kept
        have rest : removed columns (some row) = some _ := if_neg kept
        unfold Table.setRow
        rw [SortedMap.insert_eq_alter]
        congr 1
        apply table.rows.alter_congr
        rw [stands, rest]
        rfl
  unfold setTable alterRow
  rw [rows, SortedMap.insert_eq_alter]
  congr 1
  apply store.tables.alter_congr
  rw [found]
  rfl

end Store

namespace Request

open Store

/-- The call of the store that executes a write. -/
def call (request : Request) : Store.Call := request.toCall none

/-- Bytes are data as they are. -/
theorem bytesOf_raw (value : Bytes) : Store.Comparator.bytesOf (.raw value) = .ok value := rfl

/-- The family that a request names, if it names one. -/
def family? : Request → Option Bytes
  | put _ _ coordinate _ | append _ _ coordinate _ => some coordinate.family
  | get _ _ columns _ | delete _ _ columns | scan _ _ columns _ _ => columns.family

/-- The table that a request goes to, unless it is refused for its table or its family. -/
def admission (store : Store) (request : Request) : Except Error Table :=
  match store.table request.table with
  | .error error => .error error
  | .ok table =>
    match table.checkColumns request.table ⟨request.family?, none⟩ with
    | .error error => .error error
    | .ok () => .ok table

/-- What a write makes of the row at its key under a timestamp. -/
def change (timestamp : Nat) : Request → Option Row → Option Row
  | put _ _ coordinate value, row => placed coordinate ⟨value, timestamp⟩ row
  | append _ _ coordinate value, row =>
    placed coordinate ⟨valueAt row coordinate ++ value, timestamp⟩ row
  | delete _ _ columns, row => removed columns row
  | get .., row | scan .., row => row

/-- What the store answers a write that it does not refuse. -/
def reply (timestamp : Nat) (row : Option Row) : Request → Store.Reply
  | append _ key coordinate value =>
    .cell ⟨key, coordinate.family, coordinate.qualifier, valueAt row coordinate ++ value,
      timestamp⟩
  | _ => .nothing

/-- How far a write moves the counter of timestamps. -/
def stamps : Request → Nat
  | put .. | append .. => 1
  | get .. | delete .. | scan .. => 0

/-- A request that is refused changes nothing. -/
theorem run_refused {request : Request} {store : Store} {error : Error}
    (refused : request.admission store = .error error) :
    request.call.run store = (.error error, store) := by
  unfold admission at refused
  cases named : store.table request.table with
  | error missing =>
    rw [named] at refused
    cases refused
    cases request with
    | get name key columns filter =>
      have absent : store.table name = .error error := named
      simp only [call, toCall, Call.run, Store.get, absent]
      rfl
    | scan name range columns filter limit =>
      have absent : store.table name = .error error := named
      simp only [call, toCall, Call.run, Store.scan, absent]
      rfl
    | put name key coordinate value =>
      have absent : store.table name = .error error := named
      simp only [call, toCall, Call.run, Store.put, absent]
      rfl
    | append name key coordinate value =>
      have absent : store.table name = .error error := named
      simp only [call, toCall, Call.run, Store.append, absent]
      rfl
    | delete name key columns =>
      have absent : store.table name = .error error := named
      simp only [call, toCall, Call.run, Store.delete, absent]
      rfl
  | ok found =>
    rw [named] at refused
    cases checked : found.checkColumns request.table ⟨request.family?, none⟩ with
    | ok done =>
      simp only [checked] at refused
      cases refused
    | error undeclared =>
      simp only [checked] at refused
      cases refused
      cases request with
      | get name key columns filter =>
        have present : store.table name = .ok found := named
        have check : found.checkColumns name columns = .error error := checked
        simp only [call, toCall, Call.run, Store.get, present, bind, Except.bind, check]
        rfl
      | scan name range columns filter limit =>
        have present : store.table name = .ok found := named
        have check : found.checkColumns name columns = .error error := checked
        simp only [call, toCall, Call.run, Store.scan, present, bind, Except.bind, check]
        rfl
      | put name key coordinate value =>
        have present : store.table name = .ok found := named
        have check : found.checkFamily name coordinate.family = .error error := checked
        simp only [call, toCall, Call.run, Store.put, present]
        show Call.changing store (do
          found.checkFamily name coordinate.family
          return store.write name found key coordinate value) = _
        rw [check]
        rfl
      | append name key coordinate value =>
        have present : store.table name = .ok found := named
        have check : found.checkFamily name coordinate.family = .error error := checked
        simp only [call, toCall, Call.run, Store.append, present, check]
        rfl
      | delete name key columns =>
        have present : store.table name = .ok found := named
        have check : found.checkColumns name columns = .error error := checked
        simp only [call, toCall, Call.run, Store.delete, present]
        show Call.changing store (do
          found.checkColumns name columns
          return store.setTable name (found.remove key columns)) = _
        rw [check]
        rfl

/-- A write that is admitted goes to the table that it names, which declares its family. -/
theorem admission_ok {request : Request} {store : Store} {table : Table}
    (admitted : request.admission store = .ok table) :
    store.tables.get? request.table = some table ∧ store.table request.table = .ok table ∧
      table.checkColumns request.table ⟨request.family?, none⟩ = .ok () := by
  unfold admission at admitted
  cases named : store.table request.table with
  | error missing =>
    rw [named] at admitted
    cases admitted
  | ok found =>
    rw [named] at admitted
    cases checked : found.checkColumns request.table ⟨request.family?, none⟩ with
    | error undeclared =>
      simp only [checked] at admitted
      cases admitted
    | ok done =>
      simp only [checked] at admitted
      cases admitted
      refine ⟨?_, rfl, checked⟩
      unfold Store.table at named
      cases stands : store.tables.get? request.table with
      | none =>
        rw [stands] at named
        cases named
      | some other =>
        rw [stands] at named
        cases named
        rfl

/-- A request is refused exactly if its table is missing or does not declare its family. -/
theorem admission_error {request : Request} {store : Store} {refusal : Error} :
    request.admission store = .error refusal ↔
      store.tables.get? request.table = none ∧ refusal = .tableNotFound request.table ∨
        ∃ table family, store.tables.get? request.table = some table ∧
          request.family? = some family ∧ family ∉ table.families ∧
          refusal = .noSuchColumnFamily request.table family := by
  unfold admission Store.table
  cases store.tables.get? request.table with
  | none => simp [eq_comm]
  | some table =>
    cases request.family? with
    | none => simp [Table.checkColumns]
    | some family =>
      by_cases declared : family ∈ table.families
      · simp [Table.checkColumns, Table.checkFamily, declared]
      · simp [Table.checkColumns, Table.checkFamily, declared, eq_comm]

/-- A refusal is classified, and trying again does not help. -/
theorem classify_refusal {request : Request} {store : Store} {error : Error}
    (refused : request.admission store = .error error) :
    error.isOperationFailure = false ∧ (request.classify error).isTransient = false := by
  rcases admission_error.1 refused with ⟨-, rfl⟩ | ⟨_, _, -, -, -, rfl⟩
  · exact ⟨rfl, rfl⟩
  · exact ⟨rfl, rfl⟩

/-- Writing one value of a row alters the row and moves the counter. -/
theorem write_eq {store : Store} {name key : Bytes} {table : Table}
    (found : store.tables.get? name = some table) (coordinate : Coordinate) (value : Bytes)
    {change : Option Row → Option Row}
    (made : change (table.rows.get? key) =
      placed coordinate ⟨value, store.writes + 1⟩ (table.rows.get? key)) :
    store.write name table key coordinate value =
      { store.alterRow name key change with writes := store.writes + 1 } := by
  have altered := setTable_setRow found made
  show ({ store.setTable name (table.setRow key (((table.rows.get? key).getD .empty).insert
    coordinate ⟨value, store.writes + 1⟩)) with writes := store.writes + 1 } : Store) = _
  rw [altered]

/-- A write that is admitted alters the row at its key. -/
theorem run_admitted {request : Request} (isWrite : request.kind.isWrite = true) {store : Store}
    {table : Table} (admitted : request.admission store = .ok table) :
    request.call.run store =
      (.ok (request.reply (store.writes + 1) (store.row? request.table request.key)),
        { store.alterRow request.table request.key (request.change (store.writes + 1)) with
          writes := store.writes + request.stamps }) := by
  obtain ⟨found, named, checked⟩ := admission_ok admitted
  have row : store.row? request.table request.key = table.rows.get? request.key := by
    unfold Store.row?
    rw [found]
    rfl
  cases request with
  | get | scan => cases isWrite
  | put name key coordinate value =>
    have present : store.table name = .ok table := named
    have check : table.checkFamily name coordinate.family = .ok () := checked
    have written : store.write name table key coordinate value =
        { store.alterRow name key (change (store.writes + 1) (.put name key coordinate value)) with
          writes := store.writes + 1 } := write_eq found coordinate value rfl
    simp only [call, toCall, Call.run, Store.put, present]
    show Call.changing store (do
      table.checkFamily name coordinate.family
      return store.write name table key coordinate value) = _
    rw [check, written]
    rfl
  | append name key coordinate value =>
    have present : store.table name = .ok table := named
    have check : table.checkFamily name coordinate.family = .ok () := checked
    have previous : ((table.row key).get? coordinate).elim [] Entry.value =
        valueAt (table.rows.get? key) coordinate := rfl
    have written : store.write name table key coordinate
        (valueAt (table.rows.get? key) coordinate ++ value) =
        { store.alterRow name key (change (store.writes + 1) (.append name key coordinate value))
          with writes := store.writes + 1 } := write_eq found coordinate _ rfl
    simp only [call, toCall, Call.run, Store.append, present, check, bytesOf_raw, previous, written,
      row]
    rfl
  | delete name key columns =>
    have present : store.table name = .ok table := named
    have check : table.checkColumns name columns = .ok () := checked
    have taken : store.setTable name (table.remove key columns) =
        store.alterRow name key (removed columns) := setTable_remove columns found
    simp only [call, toCall, Call.run, Store.delete, present]
    show Call.changing store (do
      table.checkColumns name columns
      return store.setTable name (table.remove key columns)) = _
    rw [check, taken]
    rfl

end Request
end WideColumn
