import WideColumn.Proofs.Store.Cells

/-!
# Rows come and go with their cells

A row comes into being with its first cell and goes with its last one, as long as every value that is
written is bytes. A store whose rows all have cells is determined by what stands in its cells, by the
families of its tables and by its counter.
-/
namespace WideColumn.Store

/-- Every row has a cell. -/
def RowsHaveCells (store : Store) : Prop := ∀ name key, store.row? name key ≠ some .empty

/-- A store without tables has no rows at all. -/
theorem RowsHaveCells.empty : Store.empty.RowsHaveCells := fun _ _ => nofun

/-- Whether a call writes bytes, if it writes. -/
def Call.GivesBytes : Call → Prop
  | put _ _ _ value | append _ _ _ value => ∃ form data, value = .bytes form data
  | _ => True

/-! ## What is determined by cells -/

/-- What may be a row is determined by its cells, if it has some whenever it is a row. -/
theorem row_eq_of_cells {row other : Option Row} (has_cells : row ≠ some .empty)
    (other_has_cells : other ≠ some .empty)
    (same : ∀ coordinate, (row.getD .empty).get? coordinate =
      (other.getD .empty).get? coordinate) : row = other := by
  have same_row : row.getD .empty = other.getD .empty := SortedMap.ext_get? same
  cases row with
  | none =>
    cases other with
    | none => rfl
    | some right => exact absurd (congrArg some same_row.symm) other_has_cells
  | some left =>
    cases other with
    | none => exact absurd (congrArg some same_row) has_cells
    | some right => exact congrArg some same_row

/-- A store whose rows all have cells is determined by what stands in it. -/
theorem eq_of_cells {store other : Store} (has_cells : store.RowsHaveCells)
    (other_has_cells : other.RowsHaveCells)
    (families : ∀ name, (store.tables.get? name).map Table.families =
      (other.tables.get? name).map Table.families)
    (writes : store.writes = other.writes)
    (cells : ∀ place, store.cell? place = other.cell? place) : store = other := by
  have rows (name key : Bytes) : store.row? name key = other.row? name key :=
    row_eq_of_cells (has_cells name key) (other_has_cells name key) fun coordinate =>
      cells ⟨name, key, coordinate⟩
  have tables : store.tables = other.tables := by
    -- That both stores have a table or neither does is told by the families, not by the rows.
    refine SortedMap.ext_get? fun name => ?_
    have declared := families name
    have stands := rows name
    unfold row? at stands
    cases left : store.tables.get? name with
    | none =>
      cases right : other.tables.get? name with
      | none => rfl
      | some table =>
        rw [left, right] at declared
        cases declared
    | some table =>
      cases right : other.tables.get? name with
      | none =>
        rw [left, right] at declared
        cases declared
      | some same =>
        rw [left, right] at declared stands
        have same_rows : table.rows = same.rows := SortedMap.ext_get? stands
        cases table
        cases same
        cases same_rows
        cases declared
        rfl
  cases store
  cases other
  cases tables
  cases writes
  rfl

/-! ## Rows that are altered -/

/-- A row has the cell that is placed in it. -/
theorem placed_ne_empty (coordinate : Coordinate) (entry : Entry) (row : Option Row) :
    placed coordinate entry row ≠ some .empty := by
  intro empty
  have here := get?_placed coordinate coordinate entry row
  rw [empty, if_pos rfl] at here
  cases here

/-- A row from which cells are removed goes with its last cell. -/
theorem removed_ne_empty (columns : Columns) (row : Option Row) :
    removed columns row ≠ some .empty := by
  intro empty
  obtain ⟨_, -, kept⟩ := Option.bind_eq_some_iff.1 empty
  split at kept
  · cases kept
  · next left =>
    rw [Option.some.inj kept] at left
    exact left (Bool.or_true _)

/-- Removing the same columns once more removes nothing. -/
theorem removed_twice (columns : Columns) (row : Option Row) :
    removed columns (removed columns row) = removed columns row := by
  refine row_eq_of_cells (removed_ne_empty columns _) (removed_ne_empty columns row) fun place => ?_
  rw [get?_removed, get?_removed]
  split
  · rfl
  · rfl

/-! ## One call -/

/-- Rows have cells if those of the one table that is altered do. -/
theorem RowsHaveCells.alterTable {store : Store} (has_cells : store.RowsHaveCells) {name : Bytes}
    (change : Option Table → Option Table)
    (keeps : ∀ key, ((change (store.tables.get? name)).bind fun table => table.rows.get? key) ≠
      some .empty) :
    ({ store with tables := store.tables.alter name change } : Store).RowsHaveCells := by
  intro other key
  unfold row?
  by_cases same : name = other
  · subst same
    rw [SortedMap.get?_alter_self]
    exact keeps key
  · rw [SortedMap.get?_alter_ne _ same]
    exact has_cells other key

/-- Rows have cells if the one row that is altered keeps some or goes. -/
theorem RowsHaveCells.alterRow {store : Store} (has_cells : store.RowsHaveCells)
    {change : Option Row → Option Row} (keeps : ∀ row, change row ≠ some .empty)
    (name key : Bytes) : (store.alterRow name key change).RowsHaveCells := by
  refine has_cells.alterTable _ fun other => ?_
  have others := has_cells name other
  unfold row? at others
  cases found : store.tables.get? name with
  | none => nofun
  | some table =>
    rw [found] at others
    show (table.rows.alter key change).get? other ≠ some .empty
    by_cases same : key = other
    · subst same
      rw [SortedMap.get?_alter_self]
      exact keeps _
    · rw [SortedMap.get?_alter_ne _ same]
      exact others

/-- Rows that a write places a cell in have cells. -/
theorem RowsHaveCells.write {store : Store} (has_cells : store.RowsHaveCells) {name : Bytes}
    {table : Table} (found : store.tables.get? name = some table) (key : Bytes)
    (coordinate : Coordinate) (value : Bytes) :
    (store.write name table key coordinate value).RowsHaveCells := by
  rw [Request.write_eq found coordinate value rfl]
  exact has_cells.alterRow (placed_ne_empty coordinate _) name key

/-- An append of bytes writes one cell or leaves the store alone. -/
theorem append_bytes (store : Store) (name key : Bytes) (coordinate : Coordinate) (form : ByteForm)
    (data : Bytes) :
    (∃ table cell value, store.tables.get? name = some table ∧
      store.append name key coordinate (.bytes form data) =
        (.ok cell, store.write name table key coordinate value)) ∨
      ∃ refusal, store.append name key coordinate (.bytes form data) = (.error refusal, store) := by
  unfold append Store.table
  cases found : store.tables.get? name with
  | none => exact .inr ⟨_, rfl⟩
  | some table =>
    cases checked : table.checkFamily name coordinate.family with
    | error refusal =>
      simp only [checked]
      exact .inr ⟨refusal, rfl⟩
    | ok _ =>
      simp only [checked]
      exact .inl ⟨table, _, _, rfl, rfl⟩

/-- A call that writes bytes, if it writes, leaves cells in every row. -/
theorem RowsHaveCells.run {store : Store} (has_cells : store.RowsHaveCells) {call : Call}
    (bytes : call.GivesBytes) : (call.run store).2.RowsHaveCells := by
  cases call with
  | tableExists | get | scan => exact has_cells
  | createTable name families =>
    show (Call.changing store (store.createTable name families)).2.RowsHaveCells
    unfold createTable
    split
    · exact has_cells
    · exact has_cells.alterTable (fun _ => some ⟨families, .empty⟩) fun _ => nofun
  | deleteTable name =>
    show (Call.changing store (store.deleteTable name)).2.RowsHaveCells
    unfold deleteTable
    split
    · exact has_cells.alterTable (fun _ => none) fun _ => nofun
    · exact has_cells
  | put name key coordinate value =>
    show (Call.changing store (store.put name key coordinate value)).2.RowsHaveCells
    cases done : store.put name key coordinate value with
    | error => exact has_cells
    | ok after =>
      obtain ⟨table, data, found, -, rfl⟩ := put_ok done
      exact has_cells.write found key coordinate data
  | append name key coordinate value =>
    obtain ⟨form, data, rfl⟩ := bytes
    rw [Call.run_append]
    rcases store.append_bytes name key coordinate form data with
      ⟨table, cell, value, found, done⟩ | ⟨refusal, same⟩
    · rw [done]
      exact has_cells.write found key coordinate value
    · rw [same]
      exact has_cells
  | delete name key columns =>
    show (Call.changing store (store.delete name key columns)).2.RowsHaveCells
    cases done : store.delete name key columns with
    | error => exact has_cells
    | ok after =>
      obtain ⟨table, -, rfl⟩ := delete_ok done
      exact has_cells.alterRow (removed_ne_empty columns) name key

/-! ## Histories -/

/-- After calls that write only bytes every row has a cell. -/
theorem RowsHaveCells.after {store : Store} (has_cells : store.RowsHaveCells) {history : List Call}
    (bytes : ∀ call ∈ history, call.GivesBytes) : (store.after history).RowsHaveCells := by
  induction history generalizing store with
  | nil => exact has_cells
  | cons call rest ih =>
    obtain ⟨here, later⟩ := List.forall_mem_cons.1 bytes
    exact ih (has_cells.run here) later

end WideColumn.Store
