import WideColumn.Proofs.Store.Footprint
import WideColumn.Store.Call

/-!
# What a call makes of a cell

Seen from one cell there are few things that a call can do. A call that is refused leaves every cell
alone. A call that succeeds clears the cell, writes it under the next timestamp, or has nothing to
do with it.
-/
namespace WideColumn.Store

/-- The place of a cell in a store. -/
structure Place where
  /-- The table. -/
  table : Bytes
  /-- The row key. -/
  key : Bytes
  /-- The coordinate within the row. -/
  coordinate : Coordinate
deriving DecidableEq

/-- What stands at a place. -/
def cell? (store : Store) (place : Place) : Option Entry :=
  ((store.row? place.table place.key).getD .empty).get? place.coordinate

namespace Call

/-- Whether a call writes a cell, and so takes a timestamp. -/
def isWrite : Call → Bool
  | put .. | append .. => true
  | _ => false

/-- Whether a call extends a cell. -/
def isAppend : Call → Bool
  | append .. => true
  | _ => false

/-- Whether a call writes the cell at a place. -/
def writes (place : Place) : Call → Bool
  | put table key coordinate _ | append table key coordinate _ =>
    decide (⟨table, key, coordinate⟩ = place)
  | _ => false

/-- Whether a call leaves nothing at a place: it creates the table, or it removes the row, the
family or the column. -/
def clears (place : Place) : Call → Bool
  | createTable table _ => decide (table = place.table)
  | delete table key columns =>
    decide (table = place.table) && decide (key = place.key) &&
      (columns.family.isNone || columns.contains place.coordinate)
  | _ => false

/-- The bytes that a call writes or appends. -/
def data : Call → Bytes
  | put _ _ _ value | append _ _ _ value => (Comparator.bytesOf value).toOption.getD []
  | _ => []

@[simp] theorem data_put_raw (table key : Bytes) (coordinate : Coordinate) (value : Bytes) :
    (put table key coordinate (.raw value)).data = value := rfl

@[simp] theorem data_append_raw (table key : Bytes) (coordinate : Coordinate) (value : Bytes) :
    (append table key coordinate (.raw value)).data = value := rfl

/-- The value of a cell that a call writes. -/
def extended (previous : Bytes) (call : Call) : Bytes :=
  if call.isAppend then previous ++ call.data else call.data

/-- What a successful call makes of what stands at a place, under a timestamp. -/
def makes (place : Place) (timestamp : Nat) (old : Option Entry) (call : Call) : Option Entry :=
  if call.clears place then none
  else if call.writes place then some ⟨call.extended (old.elim [] Entry.value), timestamp⟩
  else old

end Call

/-! ## Tables and rows -/

/-- There is a table of a name exactly if one is found. -/
theorem hasTable_iff (store : Store) (name : Bytes) :
    store.hasTable name = true ↔ ∃ table, store.tables.get? name = some table :=
  Option.isSome_iff_exists

/-- Altering a row makes no table come or go. -/
theorem hasTable_alterRow (store : Store) (name key other : Bytes)
    (change : Option Row → Option Row) :
    (store.alterRow name key change).hasTable other = store.hasTable other := by
  unfold hasTable SortedMap.contains alterRow
  by_cases same : name = other
  · subst same
    rw [SortedMap.get?_alter_self]
    cases store.tables.get? name <;> rfl
  · rw [SortedMap.get?_alter_ne _ same]

/-- What stands in a row after it was altered. -/
theorem cell?_alterRow (store : Store) (name key : Bytes) (change : Option Row → Option Row)
    {place : Place} (known : store.hasTable place.table = true) :
    (store.alterRow name key change).cell? place =
      if name = place.table ∧ key = place.key then
        ((change (store.row? place.table place.key)).getD .empty).get? place.coordinate
      else store.cell? place := by
  obtain ⟨table, found⟩ := (store.hasTable_iff _).mp known
  unfold cell?
  rw [row?_alterRow store name key _ _ change found]
  split
  · rfl
  · rfl

/-- Counting a write changes nothing that stands anywhere. -/
theorem cell?_withWrites (store : Store) (writes : Nat) (place : Place) :
    ({ store with writes } : Store).cell? place = store.cell? place := rfl

/-- A cell that is placed stands there, and the others stand as they did. -/
theorem get?_placed (coordinate other : Coordinate) (entry : Entry) (row : Option Row) :
    ((placed coordinate entry row).getD .empty).get? other =
      if coordinate = other then some entry else (row.getD .empty).get? other := by
  unfold placed
  rw [Option.getD_some, SortedMap.insert_eq_alter]
  by_cases same : coordinate = other
  · subst same
    rw [SortedMap.get?_alter_self, if_pos rfl]
  · rw [SortedMap.get?_alter_ne _ same, if_neg same]

/-- What is removed does not stand there any more, and the rest stands as it did. -/
theorem get?_removed (columns : Columns) (coordinate : Coordinate) (row : Option Row) :
    ((removed columns row).getD .empty).get? coordinate =
      if columns.family.isNone || columns.contains coordinate then none
      else (row.getD .empty).get? coordinate := by
  cases named : columns.family.isNone with
  | true =>
    have gone : removed columns row = none := by
      cases row with
      | none => rfl
      | some row => simp only [removed, Option.bind_some, named, Bool.true_or, ↓reduceIte]
    rw [gone, Bool.true_or, if_pos rfl]
    rfl
  | false =>
    rw [getD_removed named]
    unfold Row.outside
    rw [SortedMap.get?_filter, Bool.false_or]
    cases columns.contains coordinate with
    | true => cases (row.getD .empty).get? coordinate <;> rfl
    | false => cases (row.getD .empty).get? coordinate <;> rfl

/-! ## Each call -/

/-- A put that succeeds writes its bytes. -/
theorem put_ok {store after : Store} {name key : Bytes} {coordinate : Coordinate} {value : Value}
    (done : store.put name key coordinate value = .ok after) :
    ∃ table data, store.tables.get? name = some table ∧
      Comparator.bytesOf value = .ok data ∧
      after = store.write name table key coordinate data := by
  unfold put Store.table at done
  cases found : store.tables.get? name with
  | none =>
    rw [found] at done
    cases done
  | some table =>
    simp only [found] at done
    cases checked : table.checkFamily name coordinate.family with
    | error refusal =>
      simp only [bind, Except.bind, checked] at done
      cases done
    | ok _ =>
      cases bytes : Comparator.bytesOf value with
      | error refusal =>
        simp only [bind, Except.bind, checked, bytes] at done
        cases done
      | ok data =>
        simp only [bind, Except.bind, checked, bytes, pure, Except.pure] at done
        cases done
        exact ⟨table, data, rfl, rfl, rfl⟩

/-- An append that succeeds extends what stands there. One that fails leaves the store alone, or
leaves behind a row without cells. -/
theorem append_cases (store : Store) (name key : Bytes) (coordinate : Coordinate)
    (value : Value) :
    (∃ table data cell, store.tables.get? name = some table ∧
      Comparator.bytesOf value = .ok data ∧
      store.append name key coordinate value = (.ok cell,
        store.write name table key coordinate
          (valueAt (table.rows.get? key) coordinate ++ data))) ∨
    (∃ error, store.append name key coordinate value = (.error error, store)) ∨
    ∃ table error, store.tables.get? name = some table ∧
      store.append name key coordinate value =
        (.error error, store.setTable name (table.setRow key (table.row key))) := by
  unfold append Store.table
  cases found : store.tables.get? name with
  | none => exact .inr (.inl ⟨_, rfl⟩)
  | some table =>
    cases checked : table.checkFamily name coordinate.family with
    | error refusal =>
      simp only [checked]
      exact .inr (.inl ⟨_, rfl⟩)
    | ok _ =>
      cases bytes : Comparator.bytesOf value with
      | error refusal =>
        simp only [checked]
        exact .inr (.inr ⟨table, _, rfl, rfl⟩)
      | ok data =>
        simp only [checked]
        exact .inl ⟨table, data, _, rfl, rfl, rfl⟩

/-- A removal that succeeds alters the row at its key. -/
theorem delete_ok {store after : Store} {name key : Bytes} {columns : Columns}
    (done : store.delete name key columns = .ok after) :
    ∃ table, store.tables.get? name = some table ∧
      after = store.alterRow name key (removed columns) := by
  unfold delete Store.table at done
  cases found : store.tables.get? name with
  | none =>
    rw [found] at done
    cases done
  | some table =>
    simp only [found] at done
    cases checked : table.checkColumns name columns with
    | error refusal =>
      simp only [bind, Except.bind, checked] at done
      cases done
    | ok _ =>
      simp only [bind, Except.bind, checked, pure, Except.pure] at done
      cases done
      exact ⟨table, rfl, setTable_remove columns found⟩

/-- Writing one value moves the counter, makes no table come or go, and leaves the value at its
place under the next timestamp. -/
theorem write_cells {store : Store} {name : Bytes} {table : Table}
    (found : store.tables.get? name = some table) (key : Bytes) (coordinate : Coordinate)
    (value : Bytes) :
    (store.write name table key coordinate value).writes = store.writes + 1 ∧
      (∀ other, (store.write name table key coordinate value).hasTable other =
        store.hasTable other) ∧
      ∀ place, store.hasTable place.table = true →
        (store.write name table key coordinate value).cell? place =
          if ⟨name, key, coordinate⟩ = place then some ⟨value, store.writes + 1⟩
          else store.cell? place := by
  have written : store.write name table key coordinate value =
      { store.alterRow name key (placed coordinate ⟨value, store.writes + 1⟩) with
        writes := store.writes + 1 } := Request.write_eq found coordinate value rfl
  rw [written]
  refine ⟨rfl, fun other => hasTable_alterRow store name key other _, ?_⟩
  intro place known
  rw [cell?_withWrites, cell?_alterRow store name key _ known, get?_placed]
  by_cases row : name = place.table ∧ key = place.key
  · obtain ⟨rfl, rfl⟩ := row
    rw [if_pos ⟨rfl, rfl⟩]
    by_cases here : coordinate = place.coordinate
    · rw [if_pos here, if_pos (by rw [here])]
    · rw [if_neg here, if_neg fun same => here (congrArg Place.coordinate same)]
      rfl
  · rw [if_neg row, if_neg]
    intro same
    exact row ⟨congrArg Place.table same, congrArg Place.key same⟩

/-- A row that is left behind without cells leaves every cell alone. -/
theorem leftRow_cells {store : Store} {name key : Bytes} {table : Table}
    (found : store.tables.get? name = some table) :
    (∀ other, (store.setTable name (table.setRow key (table.row key))).hasTable other =
        store.hasTable other) ∧
      ∀ place, store.hasTable place.table = true →
        (store.setTable name (table.setRow key (table.row key))).cell? place =
          store.cell? place := by
  have altered : store.setTable name (table.setRow key (table.row key)) =
      store.alterRow name key fun row => some (row.getD .empty) := setTable_setRow found rfl
  rw [altered]
  refine ⟨fun other => hasTable_alterRow store name key other _, ?_⟩
  intro place known
  rw [cell?_alterRow store name key _ known]
  split
  · rfl
  · rfl

namespace Call

/-- A call that is refused does not count, makes no table come or go and leaves every cell alone. -/
structure Refused (before after : Store) : Prop where
  /-- It does not count. -/
  writes : after.writes = before.writes
  /-- No table comes or goes. -/
  hasTable : ∀ name, after.hasTable name = before.hasTable name
  /-- Every cell is left alone. -/
  cells : ∀ place, before.hasTable place.table = true → after.cell? place = before.cell? place

/-- Nothing at all leaves everything alone. -/
theorem Refused.refl (store : Store) : Refused store store := ⟨rfl, fun _ => rfl, fun _ _ => rfl⟩

/-- An append answers with the cell that it wrote. -/
theorem run_append (store : Store) (name key : Bytes) (coordinate : Coordinate) (value : Value) :
    (append name key coordinate value).run store =
      ((store.append name key coordinate value).1.map .cell,
        (store.append name key coordinate value).2) := rfl

/-- A call that answers with an error is refused. -/
theorem run_error {store : Store} {call : Call} {error : Error}
    (failed : (call.run store).1 = .error error) : Refused store (call.run store).2 := by
  -- Most calls change nothing unless they succeed.
  have unchanged {result : Except Error Store} (failed : (changing store result).1 = .error error) :
      Refused store (changing store result).2 := by
    cases result with
    | ok after => cases failed
    | error refusal => exact .refl store
  cases call with
  | createTable | deleteTable | put | delete => exact unchanged failed
  | tableExists | get | scan => exact .refl store
  | append name key coordinate value =>
    rw [run_append] at failed ⊢
    rcases store.append_cases name key coordinate value with
      ⟨table, data, cell, _, _, done⟩ | ⟨refusal, same⟩ | ⟨table, refusal, found, left⟩
    · rw [done] at failed
      cases failed
    · rw [same]
      exact .refl store
    · rw [left]
      obtain ⟨tables, cells⟩ := leftRow_cells found
      exact ⟨rfl, tables, cells⟩

/-- A call that succeeds counts if it writes, and makes of every cell what it makes of it. Whatever
table there is afterwards was there before or is new and clear. -/
structure Succeeded (call : Call) (before after : Store) : Prop where
  /-- It counts if it writes. -/
  writes : after.writes = before.writes + call.isWrite.toNat
  /-- A table that is there was there before or is created. -/
  hasTable : ∀ place, after.hasTable place.table = true →
    before.hasTable place.table = true ∨ call.clears place = true
  /-- Of every cell it makes what it makes. -/
  cells : ∀ place, after.hasTable place.table = true →
    after.cell? place = call.makes place (before.writes + 1) (before.cell? place)

/-- A call that only reads makes nothing of anything. -/
theorem Succeeded.refl {call : Call} (isRead : call.isWrite = false)
    (clears : ∀ place, call.clears place = false) (writes : ∀ place, call.writes place = false)
    (store : Store) : Succeeded call store store := by
  refine ⟨by rw [isRead]; rfl, fun _ known => .inl known, ?_⟩
  intro place _
  unfold makes
  rw [clears, writes]
  rfl

/-- A call that writes one value succeeds. -/
theorem Succeeded.write {call : Call} {store : Store} {name key : Bytes} {table : Table}
    {coordinate : Coordinate} {value : Bytes} (found : store.tables.get? name = some table)
    (isWrite : call.isWrite = true) (clears : ∀ place, call.clears place = false)
    (writes : ∀ place, call.writes place = decide (⟨name, key, coordinate⟩ = place))
    (extended : call.extended ((store.cell? ⟨name, key, coordinate⟩).elim [] Entry.value) =
      value) : Succeeded call store (store.write name table key coordinate value) := by
  obtain ⟨counted, tables, cells⟩ := write_cells found key coordinate value
  refine ⟨by rw [counted, isWrite]; rfl, fun place known => .inl (tables _ ▸ known), ?_⟩
  intro place known
  rw [cells place (tables _ ▸ known)]
  unfold makes
  rw [clears, writes]
  by_cases here : ⟨name, key, coordinate⟩ = place
  · subst here
    simp [extended]
  · simp [here]

/-- Putting a table in place changes no other table. -/
theorem setTable_other (store : Store) {name : Bytes} (table : Table) {place : Place}
    (different : name ≠ place.table) :
    (store.setTable name table).hasTable place.table = store.hasTable place.table ∧
      (store.setTable name table).cell? place = store.cell? place := by
  have same : (store.setTable name table).tables.get? place.table =
      store.tables.get? place.table := by
    unfold setTable
    rw [SortedMap.insert_eq_alter, SortedMap.get?_alter_ne _ different]
  unfold hasTable SortedMap.contains cell? row?
  rw [same]
  exact ⟨rfl, rfl⟩

/-- A table that is created is there, and clear. -/
theorem Succeeded.create (store : Store) (name : Bytes) (families : List Bytes) :
    Succeeded (createTable name families) store (store.setTable name ⟨families, .empty⟩) := by
  refine ⟨rfl, ?_, ?_⟩
  · intro place known
    by_cases new : name = place.table
    · exact .inr (decide_eq_true new)
    · rw [(setTable_other store _ new).1] at known
      exact .inl known
  · intro place _
    unfold makes clears Call.writes
    by_cases new : name = place.table
    · subst new
      have found : (store.setTable place.table ⟨families, .empty⟩).tables.get? place.table =
          some ⟨families, .empty⟩ := by
        unfold setTable
        rw [SortedMap.insert_eq_alter, SortedMap.get?_alter_self]
      unfold cell? row?
      rw [found]
      simp only [decide_true, ↓reduceIte]
      rfl
    · rw [(setTable_other store _ new).2]
      simp [new]

/-- A table that is deleted is not there, and the others are as they were. -/
theorem Succeeded.drop (store : Store) (name : Bytes) :
    Succeeded (deleteTable name) store { store with tables := store.tables.erase name } := by
  have others {place : Place}
      (known : ({ store with tables := store.tables.erase name } : Store).hasTable place.table =
        true) : (store.tables.erase name).get? place.table = store.tables.get? place.table := by
    obtain ⟨table, found⟩ := (hasTable_iff _ _).mp known
    have different : name ≠ place.table := by
      rintro rfl
      have gone : (store.tables.erase place.table).get? place.table = none := by
        rw [SortedMap.erase_eq_alter, SortedMap.get?_alter_self]
      rw [gone] at found
      cases found
    rw [SortedMap.erase_eq_alter, SortedMap.get?_alter_ne _ different]
  refine ⟨rfl, ?_, ?_⟩
  · intro place known
    left
    unfold Store.hasTable SortedMap.contains at known ⊢
    rw [← others known]
    exact known
  · intro place known
    show ({ store with tables := store.tables.erase name } : Store).cell? place =
      store.cell? place
    unfold cell? row?
    rw [others known]

/-- A call that is answered succeeds. -/
theorem run_ok {store : Store} {call : Call} {reply : Reply}
    (answered : (call.run store).1 = .ok reply) : Succeeded call store (call.run store).2 := by
  cases call with
  | tableExists | get | scan => exact .refl rfl (fun _ => rfl) (fun _ => rfl) store
  | put name key coordinate value =>
    cases done : store.put name key coordinate value with
    | error refusal =>
      rw [show (put name key coordinate value).run store = changing store _ from rfl, done]
        at answered
      cases answered
    | ok after =>
      rw [show (put name key coordinate value).run store = changing store _ from rfl, done]
      obtain ⟨table, data, found, bytes, rfl⟩ := put_ok done
      refine .write found rfl (fun _ => rfl) (fun _ => rfl) ?_
      simp [extended, isAppend, Call.data, bytes, Except.toOption]
  | append name key coordinate value =>
    rw [run_append] at answered ⊢
    rcases store.append_cases name key coordinate value with
      ⟨table, data, cell, found, bytes, done⟩ | ⟨refusal, same⟩ | ⟨table, refusal, _, left⟩
    · rw [done]
      have row : store.row? name key = table.rows.get? key := by
        unfold row?
        rw [found]
        rfl
      refine .write found rfl (fun _ => rfl) (fun _ => rfl) ?_
      simp [extended, isAppend, Call.data, bytes, Except.toOption, cell?, row, valueAt]
    · rw [same] at answered
      cases answered
    · rw [left] at answered
      cases answered
  | delete name key columns =>
    cases done : store.delete name key columns with
    | error refusal =>
      rw [show (delete name key columns).run store = changing store _ from rfl, done] at answered
      cases answered
    | ok after =>
      rw [show (delete name key columns).run store = changing store _ from rfl, done]
      obtain ⟨table, found, rfl⟩ := delete_ok done
      refine ⟨rfl, fun place known => .inl (hasTable_alterRow store name key _ _ ▸ known), ?_⟩
      intro place known
      have was : store.hasTable place.table = true := hasTable_alterRow store name key _ _ ▸ known
      show (store.alterRow name key (removed columns)).cell? place = _
      rw [cell?_alterRow store name key _ was, get?_removed]
      unfold makes clears writes
      by_cases row : name = place.table ∧ key = place.key
      · obtain ⟨rfl, rfl⟩ := row
        simp [cell?]
      · rw [if_neg row]
        have apart : (decide (name = place.table) && decide (key = place.key)) = false := by
          simpa using row
        simp [apart]
  | createTable name families =>
    rw [show (createTable name families).run store = changing store (store.createTable name
      families) from rfl] at answered ⊢
    unfold Store.createTable at answered ⊢
    split at answered
    · cases answered
    · rename_i absent
      rw [if_neg absent]
      exact .create store name families
  | deleteTable name =>
    rw [show (deleteTable name).run store = changing store (store.deleteTable name) from rfl]
      at answered ⊢
    unfold Store.deleteTable at answered ⊢
    split at answered
    · rename_i present
      rw [if_pos present]
      exact .drop store name
    · cases answered

end Call

end WideColumn.Store
