import WideColumn.Proofs.Store.Reading

/-!
# What a failing call leaves behind

A call that fails leaves the store exactly as it was, with one exception. An append makes the row
before it looks at the value, so an append of something that holds no bytes, to a row that is not
there, leaves a row without cells. Such a row changes no answer of a read between keys. It shows
only in a scan whose bounds have no order with keys: that fails as soon as there is a row to
compare.
-/
namespace WideColumn.Store

/-! ## Scans between values -/

/-- Keys are compared with bytes as byte strings are. -/
theorem less_raw (key start : Bytes) :
    (Value.raw key).less (.raw start) = .ok (decide (key < start)) := by
  have compared : (Value.raw key).less (.raw start) = .ok (compare key start == .lt) := by
    unfold Value.less Value.order
    cases compare key start <;> rfl
  rw [compared]
  congr 1
  rw [Bool.eq_iff_iff, beq_iff_eq, decide_eq_true_iff, Bytes.compare_eq_lt]

/-- A key lies behind bytes that bound the range if it does not come before them. -/
theorem isBehind_raw (stop key : Bytes) :
    isBehind (.raw stop) key = .ok (decide (stop ≠ [] ∧ stop ≤ key)) := by
  have compared : (Value.raw key).atLeast (.raw stop) = .ok (compare key stop != .lt) := by
    unfold Value.atLeast Value.order
    cases compare key stop <;> rfl
  unfold isBehind
  cases stop with
  | nil => rfl
  | cons byte rest =>
    have bounds : (Value.raw (byte :: rest)).isTruthy = true := rfl
    rw [if_pos bounds, compared]
    congr 1
    rw [Bool.eq_iff_iff, bne_iff_ne, decide_eq_true_iff, ne_eq, Bytes.compare_eq_lt, List.not_lt]
    exact (and_iff_right nofun).symm

/-- The rows between bytes are those of the range. -/
theorem between_raw (start stop : Bytes) {entries : List (Bytes × Row)}
    (sorted : StrictlySorted entries) :
    between (.raw start) (.raw stop) entries =
      .ok (entries.filter fun entry => KeyRange.contains ⟨start, stop⟩ entry.1) := by
  induction entries with
  | nil => rfl
  | cons entry rest ih =>
    obtain ⟨key, row⟩ := entry
    obtain ⟨first, others⟩ := List.pairwise_cons.1 sorted
    rw [between, less_raw, isBehind_raw, ih others]
    by_cases early : key < start
    · have outside : KeyRange.contains ⟨start, stop⟩ key = false :=
        Bool.eq_false_iff.2 fun inside => List.not_lt.2 (contains_iff.1 inside).1 early
      rw [List.filter_cons, if_neg (Bool.eq_false_iff.1 outside), decide_eq_true early]
      rfl
    rw [decide_eq_false early]
    by_cases late : stop ≠ [] ∧ stop ≤ key
    · -- Whatever comes later lies behind the bound as well.
      have none_inside : ∀ later ∈ (key, row) :: rest,
          ¬ KeyRange.contains ⟨start, stop⟩ later.1 = true := by
        intro later listed inside
        have after : stop ≤ later.1 := by
          rcases List.mem_cons.1 listed with rfl | listed
          · exact late.2
          · exact Bytes.le_iff.2 (.inl (Std.lt_of_le_of_lt late.2
              (Bytes.compare_eq_lt.1 (first later listed))))
        rcases (contains_iff.1 inside).2 with empty | before
        · exact late.1 empty
        · exact List.not_lt.2 after before
      rw [List.filter_eq_nil_iff.2 none_inside, decide_eq_true late]
      rfl
    · have inside : KeyRange.contains ⟨start, stop⟩ key = true := by
        refine contains_iff.2 ⟨List.not_lt.1 early, ?_⟩
        by_cases empty : stop = []
        · exact .inl empty
        · exact .inr (List.not_le.1 fun after => late ⟨empty, after⟩)
      rw [List.filter_cons, if_pos inside, decide_eq_false late]
      rfl

/-- A scan between bytes is the scan of their range. -/
theorem scanBetween_raw (store : Store) (name start stop : Bytes) (columns : Columns)
    (filter : Option Filter) (limit : Option Nat) :
    store.scanBetween name (.raw start) (.raw stop) columns filter limit =
      store.scan name ⟨start, stop⟩ columns filter limit := by
  unfold scanBetween scan
  refine bind_congr fun table => bind_congr fun _ => ?_
  rw [between_raw start stop table.rows.sorted]

/-- A scan from a bound that has no order with keys fails at the first row. -/
theorem scanBetween_unordered {store : Store} {name : Bytes} {table : Table}
    (found : store.tables.get? name = some table) (rows : table.rows.entries ≠ []) {start : Value}
    {fault : Misuse} (unordered : ∀ key : Bytes, (Value.raw key).less start = .error fault)
    (stop : Value) (filter : Option Filter) (limit : Option Nat) :
    store.scanBetween name start stop .all filter limit = .error (.misuse fault) := by
  obtain ⟨first, rest, entries⟩ := List.exists_cons_of_ne_nil rows
  have failed : between start stop table.rows.entries = .error fault := by
    rw [entries, between, unordered]
    rfl
  unfold scanBetween Store.table
  rw [found]
  have checked : table.checkColumns name .all = .ok () := rfl
  simp only [bind, Except.bind, checked, failed]
  rfl

/-! ## Rows without cells -/

/-- Nothing is selected from a row without cells, and no filter sees it. -/
theorem select_empty (key : Bytes) (columns : Columns) (filter : Option Filter) :
    select key .empty columns filter = .ok [] := by
  cases filter <;> rfl

/-- A row that a read finds empty can be inserted among those that are collected. -/
theorem collect_insertIn {read : Bytes → Row → Except Error (List Cell)} {key : Bytes} {row : Row}
    (empty : read key row = .ok []) {entries : List (Bytes × Row)}
    (absent : SortedMap.findIn key entries = none) (test : Bytes × Row → Bool)
    (limit : Option Nat) :
    collect read limit ((SortedMap.insertIn key row entries).filter test) =
      collect read limit (entries.filter test) := by
  have skipped (rest : List (Bytes × Row)) (limit : Option Nat) :
      collect read limit (((key, row) :: rest).filter test) =
        collect read limit (rest.filter test) := by
    rw [List.filter_cons]
    split
    · exact collect_skip empty
    · rfl
  -- Each row that is found lowers the limit, so the induction is over all limits.
  induction entries generalizing limit with
  | nil => exact skipped [] limit
  | cons entry rest ih =>
    obtain ⟨other, cells⟩ := entry
    rw [SortedMap.findIn] at absent
    rw [SortedMap.insertIn]
    cases order : compare key other with
    | eq => rw [if_pos order] at absent; cases absent
    | lt => exact skipped _ limit
    | gt =>
      have later := ih (by rwa [order, if_neg (by decide)] at absent)
      simp only [List.filter_cons]
      split
      · simp only [collect, later]
      · exact later limit

/-- Whether a call only reads. -/
def Call.isRead : Call → Bool
  | tableExists .. | get .. | scan .. => true
  | _ => false

/-- One store is another with one row more, which has no cells. -/
structure GainsRow (name key : Bytes) (before after : Store) : Prop where
  /-- No write is counted. -/
  writes : after.writes = before.writes
  /-- The tables are the same, with the same families. -/
  families : ∀ other, (after.tables.get? other).map Table.families =
    (before.tables.get? other).map Table.families
  /-- The row was not there. -/
  absent : before.row? name key = none
  /-- It is there now, without cells. -/
  gained : after.row? name key = some .empty
  /-- Every other row is the same. -/
  others : ∀ table row, (table, row) ≠ (name, key) → after.row? table row = before.row? table row
  /-- No cell anywhere is another. -/
  cells : ∀ place, after.cell? place = before.cell? place
  /-- Whatever is read between keys, the answer is the same. -/
  answers : ∀ call : Call, call.isRead = true → (call.run after).1 = (call.run before).1
  /-- A scan of the table from a bound that has no order with keys fails. -/
  shows : ∀ (start : Value) (fault : Misuse),
    (∀ other : Bytes, (Value.raw other).less start = .error fault) → ∀ stop filter limit,
      after.scanBetween name start stop .all filter limit = .error (.misuse fault)

/-! ## One row more -/

section Gain

variable {store : Store} {name key : Bytes} {table : Table}

/-- The store with a row without cells. -/
def withRow (store : Store) (name : Bytes) (table : Table) (key : Bytes) : Store :=
  store.setTable name (table.setRow key .empty)

/-- The table that gains the row, and the others. -/
theorem get?_withRow (other : Bytes) :
    (store.withRow name table key).tables.get? other =
      if name = other then some (table.setRow key .empty) else store.tables.get? other := by
  unfold withRow setTable
  rw [SortedMap.insert_eq_alter]
  by_cases same : name = other
  · subst same
    rw [SortedMap.get?_alter_self, if_pos rfl]
  · rw [SortedMap.get?_alter_ne _ same, if_neg same]

variable (found : store.tables.get? name = some table) (absent : table.rows.get? key = none)
include found

/-- The tables of a store that gains a row. -/
theorem families_withRow (other : Bytes) :
    ((store.withRow name table key).tables.get? other).map Table.families =
      (store.tables.get? other).map Table.families := by
  rw [get?_withRow]
  split
  · next same => subst same; rw [found]; rfl
  · rfl

/-- The rows of a store that gains one. -/
theorem row?_withRow (other row : Bytes) :
    (store.withRow name table key).row? other row =
      if (other, row) = (name, key) then some .empty else store.row? other row := by
  unfold row?
  rw [get?_withRow]
  by_cases same : name = other
  · subst same
    rw [if_pos rfl, found]
    show (table.rows.insert key .empty).get? row = _
    rw [SortedMap.insert_eq_alter]
    by_cases here : key = row
    · subst here
      rw [SortedMap.get?_alter_self, if_pos rfl]
    · rw [SortedMap.get?_alter_ne _ here, if_neg fun same => here (congrArg Prod.snd same).symm]
      rfl
  · rw [if_neg same, if_neg fun equal => same (congrArg Prod.fst equal).symm]

include absent

/-- A read of a row that is gained finds nothing, as it did before. -/
theorem get_withRow (other row : Bytes) (columns : Columns) (filter : Option Filter) :
    (store.withRow name table key).get other row columns filter =
      store.get other row columns filter := by
  unfold get Store.table
  rw [get?_withRow]
  by_cases same : name = other
  · subst same
    rw [if_pos rfl, found]
    have rows : (table.setRow key .empty).rows = table.rows.alter key fun _ => some .empty :=
      SortedMap.insert_eq_alter ..
    have checks : (table.setRow key .empty).checkColumns name columns =
      table.checkColumns name columns := rfl
    simp only [bind, Except.bind, rows, checks]
    by_cases here : key = row
    · subst here
      rw [SortedMap.get?_alter_self, absent]
      simp only [select_empty]
      rfl
    · rw [SortedMap.get?_alter_ne _ here]
  · rw [if_neg same]

/-- A scan leaves out a row that is gained. -/
theorem scan_withRow (other : Bytes) (range : KeyRange) (columns : Columns)
    (filter : Option Filter) (limit : Option Nat) :
    (store.withRow name table key).scan other range columns filter limit =
      store.scan other range columns filter limit := by
  unfold scan Store.table
  rw [get?_withRow]
  by_cases same : name = other
  · subst same
    rw [if_pos rfl, found]
    have left_out :
        collect (fun key row => select key row columns filter) limit
            ((SortedMap.insertIn key SortedMap.empty table.rows.entries).filter
              fun entry => range.contains entry.1) =
          collect (fun key row => select key row columns filter) limit
            (table.rows.entries.filter fun entry => range.contains entry.1) :=
      collect_insertIn (select_empty key columns filter) absent _ limit
    show (do
      table.checkColumns name columns
      collect (fun key row => select key row columns filter) limit
        ((SortedMap.insertIn key SortedMap.empty table.rows.entries).filter
          fun entry => range.contains entry.1)) = _
    rw [left_out]
    rfl
  · rw [if_neg same]

/-- A store gains a row without cells, and nothing else. -/
theorem gainsRow_withRow : GainsRow name key store (store.withRow name table key) := by
  have before : store.row? name key = none := by
    unfold row?
    rw [found]
    exact absent
  refine ⟨rfl, families_withRow found, before, ?_, fun other row apart => ?_, fun place => ?_,
    fun call isRead => ?_, fun start fault unordered => ?_⟩
  · rw [row?_withRow found, if_pos rfl]
  · rw [row?_withRow found, if_neg apart]
  · unfold cell?
    rw [row?_withRow found]
    split
    · next same =>
      obtain ⟨rfl, rfl⟩ := Prod.mk.inj same
      rw [before]
      rfl
    · rfl
  · cases call with
    | tableExists other =>
      have stands : (store.withRow name table key).hasTable other = store.hasTable other := by
        have declared :
            (((store.withRow name table key).tables.get? other).map Table.families).isSome =
              ((store.tables.get? other).map Table.families).isSome :=
          congrArg Option.isSome (families_withRow found other)
        rwa [Option.isSome_map, Option.isSome_map] at declared
      exact congrArg (fun flag => Except.ok (Reply.flag flag)) stands
    | get other row columns filter =>
      exact congrArg (Except.map Reply.cells) (get_withRow found absent other row columns filter)
    | scan other range columns filter limit =>
      exact congrArg (Except.map Reply.rows)
        (scan_withRow found absent other range columns filter limit)
    | createTable | deleteTable | put | append | delete => cases isRead
  · have stands : (store.withRow name table key).tables.get? name =
        some (table.setRow key .empty) := by rw [get?_withRow, if_pos rfl]
    refine scanBetween_unordered stands (fun none_there => ?_) unordered
    have gained : (table.rows.insert key SortedMap.empty).get? key = some .empty := by
      rw [SortedMap.insert_eq_alter, SortedMap.get?_alter_self]
    unfold SortedMap.get? at gained
    rw [show (table.rows.insert key SortedMap.empty).entries = [] from none_there] at gained
    cases gained

end Gain

/-! ## Calls that fail -/

/-- A call that leaves a row without cells: an append of something that holds no bytes, where there
is the table and its family but not the row. -/
inductive Call.LeavesRow (store : Store) (name key : Bytes) : Call → Prop
  /-- An append. -/
  | append {coordinate : Coordinate} {value : Value} {table : Table} {fault : Error}
    (found : store.tables.get? name = some table)
    (declared : coordinate.family ∈ table.families) (absent : table.rows.get? key = none)
    (unusable : Comparator.bytesOf value = .error fault) :
    LeavesRow store name key (.append name key coordinate value)

/-- Putting a row that stands in a table in its place changes nothing. -/
theorem setTable_standing {store : Store} {name key : Bytes} {table : Table} {row : Row}
    (found : store.tables.get? name = some table) (stands : table.rows.get? key = some row) :
    store.setTable name (table.setRow key row) = store := by
  have altered : store.setTable name (table.setRow key row) = store.alterRow name key id :=
    setTable_setRow found stands
  rw [altered]
  unfold alterRow
  rw [SortedMap.alter_unchanged]
  rw [found]
  show some (table.alterRow key id) = some table
  unfold Table.alterRow
  rw [SortedMap.alter_unchanged _ rfl]

/-- An append that leaves a row without cells fails for its value. -/
theorem append_leaves {store : Store} {name key : Bytes} {coordinate : Coordinate} {value : Value}
    {table : Table} {fault : Error} (found : store.tables.get? name = some table)
    (declared : coordinate.family ∈ table.families) (absent : table.rows.get? key = none)
    (unusable : Comparator.bytesOf value = .error fault) :
    store.append name key coordinate value = (.error fault, store.withRow name table key) := by
  have checked : table.checkFamily name coordinate.family = .ok () :=
    if_pos (List.contains_iff_mem.2 declared)
  have empty : table.row key = .empty := congrArg (fun row : Option Row => row.getD .empty) absent
  simp only [append, Store.table, found, checked, unusable, empty]
  rfl

/-- Any other append that fails leaves the store as it was. -/
theorem append_keeps {store : Store} {name key : Bytes} {coordinate : Coordinate} {value : Value}
    {error : Error} (failed : (store.append name key coordinate value).1 = .error error)
    (other : ¬ (Call.append name key coordinate value).LeavesRow store name key) :
    (store.append name key coordinate value).2 = store := by
  unfold append Store.table at failed ⊢
  cases found : store.tables.get? name with
  | none => rfl
  | some table =>
    rw [found] at failed
    cases checked : table.checkFamily name coordinate.family with
    | error refusal => simp only [checked]
    | ok _ =>
      cases bytes : Comparator.bytesOf value with
      | ok data =>
        simp only [checked, bytes] at failed
        cases failed
      | error fault =>
        simp only [checked]
        cases stands : table.rows.get? key with
        | some row =>
          have same : table.row key = row :=
            congrArg (fun row : Option Row => row.getD .empty) stands
          rw [same]
          exact setTable_standing found stands
        | none =>
          have declared : coordinate.family ∈ table.families := by
            unfold Table.checkFamily at checked
            split at checked
            · next listed => exact List.contains_iff_mem.1 listed
            · cases checked
          exact absurd (.append found declared stands bytes) other

/-- A call that fails leaves the store exactly as it was, unless it is an append that leaves a row
without cells; and that row is all that it leaves. -/
theorem failed_call_leaves {store : Store} {call : Call} {error : Error}
    (failed : (call.run store).1 = .error error) :
    ((call.run store).2 = store ↔ ∀ name key, ¬ call.LeavesRow store name key) ∧
      ∀ name key, call.LeavesRow store name key →
        GainsRow name key store (call.run store).2 := by
  have gains {name key : Bytes} (leaves : call.LeavesRow store name key) :
      GainsRow name key store (call.run store).2 := by
    obtain ⟨found, declared, absent, unusable⟩ := leaves
    rw [Call.run_append, append_leaves found declared absent unusable]
    exact gainsRow_withRow found absent
  refine ⟨⟨fun same name key leaves => ?_, fun none_left => ?_⟩, fun _ _ => gains⟩
  · have row := gains leaves
    rw [same] at row
    cases row.absent.symm.trans row.gained
  · -- All calls but appends change nothing unless they succeed.
    have unchanged {result : Except Error Store}
        (failed : (Call.changing store result).1 = .error error) :
        (Call.changing store result).2 = store := by
      cases result with
      | ok after => cases failed
      | error refusal => rfl
    cases call with
    | tableExists | get | scan => rfl
    | createTable | deleteTable | put | delete => exact unchanged failed
    | append name key coordinate value =>
      rw [Call.run_append] at failed ⊢
      cases outcome : (store.append name key coordinate value).1 with
      | ok cell => rw [outcome] at failed; cases failed
      | error refusal => exact append_keeps outcome (none_left name key)

/-- A table without rows. -/
def oneTable : Store := Store.empty.after [.createTable [116] [[102]]]

/-- An append of nothing at all. -/
def appendNone : Call := .append [116] [114] ⟨[102], [113]⟩ .none

/-- The append fails and leaves its row. -/
theorem failed_call_leaves_ofNone :
    (appendNone.run oneTable).1 = .error (.misuse (.notBytes "NoneType")) ∧
      GainsRow [116] [114] oneTable (appendNone.run oneTable).2 := by
  have failed : (appendNone.run oneTable).1 = .error (.misuse (.notBytes "NoneType")) := rfl
  have leaves : appendNone.LeavesRow oneTable [116] [114] :=
    .append (show oneTable.tables.get? [116] = some ⟨[[102]], .empty⟩ from rfl)
      (List.mem_singleton.2 rfl) rfl rfl
  exact ⟨failed, (failed_call_leaves failed).2 [116] [114] leaves⟩

/-- Where a put of nothing at all leaves everything as it was, the append leaves a row, and a scan
from a text tells the difference. -/
theorem failed_append_changes_store :
    ((Call.put [116] [114] ⟨[102], [113]⟩ .none).run oneTable).2 = oneTable ∧
      (appendNone.run oneTable).1 = .error (.misuse (.notBytes "NoneType")) ∧
      oneTable.row? [116] [114] = none ∧
      (appendNone.run oneTable).2.row? [116] [114] = some .empty ∧
      oneTable.scanBetween [116] (.string "a") (.raw []) .all none none = .ok [] ∧
      (appendNone.run oneTable).2.scanBetween [116] (.string "a") (.raw []) .all none none =
        .error (.misuse (.notOrdered "<" "bytes" "str")) :=
  ⟨rfl, rfl, rfl, rfl, rfl, rfl⟩

end WideColumn.Store
