import Mathlib.Data.List.DropRight
import WideColumn.Proofs.Store.Cells

/-!
# What a history says

What a read finds can be told from the calls that succeeded before, without going through the store:
a cell is there if it was written since it was last cleared, its value is that of the last put with
the appends after it, and its timestamp is its number among all writes of the store. Reading a
history so and running it agree.
-/
namespace WideColumn.Store

/-- The calls of a history that succeed, in order. -/
def succeeded (store : Store) : List Call → List Call
  | [] => []
  | call :: rest =>
    match call.run store with
    | (.ok _, after) => call :: succeeded after rest
    | (.error _, after) => succeeded after rest

/-! ## Reading a history -/

/-- The puts and appends of a cell since it was last cleared, in order. -/
def standing (place : Place) (calls : List Call) : List Call :=
  (calls.rtakeWhile fun call => !call.clears place).filter fun call => call.writes place

/-- The value of the last put, empty if there is none, with the values of the appends after it. -/
def combined (calls : List Call) : Bytes :=
  (calls.rdropWhile Call.isAppend).getLast?.elim [] Call.data ++
    (calls.rtakeWhile Call.isAppend).flatMap Call.data

/-- How many puts and appends there were on the whole store up to the last one of a cell. -/
def stamp (place : Place) (calls : List Call) : Nat :=
  (calls.rdropWhile fun call => !call.writes place).countP Call.isWrite

/-- What a history says about a cell. -/
def told (place : Place) (calls : List Call) : Option Entry :=
  if (standing place calls).isEmpty then none
  else some ⟨combined (standing place calls), stamp place calls⟩

/-- A call that writes a cell is a put or an append. -/
theorem Call.isWrite_of_writes {call : Call} {place : Place} (writes : call.writes place = true) :
    call.isWrite = true := by
  cases call with
  | put | append => rfl
  | createTable | deleteTable | tableExists | get | delete | scan => cases writes

/-- A cell is not written by what clears it. -/
theorem standing_concat (place : Place) (calls : List Call) (call : Call) :
    standing place (calls ++ [call]) =
      if call.clears place then []
      else if call.writes place then standing place calls ++ [call]
      else standing place calls := by
  unfold standing
  rw [List.rtakeWhile_concat]
  cases clears : call.clears place with
  | true => rfl
  | false =>
    simp only [Bool.not_false, ↓reduceIte, List.filter_append, Bool.false_eq_true]
    cases writes : call.writes place with
    | true => simp [writes]
    | false => simp [writes]

/-- One put or append more. -/
theorem combined_concat (calls : List Call) (call : Call) :
    combined (calls ++ [call]) = call.extended (combined calls) := by
  unfold combined Call.extended
  rw [List.rdropWhile_concat, List.rtakeWhile_concat]
  cases isAppend : call.isAppend with
  | true => simp [List.append_assoc]
  | false => simp

/-- A write of the cell counts all writes so far and itself, and any other call changes nothing. -/
theorem stamp_concat (place : Place) (calls : List Call) (call : Call) :
    stamp place (calls ++ [call]) =
      if call.writes place then calls.countP Call.isWrite + 1 else stamp place calls := by
  unfold stamp
  rw [List.rdropWhile_concat]
  cases writes : call.writes place with
  | true => simp [Call.isWrite_of_writes writes]
  | false => simp

/-- With one call more a history says of a cell what the call makes of it. -/
theorem told_concat (place : Place) (calls : List Call) (call : Call) :
    told place (calls ++ [call]) =
      call.makes place (calls.countP Call.isWrite + 1) (told place calls) := by
  have value : (told place calls).elim [] Entry.value = combined (standing place calls) := by
    unfold told
    cases found : standing place calls with
    | nil => rfl
    | cons first rest => rfl
  unfold Call.makes
  rw [value]
  unfold told
  rw [standing_concat, stamp_concat]
  cases clears : call.clears place with
  | true => rfl
  | false =>
    cases writes : call.writes place with
    | true =>
      simp only [Bool.false_eq_true, ↓reduceIte, combined_concat]
      rw [if_neg]
      simp
    | false => rfl

/-! ## Timestamps -/

/-- No timestamp is above the number of writes. -/
theorem stamp_le (place : Place) (calls : List Call) :
    stamp place calls ≤ calls.countP Call.isWrite :=
  (List.rdropWhile_prefix ..).sublist.countP_le

/-- What was written in a later part of a history has a timestamp above all of the earlier part. -/
theorem lt_stamp {place : Place} (earlier later : List Call)
    (written : ∃ call ∈ later, call.writes place = true) :
    earlier.countP Call.isWrite < stamp place (earlier ++ later) := by
  induction later using List.reverseRecOn with
  | nil =>
    obtain ⟨_, listed, _⟩ := written
    cases listed
  | append_singleton later call ih =>
    rw [← List.append_assoc, stamp_concat]
    cases writes : call.writes place with
    | true =>
      rw [if_pos rfl, List.countP_append]
      omega
    | false =>
      rw [if_neg Bool.false_ne_true]
      apply ih
      obtain ⟨other, listed, wrote⟩ := written
      rcases List.mem_append.mp listed with older | new
      · exact ⟨other, older, wrote⟩
      · rw [List.mem_singleton.mp new, writes] at wrote
        cases wrote

/-- A call writes one cell at most. -/
theorem Call.writes_unique {call : Call} {place other : Place} (here : call.writes place = true)
    (there : call.writes other = true) : place = other := by
  cases call with
  | put | append => exact (of_decide_eq_true here).symm.trans (of_decide_eq_true there)
  | createTable | deleteTable | tableExists | get | delete | scan => cases here

/-- No two cells that were written have one timestamp. -/
theorem stamp_inj {place other : Place} (calls : List Call)
    (here : ∃ call ∈ calls, call.writes place = true)
    (there : ∃ call ∈ calls, call.writes other = true)
    (same : stamp place calls = stamp other calls) : place = other := by
  induction calls using List.reverseRecOn with
  | nil =>
    obtain ⟨_, listed, _⟩ := here
    cases listed
  | append_singleton calls call ih =>
    -- Whoever was not written last was written before.
    have before {place : Place} (written : ∃ call' ∈ calls ++ [call], call'.writes place = true)
        (not_last : call.writes place = false) : ∃ call ∈ calls, call.writes place = true := by
      obtain ⟨one, listed, wrote⟩ := written
      rcases List.mem_append.mp listed with older | new
      · exact ⟨one, older, wrote⟩
      · rw [List.mem_singleton.mp new, not_last] at wrote
        cases wrote
    have below := stamp_le place calls
    have below' := stamp_le other calls
    rw [stamp_concat, stamp_concat] at same
    cases wrote : call.writes place with
    | true =>
      cases wrote' : call.writes other with
      | true => exact call.writes_unique wrote wrote'
      | false =>
        simp only [wrote, wrote', ↓reduceIte, Bool.false_eq_true] at same
        omega
    | false =>
      cases wrote' : call.writes other with
      | true =>
        simp only [wrote, wrote', ↓reduceIte, Bool.false_eq_true] at same
        omega
      | false =>
        simp only [wrote, wrote', Bool.false_eq_true, ↓reduceIte] at same
        exact ih (before here wrote) (before there wrote') same

/-- What stands was written. -/
theorem exists_writes {place : Place} {calls : List Call} (stands : standing place calls ≠ []) :
    ∃ call ∈ calls, call.writes place = true := by
  obtain ⟨call, listed⟩ := List.exists_mem_of_ne_nil _ stands
  obtain ⟨kept, writes⟩ := List.mem_filter.mp listed
  exact ⟨call, (List.rtakeWhile_suffix ..).subset kept, writes⟩

/-! ## Running a history -/

/-- A store after calls that succeeded: the counter counts them, and every cell is as they say. -/
structure Told (calls : List Call) (store : Store) : Prop where
  /-- The counter counts puts and appends. -/
  writes : store.writes = calls.countP Call.isWrite
  /-- Every cell of a table that is there is as the calls say. -/
  cells : ∀ place, store.hasTable place.table = true → store.cell? place = told place calls

/-- The store without tables is as no calls say. -/
theorem Told.empty : Told [] Store.empty :=
  ⟨rfl, fun _ known => (nomatch known)⟩

/-- A call that succeeds is one more. -/
theorem Told.succeed {calls : List Call} {call : Call} {store after : Store}
    (so_far : Told calls store) (succeeds : call.Succeeded store after) :
    Told (calls ++ [call]) after := by
  constructor
  · rw [succeeds.writes, so_far.writes, List.countP_append, List.countP_singleton]
    cases call.isWrite <;> rfl
  · intro place known
    rw [succeeds.cells place known, told_concat, so_far.writes]
    rcases succeeds.hasTable place known with was | clears
    · rw [so_far.cells place was]
    · unfold Call.makes
      rw [if_pos clears, if_pos clears]

/-- A call that is refused is none. -/
theorem Told.refuse {calls : List Call} {store after : Store} (so_far : Told calls store)
    (refused : Call.Refused store after) : Told calls after := by
  constructor
  · rw [refused.writes, so_far.writes]
  · intro place known
    rw [refused.hasTable] at known
    rw [refused.cells place known, so_far.cells place known]

/-- After a history the store is as the calls say that succeeded. -/
theorem Told.after {calls : List Call} {store : Store} (so_far : Told calls store)
    (history : List Call) : Told (calls ++ store.succeeded history) (store.after history) := by
  induction history generalizing calls store with
  | nil =>
    rw [show store.succeeded [] = [] from rfl, List.append_nil]
    exact so_far
  | cons call rest ih =>
    show Told _ ((call.run store).2.after rest)
    cases answer : (call.run store).1 with
    | ok reply =>
      have listed : store.succeeded (call :: rest) =
          [call] ++ (call.run store).2.succeeded rest := by
        rw [succeeded, show call.run store = (.ok reply, (call.run store).2) from
          Prod.ext answer rfl]
        rfl
      rw [listed, ← List.append_assoc]
      exact ih (so_far.succeed (Call.run_ok answer))
    | error error =>
      have unlisted : store.succeeded (call :: rest) = (call.run store).2.succeeded rest := by
        rw [succeeded, show call.run store = (.error error, (call.run store).2) from
          Prod.ext answer rfl]
      rw [unlisted]
      exact ih (so_far.refuse (Call.run_error answer))

/-- What succeeds of two parts of a history. -/
theorem succeeded_append (store : Store) (earlier later : List Call) :
    store.succeeded (earlier ++ later) =
      store.succeeded earlier ++ (store.after earlier).succeeded later := by
  induction earlier generalizing store with
  | nil => rfl
  | cons call rest ih =>
    have next := ih (call.run store).2
    rw [List.cons_append, succeeded, succeeded]
    cases answered : call.run store with
    | mk reply after =>
      rw [answered] at next
      cases reply with
      | ok reply =>
        rw [show store.after (call :: rest) = after.after rest by
          show (call.run store).2.after rest = _
          rw [answered]]
        exact congrArg (call :: ·) next
      | error error =>
        rw [show store.after (call :: rest) = after.after rest by
          show (call.run store).2.after rest = _
          rw [answered]]
        exact next

/-! ## Reading a row -/

/-- A cell is its row, its coordinate, its value and its timestamp. -/
theorem cell_ext {cell other : Cell} (row : cell.row = other.row)
    (coordinate : cell.coordinate = other.coordinate) (value : cell.value = other.value)
    (timestamp : cell.timestamp = other.timestamp) : cell = other := by
  obtain ⟨family, qualifier⟩ := Coordinate.mk.inj coordinate
  cases cell
  cases other
  simp only at row family qualifier value timestamp
  subst row family qualifier value timestamp
  rfl

/-- A cell is in a row exactly if it stands there. -/
theorem mem_cells {key : Bytes} {row : Row} {cell : Cell} :
    cell ∈ row.cells key ↔
      cell.row = key ∧ row.get? cell.coordinate = some ⟨cell.value, cell.timestamp⟩ := by
  unfold Row.cells
  rw [List.mem_map]
  constructor
  · rintro ⟨⟨coordinate, entry⟩, stands, rfl⟩
    exact ⟨rfl, (SortedMap.get?_eq_some_iff row).mpr stands⟩
  · rintro ⟨rfl, stands⟩
    exact ⟨_, (SortedMap.get?_eq_some_iff row).mp stands, rfl⟩

/-- The cells of a row come in order, each coordinate once. -/
theorem sorted_cells (key : Bytes) (row : Row) :
    (row.cells key).Pairwise fun one other =>
      compare one.coordinate other.coordinate = .lt :=
  List.pairwise_map.mpr row.sorted

/-- Nothing is left out of a row without restrictions. -/
theorem select_all (key : Bytes) (row : Row) : select key row .all none = .ok (row.cells key) :=
  congrArg Except.ok (List.filter_eq_self.mpr fun _ _ => rfl)

/-- A read of a row without restrictions gives all its cells. -/
theorem get_all {store : Store} {name : Bytes} {table : Table}
    (found : store.tables.get? name = some table) (key : Bytes) :
    store.get name key .all none = .ok ((table.row key).cells key) := by
  unfold get Store.table Table.row
  rw [found]
  simp only [bind, Except.bind, Table.checkColumns, Columns.all]
  cases table.rows.get? key with
  | none => rfl
  | some row => exact select_all key row

/-- What stands at a place of a table is what stands in the row of the table. -/
theorem cell?_eq {store : Store} {name : Bytes} {table : Table}
    (found : store.tables.get? name = some table) (key : Bytes) (coordinate : Coordinate) :
    store.cell? ⟨name, key, coordinate⟩ = (table.row key).get? coordinate := by
  unfold cell? row? Table.row
  rw [found]
  rfl

/-- Whether a read of a row without restrictions finds a cell. -/
def Finds (store : Store) (name key : Bytes) (cell : Cell) : Prop :=
  ∃ cells, store.get name key .all none = .ok cells ∧ cell ∈ cells

/-- A cell is found exactly if its table is there and it stands at its place. -/
theorem finds_iff (store : Store) (name key : Bytes) (cell : Cell) :
    store.Finds name key cell ↔
      store.hasTable name = true ∧ cell.row = key ∧
        store.cell? ⟨name, key, cell.coordinate⟩ = some ⟨cell.value, cell.timestamp⟩ := by
  constructor
  · rintro ⟨cells, read, listed⟩
    cases found : store.tables.get? name with
    | none =>
      unfold get Store.table at read
      rw [found] at read
      cases read
    | some table =>
      rw [get_all found] at read
      cases read
      rw [cell?_eq found]
      exact ⟨(store.hasTable_iff name).mpr ⟨table, found⟩, mem_cells.mp listed⟩
  · rintro ⟨known, stands⟩
    obtain ⟨table, found⟩ := (store.hasTable_iff name).mp known
    rw [cell?_eq found] at stands
    exact ⟨_, get_all found key, mem_cells.mpr stands⟩

/-- What is told of a cell is that it stands, with its value and its timestamp. -/
theorem told_eq_some_iff (place : Place) (calls : List Call) (value : Bytes) (timestamp : Nat) :
    told place calls = some ⟨value, timestamp⟩ ↔
      standing place calls ≠ [] ∧ value = combined (standing place calls) ∧
        timestamp = stamp place calls := by
  unfold told
  cases standing place calls with
  | nil => simp
  | cons first rest => simp [eq_comm]

/-- A read finds what is told. -/
theorem Told.finds_iff {calls : List Call} {store : Store} (so_far : Told calls store)
    (name key : Bytes) (cell : Cell) :
    store.Finds name key cell ↔
      store.hasTable name = true ∧ cell.row = key ∧
        standing ⟨name, key, cell.coordinate⟩ calls ≠ [] ∧
        cell.value = combined (standing ⟨name, key, cell.coordinate⟩ calls) ∧
        cell.timestamp = stamp ⟨name, key, cell.coordinate⟩ calls := by
  rw [store.finds_iff, ← told_eq_some_iff]
  refine and_congr_right fun known => ?_
  rw [so_far.cells _ known]

/-- The store after a history is as the calls say that succeeded. -/
theorem told_after (history : List Call) :
    Told (Store.empty.succeeded history) (Store.empty.after history) :=
  Told.empty.after history

/-- A read of a row after a history finds, in order of the coordinates, the cells that were written
since they were last cleared. The value of a cell is what its puts and appends since then make of
it, and its timestamp is the number of writes of the whole store up to its last one. So two cells
never share a timestamp, and whatever is written later has a timestamp above all that were found
before. -/
theorem read_after_history (history : List Call) :
    (∀ name key, (Store.empty.after history).hasTable name = true →
      ∃ cells, (Store.empty.after history).get name key .all none = .ok cells ∧
        cells.Pairwise (fun one other => compare one.coordinate other.coordinate = .lt) ∧
        ∀ cell, cell ∈ cells ↔
          cell.row = key ∧
          standing ⟨name, key, cell.coordinate⟩ (Store.empty.succeeded history) ≠ [] ∧
          cell.value =
            combined (standing ⟨name, key, cell.coordinate⟩ (Store.empty.succeeded history)) ∧
          cell.timestamp = stamp ⟨name, key, cell.coordinate⟩ (Store.empty.succeeded history)) ∧
    (∀ name key cell name' key' cell',
      (Store.empty.after history).Finds name key cell →
      (Store.empty.after history).Finds name' key' cell' →
      cell.timestamp = cell'.timestamp → name = name' ∧ cell = cell') ∧
    ∀ earlier later, history = earlier ++ later →
      ∀ name key cell name' key' cell',
        (Store.empty.after earlier).Finds name key cell →
        (Store.empty.after history).Finds name' key' cell' →
        (∃ call ∈ (Store.empty.after earlier).succeeded later,
          call.writes ⟨name', key', cell'.coordinate⟩ = true) →
        cell.timestamp < cell'.timestamp := by
  refine ⟨?_, ?_, ?_⟩
  · intro name key known
    obtain ⟨table, found⟩ := (hasTable_iff _ name).mp known
    refine ⟨_, get_all found key, sorted_cells key _, ?_⟩
    intro cell
    rw [mem_cells, ← cell?_eq found, (told_after history).cells _ known, told_eq_some_iff]
  · intro name key cell name' key' cell' finds finds' same
    obtain ⟨_, row, stands, value, timestamp⟩ := ((told_after history).finds_iff ..).mp finds
    obtain ⟨_, row', stands', value', timestamp'⟩ := ((told_after history).finds_iff ..).mp finds'
    have places := stamp_inj _ (exists_writes stands) (exists_writes stands')
      (timestamp ▸ timestamp' ▸ same)
    obtain ⟨rfl, rfl, coordinates⟩ := Place.mk.inj places
    refine ⟨rfl, cell_ext (row.trans row'.symm) coordinates ?_ same⟩
    rw [value, value', coordinates]
  · rintro earlier later rfl name key cell name' key' cell' finds finds' written
    obtain ⟨_, _, _, _, timestamp⟩ := ((told_after earlier).finds_iff ..).mp finds
    obtain ⟨_, _, _, _, timestamp'⟩ := ((told_after (earlier ++ later)).finds_iff ..).mp finds'
    calc cell.timestamp
      _ = stamp ⟨name, key, cell.coordinate⟩ (Store.empty.succeeded earlier) := timestamp
      _ ≤ (Store.empty.succeeded earlier).countP Call.isWrite := stamp_le ..
      _ < stamp ⟨name', key', cell'.coordinate⟩
            (Store.empty.succeeded earlier ++
              (Store.empty.after earlier).succeeded later) := lt_stamp _ _ written
      _ = cell'.timestamp := by rw [← succeeded_append, timestamp']

/-- A table with one family, and a value in it. -/
def firstLife : List Call :=
  [.createTable [116] [[102]], .put [116] [107] ⟨[102], [113]⟩ (.raw [1])]

/-- The table is created anew, and the cell is written by two appends, with a put between them that
is refused for its family. -/
def secondLife : List Call :=
  [.deleteTable [116], .createTable [116] [[102]],
    .append [116] [107] ⟨[102], [113]⟩ (.raw [2]), .put [116] [107] ⟨[103], [113]⟩ (.raw [3]),
    .append [116] [107] ⟨[102], [113]⟩ (.raw [4])]

/-- Nothing is left of a table that was deleted but its timestamps, which are not used again. -/
theorem read_after_history_recreated :
    (Store.empty.after firstLife).Finds [116] [107] ⟨[107], [102], [113], [1], 1⟩ ∧
      (Store.empty.after (firstLife ++ secondLife)).Finds [116] [107]
        ⟨[107], [102], [113], [2, 4], 3⟩ ∧
      (∃ call ∈ (Store.empty.after firstLife).succeeded secondLife,
        call.writes ⟨[116], [107], ⟨[102], [113]⟩⟩ = true) ∧
      1 < 3 := by
  obtain ⟨cells, read, _, listed⟩ := (read_after_history firstLife).1 [116] [107] (by decide)
  obtain ⟨cells', read', _, listed'⟩ :=
    (read_after_history (firstLife ++ secondLife)).1 [116] [107] (by decide)
  have finds : (Store.empty.after firstLife).Finds [116] [107] ⟨[107], [102], [113], [1], 1⟩ :=
    ⟨cells, read, (listed _).mpr (by decide)⟩
  have finds' : (Store.empty.after (firstLife ++ secondLife)).Finds [116] [107]
      ⟨[107], [102], [113], [2, 4], 3⟩ := ⟨cells', read', (listed' _).mpr (by decide)⟩
  have written : ∃ call ∈ (Store.empty.after firstLife).succeeded secondLife,
      call.writes ⟨[116], [107], ⟨[102], [113]⟩⟩ = true :=
    List.any_eq_true.mp (by decide)
  exact ⟨finds, finds', written, (read_after_history (firstLife ++ secondLife)).2.2 _ _ rfl
    _ _ _ _ _ _ finds finds' written⟩

end WideColumn.Store
