import WideColumn.Deferred.Basic
import WideColumn.Proofs.Store.Writes

/-!
# Stores without timestamps

Without its timestamps a store is its rows, cells and values. What a write makes of these, and what
it answers apart from timestamps, does not depend on timestamps. Writes therefore have an effect and
an answer on stores without timestamps, and these say all there is to know about a sequence of
writes but the timestamps.
-/
namespace WideColumn

/-- A cell without its timestamp. -/
def Cell.timeless (cell : Cell) : Cell := { cell with timestamp := 0 }

/-- A result without timestamps. -/
def Result.timeless : Result → Result
  | .cells found => .cells (found.map Cell.timeless)
  | .rows found => .rows (found.map (·.map Cell.timeless))
  | other => other

/-- An outcome without timestamps. -/
def Outcome.timeless (outcome : Outcome) : Outcome := outcome.map Result.timeless

namespace Store

/-- An entry without its timestamp. -/
def Entry.timeless (entry : Entry) : Entry := { entry with timestamp := 0 }

/-- A row without timestamps. -/
def Row.timeless (row : Row) : Row := SortedMap.map Entry.timeless row

/-- A table without timestamps. -/
def Table.timeless (table : Table) : Table :=
  { table with rows := table.rows.map Row.timeless }

/-- A store without timestamps: its tables, rows, cells and values. -/
def timeless (store : Store) : Store := ⟨store.tables.map Table.timeless, 0⟩

/-- A row has the same value at a coordinate without timestamps. -/
theorem valueAt_timeless (row : Option Row) (coordinate : Coordinate) :
    valueAt (row.map Row.timeless) coordinate = valueAt row coordinate := by
  cases row with
  | none => rfl
  | some row =>
    show ((SortedMap.map Entry.timeless row).get? coordinate).elim [] Entry.value =
      (row.get? coordinate).elim [] Entry.value
    rw [SortedMap.get?_map]
    cases row.get? coordinate with
    | none => rfl
    | some entry => rfl

/-- Placing a cell, without timestamps. -/
theorem placed_timeless (coordinate : Coordinate) (entry : Entry) (row : Option Row) :
    (placed coordinate entry row).map Row.timeless =
      placed coordinate entry.timeless (row.map Row.timeless) := by
  have inside (cells : Row) : (cells.insert coordinate entry).map Entry.timeless =
      (cells.map Entry.timeless).insert coordinate entry.timeless := by
    rw [SortedMap.insert_eq_alter, SortedMap.insert_eq_alter]
    exact SortedMap.map_alter _ _ _ rfl
  cases row with
  | none => exact congrArg some (inside .empty)
  | some row => exact congrArg some (inside row)

/-- Removing columns, without timestamps. -/
theorem removed_timeless (columns : Columns) (row : Option Row) :
    (removed columns row).map Row.timeless = removed columns (row.map Row.timeless) := by
  cases row with
  | none => rfl
  | some row =>
    have rest : Row.timeless (row.outside columns) = (Row.timeless row).outside columns := by
      apply SortedMap.ext_get?
      intro coordinate
      unfold Row.timeless Row.outside
      rw [SortedMap.get?_map, SortedMap.get?_filter, SortedMap.get?_filter, SortedMap.get?_map]
      cases row.get? coordinate with
      | none => rfl
      | some entry =>
        cases columns.contains coordinate with
        | true => rfl
        | false => rfl
    have empty : ((Row.timeless row).outside columns).isEmpty = (row.outside columns).isEmpty := by
      rw [← rest]
      exact SortedMap.isEmpty_map _ _
    simp only [removed, Option.map_some, Option.bind_some, empty]
    split
    · rfl
    · rw [Option.map_some, rest]

/-- Altering a row, without timestamps. -/
theorem alterRow_timeless (store : Store) (name key : Bytes)
    {change changed : Option Row → Option Row}
    (same : ∀ row, (change row).map Row.timeless = changed (row.map Row.timeless)) :
    (store.alterRow name key change).timeless = store.timeless.alterRow name key changed := by
  have tables : (store.tables.alter name (Option.map (·.alterRow key change))).map Table.timeless =
      (store.tables.map Table.timeless).alter name (Option.map (·.alterRow key changed)) := by
    apply SortedMap.map_alter
    cases store.tables.get? name with
    | none => rfl
    | some table =>
      have rows := table.rows.map_alter Row.timeless key (same (table.rows.get? key))
      show some (Table.timeless (table.alterRow key change)) =
        some ((Table.timeless table).alterRow key changed)
      unfold Table.timeless Table.alterRow
      rw [rows]
  unfold timeless alterRow
  rw [tables]

/-- A row of a store without timestamps. -/
theorem row?_timeless (store : Store) (name key : Bytes) :
    store.timeless.row? name key = (store.row? name key).map Row.timeless := by
  unfold row? timeless
  rw [SortedMap.get?_map]
  cases store.tables.get? name with
  | none => rfl
  | some table => exact SortedMap.get?_map _ _ _

end Store

namespace Request

open Store

/-- What a write makes of a row, without timestamps. -/
theorem change_timeless (timestamp : Nat) (request : Request) (row : Option Row) :
    (request.change timestamp row).map Row.timeless = request.change 0 (row.map Row.timeless) := by
  cases request with
  | put name key coordinate value => exact placed_timeless coordinate _ row
  | append name key coordinate value =>
    simp only [change, valueAt_timeless]
    exact placed_timeless coordinate _ row
  | delete name key columns => exact removed_timeless columns row
  | get | scan => rfl

/-- Why a store refuses a write, if it does. -/
def refusal? (store : Store) (request : Request) : Option Error :=
  match request.admission store with
  | .error error => some error
  | .ok _ => none

/-- There is the table of a write that is not refused. -/
theorem table_of_refusal? {store : Store} {request : Request}
    (admitted : request.refusal? store = none) :
    ∃ table, store.tables.get? request.table = some table := by
  unfold refusal? at admitted
  cases found : request.admission store with
  | error error =>
    rw [found] at admitted
    cases admitted
  | ok table => exact ⟨table, (admission_ok found).1⟩

/-- Whether a write is refused does not depend on timestamps. -/
theorem refusal?_timeless (store : Store) (request : Request) :
    request.refusal? store.timeless = request.refusal? store := by
  unfold refusal? admission Store.table
  rw [show store.timeless.tables = store.tables.map Table.timeless from rfl, SortedMap.get?_map]
  cases store.tables.get? request.table with
  | none => rfl
  | some table =>
    have check : (Table.timeless table).checkColumns request.table ⟨request.family?, none⟩ =
        table.checkColumns request.table ⟨request.family?, none⟩ := rfl
    simp only [Option.map_some, check]
    cases table.checkColumns request.table ⟨request.family?, none⟩ with
    | error undeclared => rfl
    | ok done => rfl

/-- What a write makes of a store without timestamps. -/
def effect (store : Store) (request : Request) : Store :=
  match request.refusal? store with
  | some _ => store
  | none => store.alterRow request.table request.key (request.change 0)

/-- What a write resolves with or fails with on a store, without timestamps. -/
def answer (store : Store) (request : Request) : Outcome :=
  match request.refusal? store with
  | some error => .error (request.classify error)
  | none => .ok (request.result (request.reply 0 (store.row? request.table request.key)))

/-- A write has its effect on the rows, cells and values. -/
theorem run_timeless {request : Request} (isWrite : request.kind.isWrite = true) (store : Store) :
    (request.call.run store).2.timeless = request.effect store.timeless := by
  unfold effect
  rw [refusal?_timeless]
  unfold refusal?
  cases admitted : request.admission store with
  | error error =>
    rw [run_refused admitted]
  | ok table =>
    rw [run_admitted isWrite admitted]
    exact alterRow_timeless store _ _ (change_timeless _ request)

/-- A reply without timestamps. -/
theorem reply_timeless (timestamp : Nat) (row : Option Row) (request : Request) :
    (request.result (request.reply timestamp row)).timeless =
      request.result (request.reply 0 (row.map Row.timeless)) := by
  cases request with
  | append name key coordinate value =>
    simp only [reply, valueAt_timeless]
    rfl
  | put | delete | get | scan => rfl

end Request

/-! ## A store without failures -/

/-- Without plans every call reaches the store. -/
theorem FaultyStore.answer_calm {faulty : FaultyStore} (calm : faulty.plans = [])
    (call : Store.Call) :
    (answer call faulty).1 = (call.run faulty.store).1 ∧
      (answer call faulty).2.store = (call.run faulty.store).2 ∧
      (answer call faulty).2.plans = [] := by
  unfold answer
  cases call.operation? with
  | none => exact ⟨rfl, rfl, calm⟩
  | some addressed =>
    obtain ⟨kind, key⟩ := addressed
    simp only [calm, takeFault]
    exact ⟨trivial, trivial, trivial⟩

namespace Submission

/-- An attempt at anything on a store without failures leaves it without failures. -/
theorem plans_execute {faulty : FaultyStore} (calm : faulty.plans = []) (submission : Submission)
    (filter : Option Store.Filter) :
    (submission.execute FaultyStore.answer filter faulty).2.plans = [] := by
  cases submission with
  | request described =>
    obtain ⟨_, _, still⟩ := FaultyStore.answer_calm calm (described.toCall filter)
    unfold execute
    cases answered : FaultyStore.answer (described.toCall filter) faulty with
    | mk reply after =>
      rw [answered] at still
      cases reply with
      | ok reply =>
        simp only [answered]
        exact still
      | error error =>
        simp only [answered]
        exact still
  | lookalike | value => exact calm

/-- An attempt at a write on a store without failures has the effect of the write and ends with its
answer. It is never worth another attempt. -/
theorem execute_calm {request : Request} (isWrite : request.kind.isWrite = true)
    {faulty : FaultyStore} (calm : faulty.plans = []) (filter : Option Store.Filter) :
    Outcome.timeless ((request : Submission).execute FaultyStore.answer filter faulty).1 =
        request.answer faulty.store.timeless ∧
      ((request : Submission).execute FaultyStore.answer filter faulty).2.store.timeless =
        request.effect faulty.store.timeless ∧
      ∀ error, ((request : Submission).execute FaultyStore.answer filter faulty).1 = .error error →
        error.isTransient = false := by
  obtain ⟨answer, effect, _⟩ := FaultyStore.answer_calm calm request.call
  rw [← request.run_timeless isWrite, ← effect]
  unfold execute Request.answer
  simp only [Request.toCall_of_isWrite isWrite]
  rw [Request.refusal?_timeless]
  unfold Request.refusal?
  cases answered : FaultyStore.answer request.call faulty with
  | mk reply after =>
  rw [answered] at answer
  cases admitted : request.admission faulty.store with
  | error error =>
    obtain ⟨unclassified, lasting⟩ := Request.classify_refusal admitted
    rw [Request.run_refused admitted] at answer
    simp only at answer
    subst answer
    simp only [unclassified, Bool.false_eq_true, ↓reduceIte]
    refine ⟨rfl, trivial, ?_⟩
    intro other failed
    cases failed
    exact lasting
  | ok table =>
    rw [Request.run_admitted isWrite admitted] at answer
    simp only at answer
    subst answer
    refine ⟨?_, rfl, fun error failed => nomatch failed⟩
    have resolved := request.reply_timeless (faulty.store.writes + 1)
      (faulty.store.row? request.table request.key)
    rw [Store.row?_timeless, ← resolved]
    rfl

end Submission
end WideColumn
