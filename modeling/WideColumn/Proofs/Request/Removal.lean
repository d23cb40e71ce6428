import WideColumn.Proofs.Request.Execution
import WideColumn.Proofs.Store.Rows

/-!
# A removal takes what a read shows

A removal and a read that are built from the same arguments address the same cells, although each
selects them in its own way. So a removal takes from the store just the cells that the read showed
before. Afterwards the read shows nothing, and another removal changes nothing.
-/
namespace WideColumn

namespace Store

/-- The place at which a cell stands in a table. -/
def Place.ofCell (name : Bytes) (cell : Cell) : Place := ⟨name, cell.row, cell.coordinate⟩

/-- What is left of a store when cells of a table are taken out of it. -/
structure Without (before : Store) (name : Bytes) (cells : List Cell) (after : Store) : Prop where
  /-- No table comes or goes, and none declares other families. -/
  tables : ∀ other, (after.tables.get? other).map Table.families =
    (before.tables.get? other).map Table.families
  /-- The counter stays. -/
  writes : after.writes = before.writes
  /-- The cells stood in the table, -/
  stood : ∀ cell ∈ cells, before.cell? (.ofCell name cell) = some ⟨cell.value, cell.timestamp⟩
  /-- and nothing stands in their places any more. -/
  taken : ∀ cell ∈ cells, after.cell? (.ofCell name cell) = none
  /-- Everything else stands as it did. -/
  others : ∀ place, (∀ cell ∈ cells, .ofCell name cell ≠ place) →
    after.cell? place = before.cell? place

/-- There is one store without the cells whose rows all have cells. -/
theorem Without.unique {before after other : Store} {name : Bytes} {cells : List Cell}
    (without : before.Without name cells after) (has_cells : after.RowsHaveCells)
    (other_without : before.Without name cells other) (other_has_cells : other.RowsHaveCells) :
    other = after := by
  refine eq_of_cells other_has_cells has_cells (fun table => ?_) ?_ fun place => ?_
  · rw [other_without.tables, without.tables]
  · rw [other_without.writes, without.writes]
  · by_cases listed : ∃ cell ∈ cells, Place.ofCell name cell = place
    · obtain ⟨cell, among, rfl⟩ := listed
      rw [other_without.taken cell among, without.taken cell among]
    · have elsewhere : ∀ cell ∈ cells, Place.ofCell name cell ≠ place := fun cell among here =>
        listed ⟨cell, among, here⟩
      rw [other_without.others place elsewhere, without.others place elsewhere]

end Store

namespace Request

/-! ## Admission -/

/-- A request is admitted by a store whose tables declare the families that they declare in a store
which admits it. -/
theorem admitted_of_families {request : Request} {store other : Store}
    (families : ∀ name, (other.tables.get? name).map Store.Table.families =
      (store.tables.get? name).map Store.Table.families)
    {table : Store.Table} (admitted : request.admission store = .ok table) :
    ∃ same, request.admission other = .ok same := by
  cases outcome : request.admission other with
  | ok same => exact ⟨same, rfl⟩
  | error refusal =>
    have declared := families request.table
    have refused : request.admission store = .error refusal := by
      refine admission_error.2 ?_
      rcases admission_error.1 outcome with
        ⟨missing, told⟩ | ⟨same, family, found, named, undeclared, told⟩
      · rw [missing, (admission_ok admitted).1] at declared
        cases declared
      · rw [found, (admission_ok admitted).1] at declared
        have equal : same.families = table.families := Option.some.inj declared
        exact .inr ⟨table, family, (admission_ok admitted).1, named, equal ▸ undeclared, told⟩
    rw [admitted] at refused
    cases refused

/-- A request that is answered was admitted. -/
theorem admitted_of_answered {request : Request} {store after : Store} {result : Result}
    (answered : (request : Submission).execute onStore none store = (.ok result, after)) :
    ∃ table, request.admission store = .ok table := by
  cases outcome : request.admission store with
  | ok table => exact ⟨table, rfl⟩
  | error refusal =>
    rw [execute_refused outcome] at answered
    cases answered

/-! ## Reading and removing -/

section Row

variable {store : Store} {name : Bytes} {table : Store.Table}

/-- A read that is admitted shows what stands in the row, and leaves the store alone. -/
theorem execute_get (key : Bytes) (columns : Columns)
    (admitted : (get name key columns none).admission store = .ok table) :
    ∃ shown, store.Lists name key columns shown ∧
      (get name key columns none : Submission).execute onStore none store =
        (.ok (.cells shown), store) := by
  obtain ⟨found, -, declared⟩ := admission_ok admitted
  have declared : table.checkColumns name columns = .ok () := declared
  have answered : (get name key columns none).call.run store =
      (.ok (.cells (Store.selected columns key (table.row key))), store) :=
    congrArg (fun reply => (reply.map Store.Reply.cells, store))
      (Store.get_of_declared found declared key)
  exact ⟨_, Store.lists_selected found key columns, execute_answered answered⟩

variable {key : Bytes} {columns : Columns}

/-- A removal that is admitted takes the columns out of the row. -/
theorem execute_delete (admitted : (delete name key columns).admission store = .ok table) :
    (delete name key columns : Submission).execute onStore none store =
      (.ok .nothing, store.alterRow name key (Store.removed columns)) :=
  execute_answered (run_admitted rfl admitted)

/-- What a removal leaves is the store without the cells that stood in the row within the columns. -/
theorem without_of_leaves {after : Store} (leaves : (delete name key columns).Leaves store after)
    {shown : List Cell} (lists : store.Lists name key columns shown) :
    store.Without name shown after := by
  have stood : ∀ cell ∈ shown, cell.row = key ∧ columns.contains cell.coordinate = true ∧
      store.cell? (.ofCell name cell) = some ⟨cell.value, cell.timestamp⟩ := by
    intro cell among
    obtain ⟨row, within, stands⟩ := (lists.exact cell).1 among
    rw [← row] at stands
    exact ⟨row, within, stands⟩
  refine ⟨leaves.tables, leaves.writes, fun cell among => (stood cell among).2.2, ?_, ?_⟩
  · intro cell among
    obtain ⟨row, within, -⟩ := stood cell among
    rw [leaves.cells]
    exact if_pos ⟨rfl, row.symm, within⟩
  · intro place elsewhere
    rw [leaves.cells]
    refine ite_eq_right_iff.2 ?_
    rintro ⟨rfl, rfl, within⟩
    -- What stood there would have been listed.
    cases stands : store.cell? place with
    | none => rfl
    | some entry =>
      have among := (lists.exact ⟨place.key, place.coordinate.family, place.coordinate.qualifier,
        entry.value, entry.timestamp⟩).2 ⟨rfl, within, stands⟩
      exact absurd rfl (elsewhere _ among)

/-- Nothing is listed of a row after its columns were removed. -/
theorem lists_after_removal {after : Store} (leaves : (delete name key columns).Leaves store after)
    {shown : List Cell} (lists : after.Lists name key columns shown) : shown = [] := by
  refine List.eq_nil_iff_forall_not_mem.2 fun cell among => ?_
  obtain ⟨-, within, stands⟩ := (lists.exact cell).1 among
  rw [leaves.cells, Request.leaves, if_pos ⟨rfl, rfl, within⟩] at stands
  cases stands

end Row

/-! ## What is documented -/

/-- Executing a removal on a store takes from it just the cells that a read of the same columns
shows. -/
structure TakesShown (removal read : Request) (before after : Store) (shown : List Cell) : Prop where
  /-- The read shows the cells before, -/
  shows : (read : Submission).execute onStore none before = (.ok (.cells shown), before)
  /-- and they are what the removal takes. -/
  takes : before.Without removal.table shown after
  /-- Every row that is left has a cell. -/
  rows : after.RowsHaveCells
  /-- So it is known which store is left. -/
  only : ∀ other : Store, before.Without removal.table shown other → other.RowsHaveCells →
    other = after
  /-- The read shows nothing any more, -/
  gone : (read : Submission).execute onStore none after = (.ok (.cells []), after)
  /-- and another removal changes nothing. -/
  again : (removal : Submission).execute onStore none after = (.ok .nothing, after)

/-- A removal that is answered takes what a read of the same columns shows. -/
theorem takesShown_of_answered {name key : Bytes} {columns : Columns}
    (wellFormed : (delete name key columns).WellFormed) {before after : Store}
    (has_cells : before.RowsHaveCells) {result : Result}
    (answered : (delete name key columns : Submission).execute onStore none before =
      (.ok result, after)) :
    ∃ shown, TakesShown (delete name key columns) (get name key columns none) before after shown := by
  obtain ⟨table, admitted⟩ := admitted_of_answered answered
  have left : after = before.alterRow name key (Store.removed columns) :=
    congrArg Prod.snd (answered.symm.trans (execute_delete admitted))
  have leaves : (delete name key columns).Leaves before after :=
    left ▸ leaves_of_admitted wellFormed admitted
  have rows : after.RowsHaveCells :=
    left ▸ has_cells.alterRow (Store.removed_ne_empty columns) name key
  obtain ⟨same, admitted_again⟩ := admitted_of_families leaves.tables admitted
  -- A read of a row is admitted where a removal of the same columns is.
  obtain ⟨shown, lists, shows⟩ := execute_get key columns admitted
  obtain ⟨_, lists_after, gone⟩ := execute_get key columns admitted_again
  obtain rfl := lists_after_removal leaves lists_after
  have takes := without_of_leaves leaves lists
  refine ⟨shown, shows, takes, rows, fun other other_takes other_rows =>
    takes.unique rows other_takes other_rows, gone, ?_⟩
  rw [execute_delete admitted_again, left, Store.alterRow_alterRow,
    funext (Store.removed_twice columns)]

/-- After calls that write only bytes every row of a store has a cell. On such a store a removal that
is answered takes just the cells that a read built from the same arguments shows. -/
theorem delete_takes_shown :
    (∀ history : List Store.Call, (∀ call ∈ history, call.GivesBytes) →
      (Store.empty.after history).RowsHaveCells) ∧
      ∀ (table key family qualifiers : Value) (removal : Request),
        (Arguments.delete table key family qualifiers).build = .ok removal →
        ∀ (before after : Store) (result : Result), before.RowsHaveCells →
          (removal : Submission).execute onStore none before = (.ok result, after) →
          ∃ read shown,
            (Arguments.get table key family qualifiers none).build = .ok read ∧
              TakesShown removal read before after shown := by
  refine ⟨fun _ bytes => Store.RowsHaveCells.empty.after bytes, ?_⟩
  intro table key family qualifiers removal built before after result has_cells answered
  obtain ⟨spell, wellFormed⟩ := build_eq_ok.1 built
  cases spell with
  | @delete _ _ _ _ name row columns tables keys families names =>
    have read_built : (Arguments.get table key family qualifiers none).build =
        .ok (get name row columns none) :=
      build_eq_ok.2 ⟨.get tables keys families names, wellFormed⟩
    obtain ⟨shown, takes⟩ := takesShown_of_answered wellFormed has_cells answered
    exact ⟨_, shown, read_built, takes⟩

/-- A row with two families next to another row, and what writes them. -/
def twoRows : List Store.Call :=
  [.createTable [116] [[102], [103]], .put [116] [97] ⟨[102], [113]⟩ (.raw [1]),
    .put [116] [97] ⟨[102], [114]⟩ (.raw [2]), .append [116] [97] ⟨[103], [113]⟩ (.raw [3]),
    .put [116] [98] ⟨[102], [113]⟩ (.raw [4])]

/-- The removal of a family takes its two cells and leaves those of the other family and of the other
row. -/
theorem delete_takes_shown_ofTwoRows :
    (∀ call ∈ twoRows, call.GivesBytes) ∧
      (Arguments.delete (.string "t") (.raw [97]) (.string "f") .none).build =
        .ok (.delete [116] [97] ⟨some [102], none⟩) ∧
      ∃ after, TakesShown (.delete [116] [97] ⟨some [102], none⟩)
        (.get [116] [97] ⟨some [102], none⟩ none) (Store.empty.after twoRows) after
        [⟨[97], [102], [113], [1], 1⟩, ⟨[97], [102], [114], [2], 2⟩] := by
  have bytes : ∀ call ∈ twoRows, call.GivesBytes := by
    simp [twoRows, Store.Call.GivesBytes]
  have built : (Arguments.delete (.string "t") (.raw [97]) (.string "f") .none).build =
      .ok (.delete [116] [97] ⟨some [102], none⟩) := rfl
  obtain ⟨rows, takes⟩ := delete_takes_shown
  obtain ⟨read, shown, read_built, taken⟩ :=
    takes _ _ _ _ _ built (Store.empty.after twoRows) _ .nothing (rows twoRows bytes) rfl
  have read_is : (Arguments.get (.string "t") (.raw [97]) (.string "f") .none none).build =
      .ok (.get [116] [97] ⟨some [102], none⟩ none) := rfl
  obtain rfl := Except.ok.inj (read_built.symm.trans read_is)
  have shows : ((get [116] [97] ⟨some [102], none⟩ none : Request) : Submission).execute onStore none
      (Store.empty.after twoRows) =
        (.ok (.cells [⟨[97], [102], [113], [1], 1⟩, ⟨[97], [102], [114], [2], 2⟩]),
          Store.empty.after twoRows) := rfl
  obtain rfl := Result.cells.inj (Except.ok.inj (congrArg Prod.fst (taken.shows.symm.trans shows)))
  exact ⟨bytes, built, _, taken⟩

end Request
end WideColumn
