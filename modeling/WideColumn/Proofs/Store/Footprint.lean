import WideColumn.Proofs.Store.Timeless

/-!
# Writes that share no cell

A put and an append address one cell, and a removal every cell that it would remove. Writes that
share no cell have the same effect in either order, rows that come into being or vanish on the way
included, and neither changes what the other one answers. A batch of such writes is therefore one
change to the store, in whatever order it is executed.
-/
namespace WideColumn

namespace Store

/-! ## One row -/

/-- The cells that are left of what may be a row when columns of a family are removed. -/
theorem getD_removed {columns : Columns} (named : columns.family.isNone = false)
    (row : Option Row) :
    (removed columns row).getD .empty = Row.outside columns (row.getD .empty) := by
  cases row with
  | none => rfl
  | some row =>
    simp only [removed, Option.bind_some, named, Bool.false_or]
    split
    · rename_i empty
      have nothing := (SortedMap.isEmpty_iff _).mp empty
      apply SortedMap.ext_get?
      intro coordinate
      exact (nothing coordinate).symm
    · rfl

/-- A value placed elsewhere is not seen. -/
theorem valueAt_placed_ne {coordinate other : Coordinate} (different : other ≠ coordinate)
    (entry : Entry) (row : Option Row) :
    valueAt (placed other entry row) coordinate = valueAt row coordinate := by
  unfold valueAt placed
  rw [Option.getD_some, SortedMap.insert_eq_alter, SortedMap.get?_alter_ne _ different]

/-- A removal elsewhere is not seen. -/
theorem valueAt_removed {columns : Columns} (named : columns.family.isNone = false)
    {coordinate : Coordinate} (elsewhere : columns.contains coordinate = false)
    (row : Option Row) : valueAt (removed columns row) coordinate = valueAt row coordinate := by
  unfold valueAt
  rw [getD_removed named]
  unfold Row.outside
  rw [SortedMap.get?_filter, elsewhere]
  cases (row.getD .empty).get? coordinate with
  | none => rfl
  | some entry => rfl

/-- Different cells can be placed in either order. -/
theorem placed_comm {coordinate other : Coordinate} (different : coordinate ≠ other)
    (first second : Entry) (row : Option Row) :
    placed other second (placed coordinate first row) =
      placed coordinate first (placed other second row) := by
  unfold placed
  simp only [Option.getD_some, SortedMap.insert_eq_alter]
  rw [SortedMap.alter_comm _ different]

/-- A cell can be placed before or after a removal elsewhere. If the removal takes the last cell of
the row, placing brings the row back. -/
theorem placed_removed {columns : Columns} (named : columns.family.isNone = false)
    {coordinate : Coordinate} (elsewhere : columns.contains coordinate = false) (entry : Entry)
    (row : Option Row) :
    removed columns (placed coordinate entry row) =
      placed coordinate entry (removed columns row) := by
  have rest : Row.outside columns ((row.getD .empty).insert coordinate entry) =
      (Row.outside columns (row.getD .empty)).insert coordinate entry := by
    rw [SortedMap.insert_eq_alter, SortedMap.insert_eq_alter]
    unfold Row.outside
    apply SortedMap.eq_alter
    · rw [SortedMap.get?_filter, SortedMap.get?_alter_self, elsewhere]
      rfl
    · intro other different
      rw [SortedMap.get?_filter, SortedMap.get?_filter, SortedMap.get?_alter_ne _ different]
  have stands :
      (Row.outside columns ((row.getD .empty).insert coordinate entry)).isEmpty = false := by
    rw [rest, SortedMap.insert_eq_alter]
    apply Bool.eq_false_iff.mpr
    intro empty
    have nothing := (SortedMap.isEmpty_iff _).mp empty coordinate
    rw [SortedMap.get?_alter_self] at nothing
    cases nothing
  have kept : removed columns (placed coordinate entry row) =
      some (Row.outside columns ((row.getD .empty).insert coordinate entry)) := by
    simp only [removed, placed, Option.bind_some, named, stands, Bool.false_or]
    rfl
  rw [kept, rest, ← getD_removed named]
  rfl

/-- Removing columns in turn leaves the cells outside of all. -/
theorem removed_removed {columns others : Columns} (named : columns.family.isNone = false)
    (named' : others.family.isNone = false) (row : Row) :
    removed others (removed columns (some row)) =
      if (Row.outside others (row.outside columns)).isEmpty then none
      else some (Row.outside others (row.outside columns)) := by
  have first : removed columns (some row) =
      if (row.outside columns).isEmpty then none else some (row.outside columns) := by
    simp only [removed, Option.bind_some, named, Bool.false_or]
  rw [first]
  split
  · rename_i empty
    have nothing : (Row.outside others (row.outside columns)).isEmpty = true := by
      rw [SortedMap.isEmpty_iff]
      intro coordinate
      unfold Row.outside at empty ⊢
      rw [SortedMap.get?_filter, (SortedMap.isEmpty_iff _).mp empty coordinate]
      rfl
    rw [if_pos nothing]
    rfl
  · simp only [removed, Option.bind_some, named', Bool.false_or]

/-- Removals from a row commute. -/
theorem removed_comm (columns others : Columns) (row : Option Row) :
    removed others (removed columns row) = removed columns (removed others row) := by
  have whole {all : Columns} (unnamed : all.family.isNone = true) (row : Option Row) :
      removed all row = none := by
    cases row with
    | none => rfl
    | some row => simp only [removed, Option.bind_some, unnamed, Bool.true_or, ↓reduceIte]
  cases named : columns.family.isNone with
  | true =>
    rw [whole named, whole named]
    rfl
  | false =>
    cases named' : others.family.isNone with
    | true =>
      rw [whole named', whole named']
      rfl
    | false =>
      cases row with
      | none => rfl
      | some row =>
        have same : Row.outside others (row.outside columns) =
            Row.outside columns (row.outside others) := by
          apply SortedMap.ext_get?
          intro coordinate
          unfold Row.outside
          rw [SortedMap.get?_filter, SortedMap.get?_filter, SortedMap.get?_filter,
            SortedMap.get?_filter]
          cases row.get? coordinate with
          | none => rfl
          | some entry =>
            cases columns.contains coordinate <;> cases others.contains coordinate <;> rfl
        rw [removed_removed named named', removed_removed named' named, same]

/-! ## One store -/

/-- Alterations of different rows commute. -/
theorem alterRow_comm (store : Store) {name other key third : Bytes}
    (different : name ≠ other ∨ key ≠ third) (first second : Option Row → Option Row) :
    (store.alterRow name key first).alterRow other third second =
      (store.alterRow other third second).alterRow name key first := by
  unfold alterRow
  congr 1
  by_cases same : name = other
  · subst same
    have apart : key ≠ third := different.resolve_left fun distinct => distinct rfl
    rw [SortedMap.alter_alter, SortedMap.alter_alter]
    apply SortedMap.alter_congr
    cases store.tables.get? name with
    | none => rfl
    | some table =>
      have rows := table.rows.alter_comm apart first second
      simp only [Option.map_some, Table.alterRow, rows]
  · exact store.tables.alter_comm same _ _

/-- Alterations of one row compose. -/
theorem alterRow_alterRow (store : Store) (name key : Bytes)
    (first second : Option Row → Option Row) :
    (store.alterRow name key first).alterRow name key second =
      store.alterRow name key fun row => second (first row) := by
  unfold alterRow
  congr 1
  rw [SortedMap.alter_alter]
  apply SortedMap.alter_congr
  cases store.tables.get? name with
  | none => rfl
  | some table =>
    have rows := table.rows.alter_alter key first second
    simp only [Option.map_some, Table.alterRow, rows]

/-- A row of an altered store is altered or as before. -/
theorem row?_alterRow (store : Store) (name key other third : Bytes)
    (change : Option Row → Option Row) {table : Table}
    (found : store.tables.get? other = some table) :
    (store.alterRow name key change).row? other third =
      if name = other ∧ key = third then change (store.row? other third)
      else store.row? other third := by
  unfold row? alterRow
  by_cases same : name = other
  · subst same
    rw [SortedMap.get?_alter_self, found]
    simp only [Option.map_some, Option.bind_some, Table.alterRow, true_and]
    by_cases here : key = third
    · subst here
      rw [SortedMap.get?_alter_self, if_pos rfl]
    · rw [SortedMap.get?_alter_ne _ here, if_neg here]
  · rw [SortedMap.get?_alter_ne _ same, if_neg fun both => same both.1]

end Store

namespace Request

open Store

/-- Whether a write addresses a cell. -/
def addresses (request : Request) (name row : Bytes) (cell : Coordinate) : Prop :=
  match request with
  | put table key coordinate _ | append table key coordinate _ =>
    table = name ∧ key = row ∧ coordinate = cell
  | delete table key columns =>
    table = name ∧ key = row ∧ (columns.family = none ∨ columns.contains cell = true)
  | get .. | scan .. => False

/-- Two writes address no common cell. -/
def Disjoint (one other : Request) : Prop :=
  ∀ name row cell, ¬(one.addresses name row cell ∧ other.addresses name row cell)

/-- The order of the two does not matter. -/
theorem Disjoint.symm {one other : Request} (disjoint : one.Disjoint other) :
    other.Disjoint one :=
  fun name row cell both => disjoint name row cell both.symm

/-- Writes to different rows share no cell. -/
theorem disjoint_of_key {one other : Request} (different : one.key ≠ other.key) :
    one.Disjoint other := by
  have key_of_addresses {request : Request} {name row : Bytes} {cell : Coordinate}
      (addresses : request.addresses name row cell) : request.key = row := by
    cases request with
    | put | append | delete => exact addresses.2.1
    | get | scan => cases addresses
  rintro name row cell ⟨here, there⟩
  exact different ((key_of_addresses here).trans (key_of_addresses there).symm)

/-- A removal that does not address a cell of its row names a family and leaves the cell. -/
theorem elsewhere_of_not_addresses {name key : Bytes} {columns : Columns} {cell : Coordinate}
    (apart : ¬(delete name key columns).addresses name key cell) :
    columns.family.isNone = false ∧ columns.contains cell = false := by
  constructor
  · apply Bool.eq_false_iff.mpr
    intro unnamed
    exact apart ⟨rfl, rfl, .inl (Option.isNone_iff_eq_none.mp unnamed)⟩
  · apply Bool.eq_false_iff.mpr
    intro contained
    exact apart ⟨rfl, rfl, .inr contained⟩

/-- A write that is not addressed to a cell of its row leaves the value there. -/
theorem valueAt_change {request : Request} {cell : Coordinate}
    (apart : ¬request.addresses request.table request.key cell) (timestamp : Nat)
    (row : Option Row) : valueAt (request.change timestamp row) cell = valueAt row cell := by
  cases request with
  | put name key coordinate value =>
    have different : coordinate ≠ cell := fun same => apart ⟨rfl, rfl, same⟩
    exact valueAt_placed_ne different _ row
  | append name key coordinate value =>
    have different : coordinate ≠ cell := fun same => apart ⟨rfl, rfl, same⟩
    exact valueAt_placed_ne different _ row
  | delete name key columns =>
    obtain ⟨named, elsewhere⟩ := elsewhere_of_not_addresses apart
    exact valueAt_removed named elsewhere row
  | get | scan => rfl

/-- A write that places a cell, with a value that may depend on the one there. -/
structure Places (request : Request) (cell : Coordinate) (value : Option Row → Bytes) : Prop where
  /-- The row gets the cell. -/
  change : ∀ timestamp row,
    request.change timestamp row = placed cell ⟨value row, timestamp⟩ row
  /-- Of the row only the value in the cell matters. -/
  value_eq : ∀ {row other}, valueAt row cell = valueAt other cell → value row = value other
  /-- The cell is addressed. -/
  addresses : request.addresses request.table request.key cell

/-- A request places a cell, removes columns or leaves the row alone. -/
theorem change_cases (request : Request) :
    (∃ cell value, request.Places cell value) ∨
      (∃ name key columns, request = .delete name key columns) ∨
      ∀ timestamp row, request.change timestamp row = row := by
  cases request with
  | put name key coordinate value =>
    exact .inl ⟨coordinate, fun _ => value, fun _ _ => rfl, fun _ => rfl, rfl, rfl, rfl⟩
  | append name key coordinate value =>
    refine .inl ⟨coordinate, fun row => valueAt row coordinate ++ value, fun _ _ => rfl, ?_,
      rfl, rfl, rfl⟩
    intro row other same
    simp only [same]
  | delete name key columns => exact .inr (.inl ⟨name, key, columns, rfl⟩)
  | get | scan => exact .inr (.inr fun _ _ => rfl)

/-- Writes that place different cells of a row do so in either order. -/
theorem Places.comm {one other : Request} {cell cell' : Coordinate}
    {value value' : Option Row → Bytes} (first : one.Places cell value)
    (second : other.Places cell' value')
    (apart : ¬one.addresses one.table one.key cell')
    (apart' : ¬other.addresses other.table other.key cell) (timestamp : Nat) (row : Option Row) :
    other.change timestamp (one.change timestamp row) =
      one.change timestamp (other.change timestamp row) := by
  have different : cell ≠ cell' := by
    intro same
    subst same
    exact apart first.addresses
  have unseen := second.value_eq (valueAt_change apart timestamp row)
  have unseen' := first.value_eq (valueAt_change apart' timestamp row)
  rw [second.change, unseen, first.change _ (other.change timestamp row), unseen', first.change,
    second.change]
  exact placed_comm different _ _ row

/-- Placing a cell and removing columns elsewhere can be done in either order. -/
theorem Places.remove {request : Request} {cell : Coordinate} {value : Option Row → Bytes}
    (places : request.Places cell value) {name key : Bytes} {columns : Columns}
    (apart : ¬(delete name key columns).addresses name key cell) (timestamp : Nat)
    (row : Option Row) :
    removed columns (request.change timestamp row) =
      request.change timestamp (removed columns row) := by
  obtain ⟨named, elsewhere⟩ := elsewhere_of_not_addresses apart
  have unseen := places.value_eq (valueAt_removed named elsewhere row)
  rw [places.change, places.change, unseen]
  exact placed_removed named elsewhere _ row

/-- Writes to one row that share no cell of it change it in either order. -/
theorem change_comm {one other : Request} (disjoint : one.Disjoint other)
    (table : one.table = other.table) (key : one.key = other.key) (timestamp : Nat)
    (row : Option Row) :
    other.change timestamp (one.change timestamp row) =
      one.change timestamp (other.change timestamp row) := by
  rcases one.change_cases with ⟨cell, value, places⟩ | ⟨name, place, columns, rfl⟩ | still
  · have apart : ¬other.addresses other.table other.key cell := by
      intro shared
      rw [← table, ← key] at shared
      exact disjoint _ _ _ ⟨places.addresses, shared⟩
    rcases other.change_cases with ⟨cell', value', places'⟩ | ⟨name, place, columns, rfl⟩ | still
    · apply places.comm places' _ apart
      intro shared
      rw [table, key] at shared
      exact disjoint _ _ _ ⟨shared, places'.addresses⟩
    · exact places.remove apart timestamp row
    · rw [still, still]
  · rcases other.change_cases with ⟨cell, value, places⟩ | ⟨name', place', others, rfl⟩ | still
    · have apart : ¬(delete name place columns).addresses name place cell := by
        intro shared
        have meets := places.addresses
        rw [← table, ← key] at meets
        exact disjoint _ _ _ ⟨shared, meets⟩
      exact (places.remove apart timestamp row).symm
    · exact removed_comm columns others row
    · rw [still, still]
  · rw [still, still]

/-! ## Effects and answers -/

/-- Whether a write is refused does not depend on the rows. -/
theorem refusal?_alterRow (request : Request) (store : Store) (name key : Bytes)
    (change : Option Row → Option Row) :
    request.refusal? (store.alterRow name key change) = request.refusal? store := by
  unfold refusal? admission Store.table alterRow
  by_cases same : name = request.table
  · subst same
    rw [SortedMap.get?_alter_self]
    cases store.tables.get? request.table with
    | none => rfl
    | some table =>
      have check : (table.alterRow key change).checkColumns request.table
          ⟨request.family?, none⟩ =
          table.checkColumns request.table ⟨request.family?, none⟩ := rfl
      simp only [Option.map_some, check]
      cases table.checkColumns request.table ⟨request.family?, none⟩ with
      | error undeclared => rfl
      | ok done => rfl
  · rw [SortedMap.get?_alter_ne _ same]

/-- Whether a write is refused does not depend on other writes. -/
theorem refusal?_effect (request other : Request) (store : Store) :
    request.refusal? (other.effect store) = request.refusal? store := by
  unfold effect
  cases other.refusal? store with
  | some error => rfl
  | none => exact refusal?_alterRow request store _ _ _

/-- Writes that share no cell have the same effect in either order. -/
theorem effect_comm {one other : Request} (disjoint : one.Disjoint other) (store : Store) :
    other.effect (one.effect store) = one.effect (other.effect store) := by
  have known := other.refusal?_effect one store
  have known' := one.refusal?_effect other store
  unfold effect at known known' ⊢
  cases refused : one.refusal? store with
  | some error =>
    simp only [refused] at known known' ⊢
    rw [known']
  | none =>
    simp only [refused] at known known' ⊢
    cases refused' : other.refusal? store with
    | some error =>
      simp only [refused'] at known known' ⊢
      rw [known, refused]
    | none =>
      simp only [refused'] at known known' ⊢
      rw [known, known']
      simp only
      by_cases same : one.table = other.table ∧ one.key = other.key
      · obtain ⟨table, key⟩ := same
        rw [table, key, alterRow_alterRow, alterRow_alterRow]
        congr 1
        funext row
        exact change_comm disjoint table key 0 row
      · apply alterRow_comm
        rw [← Classical.not_and_iff_not_or_not]
        exact same

/-- What a write answers depends on the values that it addresses. -/
theorem reply_congr (request : Request) (timestamp : Nat) {row other : Option Row}
    (same : ∀ cell, request.addresses request.table request.key cell →
      valueAt row cell = valueAt other cell) :
    request.reply timestamp row = request.reply timestamp other := by
  cases request with
  | append name key coordinate value =>
    simp only [reply, same coordinate ⟨rfl, rfl, rfl⟩]
  | put | delete | get | scan => rfl

/-- A write that shares no cell with another one does not change what it answers. -/
theorem answer_effect {one other : Request} (disjoint : one.Disjoint other) (store : Store) :
    other.answer (one.effect store) = other.answer store := by
  unfold answer
  rw [refusal?_effect]
  cases admitted : other.refusal? store with
  | some error => rfl
  | none =>
    have replies : other.reply 0 ((one.effect store).row? other.table other.key) =
        other.reply 0 (store.row? other.table other.key) := by
      apply reply_congr
      intro cell shared
      obtain ⟨table, found⟩ := table_of_refusal? admitted
      unfold effect
      cases one.refusal? store with
      | some error => rfl
      | none =>
        simp only
        rw [row?_alterRow store _ _ _ _ _ found]
        split
        · rename_i same
          apply valueAt_change
          intro meets
          rw [same.1, same.2] at meets
          exact disjoint _ _ _ ⟨meets, shared⟩
        · rfl
    simp only [replies]

/-! ## Batches -/

/-- What a batch of writes makes of a store, one after another. -/
def effects (store : Store) (batch : List Request) : Store := batch.foldl effect store

/-- A batch of writes that share no cell has the same effect in any order. -/
theorem effects_perm {batch other : List Request} (same : batch.Perm other)
    (disjoint : batch.Pairwise Disjoint) (store : Store) :
    effects store batch = effects store other := by
  induction same generalizing store with
  | nil => rfl
  | cons request same ih =>
    obtain ⟨_, rest⟩ := List.pairwise_cons.mp disjoint
    exact ih rest (request.effect store)
  | swap one two rest =>
    obtain ⟨apart, _⟩ := List.pairwise_cons.mp disjoint
    have swapped := effect_comm (apart one List.mem_cons_self) store
    show effects (one.effect (two.effect store)) rest = effects (two.effect (one.effect store)) rest
    rw [swapped]
  | trans first second ihFirst ihSecond =>
    have still := first.pairwise disjoint Disjoint.symm
    rw [ihFirst disjoint, ihSecond still]

/-- A batch that shares no cell with a write does not change what it answers. -/
theorem answer_effects {request : Request} {batch : List Request}
    (disjoint : ∀ one ∈ batch, one.Disjoint request) (store : Store) :
    request.answer (effects store batch) = request.answer store := by
  induction batch generalizing store with
  | nil => rfl
  | cons one rest ih =>
    have later := ih (fun other present => disjoint other (List.mem_cons_of_mem _ present))
      (one.effect store)
    show request.answer (effects (one.effect store) rest) = request.answer store
    rw [later]
    exact answer_effect (disjoint one List.mem_cons_self) store

end Request
end WideColumn
