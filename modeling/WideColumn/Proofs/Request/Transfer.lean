import WideColumn.Proofs.Request.Reached
import WideColumn.Proofs.Request.Removal
import WideColumn.Proofs.Store.Contents

/-!
# Tables that are copied cell by cell

What a scan shows of a table can be written into another one, each cell by a put or by an append
and the cells in any order. Every such write can be built, since what stands in a store can be
addressed, and every cell has a place of its own, so the order makes no difference. Afterwards the
other table shows the same rows, apart from their timestamps.
-/
namespace WideColumn

/-! ## Limits -/

namespace RowLimit.Fills

variable {limit : Option RowLimit} {all rows others : List α}

/-- A limit is filled in one way. -/
theorem unique (one : Fills limit all rows) (other : Fills limit all others) : rows = others := by
  -- Were one of them shorter, it would be as many as the limit says, and the other too many.
  have not_shorter {rows others : List α} (one : Fills limit all rows)
      (other : Fills limit all others) : others.length ≤ rows.length := by
    by_contra shorter
    rw [Nat.not_le] at shorter
    rcases one.enough with rfl | ⟨most, given, filled⟩
    · exact absurd other.first.length_le (Nat.not_le.2 shorter)
    · exact other.least most given _ shorter filled
  have same : rows.length = others.length :=
    Nat.le_antisymm (not_shorter other one) (not_shorter one other)
  exact (List.prefix_of_prefix_length_le one.first other.first same.le).eq_of_length same

/-- What is made of the rows makes no difference. -/
theorem map (fills : Fills limit all rows) (change : α → β) :
    Fills limit (all.map change) (rows.map change) := by
  obtain ⟨first, enough, least⟩ := fills
  refine ⟨first.map change, ?_, ?_⟩
  · rw [List.length_map]
    exact enough.imp_left (congrArg (List.map change))
  · rwa [List.length_map]

/-- What fills a limit is all that is needed to fill it. -/
theorem again (fills : Fills limit all rows) : Fills limit rows rows :=
  ⟨List.prefix_rfl, .inl rfl, fills.least⟩

/-- Without a limit all rows are needed. -/
theorem all_rows (rows : List α) : Fills none rows rows := ⟨List.prefix_rfl, .inl rfl, nofun⟩

end RowLimit.Fills

namespace Request

open Store

/-! ## Copies -/

/-- A cell that is copied, by a put or by an append. -/
structure Copy where
  /-- The cell. -/
  cell : Cell
  /-- Whether it is appended. -/
  appended : Bool

/-- The place of the copy in another table. -/
def Copy.place (name : Bytes) (copy : Copy) : Place := .ofCell name copy.cell

/-- Build the request that copies a cell into a table. -/
def Copy.build (table : Value) (copy : Copy) : Except Error Request :=
  if copy.appended then
    appendCell table (.raw copy.cell.row) (.raw copy.cell.family) (.raw copy.cell.qualifier)
      (.raw copy.cell.value)
  else
    putCell table (.raw copy.cell.row) (.raw copy.cell.family) (.raw copy.cell.qualifier)
      (.raw copy.cell.value)

/-- The request that copies a cell into a table. -/
def Copy.request (name : Bytes) (copy : Copy) : Request :=
  if copy.appended then .append name copy.cell.row copy.cell.coordinate copy.cell.value
  else .put name copy.cell.row copy.cell.coordinate copy.cell.value

/-- What copying cells into a table makes of a store: each request is built and answered. -/
inductive Copies (table : Value) : Store → List Copy → Store → Prop where
  /-- Nothing is left to copy. -/
  | done (store : Store) : Copies table store [] store
  /-- A cell is copied, and then the others. -/
  | next {before between after : Store} {copy : Copy} {others : List Copy} {request : Request}
    {result : Result} (built : copy.build table = .ok request)
    (answered : (request : Submission).execute onStore none before = (.ok result, between))
    (rest : Copies table between others after) : Copies table before (copy :: others) after

section Copies

variable {table : Value} {name : Bytes} {copy : Copy} {store after : Store}

/-- A copy that a write could address is a request that is well formed. -/
theorem Copy.wellFormed (named : name ≠ []) (addressable : (copy.place name).Addressable store) :
    (copy.request name).WellFormed := by
  obtain ⟨cell, appended⟩ := copy
  cases appended with
  | false => exact ⟨named, addressable.key, addressable.coordinate⟩
  | true => exact ⟨named, addressable.key, addressable.coordinate⟩

/-- It can be built from any spelling of the table, -/
theorem Copy.build_eq (spells : table.Spells name) (named : name ≠ [])
    (addressable : (copy.place name).Addressable store) :
    copy.build table = .ok (copy.request name) := by
  have bytes : bytesOf "table" table = .ok name := bytesOf_eq_ok.2 spells
  have built : (copy.request name).arguments.build = .ok (copy.request name) :=
    build_eq_ok.2 ⟨arguments_spell _, Copy.wellFormed named addressable⟩
  obtain ⟨cell, appended⟩ := copy
  cases appended with
  | false =>
    simp only [build, putCell, bytes, Bool.false_eq_true, ↓reduceIte]
    exact built
  | true =>
    simp only [build, appendCell, bytes, ↓reduceIte]
    exact built

/-- and it is admitted. -/
theorem Copy.admitted (addressable : (copy.place name).Addressable store) :
    ∃ table, (copy.request name).admission store = .ok table := by
  obtain ⟨families, declares, declared⟩ := addressable.declared
  obtain ⟨table, found, rfl⟩ := Option.map_eq_some_iff.1 declares
  obtain ⟨cell, appended⟩ := copy
  cases appended with
  | false =>
    exact admitted_iff.2 ⟨table, found, fun family named => Option.some.inj named ▸ declared⟩
  | true =>
    exact admitted_iff.2 ⟨table, found, fun family named => Option.some.inj named ▸ declared⟩

/-- Without the name of a table no copy can be built. -/
theorem Copy.build_unnamed (spells : table.Spells []) (copy : Copy) :
    ∃ kind, copy.build table = .error (.request (.emptyField kind "table")) := by
  have bytes : bytesOf "table" table = .ok [] := bytesOf_eq_ok.2 spells
  obtain ⟨cell, appended⟩ := copy
  cases appended with
  | false =>
    refine ⟨.put, ?_⟩
    simp only [build, putCell, bytes, Bool.false_eq_true, ↓reduceIte]
    rfl
  | true =>
    refine ⟨.append, ?_⟩
    simp only [build, appendCell, bytes, ↓reduceIte]
    rfl

/-- A copy into a place where nothing stands leaves the value there, and everything else alone. -/
theorem Copy.leaves_cells (leaves : (copy.request name).Leaves store after)
    (absent : store.cell? (copy.place name) = none) :
    after.cell? (copy.place name) = some ⟨copy.cell.value, store.writes + 1⟩ ∧
      ∀ place, copy.place name ≠ place → after.cell? place = store.cell? place := by
  simp only [leaves.cells]
  rw [absent]
  obtain ⟨cell, appended⟩ := copy
  cases appended with
  | false => exact ⟨if_pos rfl, fun place elsewhere => if_neg elsewhere⟩
  | true => exact ⟨if_pos rfl, fun place elsewhere => if_neg elsewhere⟩

end Copies

end Request

/-- What becomes of a store when cells are written into a table. -/
structure Store.With (before : Store) (name : Bytes) (cells : List Cell) (after : Store) :
    Prop where
  /-- No table comes or goes, and none declares other families. -/
  tables : ∀ other, (after.tables.get? other).map Table.families =
    (before.tables.get? other).map Table.families
  /-- The values of the cells stand in their places. -/
  stand : ∀ cell ∈ cells, (after.cell? (.ofCell name cell)).map Entry.value = some cell.value
  /-- Everything else stands as it did. -/
  others : ∀ place, (∀ cell ∈ cells, .ofCell name cell ≠ place) →
    after.cell? place = before.cell? place

/-- A table without cells holds just the cells that are written into it. -/
theorem Store.With.holds {before after : Store} {name : Bytes} {cells : List Cell}
    (written : before.With name cells after)
    (clear : ∀ place : Place, place.table = name → before.cell? place = none) :
    after.Holds name cells := by
  intro cell
  constructor
  · intro stands
    by_cases listed : ∃ held ∈ cells, Place.ofCell name held = .ofCell name cell
    · obtain ⟨held, among, here⟩ := listed
      obtain ⟨-, row, coordinate⟩ := Place.mk.inj here
      have kept := written.stand held among
      rw [here] at kept
      exact ⟨held, among, Cell.timeless_eq_iff.2
        ⟨row, coordinate, Option.some.inj (kept.symm.trans stands)⟩⟩
    · have absent : after.cell? (.ofCell name cell) = none := by
        rw [written.others _ fun held among here => listed ⟨held, among, here⟩]
        exact clear _ rfl
      change (after.cell? (.ofCell name cell)).map Entry.value = some cell.value at stands
      rw [absent] at stands
      cases stands
  · rintro ⟨held, among, same⟩
    obtain ⟨row, coordinate, value⟩ := Cell.timeless_eq_iff.1 same
    rw [← row, ← coordinate, ← value]
    exact written.stand held among

namespace Request

open Store

/-- Cells whose places are different, addressable and free can be copied in whatever way. -/
theorem copies_with {table : Value} {name : Bytes} (spells : table.Spells name)
    (named : name ≠ []) {copies : List Copy} {store : Store}
    (addressable : ∀ copy ∈ copies, (copy.place name).Addressable store)
    (apart : copies.Pairwise fun one other => one.place name ≠ other.place name)
    (absent : ∀ copy ∈ copies, store.cell? (copy.place name) = none) :
    ∃ after, Copies table store copies after ∧ store.With name (copies.map Copy.cell) after := by
  -- The first copy leaves the places of the others as they are.
  induction copies generalizing store with
  | nil => exact ⟨store, .done store, fun _ => rfl, nofun, fun _ _ => rfl⟩
  | cons copy others ih =>
    obtain ⟨first, others_addressable⟩ := List.forall_mem_cons.1 addressable
    obtain ⟨others_apart, apart⟩ := List.pairwise_cons.1 apart
    obtain ⟨here, others_absent⟩ := List.forall_mem_cons.1 absent
    obtain ⟨_, admitted⟩ := Copy.admitted first
    obtain ⟨result, between, answered, -, leaves⟩ :=
      answered_of_admitted (Copy.wellFormed named first) admitted
    obtain ⟨stands, elsewhere⟩ := Copy.leaves_cells leaves here
    obtain ⟨after, rest, written⟩ := ih
      (fun other among => (others_addressable other among).of_families (leaves.tables _)) apart
      fun other among => by
        rw [elsewhere _ (others_apart other among)]
        exact others_absent other among
    refine ⟨after, .next (Copy.build_eq spells named first) answered rest,
      fun other => ?_, ?_, fun place away => ?_⟩
    · rw [written.tables, leaves.tables]
    · refine List.forall_mem_cons.2 ⟨?_, written.stand⟩
      have untouched : ∀ cell ∈ others.map Copy.cell, Place.ofCell name cell ≠ copy.place name := by
        intro _ among
        obtain ⟨other, listed, rfl⟩ := List.mem_map.1 among
        exact (others_apart other listed).symm
      change (after.cell? (copy.place name)).map Entry.value = some copy.cell.value
      rw [written.others _ untouched, stands]
      rfl
    · obtain ⟨away, others_away⟩ := List.forall_mem_cons.1 away
      rw [written.others place others_away, elsewhere place away]

/-! ## Showing -/

/-- A store answers a scan of a table without a filter with rows, whatever their timestamps. -/
def Shows (store : Store) (name : Bytes) (range : KeyRange) (columns : Columns)
    (limit : Option RowLimit) (rows : List (List Cell)) : Prop :=
  Outcome.timeless
      ((scan name range columns none limit : Submission).execute onStore none store).1 =
    Outcome.timeless (.ok (.rows rows))

/-- Whatever a scan shows of a table, it shows of another table in another store. -/
def Mirrors (store : Store) (name : Bytes) (other : Store) (target : Bytes) : Prop :=
  ∀ (range : KeyRange) (columns : Columns) (limit : Option RowLimit) (rows : List (List Cell)),
    (scan name range columns none limit).WellFormed →
    ((scan name range columns none limit : Submission).execute onStore none store).1 =
      .ok (.rows rows) →
    Shows other target range columns limit rows

section Showing

variable {store : Store} {name : Bytes} {range : KeyRange} {columns : Columns}
  {limit : Option RowLimit}

/-- A scan that is admitted shows the rows that it gathers, as far as its limit says, and leaves the
store alone. -/
theorem execute_scan (wellFormed : (scan name range columns none limit).WellFormed)
    {table : Table} (admitted : (scan name range columns none limit).admission store = .ok table) :
    ∃ all rows, store.Gathers name range columns all ∧ RowLimit.Fills limit all rows ∧
      (scan name range columns none limit : Submission).execute onStore none store =
        (.ok (.rows (rows.map (·.2))), store) := by
  obtain ⟨_, after, resolved, ⟨all, rows, gathers, fills, rfl⟩, -⟩ :=
    answered_of_admitted wellFormed admitted
  have kept : after = store := by
    have read : (((scan name range columns none limit).toCall none).run store).2 = store :=
      run_read rfl none store
    unfold Submission.execute at resolved
    cases called : onStore ((scan name range columns none limit).toCall none) store with
    | mk reply left =>
      obtain rfl : left = store := (congrArg Prod.snd called).symm.trans read
      simp only [called] at resolved
      cases reply with
      | ok reply => exact (congrArg Prod.snd resolved).symm
      | error error => exact (congrArg Prod.snd resolved).symm
  exact ⟨all, rows, gathers, fills, kept ▸ resolved⟩

/-- Without timestamps the rows of a result are rows without timestamps. -/
theorem timeless_rows (rows : List (Bytes × List Cell)) :
    (Result.rows (rows.map (·.2))).timeless = .rows ((timelessRows rows).map (·.2)) := by
  simp only [Result.timeless, timelessRows, List.map_map]
  rfl

/-- A scan shows the rows of those cells that the table holds in the range and within the columns,
as far as its limit says. -/
theorem shows_of_holds (wellFormed : (scan name range columns none limit).WellFormed)
    {table : Table} (admitted : (scan name range columns none limit).admission store = .ok table)
    {cells : List Cell} (holds : store.Holds name cells) {all rows : List (Bytes × List Cell)}
    (keyed : Keyed all)
    (same : ∀ cell, cell ∈ cellsOf all ↔ cell ∈ cells ∧
      range.contains cell.row = true ∧ columns.contains cell.coordinate = true)
    (fills : RowLimit.Fills limit all rows) :
    Shows store name range columns limit (rows.map (·.2)) := by
  obtain ⟨gathered, shown, gathers, shown_fills, answered⟩ := execute_scan wellFormed admitted
  have equal : timelessRows gathered = timelessRows all :=
    holds.timelessRows_eq (admission_ok admitted).1 gathers keyed same
  have shown_timeless : RowLimit.Fills limit (timelessRows gathered) (timelessRows shown) :=
    shown_fills.map _
  rw [equal] at shown_timeless
  have shown_equal : timelessRows shown = timelessRows rows := shown_timeless.unique (fills.map _)
  unfold Shows
  rw [answered]
  show Except.ok (Result.timeless _) = Except.ok (Result.timeless _)
  rw [timeless_rows, timeless_rows, shown_equal]

end Showing

/-! ## Copying what is shown -/

/-- A table was copied from what a scan of another table showed. -/
structure Restores (store : Store) (name : Bytes) (range : KeyRange) (columns : Columns)
    (limit : Option RowLimit) (rows : List (List Cell)) (before : Store) (target : Bytes)
    (after : Store) : Prop where
  /-- All that the copy shows is what was shown. -/
  all : Shows after target ⟨[], []⟩ .all none rows
  /-- The same scan shows the same. -/
  same : Shows after target range columns limit rows
  /-- If everything was shown, every scan shows the same. -/
  mirrors : range = ⟨[], []⟩ → columns = .all → limit = none → Mirrors store name after target
  /-- The other tables are what they were. -/
  others : ∀ place : Place, place.table ≠ target → after.cell? place = before.cell? place

section Copying

variable {store : Store} {name : Bytes} {table : Table} {range : KeyRange} {columns : Columns}
  {limit : Option RowLimit} {all rows : List (Bytes × List Cell)} {fresh after : Store}
  {target : Bytes} {families : List Bytes}

/-- A scan is admitted if the table declares the family that it names. -/
theorem scan_admitted (declares : (store.tables.get? name).map Table.families = some families)
    (declared : ∀ family, columns.family = some family → family ∈ families) :
    ∃ same, (scan name range columns none limit).admission store = .ok same := by
  obtain ⟨same, there, rfl⟩ := Option.map_eq_some_iff.1 declares
  exact admitted_iff.2 ⟨same, there, declared⟩

/-- What a scan gathers of a sound store could be written into any table that declares as much. -/
theorem addressable_of_gathers (sound : store.Sound)
    (found : store.tables.get? name = some table)
    (gathers : store.Gathers name range columns all) (wider : table.families ⊆ families)
    (declares : (fresh.tables.get? target).map Table.families = some families) {cell : Cell}
    (listed : cell ∈ cellsOf all) : (Place.ofCell target cell).Addressable fresh := by
  obtain ⟨-, -, stands⟩ := (gathers.mem_cellsOf found).1 listed
  obtain ⟨key, coordinate, known, same, declared⟩ := sound _ _ stands
  rw [found] at same
  obtain rfl : table.families = known := Option.some.inj same
  exact ⟨key, coordinate, families, declares, wider declared⟩

/-- Rows whose cells can be addressed can be copied cell by cell in any order into a table without
cells, which then holds just these. -/
theorem holds_of_copied {spelling : Value} (spells : spelling.Spells target) (named : target ≠ [])
    (clear : ∀ place : Place, place.table = target → fresh.cell? place = none)
    (keyed : Keyed rows)
    (addressable : ∀ cell ∈ cellsOf rows, (Place.ofCell target cell).Addressable fresh)
    {copies : List Copy} (copied : (copies.map Copy.cell).Perm (cellsOf rows)) :
    ∃ after, Copies spelling fresh copies after ∧
      fresh.With target (copies.map Copy.cell) after ∧ after.Holds target (cellsOf rows) := by
  -- No two cells have one place, so neither do two copies, whatever their order.
  have apart : copies.Pairwise fun one other => one.place target ≠ other.place target := by
    have cells_apart := (copied.pairwise_iff fun different same =>
      different ⟨same.1.symm, same.2.symm⟩).2 keyed.apart
    refine (List.pairwise_map.1 cells_apart).imp fun different same => ?_
    exact different ⟨congrArg Place.key same, congrArg Place.coordinate same⟩
  obtain ⟨after, made, written⟩ := copies_with spells named
    (fun copy listed => addressable _ (copied.subset (List.mem_map_of_mem listed))) apart
    fun copy _ => clear _ rfl
  exact ⟨after, made, written, fun cell =>
    (written.holds clear cell).trans (by simp only [copied.mem_iff])⟩

/-- A table that holds just the cells that a scan of another table showed shows the same. -/
theorem shows_of_shown (found : store.tables.get? name = some table)
    (wellFormed : (scan name range columns none limit).WellFormed)
    (gathers : store.Gathers name range columns all) (fills : RowLimit.Fills limit all rows)
    (named : target ≠ []) (holds : after.Holds target (cellsOf rows))
    (wider : table.families ⊆ families)
    (declares : (after.tables.get? target).map Table.families = some families)
    (declared : ∀ family, columns.family = some family → family ∈ table.families) :
    Shows after target ⟨[], []⟩ .all none (rows.map (·.2)) ∧
      Shows after target range columns limit (rows.map (·.2)) := by
  have keyed : Keyed rows := gathers.keyed.sublist fills.first.sublist
  constructor
  · have unbounded : (scan target ⟨[], []⟩ .all none none).WellFormed :=
      ⟨named, .inl rfl, ⟨nofun, nofun⟩, nofun⟩
    obtain ⟨_, admitted⟩ :
        ∃ same, (scan target ⟨[], []⟩ .all none none).admission after = .ok same :=
      scan_admitted declares nofun
    refine shows_of_holds unbounded admitted holds keyed (fun cell => ?_) (.all_rows rows)
    exact ⟨fun shown => ⟨shown, contains_unbounded _, rfl⟩, And.left⟩
  · obtain ⟨_, admitted⟩ := scan_admitted declares fun family given => wider (declared family given)
    refine shows_of_holds ⟨named, wellFormed.2⟩ admitted holds keyed (fun cell => ?_) fills.again
    refine ⟨fun shown => ⟨shown, ?_⟩, And.left⟩
    obtain ⟨within, inside, -⟩ := (gathers.mem_cellsOf found).1
      (cellsOf_subset fills.first.subset shown)
    exact ⟨within, inside⟩

/-- A table that holds just what another table holds shows whatever that shows. -/
theorem mirrors_of_all (found : store.tables.get? name = some table)
    (gathers : store.Gathers name ⟨[], []⟩ .all all) (named : target ≠ [])
    (holds : after.Holds target (cellsOf all))
    (wider : table.families ⊆ families)
    (declares : (after.tables.get? target).map Table.families = some families) :
    Mirrors store name after target := by
  intro range columns limit rows wellFormed shows
  obtain ⟨_, admitted⟩ := admitted_of_answered (Prod.ext shows rfl)
  obtain ⟨same, known, declared⟩ := admitted_iff.1 ⟨_, admitted⟩
  obtain rfl : same = table := Option.some.inj (known.symm.trans found)
  obtain ⟨gathered, shown, others, fills, answered⟩ := execute_scan wellFormed admitted
  obtain rfl : rows = shown.map (·.2) :=
    Result.rows.inj (Except.ok.inj (shows.symm.trans (congrArg Prod.fst answered)))
  obtain ⟨_, admitted⟩ := scan_admitted declares fun family given => wider (declared family given)
  refine shows_of_holds ⟨named, wellFormed.2⟩ admitted holds others.keyed (fun cell => ?_) fills
  rw [others.mem_cellsOf found, gathers.mem_cellsOf found]
  exact ⟨fun ⟨within, inside, stands⟩ => ⟨⟨contains_unbounded _, rfl, stands⟩, within, inside⟩,
    fun ⟨⟨_, _, stands⟩, within, inside⟩ => ⟨within, inside, stands⟩⟩

end Copying

/-- In a store that is reached by requests, whatever a scan of a table shows can be copied into a
new table with a name that declares as much, in this store or in another, and in whatever spelling.
Each cell can be put as well as appended, and the cells can be copied in any order. Then the new
table shows the same apart from timestamps. -/
theorem copies_restore {store : Store} (reached : store.Reached) {name : Bytes} {table : Table}
    (found : store.tables.get? name = some table) {arguments : Arguments} {range : KeyRange}
    {columns : Columns} {limit : Option RowLimit}
    (built : arguments.build = .ok (.scan name range columns none limit))
    (declared : ∀ family, columns.family = some family → family ∈ table.families)
    {before fresh : Store} {target : Bytes} {families : List Bytes} (named : target ≠ [])
    (wider : table.families ⊆ families)
    (created : before.createTable target families = .ok fresh) {spelling : Value}
    (spells : spelling.Spells target) :
    ∃ rows, (scan name range columns none limit : Submission).execute onStore none store =
        (.ok (.rows rows), store) ∧
      (∀ cell ∈ rows.flatten, ∀ appended,
        Copy.build spelling ⟨cell, appended⟩ = .ok (Copy.request target ⟨cell, appended⟩)) ∧
      ∀ copies : List Copy, (copies.map Copy.cell).Perm rows.flatten →
        ∃ after, Copies spelling fresh copies after ∧
          Restores store name range columns limit rows before target after := by
  have wellFormed := (build_eq_ok.1 built).2
  obtain ⟨_, admitted⟩ := scan_admitted (congrArg (Option.map Table.families) found) declared
  obtain ⟨all, rows, gathers, fills, answered⟩ := execute_scan wellFormed admitted
  obtain ⟨new, elsewhere⟩ := createTable_ok created
  have declares : (fresh.tables.get? target).map Table.families = some families := by rw [new]; rfl
  have clear (place : Place) (here : place.table = target) : fresh.cell? place = none := by
    refine cell?_of_no_rows fun other known => ?_
    rw [here, new] at known
    cases known
    rfl
  have addressable : ∀ cell ∈ cellsOf rows, (Place.ofCell target cell).Addressable fresh :=
    fun cell shown => addressable_of_gathers reached.sound found gathers wider declares
      (cellsOf_subset fills.first.subset shown)
  have flat : (rows.map (·.2)).flatten = cellsOf rows := List.flatMap_def.symm
  refine ⟨_, answered, fun cell shown appended => ?_, fun copies copied => ?_⟩
  · exact Copy.build_eq spells named (addressable cell (flat ▸ shown))
  obtain ⟨after, made, written, holds⟩ := holds_of_copied spells named clear
    (gathers.keyed.sublist fills.first.sublist) addressable (flat ▸ copied)
  have kept := (written.tables target).trans declares
  obtain ⟨shows_all, shows_same⟩ :=
    shows_of_shown found wellFormed gathers fills named holds wider kept declared
  refine ⟨after, made, shows_all, shows_same, ?_, fun place other => ?_⟩
  · rintro rfl rfl rfl
    obtain rfl : rows = all := fills.unique (.all_rows all)
    exact mirrors_of_all found gathers named holds wider kept
  · rw [written.others place fun cell _ here => other (here ▸ rfl)]
    exact cell?_congr (elsewhere _ fun same => other same.symm)

/-- A store with a table of one family, in which one row was put and another one, with an empty
value, was appended. -/
def putAndAppended : Store :=
  ((append [116] [98] ⟨[102], [113]⟩ [] : Submission).execute onStore none
    ((put [116] [97] ⟨[102], [113]⟩ [1] : Submission).execute onStore none
      (Store.empty.setTable [116] ⟨[[102]], .empty⟩)).2).2

/-- The store is reached by creating the table and executing the two requests. -/
theorem reached_putAndAppended : putAndAppended.Reached := by
  have created : Store.empty.createTable [116] [[102]] =
      .ok (Store.empty.setTable [116] ⟨[[102]], .empty⟩) := rfl
  have put_built : (Arguments.put (.raw [116]) (.raw [97]) (.raw [102]) (.raw [113])
      (.raw [1])).build = .ok (.put [116] [97] ⟨[102], [113]⟩ [1]) := rfl
  have append_built : (Arguments.append (.raw [116]) (.raw [98]) (.raw [102]) (.raw [113])
      (.raw [])).build = .ok (.append [116] [98] ⟨[102], [113]⟩ []) := rfl
  exact .execute (.execute (.createTable .empty created) put_built rfl) append_built rfl

/-- The two rows can be copied in the other order, and each in the other way than it was written. -/
theorem copies_restore_ofTwoRows :
    putAndAppended.Reached ∧
      (scan [116] ⟨[], []⟩ .all none none : Submission).execute onStore none putAndAppended =
        (.ok (.rows [[⟨[97], [102], [113], [1], 1⟩], [⟨[98], [102], [113], [], 2⟩]]),
          putAndAppended) ∧
      putAndAppended.createTable [117] [[103], [102]] =
        .ok (putAndAppended.setTable [117] ⟨[[103], [102]], .empty⟩) ∧
      ∃ after, Copies (.string "u") (putAndAppended.setTable [117] ⟨[[103], [102]], .empty⟩)
          [⟨⟨[98], [102], [113], [], 2⟩, false⟩, ⟨⟨[97], [102], [113], [1], 1⟩, true⟩] after ∧
        Restores putAndAppended [116] ⟨[], []⟩ .all none
          [[⟨[97], [102], [113], [1], 1⟩], [⟨[98], [102], [113], [], 2⟩]] putAndAppended [117]
          after := by
  have found : putAndAppended.tables.get? [116] = some _ := rfl
  have built : (Arguments.scan (.string "t") (.raw []) (.raw []) .none .none none .none).build =
      .ok (.scan [116] ⟨[], []⟩ .all none none) := rfl
  have named : ([117] : Bytes) ≠ [] := nofun
  have wider : ([[102]] : List Bytes) ⊆ [[103], [102]] := by decide
  have created : putAndAppended.createTable [117] [[103], [102]] =
      .ok (putAndAppended.setTable [117] ⟨[[103], [102]], .empty⟩) := rfl
  have spells : (Value.string "u").Spells [117] := .text "u"
  obtain ⟨rows, answered, -, copied⟩ := copies_restore reached_putAndAppended found built nofun
    named wider created spells
  have shown : (scan [116] ⟨[], []⟩ .all none none : Submission).execute onStore none
      putAndAppended = (.ok (.rows [[⟨[97], [102], [113], [1], 1⟩],
        [⟨[98], [102], [113], [], 2⟩]]), putAndAppended) := rfl
  obtain rfl := Result.rows.inj (Except.ok.inj (congrArg Prod.fst (answered.symm.trans shown)))
  exact ⟨reached_putAndAppended, shown, created, copied _ (.swap _ _ _)⟩

/-- A table can be created without a name, but nothing that is shown can be copied into it: neither
a put nor an append can be built. -/
theorem copies_unnamed :
    putAndAppended.Reached ∧
      (scan [116] ⟨[], []⟩ .all none none : Submission).execute onStore none putAndAppended =
        (.ok (.rows [[⟨[97], [102], [113], [1], 1⟩], [⟨[98], [102], [113], [], 2⟩]]),
          putAndAppended) ∧
      putAndAppended.createTable [] [[102]] =
        .ok (putAndAppended.setTable [] ⟨[[102]], .empty⟩) ∧
      putCell (.raw []) (.raw [97]) (.raw [102]) (.raw [113]) (.raw [1]) =
        .error (.request (.emptyField .put "table")) ∧
      appendCell (.raw []) (.raw [97]) (.raw [102]) (.raw [113]) (.raw [1]) =
        .error (.request (.emptyField .append "table")) :=
  ⟨reached_putAndAppended, rfl, rfl, rfl, rfl⟩

end Request
end WideColumn
