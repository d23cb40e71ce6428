import Mathlib.Data.List.Nodup
import WideColumn.Proofs.Store.Reading
import WideColumn.Proofs.Store.Timeless

/-!
# Rows that are told by their cells

The rows that a scan gathers have increasing keys, and in each of them its own cells come in order.
Such rows are determined by the cells in them, so what a scan shows of a table is determined by the
values that the table holds.
-/
namespace WideColumn

/-- Without its timestamp a cell is its row, its coordinate and its value. -/
theorem Cell.timeless_eq_iff {one other : Cell} :
    one.timeless = other.timeless ↔
      one.row = other.row ∧ one.coordinate = other.coordinate ∧ one.value = other.value := by
  simp only [timeless, coordinate, Cell.mk.injEq, Coordinate.mk.injEq]
  exact ⟨fun ⟨row, family, qualifier, value, _⟩ => ⟨row, ⟨family, qualifier⟩, value⟩,
    fun ⟨row, ⟨family, qualifier⟩, value⟩ => ⟨row, family, qualifier, value, trivial⟩⟩

namespace Store

/-! ## Rows of cells -/

/-- The cells of rows, row by row. -/
def cellsOf (rows : List (Bytes × List Cell)) : List Cell := rows.flatMap (·.2)

/-- Rows without timestamps. -/
def timelessRows (rows : List (Bytes × List Cell)) : List (Bytes × List Cell) :=
  rows.map fun row => (row.1, row.2.map Cell.timeless)

/-- Rows in order of their keys, each with some cells of its own in order. -/
structure Keyed (rows : List (Bytes × List Cell)) : Prop where
  /-- They come in order of their keys, each key once. -/
  sorted : rows.Pairwise fun one other => one.1 < other.1
  /-- Each has cells. -/
  someCells : ∀ row ∈ rows, row.2 ≠ []
  /-- The cells of each are in the row of its key. -/
  own : ∀ row ∈ rows, ∀ cell ∈ row.2, cell.row = row.1
  /-- They come in order, each coordinate once. -/
  cells : ∀ row ∈ rows, row.2.Pairwise fun one other =>
    compare one.coordinate other.coordinate = .lt

/-- A cell of rows is in one of them. -/
theorem mem_cellsOf {rows : List (Bytes × List Cell)} {cell : Cell} :
    cell ∈ cellsOf rows ↔ ∃ key cells, (key, cells) ∈ rows ∧ cell ∈ cells := by
  simp only [cellsOf, List.mem_flatMap, Prod.exists]

/-- The cells of some of the rows are among the cells of all. -/
theorem cellsOf_subset {rows all : List (Bytes × List Cell)} (some_rows : rows ⊆ all) :
    cellsOf rows ⊆ cellsOf all := fun _ among =>
  let ⟨key, cells, listed, inside⟩ := mem_cellsOf.1 among
  mem_cellsOf.2 ⟨key, cells, some_rows listed, inside⟩

/-- The cells of rows without timestamps are their cells without timestamps. -/
theorem mem_cellsOf_timelessRows {rows : List (Bytes × List Cell)} {cell : Cell} :
    cell ∈ cellsOf (timelessRows rows) ↔ ∃ stamped ∈ cellsOf rows, stamped.timeless = cell := by
  simp only [cellsOf, timelessRows, List.flatMap_map, List.mem_flatMap, List.mem_map]
  exact ⟨fun ⟨row, among, stamped, listed, same⟩ => ⟨stamped, ⟨row, among, listed⟩, same⟩,
    fun ⟨stamped, ⟨row, among, listed⟩, same⟩ => ⟨row, among, stamped, listed, same⟩⟩

namespace Keyed

variable {rows others : List (Bytes × List Cell)}

/-- Some of the rows are as well in order. -/
theorem sublist (keyed : Keyed rows) (some_rows : others.Sublist rows) : Keyed others :=
  ⟨keyed.sorted.sublist some_rows, fun row among => keyed.someCells row (some_rows.subset among),
    fun row among => keyed.own row (some_rows.subset among),
    fun row among => keyed.cells row (some_rows.subset among)⟩

/-- Without timestamps the order is the same. -/
theorem timeless (keyed : Keyed rows) : Keyed (timelessRows rows) := by
  refine ⟨List.pairwise_map.2 keyed.sorted, ?_, ?_, ?_⟩
  · rintro _ among
    obtain ⟨row, listed, rfl⟩ := List.mem_map.1 among
    exact fun none_left => keyed.someCells row listed (List.map_eq_nil_iff.1 none_left)
  · rintro _ among _ inside
    obtain ⟨row, listed, rfl⟩ := List.mem_map.1 among
    obtain ⟨cell, stamped, rfl⟩ := List.mem_map.1 inside
    exact keyed.own row listed cell stamped
  · rintro _ among
    obtain ⟨row, listed, rfl⟩ := List.mem_map.1 among
    exact List.pairwise_map.2 (keyed.cells row listed)

/-- There is one row for a key. -/
theorem eq_of_key (keyed : Keyed rows) {key : Bytes} {cells same : List Cell}
    (one : (key, cells) ∈ rows) (other : (key, same) ∈ rows) : cells = same := by
  have keys : (rows.map Prod.fst).Nodup := by
    refine List.pairwise_map.2 (keyed.sorted.imp fun {one other} before equal => ?_)
    rw [equal] at before
    exact List.lt_irrefl _ before
  exact congrArg Prod.snd (List.inj_on_of_nodup_map keys one other rfl)

/-- The cells of a row are those of its key. -/
theorem mem_row_iff (keyed : Keyed rows) {key : Bytes} {cells : List Cell}
    (listed : (key, cells) ∈ rows) {cell : Cell} :
    cell ∈ cells ↔ cell ∈ cellsOf rows ∧ cell.row = key := by
  constructor
  · intro inside
    exact ⟨mem_cellsOf.2 ⟨key, cells, listed, inside⟩, keyed.own _ listed cell inside⟩
  · rintro ⟨among, rfl⟩
    obtain ⟨other, same, also_listed, inside⟩ := mem_cellsOf.1 among
    obtain rfl : cell.row = other := keyed.own _ also_listed cell inside
    rwa [keyed.eq_of_key listed also_listed]

/-- Each row with all its cells is among any other rows with the same cells. -/
theorem mem_of_cellsOf (keyed : Keyed rows) (other_keyed : Keyed others)
    (same : ∀ cell, cell ∈ cellsOf rows ↔ cell ∈ cellsOf others) {row : Bytes × List Cell}
    (listed : row ∈ rows) : row ∈ others := by
  obtain ⟨key, cells⟩ := row
  obtain ⟨cell, inside⟩ := List.exists_mem_of_ne_nil cells (keyed.someCells _ listed)
  obtain ⟨among, rfl⟩ := (keyed.mem_row_iff listed).1 inside
  obtain ⟨key, there, also_listed, also_inside⟩ := mem_cellsOf.1 ((same cell).1 among)
  obtain rfl : cell.row = key := other_keyed.own _ also_listed cell also_inside
  have members (other : Cell) : other ∈ cells ↔ other ∈ there := by
    rw [keyed.mem_row_iff listed, other_keyed.mem_row_iff also_listed, same]
  have equal : cells = there :=
    eq_of_sorted (keyed.cells _ listed) (other_keyed.cells _ also_listed) members
  rwa [equal]

/-- Rows are determined by their cells. -/
theorem unique (keyed : Keyed rows) (other_keyed : Keyed others)
    (same : ∀ cell, cell ∈ cellsOf rows ↔ cell ∈ cellsOf others) : rows = others := by
  have irreflexive : Std.Irrefl fun one other : Bytes × List Cell => one.1 < other.1 :=
    ⟨fun _ => List.lt_irrefl _⟩
  have antisymmetric : Std.Antisymm fun one other : Bytes × List Cell => one.1 < other.1 :=
    ⟨fun _ _ before after => absurd after (List.lt_asymm before)⟩
  exact keyed.sorted.eq_of_mem_iff other_keyed.sorted fun _ =>
    ⟨keyed.mem_of_cellsOf other_keyed same, other_keyed.mem_of_cellsOf keyed fun cell =>
      (same cell).symm⟩

/-- No two of the cells stand in one place. -/
theorem apart (keyed : Keyed rows) : (cellsOf rows).Pairwise fun one other =>
    ¬ (one.row = other.row ∧ one.coordinate = other.coordinate) := by
  refine List.pairwise_flatMap.2 ⟨fun row listed => ?_, ?_⟩
  · refine (keyed.cells row listed).imp fun before same => ?_
    rw [same.2, Std.ReflOrd.compare_self] at before
    cases before
  · refine keyed.sorted.imp_of_mem fun {one other} listed also_listed before cell inside
      third also_inside same => ?_
    rw [← keyed.own _ listed cell inside, ← keyed.own _ also_listed third also_inside, same.1]
      at before
    exact List.lt_irrefl _ before

end Keyed

/-! ## What a scan gathers -/

variable {store : Store} {name : Bytes} {range : KeyRange} {columns : Columns}
  {rows : List (Bytes × List Cell)}

/-- The rows that a scan gathers are in order. -/
theorem Gathers.keyed (gathers : store.Gathers name range columns rows) : Keyed rows :=
  ⟨gathers.sorted, fun row listed => ((gathers.exact row.1 row.2).1 listed).2.1,
    fun row listed cell inside =>
      ((((gathers.exact row.1 row.2).1 listed).2.2.exact cell).1 inside).1,
    fun row listed => ((gathers.exact row.1 row.2).1 listed).2.2.sorted⟩

/-- A scan gathers the cells that stand in its range within its columns. -/
theorem Gathers.mem_cellsOf {table : Table} (found : store.tables.get? name = some table)
    (gathers : store.Gathers name range columns rows) {cell : Cell} :
    cell ∈ cellsOf rows ↔ range.contains cell.row = true ∧
      columns.contains cell.coordinate = true ∧
      store.cell? ⟨name, cell.row, cell.coordinate⟩ = some ⟨cell.value, cell.timestamp⟩ := by
  rw [Store.mem_cellsOf]
  constructor
  · rintro ⟨key, cells, listed, inside⟩
    obtain ⟨within, -, lists⟩ := (gathers.exact key cells).1 listed
    obtain ⟨rfl, among, stands⟩ := (lists.exact cell).1 inside
    exact ⟨contains_iff.2 within, among, stands⟩
  · rintro ⟨within, among, stands⟩
    have lists := lists_selected found cell.row columns
    have inside := (lists.exact cell).2 ⟨rfl, among, stands⟩
    exact ⟨cell.row, _, (gathers.exact _ _).2
      ⟨contains_iff.1 within, List.ne_nil_of_mem inside, lists⟩, inside⟩

/-! ## What a table holds -/

/-- A table holds just the values of cells, whatever their timestamps. -/
def Holds (store : Store) (name : Bytes) (cells : List Cell) : Prop :=
  ∀ cell : Cell,
    (store.cell? ⟨name, cell.row, cell.coordinate⟩).map Entry.value = some cell.value ↔
      ∃ held ∈ cells, held.timeless = cell.timeless

/-- What a scan gathers of a table is told by what the table holds: the rows of those of its cells
that are in the range and within the columns. -/
theorem Holds.timelessRows_eq {table : Table} {cells : List Cell}
    {gathered : List (Bytes × List Cell)} (holds : store.Holds name cells)
    (found : store.tables.get? name = some table)
    (gathers : store.Gathers name range columns gathered) (keyed : Keyed rows)
    (same : ∀ cell, cell ∈ cellsOf rows ↔ cell ∈ cells ∧
      range.contains cell.row = true ∧ columns.contains cell.coordinate = true) :
    timelessRows gathered = timelessRows rows := by
  refine gathers.keyed.timeless.unique keyed.timeless fun timeless => ?_
  rw [mem_cellsOf_timelessRows, mem_cellsOf_timelessRows]
  constructor
  · rintro ⟨cell, listed, rfl⟩
    obtain ⟨within, among, stands⟩ := (gathers.mem_cellsOf found).1 listed
    obtain ⟨held, kept, equal⟩ := (holds cell).1 (by rw [stands]; rfl)
    obtain ⟨row, coordinate, -⟩ := Cell.timeless_eq_iff.1 equal
    exact ⟨held, (same held).2 ⟨kept, row ▸ within, coordinate ▸ among⟩, equal⟩
  · rintro ⟨held, listed, rfl⟩
    obtain ⟨kept, within, among⟩ := (same held).1 listed
    obtain ⟨entry, stands, value⟩ := Option.map_eq_some_iff.1 ((holds held).2 ⟨held, kept, rfl⟩)
    refine ⟨{ held with timestamp := entry.timestamp }, (gathers.mem_cellsOf found).2
      ⟨within, among, ?_⟩, rfl⟩
    rw [← value]
    exact stands

end Store
end WideColumn
