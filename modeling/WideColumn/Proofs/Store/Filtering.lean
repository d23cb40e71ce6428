import WideColumn.Proofs.Store.Filter
import WideColumn.Proofs.Store.Reading

/-!
# What filters leave of a row

A filter only takes away: cells go, or lose their values if the filter strips them, and nothing else
happens to them. So a row that is read in order stays in order under any filter.
-/
namespace WideColumn

/-- A coordinate comes before another by its family or, within a family, by its qualifier. -/
theorem Coordinate.compare_eq_lt {one other : Coordinate} :
    compare one other = .lt ↔
      one.family < other.family ∨ one.family = other.family ∧ one.qualifier < other.qualifier := by
  rw [← Bytes.compare_eq_lt, ← Bytes.compare_eq_lt,
    ← Std.LawfulEqOrd.compare_eq_iff_eq (a := one.family)]
  exact Ordering.then_eq_lt

namespace Store

/-- Cells in order of their families and then of their qualifiers, no coordinate twice. -/
def InOrder (cells : List Cell) : Prop :=
  cells.Pairwise fun one other =>
    one.family < other.family ∨ one.family = other.family ∧ one.qualifier < other.qualifier

/-- What is left of cells from which some are taken and some values stripped. -/
structure Trims (strips : Prop) (cells kept : List Cell) : Prop where
  /-- No coordinate is new, comes twice or moves. -/
  coordinates : (kept.map Cell.coordinate).Sublist (cells.map Cell.coordinate)
  /-- A cell is the one that stood at its coordinate, or that one without its value. -/
  rendered : ∀ after ∈ kept, ∀ before ∈ cells, after.coordinate = before.coordinate →
    after = before ∨ strips ∧ after = { before with value := [] }

/-- The cells of a row are in order exactly if their coordinates are. -/
theorem inOrder_iff {cells : List Cell} :
    InOrder cells ↔
      (cells.map Cell.coordinate).Pairwise fun one other => compare one other = .lt := by
  simp only [InOrder, List.pairwise_map, Coordinate.compare_eq_lt, Cell.coordinate]

/-- Cells in order are distinct. -/
theorem InOrder.distinct {cells : List Cell} (ordered : InOrder cells) : Distinct cells := by
  refine (inOrder_iff.1 ordered).imp fun before same => ?_
  rw [same, Std.ReflOrd.compare_self] at before
  cases before

namespace Trims

variable {strips : Prop} {cells kept : List Cell}

/-- What is left of distinct cells is distinct. -/
theorem distinct (trims : Trims strips cells kept) (distinct : Distinct cells) : Distinct kept :=
  List.Nodup.sublist trims.coordinates distinct

/-- What is left of cells in order is in order. -/
theorem inOrder (trims : Trims strips cells kept) (ordered : InOrder cells) : InOrder kept :=
  inOrder_iff.2 ((inOrder_iff.1 ordered).sublist trims.coordinates)

/-- Some of distinct cells are left as they are. -/
theorem of_sublist (distinct : Distinct cells) (among : kept.Sublist cells) :
    Trims strips cells kept :=
  ⟨among.map Cell.coordinate, fun _ after _ before same =>
    .inl (distinct.eq_of_coordinate (among.subset after) before same)⟩

/-- Distinct cells without their values. -/
theorem emptied (distinct : Distinct cells) (may : strips) :
    Trims strips cells (cells.map fun cell => { cell with value := [] }) := by
  constructor
  · rw [List.map_map]
    exact .refl _
  · intro after left before listed same
    obtain ⟨cell, also, rfl⟩ := List.mem_map.1 left
    have was : cell = before := distinct.eq_of_coordinate also listed same
    exact .inr ⟨may, by rw [was]⟩

/-- Where nothing is stripped, more may be. -/
theorem mono {other : Prop} (trims : Trims strips cells kept) (more : strips → other) :
    Trims other cells kept :=
  ⟨trims.coordinates, fun after left before listed same =>
    (trims.rendered after left before listed same).imp_right (.imp_left more)⟩

/-- What is left of what is left. -/
theorem trans {less : List Cell} (first : Trims strips cells kept)
    (second : Trims strips kept less) : Trims strips cells less := by
  refine ⟨second.coordinates.trans first.coordinates, fun after left before listed same => ?_⟩
  obtain ⟨mid, between, here⟩ :=
    List.mem_map.1 (second.coordinates.subset (List.mem_map_of_mem left))
  rcases second.rendered after left mid between here.symm with rfl | ⟨may, rfl⟩
  · exact first.rendered after between before listed same
  · rcases first.rendered mid between before listed same with rfl | ⟨_, rfl⟩
    · exact .inr ⟨may, rfl⟩
    · exact .inr ⟨may, rfl⟩

end Trims

/-- Looking cells up by their coordinates makes no coordinate new, comes upon none twice and keeps
their order. -/
theorem coordinates_filterMap {look : Cell → Option Cell}
    (finds : ∀ cell other, look cell = some other → other.coordinate = cell.coordinate)
    (cells : List Cell) :
    ((cells.filterMap look).map Cell.coordinate).Sublist (cells.map Cell.coordinate) := by
  induction cells with
  | nil => exact .slnil
  | cons cell rest ih =>
    cases found : look cell with
    | none =>
      rw [List.filterMap_cons_none found]
      exact ih.cons _
    | some other =>
      rw [List.filterMap_cons_some found, List.map_cons, finds cell other found]
      exact ih.cons_cons _

/-- Where every result is left of the same cells, so is their union. -/
theorem trims_union {strips : Prop} {cells : List Cell} {results : List (List Cell)}
    (each : ∀ kept ∈ results, Trims strips cells kept) :
    Trims strips cells (Filter.union cells results) := by
  constructor
  · refine coordinates_filterMap (fun cell other found => ?_) cells
    obtain ⟨kept, -, at_last⟩ := List.exists_of_findSome?_eq_some found
    exact (Filter.lastAt_eq_some at_last).2
  · intro after left
    obtain ⟨cell, -, found⟩ := List.mem_filterMap.1 left
    obtain ⟨kept, among, at_last⟩ := List.exists_of_findSome?_eq_some found
    exact (each kept among).rendered after (Filter.lastAt_eq_some at_last).1

namespace Filter

/-- Whether a filter strips values somewhere in its tree. -/
def Strips (filter : Filter) : Prop := .keyOnly ∈ filter.leaves

/-- A list strips values if one of its members does. -/
theorem Strips.of_member {operator : ListOperator} {member : Filter} {members : List Filter}
    (listed : member ∈ members) (strips : member.Strips) : (list operator members).Strips :=
  mem_leaves_list.2 ⟨member, listed, strips⟩

/-- Cells that pass a test are left as they are. -/
theorem keep_trims {strips : Prop} {test : Cell → Except Error Bool} {cells kept : List Cell}
    (distinct : Distinct cells) (done : keep test cells = .ok kept) : Trims strips cells kept := by
  obtain ⟨-, rfl⟩ := keep_eq_ok.1 done
  exact .of_sublist distinct List.filter_sublist

/-- Members that trim one after the other trim. -/
theorem applyAll_trims {strips : Prop} {key : Bytes} {members : List Filter}
    (each : ∀ member ∈ members, ∀ cells kept, Distinct cells →
      member.apply key cells = .ok kept → Trims strips cells kept)
    {cells kept : List Cell} (distinct : Distinct cells)
    (done : applyAll key cells members = .ok kept) : Trims strips cells kept := by
  induction members generalizing cells with
  | nil =>
    obtain rfl := Except.ok.inj done
    exact .of_sublist distinct (.refl _)
  | cons member rest ih =>
    obtain ⟨member_trims, rest_trim⟩ := List.forall_mem_cons.1 each
    obtain ⟨first, applied, ⟨rfl, rfl⟩ | ⟨-, more⟩⟩ := applyAll_cons_eq_ok.1 done
    · exact member_trims cells [] distinct applied
    · have trims := member_trims cells first distinct applied
      exact trims.trans (ih rest_trim (trims.distinct distinct) more)

/-- Whatever a filter gives of distinct cells is left of them. -/
theorem trims_of_apply (filter : Filter) (key : Bytes) :
    ∀ cells kept, Distinct cells → filter.apply key cells = .ok kept →
      Trims filter.Strips cells kept := by
  induction filter using tree_induction with
  | compare component op comparator =>
    intro cells kept distinct done
    cases component with
    | row =>
      obtain ⟨verdict, -, rest⟩ := Except.bind_eq_ok.1 done
      obtain rfl := Except.ok.inj rest
      cases verdict with
      | true => exact .of_sublist distinct (.refl _)
      | false => exact .of_sublist distinct (List.nil_sublist _)
    | _ => exact keep_trims distinct done
  | columnPrefix reference => exact fun _ _ => keep_trims
  | columnRange low lowInclusive high highInclusive => exact fun _ _ => keep_trims
  | keyOnly =>
    intro cells kept distinct done
    obtain rfl := Except.ok.inj done
    exact .emptied distinct (List.mem_singleton.2 rfl)
  | firstKeyOnly =>
    intro cells kept distinct done
    obtain rfl := Except.ok.inj done
    exact .of_sublist distinct (List.take_sublist 1 cells)
  | list operator members ih =>
    intro cells kept distinct done
    have each : ∀ member ∈ members, ∀ cells kept, Distinct cells →
        member.apply key cells = .ok kept → Trims (list operator members).Strips cells kept :=
      fun member listed cells kept distinct applied =>
        (ih member listed cells kept distinct applied).mono (.of_member listed)
    cases operator with
    | mustPassAll => exact applyAll_trims each distinct done
    | mustPassOne =>
      obtain ⟨results, applied, rest⟩ := Except.bind_eq_ok.1 done
      obtain rfl := Except.ok.inj rest
      refine trims_union fun kept among => ?_
      obtain ⟨member, listed, gives⟩ := (results_of_members applied).2 kept among
      exact each member listed cells kept distinct gives

end Filter

/-! ## Rows that are read -/

/-- What is selected of a row is in order, under any filter. -/
theorem select_inOrder {key : Bytes} {row : Row} {columns : Columns} {filter : Option Filter}
    {cells : List Cell} (done : select key row columns filter = .ok cells) : InOrder cells := by
  have ordered : InOrder (selected columns key row) :=
    inOrder_iff.2 (List.pairwise_map.2 ((sorted_cells key row).filter _))
  cases filter with
  | none =>
    obtain rfl := Except.ok.inj done
    exact ordered
  | some filter =>
    unfold select at done
    dsimp only at done
    split at done
    · obtain rfl := Except.ok.inj done
      exact .nil
    · exact (filter.trims_of_apply key _ _ ordered.distinct done).inOrder ordered

/-- What a read of a row gives is in order, under any filter. -/
theorem get_inOrder {store : Store} {name key : Bytes} {columns : Columns} {filter : Option Filter}
    {cells : List Cell} (done : store.get name key columns filter = .ok cells) : InOrder cells := by
  obtain ⟨table, -, rest⟩ := Except.bind_eq_ok.1 done
  obtain ⟨-, -, read⟩ := Except.bind_eq_ok.1 rest
  cases stands : table.rows.get? key with
  | none =>
    rw [stands] at read
    obtain rfl := Except.ok.inj read
    exact .nil
  | some row =>
    rw [stands] at read
    exact select_inOrder read

/-- Every row that a scan gives is in order, under any filter. -/
theorem scan_inOrder {store : Store} {name : Bytes} {range : KeyRange} {columns : Columns}
    {filter : Option Filter} {limit : Option Nat} {rows : List (Bytes × List Cell)}
    (done : store.scan name range columns filter limit = .ok rows) :
    ∀ row ∈ rows, InOrder row.2 := by
  intro row among
  obtain ⟨table, -, rest⟩ := Except.bind_eq_ok.1 done
  obtain ⟨-, -, collected⟩ := Except.bind_eq_ok.1 rest
  obtain ⟨found, read⟩ := read_of_collect collected row among
  exact select_inOrder read

/-- Whatever a filter gives of distinct cells is some of them in their order, each as it was or, if
the filter strips values, without its value. So every row that is read or scanned is in order, under
any filter. -/
theorem filters_trim :
    (∀ (filter : Filter) (key : Bytes) (cells kept : List Cell), Distinct cells →
      filter.apply key cells = .ok kept → Trims filter.Strips cells kept) ∧
    (∀ (store : Store) (name key : Bytes) (columns : Columns) (filter : Option Filter)
      (cells : List Cell), store.get name key columns filter = .ok cells → InOrder cells) ∧
    ∀ (store : Store) (name : Bytes) (range : KeyRange) (columns : Columns)
      (filter : Option Filter) (limit : Option Nat) (rows : List (Bytes × List Cell)),
      store.scan name range columns filter limit = .ok rows → ∀ row ∈ rows, InOrder row.2 :=
  ⟨Filter.trims_of_apply, fun _ _ _ _ _ _ => get_inOrder, fun _ _ _ _ _ _ _ => scan_inOrder⟩

/-- The first cell without its value, and the cells whose value is 2. -/
def firstOrTwo : Filter :=
  .list .mustPassOne [.list .mustPassAll [.firstKeyOnly, .keyOnly],
    .compare .value .equal (.binary [2])]

/-- A table of one row with three cells. -/
def oneRow : Store :=
  Store.empty.after [.createTable [116] [[102], [103]], .put [116] [107] ⟨[103], [97]⟩ (.raw [2]),
    .put [116] [107] ⟨[102], [98]⟩ (.raw [3]), .put [116] [107] ⟨[102], [97]⟩ (.raw [1])]

/-- The cells of that row. -/
def threeCells : List Cell :=
  [⟨[107], [102], [97], [1], 3⟩, ⟨[107], [102], [98], [3], 2⟩, ⟨[107], [103], [97], [2], 1⟩]

/-- What the filter leaves of them. -/
def twoCells : List Cell := [⟨[107], [102], [97], [], 3⟩, ⟨[107], [103], [97], [2], 1⟩]

/-- The first cell loses its value, the second goes, and the third stays as it is. -/
theorem filters_trim_firstOrTwo :
    Distinct threeCells ∧ firstOrTwo.apply [107] threeCells = .ok twoCells ∧
      Trims firstOrTwo.Strips threeCells twoCells ∧
      oneRow.get [116] [107] ⟨none, none⟩ none = .ok threeCells ∧ InOrder threeCells ∧
      oneRow.scan [116] ⟨[], []⟩ ⟨none, none⟩ (some firstOrTwo) none = .ok [([107], twoCells)] ∧
      ∀ row ∈ [(([107] : Bytes), twoCells)], InOrder row.2 := by
  have distinct : Distinct threeCells := by unfold Distinct; decide
  refine ⟨distinct, rfl, ?_, rfl, ?_, rfl, ?_⟩
  · exact filters_trim.1 firstOrTwo [107] threeCells twoCells distinct rfl
  · exact filters_trim.2.1 oneRow [116] [107] ⟨none, none⟩ none threeCells rfl
  · exact filters_trim.2.2 oneRow [116] ⟨[], []⟩ ⟨none, none⟩ (some firstOrTwo) none _ rfl

end Store
end WideColumn
