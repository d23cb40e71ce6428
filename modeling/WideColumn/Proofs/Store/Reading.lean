import Mathlib.Data.List.Sort
import WideColumn.Proofs.Bytes
import WideColumn.Proofs.Except
import WideColumn.Proofs.Store.History

/-!
# What a read finds

A read of a row gives the cells that stand in it within the columns that are asked for, in order and
each once. A scan gives the rows of a range that have such cells, in order of their keys, as far as
its limit says.
-/
namespace WideColumn.Store

/-! ## Rows -/

/-- The cells that stand in a row within columns, in order. -/
structure Lists (store : Store) (name key : Bytes) (columns : Columns) (cells : List Cell) :
    Prop where
  /-- They come in order, each coordinate once. -/
  sorted : cells.Pairwise fun one other => compare one.coordinate other.coordinate = .lt
  /-- They are those that stand in the row within the columns. -/
  exact : ∀ cell, cell ∈ cells ↔
    cell.row = key ∧ columns.contains cell.coordinate = true ∧
      store.cell? ⟨name, key, cell.coordinate⟩ = some ⟨cell.value, cell.timestamp⟩

/-- Cells in order are determined by which they are. -/
theorem eq_of_sorted {cells others : List Cell}
    (sorted : cells.Pairwise fun one other => compare one.coordinate other.coordinate = .lt)
    (other_sorted : others.Pairwise fun one other =>
      compare one.coordinate other.coordinate = .lt)
    (same : ∀ cell, cell ∈ cells ↔ cell ∈ others) : cells = others := by
  have irreflexive :
      Std.Irrefl fun one other : Cell => compare one.coordinate other.coordinate = .lt :=
    ⟨fun _ before => nomatch before.symm.trans Std.ReflOrd.compare_self⟩
  have antisymmetric :
      Std.Antisymm fun one other : Cell => compare one.coordinate other.coordinate = .lt :=
    ⟨fun _ _ before after => nomatch before.symm.trans (Std.OrientedCmp.gt_of_lt after)⟩
  exact sorted.eq_of_mem_iff other_sorted fun cell => same cell

/-- A row has one list of cells. -/
theorem Lists.unique {store : Store} {name key : Bytes} {columns : Columns}
    {cells others : List Cell} (one : store.Lists name key columns cells)
    (other : store.Lists name key columns others) : cells = others :=
  eq_of_sorted one.sorted other.sorted fun cell => (one.exact cell).trans (other.exact cell).symm

/-- The cells of a row within columns. -/
def selected (columns : Columns) (key : Bytes) (row : Row) : List Cell :=
  (row.cells key).filter fun cell => columns.contains cell.coordinate

/-- What is selected of a row without a filter is what stands in it within the columns. -/
theorem lists_selected {store : Store} {name : Bytes} {table : Table}
    (found : store.tables.get? name = some table) (key : Bytes) (columns : Columns) :
    store.Lists name key columns (selected columns key (table.row key)) := by
  refine ⟨(sorted_cells key _).filter _, fun cell => ?_⟩
  rw [selected, List.mem_filter, mem_cells, cell?_eq found]
  exact ⟨fun ⟨⟨row, stands⟩, within⟩ => ⟨row, within, stands⟩,
    fun ⟨row, within, stands⟩ => ⟨⟨row, stands⟩, within⟩⟩

/-- A read of a row of a table that declares the family finds what stands there. -/
theorem get_of_declared {store : Store} {name : Bytes} {table : Table} {columns : Columns}
    (found : store.tables.get? name = some table)
    (declared : table.checkColumns name columns = .ok ()) (key : Bytes) :
    store.get name key columns none = .ok (selected columns key (table.row key)) := by
  unfold get Store.table Table.row
  rw [found]
  simp only [bind, Except.bind, declared]
  cases table.rows.get? key with
  | none => rfl
  | some row => rfl

/-! ## Ranges -/

/-- The rows of a range that have cells within columns, in order of their keys. -/
structure Gathers (store : Store) (name : Bytes) (range : KeyRange) (columns : Columns)
    (rows : List (Bytes × List Cell)) : Prop where
  /-- They come in order of their keys, each key once. -/
  sorted : rows.Pairwise fun one other => one.1 < other.1
  /-- They are those of the range that have cells. -/
  exact : ∀ key cells, (key, cells) ∈ rows ↔
    (range.start ≤ key ∧ (range.stop = [] ∨ key < range.stop)) ∧ cells ≠ [] ∧
      store.Lists name key columns cells

/-- A key lies in a range exactly if it is not before the start and is before a stop that bounds
the range. -/
theorem contains_iff {range : KeyRange} {key : Bytes} :
    range.contains key = true ↔ range.start ≤ key ∧ (range.stop = [] ∨ key < range.stop) := by
  unfold KeyRange.contains
  rw [Bool.and_eq_true, Bool.or_eq_true, bne_iff_ne, List.isEmpty_iff, beq_iff_eq,
    Bytes.compare_eq_lt, ne_eq, Bytes.compare_eq_lt, List.not_lt]

/-- Every key lies in the range without bounds. -/
theorem contains_unbounded (key : Bytes) : KeyRange.contains ⟨[], []⟩ key = true :=
  contains_iff.2 ⟨List.nil_le key, .inl rfl⟩

/-- The rows of a range with what is selected of them, without those that have no such cells. -/
def gathered (columns : Columns) (range : KeyRange) (table : Table) : List (Bytes × List Cell) :=
  ((table.rows.entries.filter fun (key, _) => range.contains key).map fun (key, row) =>
    (key, selected columns key row)).filter fun (_, cells) => !cells.isEmpty

/-- What is gathered of a table is what stands in its rows. -/
theorem gathers_gathered {store : Store} {name : Bytes} {table : Table}
    (found : store.tables.get? name = some table) (range : KeyRange) (columns : Columns) :
    store.Gathers name range columns (gathered columns range table) := by
  refine ⟨?_, fun key cells => ?_⟩
  · refine List.Pairwise.filter _ (List.pairwise_map.2 ?_)
    exact (table.rows.sorted.filter _).imp Bytes.compare_eq_lt.1
  · rw [← contains_iff, gathered, List.mem_filter, List.mem_map]
    constructor
    · rintro ⟨⟨⟨_, row⟩, listed, ⟨⟩⟩, some_cells⟩
      obtain ⟨stands, within⟩ := List.mem_filter.1 listed
      have read : table.row key = row := by
        rw [Table.row, table.rows.get?_eq_some_iff.2 stands, Option.getD_some]
      refine ⟨within, ?_, read ▸ lists_selected found key columns⟩
      rintro none_left
      simp [none_left] at some_cells
    · rintro ⟨within, some_cells, lists⟩
      obtain rfl := lists.unique (lists_selected found key columns)
      cases stands : table.rows.get? key with
      | none =>
        rw [Table.row, stands] at some_cells
        exact absurd rfl some_cells
      | some row =>
        rw [Table.row, stands, Option.getD_some] at some_cells ⊢
        refine ⟨⟨(key, row), List.mem_filter.2 ⟨?_, within⟩, rfl⟩, by simpa using some_cells⟩
        exact table.rows.get?_eq_some_iff.1 stands

/-! ## Limits -/

/-- The first rows of a list, as many as a limit says and at least one; without a limit all. -/
def cut (limit : Option Nat) (rows : List α) : List α :=
  match limit with
  | none => rows
  | some most => rows.take (max most 1)

@[simp] theorem cut_nil (limit : Option Nat) : cut limit ([] : List α) = [] := by
  cases limit <;> simp [cut]

/-- What a limit leaves is among the rows. -/
theorem mem_of_mem_cut {limit : Option Nat} {rows : List α} {row : α}
    (left : row ∈ cut limit rows) : row ∈ rows := by
  cases limit with
  | none => exact left
  | some most => exact List.mem_of_mem_take left

/-- The first row fills a limit of one. -/
theorem cut_last {most : Nat} (filled : most ≤ 1) (row : α) (rest : List α) :
    cut (some most) (row :: rest) = [row] := by
  have one : max most 1 = 1 := by omega
  simp only [cut, one, List.take_succ_cons, List.take_zero]

/-- Under any other limit the first row leaves room for more. -/
theorem cut_further {limit : Option Nat} (open_end : ∀ most ∈ limit, 1 < most) (row : α)
    (rest : List α) : cut limit (row :: rest) = row :: cut (limit.map (· - 1)) rest := by
  cases limit with
  | none => rfl
  | some most =>
    have above : 1 < most := open_end most rfl
    have one_less : max most 1 = max (most - 1) 1 + 1 := by omega
    simp only [cut, Option.map_some, one_less, List.take_succ_cons]

/-- The first row fills a limit, or it leaves room for more. -/
theorem filled_or_open (limit : Option Nat) :
    (∃ most, limit = some most ∧ most ≤ 1) ∨ ∀ most ∈ limit, 1 < most := by
  rcases limit with _ | most
  · exact .inr nofun
  · rcases Nat.lt_or_ge 1 most with above | filled
    · exact .inr fun _ same => Option.some.inj same ▸ above
    · exact .inl ⟨most, rfl, filled⟩

/-- The cells that a read finds, if it finds any. -/
def someCells : Except Error (List Cell) → Option (List Cell)
  | .ok (first :: others) => some (first :: others)
  | .ok [] | .error _ => none

/-- A read finds cells exactly if it succeeds and some are left. -/
theorem someCells_eq_some {outcome : Except Error (List Cell)} {cells : List Cell} :
    someCells outcome = some cells ↔ cells ≠ [] ∧ outcome = .ok cells := by
  rcases outcome with fault | _ | ⟨first, others⟩
  · simp [someCells]
  · simp +contextual [someCells, eq_comm]
  · simp +contextual [someCells, eq_comm]

/-- The rows in which a read finds cells. -/
def hits (read : Bytes → Row → Except Error (List Cell)) (entries : List (Bytes × Row)) :
    List (Bytes × List Cell) :=
  entries.filterMap fun (key, row) => (someCells (read key row)).map (key, ·)

section Collect

variable {read : Bytes → Row → Except Error (List Cell)} {key : Bytes} {row : Row}
  {cells : List Cell} {limit : Option Nat} {entries rest : List (Bytes × Row)}
  {rows : List (Bytes × List Cell)}

/-- A row that cannot be read ends everything. -/
theorem collect_error {fault : Error} (failed : read key row = .error fault) :
    collect read limit ((key, row) :: rest) = .error fault := by
  simp only [collect, failed, bind, Except.bind]

/-- A row without cells is left out and does not count. -/
theorem collect_skip (empty : read key row = .ok []) :
    collect read limit ((key, row) :: rest) = collect read limit rest := by
  simp only [collect, empty, bind, Except.bind]

/-- The row that fills the limit is the last one. -/
theorem collect_last (found : read key row = .ok cells) (some_cells : cells ≠ []) {most : Nat}
    (filled : most ≤ 1) : collect read (some most) ((key, row) :: rest) = .ok [(key, cells)] := by
  obtain ⟨first, others, rfl⟩ := List.exists_cons_of_ne_nil some_cells
  obtain rfl | rfl : most = 0 ∨ most = 1 := by omega
  · simp only [collect, found, bind, Except.bind, pure, Except.pure]
  · simp only [collect, found, bind, Except.bind, pure, Except.pure]

/-- Any other row that is found is followed by as many as the limit leaves room for. -/
theorem collect_further (found : read key row = .ok cells) (some_cells : cells ≠ [])
    (open_end : ∀ most ∈ limit, 1 < most) :
    collect read limit ((key, row) :: rest) =
      (collect read (limit.map (· - 1)) rest).map ((key, cells) :: ·) := by
  obtain ⟨first, others, rfl⟩ := List.exists_cons_of_ne_nil some_cells
  rcases limit with _ | _ | _ | more
  · simp only [collect, found, bind, Except.bind, Option.map_none]
    cases collect read none rest <;> rfl
  · exact absurd (open_end 0 rfl) (by decide)
  · exact absurd (open_end 1 rfl) (by decide)
  · simp only [collect, found, bind, Except.bind, Option.map_some, Nat.add_sub_cancel]
    cases collect read (some (more + 1)) rest <;> rfl

/-- What is collected is what reads find, as far as the limit says. -/
theorem collect_ok (done : collect read limit entries = .ok rows) :
    rows = cut limit (hits read entries) := by
  -- Each row that is found lowers the limit, so the induction is over all limits.
  induction entries generalizing limit rows with
  | nil =>
    obtain rfl := Except.ok.inj done
    rw [hits, List.filterMap_nil, cut_nil]
  | cons entry rest ih =>
    obtain ⟨key, row⟩ := entry
    cases outcome : read key row with
    | error fault =>
      rw [collect_error outcome] at done
      cases done
    | ok cells =>
      by_cases none_left : cells = []
      · subst none_left
        rw [collect_skip outcome] at done
        have left_out : hits read ((key, row) :: rest) = hits read rest := by
          simp only [hits, List.filterMap_cons, outcome, someCells, Option.map_none]
        rw [left_out]
        exact ih done
      · have is_hit : someCells (read key row) = some cells :=
          someCells_eq_some.2 ⟨none_left, outcome⟩
        have listed : hits read ((key, row) :: rest) = (key, cells) :: hits read rest := by
          simp only [hits, List.filterMap_cons, is_hit, Option.map_some]
        rw [listed]
        rcases filled_or_open limit with ⟨most, rfl, filled⟩ | open_end
        · rw [collect_last outcome none_left filled] at done
          obtain rfl := Except.ok.inj done
          rw [cut_last filled]
        · rw [collect_further outcome none_left open_end] at done
          obtain ⟨others, more, rfl⟩ := Except.map_eq_ok.1 done
          rw [cut_further open_end, ih more]

/-- Every row that is collected is what a read of it finds. -/
theorem read_of_collect (done : collect read limit entries = .ok rows) :
    ∀ found ∈ rows, ∃ row, read found.1 row = .ok found.2 := by
  intro found among
  rw [collect_ok done] at among
  obtain ⟨⟨key, row⟩, -, hit⟩ := List.mem_filterMap.1 (mem_of_mem_cut among)
  obtain ⟨cells, is_hit, rfl⟩ := Option.map_eq_some_iff.1 hit
  exact ⟨row, (someCells_eq_some.1 is_hit).2⟩

/-- Rows that can all be read are collected. -/
theorem exists_collect (limit : Option Nat)
    (readable : ∀ entry ∈ entries, ∃ cells, read entry.1 entry.2 = .ok cells) :
    ∃ rows, collect read limit entries = .ok rows := by
  induction entries generalizing limit with
  | nil => exact ⟨[], rfl⟩
  | cons entry rest ih =>
    obtain ⟨key, row⟩ := entry
    obtain ⟨⟨cells, outcome⟩, others⟩ := List.forall_mem_cons.1 readable
    by_cases none_left : cells = []
    · subst none_left
      rw [collect_skip outcome]
      exact ih limit others
    · rcases filled_or_open limit with ⟨most, rfl, filled⟩ | open_end
      · exact ⟨_, collect_last outcome none_left filled⟩
      · obtain ⟨rows, more⟩ := ih (limit.map (· - 1)) others
        rw [collect_further outcome none_left open_end, more]
        exact ⟨_, rfl⟩

/-- What can be collected under one limit can be collected under any lower one. -/
theorem exists_collect_of_le {few : Nat} (lower : ∀ most ∈ limit, few ≤ most)
    (done : collect read limit entries = .ok rows) :
    ∃ fewer, collect read (some few) entries = .ok fewer := by
  induction entries generalizing few limit rows with
  | nil => exact ⟨[], rfl⟩
  | cons entry rest ih =>
    obtain ⟨key, row⟩ := entry
    cases outcome : read key row with
    | error fault =>
      rw [collect_error outcome] at done
      cases done
    | ok cells =>
      by_cases none_left : cells = []
      · subst none_left
        rw [collect_skip outcome] at done ⊢
        exact ih lower done
      · rcases Nat.lt_or_ge 1 few with above | filled
        · have open_end : ∀ most ∈ limit, 1 < most := fun most same =>
            Nat.lt_of_lt_of_le above (lower most same)
          rw [collect_further outcome none_left open_end] at done
          obtain ⟨others, more, -⟩ := Except.map_eq_ok.1 done
          have lower : ∀ most ∈ limit.map (· - 1), few - 1 ≤ most := by
            intro most same
            obtain ⟨old, stood, rfl⟩ := Option.map_eq_some_iff.1 same
            exact Nat.sub_le_sub_right (lower old stood) 1
          obtain ⟨fewer, less⟩ := ih lower more
          have open_few : ∀ most ∈ some few, 1 < most := fun _ same =>
            Option.some.inj same ▸ above
          rw [collect_further outcome none_left open_few, Option.map_some, less]
          exact ⟨_, rfl⟩
        · exact ⟨_, collect_last outcome none_left filled⟩

/-- Without a limit, two lists of rows are collected one after the other. -/
theorem collect_append (entries more : List (Bytes × Row)) :
    collect read none (entries ++ more) = (do
      let before ← collect read none entries
      let after ← collect read none more
      return before ++ after) := by
  induction entries with
  | nil =>
    rw [List.nil_append]
    cases collect read none more <;> rfl
  | cons entry rest ih =>
    obtain ⟨key, row⟩ := entry
    rw [List.cons_append]
    cases outcome : read key row with
    | error fault =>
      rw [collect_error outcome, collect_error outcome]
      rfl
    | ok cells =>
      by_cases none_left : cells = []
      · subst none_left
        rw [collect_skip outcome, collect_skip outcome, ih]
      · have unlimited : ∀ most ∈ (none : Option Nat), 1 < most := fun _ same => nomatch same
        rw [collect_further outcome none_left unlimited,
          collect_further outcome none_left unlimited, Option.map_none, ih]
        cases collect read none rest with
        | error fault => rfl
        | ok before => cases collect read none more <;> rfl

/-- Reads that agree on the rows collect the same. -/
theorem collect_congr {other : Bytes → Row → Except Error (List Cell)}
    (agree : ∀ entry ∈ entries, read entry.1 entry.2 = other entry.1 entry.2)
    (limit : Option Nat) : collect read limit entries = collect other limit entries := by
  induction entries generalizing limit with
  | nil => rfl
  | cons entry rest ih =>
    obtain ⟨key, row⟩ := entry
    obtain ⟨here, later⟩ := List.forall_mem_cons.1 agree
    simp only [collect, here, ih later]

end Collect

/-- Reads that never fail hit the rows that have cells. -/
theorem hits_ok (read : Bytes → Row → List Cell) (entries : List (Bytes × Row)) :
    hits (fun key row => .ok (read key row)) entries =
      (entries.map fun (key, row) => (key, read key row)).filter
        fun (_, cells) => !cells.isEmpty := by
  induction entries with
  | nil => rfl
  | cons entry rest ih =>
    obtain ⟨key, row⟩ := entry
    rw [List.map_cons, List.filter_cons, ← ih]
    cases found : read key row with
    | nil => simp only [hits, List.filterMap_cons, found, someCells]; rfl
    | cons first others => simp only [hits, List.filterMap_cons, found, someCells]; rfl

/-- Rows are collected as far as the limit says, those without cells left out. -/
theorem collect_eq (read : Bytes → Row → List Cell) (limit : Option Nat)
    (entries : List (Bytes × Row)) :
    collect (fun key row => .ok (read key row)) limit entries =
      .ok (cut limit ((entries.map fun (key, row) => (key, read key row)).filter
        fun (_, cells) => !cells.isEmpty)) := by
  obtain ⟨rows, done⟩ := @exists_collect (fun key row => .ok (read key row)) entries limit
    fun entry _ => ⟨read entry.1 entry.2, rfl⟩
  rw [done, collect_ok done, hits_ok]

/-- A scan of a table that declares the family finds what is gathered of it, as far as the limit
says. -/
theorem scan_of_declared {store : Store} {name : Bytes} {table : Table} {columns : Columns}
    (found : store.tables.get? name = some table)
    (declared : table.checkColumns name columns = .ok ()) (range : KeyRange) (limit : Option Nat) :
    store.scan name range columns none limit =
      .ok (cut limit (gathered columns range table)) := by
  unfold scan Store.table
  rw [found]
  simp only [bind, Except.bind, declared]
  exact collect_eq (selected columns) limit _

end WideColumn.Store
