import WideColumn.Proofs.Filter.Agreement
import WideColumn.Proofs.Store.Scanning

/-!
# Ranges in other words

A range of keys, a prefix of columns and a range of columns can each be said by compare filters. The
range of a scan stops early where a filter tests row after row, a prefix is searched for where a
comparator cuts the data off, and a range of columns looks at the flags of its bounds where compare
filters have an operator each. It makes no difference which words are used.
-/
namespace WideColumn.Store

namespace Filter

/-- The rows from one key on and before another, and of these what a further filter leaves, if there
is one. -/
def rowsBetween (start stop : Bytes) (filter : Option Filter) : Filter :=
  .list .mustPassAll (.compare .row .greaterOrEqual (.binary start) ::
    .compare .row .less (.binary stop) :: filter.toList)

/-- The columns whose qualifiers, cut to the length of a prefix, are that prefix. -/
def columnsBeginning (reference : Bytes) : Filter :=
  .compare .qualifier .equal (.binaryPrefix reference)

/-- The columns on the inner side of a bound, as an operator tells it; an absent bound asks for
nothing. -/
def columnsWithin (op : CompareOp) (bound : Option Bytes) : List Filter :=
  (bound.map fun reference => .compare .qualifier op (.binary reference)).toList

/-- The columns on the inner sides of two bounds. -/
def columnsBetween (low : Option Bytes) (lowInclusive : Bool) (high : Option Bytes)
    (highInclusive : Bool) : Filter :=
  .list .mustPassAll
    (columnsWithin (if lowInclusive then .greaterOrEqual else .greater) low ++
      columnsWithin (if highInclusive then .lessOrEqual else .less) high)

/-! ## Members in turn -/

/-- What the first member leaves is handed to the others, unless nothing is left. -/
theorem applyAll_cons_ok {key : Bytes} {cells kept : List Cell} {member : Filter}
    (gives : member.apply key cells = .ok kept) (rest : List Filter) :
    applyAll key cells (member :: rest) =
      if kept = [] then .ok [] else applyAll key kept rest := by
  rw [applyAll, gives]
  cases kept with
  | nil => rfl
  | cons cell others => exact (if_neg (List.cons_ne_nil cell others)).symm

/-- One member alone gives what it gives. -/
theorem applyAll_singleton (key : Bytes) (cells : List Cell) (member : Filter) :
    applyAll key cells [member] = member.apply key cells := by
  cases given : member.apply key cells with
  | error fault => rw [applyAll, given]; rfl
  | ok kept =>
    rw [applyAll_cons_ok given]
    split
    · next none_left => rw [none_left]
    · rfl

/-- Members that each keep the cells which pass a test keep those which pass all tests. -/
theorem applyAll_tests {key : Bytes} {members : List Filter} {tests : List (Cell → Bool)}
    (each : List.Forall₂
      (fun member test => ∀ cells, member.apply key cells = .ok (cells.filter test)) members tests)
    (cells : List Cell) :
    applyAll key cells members = .ok (cells.filter fun cell => tests.all fun test => test cell) := by
  induction each generalizing cells with
  | nil => simp [applyAll]
  | @cons member test rest others here _ ih =>
    have both : (cells.filter fun cell => (test :: others).all fun test => test cell) =
        (cells.filter test).filter fun cell => others.all fun test => test cell := by
      simp only [List.filter_filter, List.all_cons, Bool.and_comm]
    rw [applyAll_cons_ok (here cells), ih, both]
    split
    · next none_left => rw [none_left, List.filter_nil]
    · rfl

/-! ## Compare filters -/

/-- A comparison of whole values lets pass what its operator admits. -/
theorem passes_binary (op : CompareOp) (reference data : Bytes) :
    passes op (.binary reference) data = .ok (op.admits data reference) :=
  congrArg Except.ok (op.accepts_compare data reference)

/-- A comparison of row keys keeps all cells of a row or none. -/
theorem apply_row_binary (op : CompareOp) (reference key : Bytes) (cells : List Cell) :
    (compare .row op (.binary reference)).apply key cells =
      .ok (if op.admits key reference then cells else []) := by
  rw [apply, passes_binary]
  rfl

/-- A comparison of qualifiers keeps the cells whose qualifiers its operator admits. -/
theorem apply_qualifier_binary (op : CompareOp) (reference key : Bytes) (cells : List Cell) :
    (compare .qualifier op (.binary reference)).apply key cells =
      .ok (cells.filter fun cell => op.admits cell.qualifier reference) := by
  simp only [apply, passes_binary, keep_ok]

/-! ## Keys -/

/-- On a row with cells, the range as a filter keeps what a further filter leaves if the key lies in
the range, and nothing otherwise. -/
theorem apply_rowsBetween {start stop : Bytes} (bounds : stop ≠ []) (filter : Option Filter)
    (key : Bytes) {cells : List Cell} (some_cells : cells ≠ []) :
    (rowsBetween start stop filter).apply key cells =
      if KeyRange.contains ⟨start, stop⟩ key then
        filter.elim (.ok cells) fun member => member.apply key cells
      else .ok [] := by
  have last : applyAll key cells filter.toList =
      filter.elim (.ok cells) fun member => member.apply key cells := by
    cases filter with
    | none => rfl
    | some member => exact applyAll_singleton key cells member
  have inside : KeyRange.contains ⟨start, stop⟩ key = (decide (start ≤ key) && decide (key < stop)) := by
    rw [Bool.eq_iff_iff, contains_iff, Bool.and_eq_true, decide_eq_true_iff, decide_eq_true_iff]
    exact and_congr_right fun _ => or_iff_right bounds
  rw [rowsBetween, apply, applyAll_cons_ok (apply_row_binary .greaterOrEqual start key cells), inside]
  -- A key before the start leaves nothing, and then neither the stop nor the filter is asked.
  by_cases after : start ≤ key
  · by_cases before : key < stop
    · simp [CompareOp.admits, after, before, some_cells, last,
        applyAll_cons_ok (apply_row_binary .less stop key cells)]
    · simp [CompareOp.admits, after, before, some_cells,
        applyAll_cons_ok (apply_row_binary .less stop key cells)]
  · simp [CompareOp.admits, after]

/-! ## Columns -/

/-- The prefix as a filter keeps the cells whose qualifiers start with it. -/
theorem apply_columnPrefix (reference key : Bytes) (cells : List Cell) :
    (columnPrefix (.raw reference)).apply key cells =
      (columnsBeginning reference).apply key cells := by
  have begins (qualifier : Bytes) :
      CompareOp.equal.accepts (Ord.compare (qualifier.take reference.length) reference) =
        reference.isPrefixOf qualifier := by
    rw [Bool.eq_iff_iff, List.isPrefixOf_iff_prefix, ← Bytes.compare_take_eq_eq]
    exact beq_iff_eq
  have passes_prefix (qualifier : Bytes) :
      passes .equal (.binaryPrefix reference) qualifier =
        .ok (reference.isPrefixOf qualifier) :=
    congrArg Except.ok (begins qualifier)
  simp only [columnsBeginning, apply, passes_prefix]
  rfl

/-- Whether data lies on the inner side of a bound, if there is one. -/
def insideBound (op : CompareOp) (bound : Option Bytes) (data : Bytes) : Bool :=
  bound.elim true fun reference => op.admits data reference

/-- A bound is looked at as its operator tells it. -/
theorem withinBound_ofOption (op : CompareOp) (comparison : String) (qualifier : Bytes)
    (bound : Option Bytes) :
    withinBound op comparison qualifier (.ofOption .raw bound) =
      .ok (insideBound op bound qualifier) := by
  cases bound <;> rfl

/-- The filters for a bound keep the cells on its inner side. -/
theorem apply_columnsWithin (op : CompareOp) (bound : Option Bytes) (key : Bytes) :
    List.Forall₂
      (fun member test => ∀ cells, apply key cells member = .ok (cells.filter test))
      (columnsWithin op bound)
      (bound.map fun reference cell => op.admits cell.qualifier reference).toList := by
  cases bound with
  | none => exact .nil
  | some reference => exact .cons (apply_qualifier_binary op reference key) .nil

/-- The range as a filter keeps the cells on the inner sides of both bounds. -/
theorem apply_columnRange (low : Option Bytes) (lowInclusive : Bool) (high : Option Bytes)
    (highInclusive : Bool) (key : Bytes) (cells : List Cell) :
    (columnRange (.ofOption .raw low) lowInclusive (.ofOption .raw high) highInclusive).apply key
        cells =
      (columnsBetween low lowInclusive high highInclusive).apply key cells := by
  have both (qualifier : Bytes) :
      withinColumns (.ofOption .raw low) lowInclusive (.ofOption .raw high) highInclusive
          qualifier =
        .ok (insideBound (if lowInclusive then .greaterOrEqual else .greater) low qualifier &&
          insideBound (if highInclusive then .lessOrEqual else .less) high qualifier) := by
    rw [withinColumns, withinBound_ofOption, withinBound_ofOption]
    cases insideBound (if lowInclusive then .greaterOrEqual else .greater) low qualifier <;> rfl
  rw [columnsBetween, apply, apply,
    applyAll_tests (List.rel_append (apply_columnsWithin _ low key) (apply_columnsWithin _ high key))]
  simp only [inRange_eq, both, keep_ok]
  cases low <;> cases high <;> simp [insideBound]

end Filter

/-- What is selected of a row by a range as a filter is what is selected of it if its key lies in the
range. -/
theorem select_rowsBetween {start stop : Bytes} (bounds : stop ≠ []) (key : Bytes) (row : Row)
    (columns : Columns) (filter : Option Filter) :
    select key row columns (some (.rowsBetween start stop filter)) =
      if KeyRange.contains ⟨start, stop⟩ key then select key row columns filter else .ok [] := by
  unfold select
  dsimp only
  by_cases none_left : ((row.cells key).filter fun cell => columns.contains cell.coordinate) = []
  · simp only [none_left, List.isEmpty_nil, ↓reduceIte]
    cases filter <;> simp
  · have some_left :
        ((row.cells key).filter fun cell => columns.contains cell.coordinate).isEmpty = false := by
      simpa using none_left
    rw [some_left, Filter.apply_rowsBetween bounds filter key none_left]
    cases filter <;> rfl

/-- Rows in which nothing is found can be left out before they are read. -/
theorem collect_filter {read : Bytes → Row → Except Error (List Cell)} (test : Bytes → Bool)
    (outside : ∀ key row, test key = false → read key row = .ok []) (limit : Option Nat)
    (entries : List (Bytes × Row)) :
    collect read limit (entries.filter fun entry => test entry.1) = collect read limit entries := by
  induction entries generalizing limit with
  | nil => rfl
  | cons entry rest ih =>
    obtain ⟨key, row⟩ := entry
    cases passes : test key with
    | true => simp only [List.filter_cons, passes, if_true, collect, ih]
    | false =>
      rw [List.filter_cons_of_neg (by simp [passes]), ih, collect_skip (outside key row passes)]

/-- A scan of a range gives what a scan of everything gives by the range as a filter. -/
theorem scan_eq_rowsBetween (store : Store) (name start : Bytes) {stop : Bytes} (bounds : stop ≠ [])
    (columns : Columns) (filter : Option Filter) (limit : Option Nat) :
    store.scan name ⟨start, stop⟩ columns filter limit =
      store.scan name ⟨[], []⟩ columns (some (.rowsBetween start stop filter)) limit := by
  have everything (table : Table) :
      table.rows.entries.filter (fun entry => KeyRange.contains ⟨[], []⟩ entry.1) =
        table.rows.entries :=
    List.filter_eq_self.2 fun entry _ => contains_unbounded entry.1
  have rows (table : Table) :
      collect (fun key row => select key row columns filter) limit
          (table.rows.entries.filter fun entry => KeyRange.contains ⟨start, stop⟩ entry.1) =
        collect (fun key row => select key row columns (some (.rowsBetween start stop filter))) limit
          (table.rows.entries.filter fun entry => KeyRange.contains ⟨[], []⟩ entry.1) := by
    rw [everything, ← collect_filter (KeyRange.contains ⟨start, stop⟩) ?_ limit table.rows.entries]
    · refine collect_congr (fun entry listed => ?_) limit
      rw [select_rowsBetween bounds, if_pos (List.mem_filter.1 listed).2]
    · intro key row outside
      rw [select_rowsBetween bounds, outside]
      exact if_neg Bool.false_ne_true
  unfold scan
  exact bind_congr fun table => bind_congr fun _ => rows table

/-- A scan of a range of keys is a scan of everything under comparisons of the keys, and a prefix and
a range of columns keep what comparisons of the qualifiers keep. Without bounds nothing is left out. -/
theorem ranges_as_comparisons :
    (∀ (store : Store) (name start stop : Bytes) (columns : Columns) (filter : Option Filter)
        (limit : Option Nat), stop ≠ [] →
      store.scan name ⟨start, stop⟩ columns filter limit =
        store.scan name ⟨[], []⟩ columns (some (.rowsBetween start stop filter)) limit) ∧
      (∀ reference key cells, (Filter.columnPrefix (.raw reference)).apply key cells =
        (Filter.columnsBeginning reference).apply key cells) ∧
      (∀ low lowInclusive high highInclusive key cells,
        (Filter.columnRange (.ofOption .raw low) lowInclusive (.ofOption .raw high)
            highInclusive).apply key cells =
          (Filter.columnsBetween low lowInclusive high highInclusive).apply key cells) ∧
      (∀ lowInclusive highInclusive key cells,
        (Filter.columnRange .none lowInclusive .none highInclusive).apply key cells = .ok cells) := by
  refine ⟨fun store name start stop columns filter limit bounds =>
    scan_eq_rowsBetween store name start bounds columns filter limit, Filter.apply_columnPrefix,
    Filter.apply_columnRange, fun lowInclusive highInclusive key cells => ?_⟩
  exact Filter.apply_columnRange none lowInclusive none highInclusive key cells

/-- Of the rows from the second key on and before the fourth, the first in which the further filter
leaves a cell. -/
theorem ranges_as_comparisons_ofFourRows :
    fourRows.scan [116] ⟨[98], [100]⟩ ⟨some [102], none⟩ (some notTwo) (some 1) =
        fourRows.scan [116] ⟨[], []⟩ ⟨some [102], none⟩
          (some (.rowsBetween [98] [100] (some notTwo))) (some 1) ∧
      fourRows.scan [116] ⟨[98], [100]⟩ ⟨some [102], none⟩ (some notTwo) (some 1) =
        .ok [([99], [⟨[99], [102], [113], [3], 1⟩])] :=
  ⟨ranges_as_comparisons.1 fourRows [116] [98] [100] ⟨some [102], none⟩ (some notTwo) (some 1)
    (List.cons_ne_nil 100 []), rfl⟩

end WideColumn.Store
