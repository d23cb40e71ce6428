import WideColumn.Proofs.Store.Ranges

/-!
# Prefixes of row keys

A prefix comparator cuts data to the length of its reference and compares what is left. Cutting
keeps the lexicographic order, so the outcome never falls as the data rises: first comes what is
before the reference, then what begins with it, then the rest. Rows are scanned in the order of
their keys. So the rows whose keys begin with the reference are neighbours in every scan, and those
whose keys compare as less or as greater are all that come before and after them.
-/
namespace WideColumn.Store

namespace Comparator

/-- The outcome of a comparison as a number: negative for data before the reference, zero for data
that matches it and positive for data after it. -/
def sign : Ordering → Int
  | .lt => -1
  | .eq => 0
  | .gt => 1

variable {data other : Bytes}

/-- The outcome never falls as the data rises. -/
theorem sign_compare_le (ordered : data ≤ other) (reference : Bytes) :
    sign (compare data reference) ≤ sign (compare other reference) := by
  cases upper : compare other reference with
  | gt => cases compare data reference <;> decide
  | eq =>
    obtain rfl := Std.LawfulEqOrd.eq_of_compare upper
    rcases Bytes.le_iff.1 ordered with less | rfl
    · rw [Bytes.compare_eq_lt.2 less]
      decide
    · rw [upper]
  | lt =>
    have less : data < reference := Std.lt_of_le_of_lt ordered (Bytes.compare_eq_lt.1 upper)
    rw [Bytes.compare_eq_lt.2 less]

/-- It does not fall either if both are cut to one length first. -/
theorem sign_compare_take_le (ordered : data ≤ other) (count : Nat) (reference : Bytes) :
    sign (compare (data.take count) reference) ≤ sign (compare (other.take count) reference) :=
  sign_compare_le (Bytes.take_le_take ordered count) reference

/-- Below an outcome that is less, or is not greater, every other is so too. -/
theorem accepts_of_sign_le {one other : Ordering} (lower : sign one ≤ sign other) :
    (CompareOp.less.accepts other = true → CompareOp.less.accepts one = true) ∧
      (CompareOp.lessOrEqual.accepts other = true →
        CompareOp.lessOrEqual.accepts one = true) := by
  revert lower
  cases one <;> cases other <;> decide

end Comparator

/-! ## Three parts of a list -/

/-- Items whose outcomes never fall are those of each outcome, one part after the other. -/
theorem less_append_equal_append_greater {outcome : α → Ordering} {items : List α}
    (rises : items.Pairwise fun one other =>
      Comparator.sign (outcome one) ≤ Comparator.sign (outcome other)) :
    items.filter (fun item => CompareOp.less.accepts (outcome item)) ++
        items.filter (fun item => CompareOp.equal.accepts (outcome item)) ++
        items.filter (fun item => CompareOp.greater.accepts (outcome item)) = items := by
  -- Both cuts are made at a test that all items pass up to some place: not greater, then less.
  have not_greater_first : items.Pairwise fun one other =>
      CompareOp.lessOrEqual.accepts (outcome other) = true →
        CompareOp.lessOrEqual.accepts (outcome one) = true :=
    rises.imp fun lower => (Comparator.accepts_of_sign_le lower).2
  have less_first : (items.filter fun item => CompareOp.lessOrEqual.accepts (outcome item)).Pairwise
      fun one other => CompareOp.less.accepts (outcome other) = true →
        CompareOp.less.accepts (outcome one) = true :=
    (rises.filter _).imp fun lower => (Comparator.accepts_of_sign_le lower).1
  have less (item : α) : (CompareOp.less.accepts (outcome item) &&
      CompareOp.lessOrEqual.accepts (outcome item)) = CompareOp.less.accepts (outcome item) := by
    cases outcome item <;> rfl
  have equal (item : α) : (!CompareOp.less.accepts (outcome item) &&
      CompareOp.lessOrEqual.accepts (outcome item)) = CompareOp.equal.accepts (outcome item) := by
    cases outcome item <;> rfl
  have greater (item : α) : (!CompareOp.lessOrEqual.accepts (outcome item)) =
      CompareOp.greater.accepts (outcome item) := by
    cases outcome item <;> rfl
  have lower_parts := filter_append_others less_first
  simp only [List.filter_filter, less, equal] at lower_parts
  have parts := filter_append_others not_greater_first
  simp only [greater] at parts
  rw [lower_parts, parts]

/-! ## Scans by a prefix -/

/-- The rows whose keys, cut to the length of a reference, compare with it as an operator says. -/
def Filter.rowsByPrefix (op : CompareOp) (reference : Bytes) : Filter :=
  .compare .row op (.binaryPrefix reference)

/-- Those of some rows whose keys compare with a prefix as an operator says. -/
def byPrefix (op : CompareOp) (reference : Bytes) (rows : List (Bytes × List Cell)) :
    List (Bytes × List Cell) :=
  rows.filter fun row => op.accepts (compare (row.1.take reference.length) reference)

/-- Of a row all is selected that is selected without a filter, or nothing, as its key compares with
the prefix. -/
theorem select_rowsByPrefix (op : CompareOp) (reference key : Bytes) (row : Row)
    (columns : Columns) :
    select key row columns (some (.rowsByPrefix op reference)) =
      .ok (if op.accepts (compare (key.take reference.length) reference)
        then selected columns key row else []) := by
  unfold select
  dsimp only
  by_cases none_left : ((row.cells key).filter fun cell => columns.contains cell.coordinate) = []
  · simp [selected, none_left]
  · rw [if_neg (by simpa using none_left), Filter.rowsByPrefix, Filter.apply]
    rfl

/-- Rows that are left out by their keys can be left out after they are collected. -/
theorem collect_tested (read : Bytes → Row → List Cell) (test : Bytes → Bool) (limit : Option Nat)
    (entries : List (Bytes × Row)) :
    collect (fun key row => .ok (if test key then read key row else [])) limit entries =
      (collect (fun key row => .ok (read key row)) none entries).map fun rows =>
        cut limit (rows.filter fun row => test row.1) := by
  have outside (key : Bytes) (row : Row) (fails : test key = false) :
      (.ok (if test key then read key row else []) : Except Error (List Cell)) = .ok [] := by
    rw [fails]
    rfl
  have inside : ∀ entry ∈ entries.filter fun entry => test entry.1,
      (.ok (if test entry.1 then read entry.1 entry.2 else []) : Except Error (List Cell)) =
        .ok (read entry.1 entry.2) := by
    intro entry listed
    rw [(List.mem_filter.1 listed).2]
    rfl
  have left_out : collect (fun key row => .ok (if test key then read key row else [])) limit
        entries =
      collect (fun key row => .ok (read key row)) limit
        (entries.filter fun entry => test entry.1) :=
    (collect_filter test outside limit entries).symm.trans (collect_congr inside limit)
  rw [left_out, collect_eq, collect_eq]
  show Except.ok (cut limit _) = Except.ok (cut limit (List.filter _ (List.filter _ _)))
  -- Leaving out by the key can be moved in front of leaving out what has no cells.
  rw [List.filter_comm, List.filter_map (p := fun row : Bytes × List Cell => test row.1)]
  rfl

/-- A scan by a prefix gives the first rows, as many as its limit says, of those among all rows that
compare as the operator says, and it fails as a scan without a filter does. -/
theorem scan_rowsByPrefix (store : Store) (name : Bytes) (range : KeyRange) (columns : Columns)
    (op : CompareOp) (reference : Bytes) (limit : Option Nat) :
    store.scan name range columns (some (.rowsByPrefix op reference)) limit =
      (store.scan name range columns none none).map fun rows =>
        cut limit (byPrefix op reference rows) := by
  unfold scan
  cases store.table name with
  | error fault => rfl
  | ok table =>
    cases checked : table.checkColumns name columns with
    | error fault => simp only [bind, Except.bind, checked, Except.map]
    | ok _ =>
      simp only [bind, Except.bind, checked, select_rowsByPrefix]
      exact collect_tested (selected columns) _ limit _

/-- Three parts of what a scan gives without a filter, as keys compare with a prefix. -/
structure PartedByPrefix (store : Store) (name : Bytes) (range : KeyRange) (columns : Columns)
    (reference : Bytes) (before block after : List (Bytes × List Cell)) : Prop where
  /-- One after the other, the parts are all that the scan gives. -/
  whole : store.scan name range columns none none = .ok (before ++ block ++ after)
  /-- The first part is what the scan gives of keys that compare as less, as far as a limit says. -/
  less : ∀ limit, store.scan name range columns (some (.rowsByPrefix .less reference)) limit =
    .ok (cut limit before)
  /-- The second part is what it gives of keys that compare as equal. -/
  equal : ∀ limit, store.scan name range columns (some (.rowsByPrefix .equal reference)) limit =
    .ok (cut limit block)
  /-- The third part is what it gives of keys that compare as greater. -/
  greater : ∀ limit, store.scan name range columns (some (.rowsByPrefix .greater reference)) limit =
    .ok (cut limit after)
  /-- The keys of the first part come before the prefix. -/
  precede : ∀ row ∈ before, row.1 < reference
  /-- The keys of the second part begin with it. -/
  begin_with : ∀ row ∈ block, reference <+: row.1
  /-- The keys of the third part come after it and do not begin with it. -/
  follow : ∀ row ∈ after, reference < row.1 ∧ ¬ reference <+: row.1

/-- A scan of a table that declares the family has these three parts, some of them perhaps without
rows. -/
theorem exists_partedByPrefix {store : Store} {name : Bytes} {table : Table} {columns : Columns}
    (found : store.tables.get? name = some table)
    (declared : table.checkColumns name columns = .ok ()) (range : KeyRange) (reference : Bytes) :
    ∃ before block after,
      store.PartedByPrefix name range columns reference before block after := by
  let rows := gathered columns range table
  have whole : store.scan name range columns none none = .ok rows :=
    scan_of_declared found declared range none
  have parts (op : CompareOp) (limit : Option Nat) :
      store.scan name range columns (some (.rowsByPrefix op reference)) limit =
        .ok (cut limit (byPrefix op reference rows)) := by
    rw [scan_rowsByPrefix, whole]
    rfl
  have rises : rows.Pairwise fun one other =>
      Comparator.sign (compare (one.1.take reference.length) reference) ≤
        Comparator.sign (compare (other.1.take reference.length) reference) :=
    (gathers_gathered found range columns).sorted.imp fun in_order =>
      Comparator.sign_compare_take_le (Bytes.le_iff.2 (.inl in_order)) _ reference
  refine ⟨byPrefix .less reference rows, byPrefix .equal reference rows,
    byPrefix .greater reference rows, ?_, parts .less, parts .equal, parts .greater, ?_, ?_, ?_⟩
  · rw [whole]
    exact congrArg _ (less_append_equal_append_greater rises).symm
  · exact fun row listed => Bytes.compare_take_eq_lt.1 (beq_iff_eq.1 (List.mem_filter.1 listed).2)
  · exact fun row listed => Bytes.compare_take_eq_eq.1 (beq_iff_eq.1 (List.mem_filter.1 listed).2)
  · exact fun row listed => Bytes.compare_take_eq_gt.1 (beq_iff_eq.1 (List.mem_filter.1 listed).2)

/-- The outcome of a comparison with a prefix never falls as the data rises, and it is equal exactly
for data that begins with the prefix. So every scan of a table that declares the family has three
parts, as keys compare with the prefix, and a scan that fails without a filter fails in the same way
under every operator. -/
theorem prefix_parts_scan (reference : Bytes) :
    (∀ data other, data ≤ other → ∃ lower upper,
        (Comparator.binaryPrefix reference).compareTo data = .ok lower ∧
          (Comparator.binaryPrefix reference).compareTo other = .ok upper ∧
          Comparator.sign lower ≤ Comparator.sign upper) ∧
      (∀ data, (Comparator.binaryPrefix reference).compareTo data = .ok .eq ↔
        reference <+: data) ∧
      ∀ (store : Store) (name : Bytes) (range : KeyRange) (columns : Columns),
        (∀ table, store.tables.get? name = some table →
          table.checkColumns name columns = .ok () →
          ∃ before block after,
            store.PartedByPrefix name range columns reference before block after) ∧
        ∀ fault, store.scan name range columns none none = .error fault → ∀ op limit,
          store.scan name range columns (some (.rowsByPrefix op reference)) limit =
            .error fault := by
  refine ⟨fun data other ordered => ?_, fun data => ?_, fun store name range columns =>
    ⟨fun table found declared => ?_, fun fault failed op limit => ?_⟩⟩
  · exact ⟨_, _, rfl, rfl, Comparator.sign_compare_take_le ordered _ reference⟩
  · rw [Comparator.compareTo, Except.ok.injEq, Bytes.compare_take_eq_eq]
  · exact exists_partedByPrefix found declared range reference
  · rw [scan_rowsByPrefix, failed]
    rfl

/-- A table of six rows in two families. One key is a part of the prefix 97 98, three begin with it,
of which the last has no cell in the first family, and two come after it. -/
def nestedKeys : Store :=
  Store.empty.after [.createTable [116] [[102], [103]],
    .put [116] [98] ⟨[102], [113]⟩ (.raw [1]), .put [116] [97, 98] ⟨[102], [113]⟩ (.raw [2]),
    .put [116] [97, 99] ⟨[102], [113]⟩ (.raw [3]), .put [116] [97] ⟨[102], [113]⟩ (.raw [4]),
    .put [116] [97, 98, 255] ⟨[103], [113]⟩ (.raw [5]),
    .put [116] [97, 98, 0] ⟨[102], [113]⟩ (.raw [6])]

/-- The rows whose keys begin with the prefix stand between that of a shorter key and those of two
later ones. -/
theorem prefix_parts_scan_ofNestedKeys :
    (([97] : Bytes) ≤ [97, 98, 0] ∧ ∃ lower upper,
        (Comparator.binaryPrefix [97, 98]).compareTo [97] = .ok lower ∧
          (Comparator.binaryPrefix [97, 98]).compareTo [97, 98, 0] = .ok upper ∧
          Comparator.sign lower ≤ Comparator.sign upper) ∧
      ((∃ table, nestedKeys.tables.get? [116] = some table ∧
          table.checkColumns [116] ⟨some [102], none⟩ = .ok ()) ∧
        (∃ before block after, nestedKeys.PartedByPrefix [116] ⟨[], []⟩ ⟨some [102], none⟩ [97, 98]
          before block after) ∧
        nestedKeys.scan [116] ⟨[], []⟩ ⟨some [102], none⟩ none none =
          .ok ([([97], [⟨[97], [102], [113], [4], 4⟩])] ++
            [([97, 98], [⟨[97, 98], [102], [113], [2], 2⟩]),
              ([97, 98, 0], [⟨[97, 98, 0], [102], [113], [6], 6⟩])] ++
            [([97, 99], [⟨[97, 99], [102], [113], [3], 3⟩]),
              ([98], [⟨[98], [102], [113], [1], 1⟩])]) ∧
        nestedKeys.scan [116] ⟨[], []⟩ ⟨some [102], none⟩
            (some (.rowsByPrefix .equal [97, 98])) none =
          .ok [([97, 98], [⟨[97, 98], [102], [113], [2], 2⟩]),
            ([97, 98, 0], [⟨[97, 98, 0], [102], [113], [6], 6⟩])]) ∧
      nestedKeys.scan [117] ⟨[], []⟩ .all none none = .error (.tableNotFound [117]) ∧
        ∀ op limit, nestedKeys.scan [117] ⟨[], []⟩ .all (some (.rowsByPrefix op [97, 98])) limit =
          .error (.tableNotFound [117]) := by
  obtain ⟨rises, -, scans⟩ := prefix_parts_scan [97, 98]
  have parts := (scans nestedKeys [116] ⟨[], []⟩ ⟨some [102], none⟩).1 _ rfl rfl
  have fails := (scans nestedKeys [117] ⟨[], []⟩ .all).2 _ rfl
  exact ⟨⟨by decide, rises [97] [97, 98, 0] (by decide)⟩, ⟨⟨_, rfl, rfl⟩, parts, rfl, rfl⟩, rfl,
    fails⟩

end WideColumn.Store
