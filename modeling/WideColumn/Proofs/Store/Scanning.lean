import WideColumn.Proofs.Store.Reading

/-!
# Scans and single reads

A scan gives what reading the keys of its range one by one would give: the keys in order, each with
what a read of it finds, without those of which nothing is left, up to the limit. A lower limit cuts
the scan short and changes nothing before, and a range can be scanned in two parts.
-/
namespace WideColumn.Store

/-- The rows of a range in which a read of the key finds cells, in order of their keys. -/
structure Images (store : Store) (name : Bytes) (range : KeyRange) (columns : Columns)
    (filter : Option Filter) (rows : List (Bytes × List Cell)) : Prop where
  /-- They come in order of their keys, each key once. -/
  sorted : rows.Pairwise fun one other => one.1 < other.1
  /-- They are the keys of the range for which a read finds cells, with these cells. -/
  exact : ∀ key cells, (key, cells) ∈ rows ↔
    (range.start ≤ key ∧ (range.stop = [] ∨ key < range.stop)) ∧ cells ≠ [] ∧
      store.get name key columns filter = .ok cells

/-- Scans of a table agree with reads of its rows. -/
structure ScansAsRead (store : Store) (name : Bytes) (columns : Columns)
    (filter : Option Filter) : Prop where
  /-- A scan gives the first rows of its range in which a read finds cells, as many as its limit
  says, or all of them. -/
  first : ∀ range, ∃ all, store.Images name range columns filter all ∧
    ∀ limit, (∀ most ∈ limit, 1 ≤ most) → ∀ rows,
      store.scan name range columns filter limit = .ok rows → rows = limit.elim all all.take
  /-- It does so if every read of a key in its range does. -/
  returns : ∀ range limit,
    (∀ key, range.start ≤ key → (range.stop = [] ∨ key < range.stop) →
      ∃ cells, store.get name key columns filter = .ok cells) →
    ∃ rows, store.scan name range columns filter limit = .ok rows
  /-- Under a lower limit it gives the first rows of what it gives under a higher one or none. -/
  shorter : ∀ range few more, 1 ≤ few → (∀ most ∈ more, few ≤ most) → ∀ rows,
    store.scan name range columns filter more = .ok rows →
    ∃ fewer, store.scan name range columns filter (some few) = .ok fewer ∧ fewer <+: rows
  /-- Without a limit it gives what the scans of two parts of its range give, one after the other,
  and fails as they do. -/
  divided : ∀ start mid stop, start ≤ mid → mid ≤ stop → mid ≠ [] →
    store.scan name ⟨start, stop⟩ columns filter none = (do
      let before ← store.scan name ⟨start, mid⟩ columns filter none
      let after ← store.scan name ⟨mid, stop⟩ columns filter none
      return before ++ after)

/-- The rows of a table whose keys lie in a range. -/
def Table.within (table : Table) (range : KeyRange) : List (Bytes × Row) :=
  table.rows.entries.filter fun (key, _) => range.contains key

section Scans

variable {store : Store} {name : Bytes} {table : Table} {columns : Columns}
  (found : store.tables.get? name = some table)
  (declared : table.checkColumns name columns = .ok ())
include found declared

/-- A scan reads the rows of its range by their keys. -/
theorem scan_eq_collect (range : KeyRange) (filter : Option Filter) (limit : Option Nat) :
    store.scan name range columns filter limit =
      collect (fun key _ => store.get name key columns filter) limit (table.within range) := by
  have reads : ∀ entry ∈ table.within range,
      store.get name entry.1 columns filter = select entry.1 entry.2 columns filter := by
    intro entry listed
    have stands : table.rows.get? entry.1 = some entry.2 :=
      table.rows.get?_eq_some_iff.2 (List.mem_of_mem_filter listed)
    unfold get Store.table
    rw [found]
    simp only [bind, Except.bind, declared, stands]
  have selects : collect (fun key _ => store.get name key columns filter) limit
        (table.within range) =
      collect (fun key row => select key row columns filter) limit (table.within range) :=
    collect_congr reads limit
  rw [selects]
  unfold scan Store.table
  rw [found]
  simp only [bind, Except.bind, declared]
  rfl

/-- The rows of a range that reads hit are those in which a read finds cells. -/
theorem images_hits (range : KeyRange) (filter : Option Filter) :
    store.Images name range columns filter
      (hits (fun key _ => store.get name key columns filter) (table.within range)) := by
  constructor
  · have in_order : (table.within range).Pairwise fun one other => one.1 < other.1 :=
      (table.rows.sorted.filter _).imp Bytes.compare_eq_lt.1
    refine in_order.filterMap _ fun one other before hit is_hit later is_later => ?_
    obtain ⟨_, -, rfl⟩ := Option.map_eq_some_iff.1 is_hit
    obtain ⟨_, -, rfl⟩ := Option.map_eq_some_iff.1 is_later
    exact before
  · intro key cells
    rw [← contains_iff, hits, List.mem_filterMap]
    constructor
    · rintro ⟨⟨_, row⟩, listed, hit⟩
      obtain ⟨_, is_hit, same⟩ := Option.map_eq_some_iff.1 hit
      obtain ⟨rfl, rfl⟩ := Prod.mk.inj same
      exact ⟨(List.mem_filter.1 listed).2, someCells_eq_some.1 is_hit⟩
    · rintro ⟨inside, some_cells, read⟩
      -- A read of a key without a row finds nothing, so there is a row.
      obtain ⟨row, stands⟩ : ∃ row, table.rows.get? key = some row := by
        cases stands : table.rows.get? key with
        | some row => exact ⟨row, rfl⟩
        | none =>
          unfold get Store.table at read
          rw [found] at read
          simp only [bind, Except.bind, declared, stands] at read
          exact absurd (Except.ok.inj read).symm some_cells
      have is_hit : someCells (store.get name key columns filter) = some cells :=
        someCells_eq_some.2 ⟨some_cells, read⟩
      have listed : (key, row) ∈ table.within range :=
        List.mem_filter.2 ⟨table.rows.get?_eq_some_iff.1 stands, inside⟩
      exact ⟨(key, row), listed, Option.map_eq_some_iff.2 ⟨cells, is_hit, rfl⟩⟩

end Scans

/-! ## Parts of a range -/

/-- A list in which all that pass a test come first is those that pass and then the others. -/
theorem filter_append_others {test : α → Bool} {items : List α}
    (passing_first : items.Pairwise fun one other => test other = true → test one = true) :
    items.filter test ++ items.filter (fun item => !test item) = items := by
  induction items with
  | nil => rfl
  | cons item rest ih =>
    obtain ⟨before, others⟩ := List.pairwise_cons.1 passing_first
    cases passes : test item with
    | true =>
      rw [List.filter_cons_of_pos passes, List.filter_cons_of_neg (by simp [passes]),
        List.cons_append, ih others]
    | false =>
      have none_later : rest.filter test = [] := List.filter_eq_nil_iff.2 fun later listed stands =>
        absurd (before later listed stands) (by simp [passes])
      have rest_later : rest.filter (fun item => !test item) = rest := by
        simpa only [none_later, List.nil_append] using ih others
      rw [List.filter_cons_of_neg (by simp [passes]), none_later, List.nil_append,
        List.filter_cons_of_pos (by simp [passes]), rest_later]

/-- The keys of a range before a bound in it are those of its first part. -/
theorem contains_before {start mid stop : Bytes} (before : mid ≤ stop) (bounds : mid ≠ [])
    (key : Bytes) :
    (decide (key < mid) && KeyRange.contains ⟨start, stop⟩ key) =
      KeyRange.contains ⟨start, mid⟩ key := by
  rw [Bool.eq_iff_iff, Bool.and_eq_true, contains_iff, contains_iff, decide_eq_true_iff]
  constructor
  · rintro ⟨lower, inside, -⟩
    exact ⟨inside, .inr lower⟩
  · rintro ⟨inside, empty | lower⟩
    · exact absurd empty bounds
    · exact ⟨lower, inside, .inr (Std.lt_of_lt_of_le lower before)⟩

/-- The keys of a range from a bound in it on are those of its second part. -/
theorem contains_after {start mid : Bytes} (after : start ≤ mid) (stop key : Bytes) :
    (!decide (key < mid) && KeyRange.contains ⟨start, stop⟩ key) =
      KeyRange.contains ⟨mid, stop⟩ key := by
  rw [Bool.eq_iff_iff, Bool.and_eq_true, contains_iff, contains_iff, Bool.not_eq_true',
    decide_eq_false_iff_not, List.not_lt]
  constructor
  · rintro ⟨upper, -, inside⟩
    exact ⟨upper, inside⟩
  · rintro ⟨upper, inside⟩
    exact ⟨upper, List.le_trans after upper, inside⟩

/-- The rows of a range are those of its first part and then those of its second. -/
theorem within_divided (table : Table) {start mid stop : Bytes} (after : start ≤ mid)
    (before : mid ≤ stop) (bounds : mid ≠ []) :
    table.within ⟨start, stop⟩ = table.within ⟨start, mid⟩ ++ table.within ⟨mid, stop⟩ := by
  have lower_first : (table.within ⟨start, stop⟩).Pairwise fun one other =>
      decide (other.1 < mid) = true → decide (one.1 < mid) = true := by
    refine (table.rows.sorted.filter _).imp fun in_order lower => ?_
    rw [decide_eq_true_iff] at lower ⊢
    exact List.lt_trans (Bytes.compare_eq_lt.1 in_order) lower
  calc table.within ⟨start, stop⟩
    _ = (table.within ⟨start, stop⟩).filter (fun entry => decide (entry.1 < mid)) ++
          (table.within ⟨start, stop⟩).filter (fun entry => !decide (entry.1 < mid)) :=
      (filter_append_others lower_first).symm
    _ = table.within ⟨start, mid⟩ ++ table.within ⟨mid, stop⟩ := by
      unfold Table.within
      simp only [List.filter_filter, contains_before before bounds, contains_after after]

/-! ## Scans -/

/-- A limit of one or more cuts off the first rows, as many as it says. -/
theorem cut_eq {limit : Option Nat} (positive : ∀ most ∈ limit, 1 ≤ most) (rows : List α) :
    cut limit rows = limit.elim rows rows.take := by
  cases limit with
  | none => rfl
  | some most =>
    have most_one : max most 1 = most := Nat.max_eq_left (positive most rfl)
    simp only [cut, most_one, Option.elim_some]

/-- A scan of a table that exists and declares the family agrees with reads of its keys, whatever
the range, the columns, the filter and the limit. -/
theorem scan_images_reads {store : Store} {name : Bytes} {table : Table} {columns : Columns}
    (found : store.tables.get? name = some table)
    (known : ∀ family ∈ columns.family, family ∈ table.families) (filter : Option Filter) :
    store.ScansAsRead name columns filter := by
  have declared : table.checkColumns name columns = .ok () := by
    unfold Table.checkColumns Table.checkFamily
    cases named : columns.family with
    | none => rfl
    | some family => exact if_pos (List.contains_iff_mem.2 (known family named))
  have collects := scan_eq_collect found declared
  constructor
  · intro range
    refine ⟨_, images_hits found declared range filter, fun limit positive rows done => ?_⟩
    rw [collects] at done
    rw [collect_ok done, cut_eq positive]
  · intro range limit readable
    rw [collects]
    refine exists_collect limit fun entry listed => ?_
    have inside := contains_iff.1 (List.mem_filter.1 listed).2
    exact readable entry.1 inside.1 inside.2
  · intro range few more positive lower rows done
    rw [collects] at done
    obtain ⟨fewer, less⟩ := exists_collect_of_le lower done
    refine ⟨fewer, (collects range filter _).trans less, ?_⟩
    have positive_more : ∀ most ∈ more, 1 ≤ most := fun most same =>
      Nat.le_trans positive (lower most same)
    have positive_few : ∀ most ∈ some few, 1 ≤ most := fun _ same =>
      Option.some.inj same ▸ positive
    rw [collect_ok done, collect_ok less, cut_eq positive_more, cut_eq positive_few]
    cases more with
    | none => exact List.take_prefix few _
    | some most => exact List.take_prefix_take_left (lower most rfl)
  · intro start mid stop after before bounds
    rw [collects, collects, collects, within_divided table after before bounds, collect_append]

/-- A table of four rows with one cell each. -/
def fourRows : Store :=
  Store.empty.after [.createTable [116] [[102]],
    .put [116] [99] ⟨[102], [113]⟩ (.raw [3]), .put [116] [97] ⟨[102], [113]⟩ (.raw [1]),
    .put [116] [98] ⟨[102], [113]⟩ (.raw [2]), .put [116] [100] ⟨[102], [113]⟩ (.raw [4])]

/-- Keep the cells whose value is not 2. -/
def notTwo : Filter := .compare .value .notEqual (.binary [2])

/-- The second row is emptied by the filter and takes nothing of the limit, and the fourth is beyond
it. -/
theorem scan_images_reads_ofFourRows :
    (∃ table, fourRows.tables.get? [116] = some table ∧
      ∀ family ∈ (⟨some [102], none⟩ : Columns).family, family ∈ table.families) ∧
      fourRows.ScansAsRead [116] ⟨some [102], none⟩ (some notTwo) ∧
      fourRows.scan [116] ⟨[97], []⟩ ⟨some [102], none⟩ (some notTwo) (some 2) =
        .ok [([97], [⟨[97], [102], [113], [1], 2⟩]), ([99], [⟨[99], [102], [113], [3], 1⟩])] := by
  have known : ∀ family ∈ (⟨some [102], none⟩ : Columns).family, family ∈ [[102]] := by
    rintro _ ⟨⟩
    exact List.mem_singleton.2 rfl
  exact ⟨⟨_, rfl, known⟩, scan_images_reads rfl known (some notTwo), rfl⟩

end WideColumn.Store
