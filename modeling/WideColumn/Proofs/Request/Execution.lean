import WideColumn.Proofs.Execution
import WideColumn.Proofs.Request.Building
import WideColumn.Proofs.Store.Reading

/-!
# Requests that are built can be executed

What is checked when a request is built is all that the store relies on. Executed without a filter a
request fails only if its table is missing or does not declare the family that it names, and then it
leaves the store alone. Otherwise a read answers what stands in the store, and a write alters the
cells that it addresses and no others.
-/
namespace WideColumn

/-! ## Limits -/

/-- The first rows of a list up to the one that fills a limit, or all of them. -/
structure RowLimit.Fills (limit : Option RowLimit) (all rows : List α) : Prop where
  /-- They are the first. -/
  first : rows <+: all
  /-- They are all, or as many as the limit says. -/
  enough : rows = all ∨ ∃ most ∈ limit, most.number ≤ .int rows.length
  /-- Fewer are not as many as the limit says. -/
  least : ∀ most ∈ limit, ∀ count : Nat, count < rows.length → ¬ most.number ≤ .int count

/-- A scan stops after the least number of rows that is not below its limit. -/
theorem RowLimit.rows?_eq (limit : RowLimit) : limit.rows? = limit.number.ceil? := by
  cases limit with
  | count n => rfl
  | one => rfl

/-- A limit that is well formed is filled by what it cuts off a list. -/
theorem RowLimit.fills_cut {limit : Option RowLimit} (wellFormed : ∀ most ∈ limit, most.WellFormed)
    (all : List α) : Fills limit all (Store.cut (limit.bind rows?) all) := by
  cases limit with
  | none => exact ⟨List.prefix_rfl, .inl rfl, nofun⟩
  | some most =>
    rw [Option.bind_some, rows?_eq]
    cases least : most.number.ceil? with
    | none =>
      refine ⟨List.prefix_rfl, .inl rfl, ?_⟩
      rintro _ ⟨⟩ count - filled
      obtain ⟨n, found, -⟩ := (Number.le_natural_iff count).1 filled
      rw [least] at found
      cases found
    | some n =>
      have filled (count : Nat) : most.number ≤ .int count ↔ n ≤ count := by
        rw [Number.le_natural_iff, least]
        simp
      -- A scan looks for at least one row, so a limit of none would not be kept.
      have positive : 0 < n := by
        apply Nat.pos_of_ne_zero
        rintro rfl
        exact wellFormed_iff.1 (wellFormed most rfl)
          (Number.lt_succ_of_le_natural ((filled 0).2 (Nat.le_refl 0)))
      rw [Store.cut, Nat.max_eq_left positive]
      refine ⟨List.take_prefix .., ?_, ?_⟩
      · rcases Nat.le_total n all.length with within | beyond
        · exact .inr ⟨most, rfl, by rw [filled, List.length_take_of_le within]⟩
        · exact .inl (List.take_of_length_le beyond)
      · rintro _ ⟨⟩ count fewer
        rw [List.length_take] at fewer
        rw [filled]
        omega

namespace Request

/-! ## What is documented -/

/-- The errors that a request fails with: its table is missing, or the table does not declare the
family that it names. Neither is worth another attempt. -/
inductive FailsWith (store : Store) (request : Request) : Error → Prop where
  /-- The table is missing. -/
  | tableNotFound (missing : store.tables.get? request.table = none) :
    FailsWith store request (.operation .tableNotFound request.kind request.table request.key
      (.tableNotFound request.table) false)
  /-- The family is not declared. -/
  | noSuchColumnFamily {table : Store.Table} {family : Bytes}
    (found : store.tables.get? request.table = some table)
    (named : request.family? = some family) (undeclared : family ∉ table.families) :
    FailsWith store request (.operation .noSuchColumnFamily request.kind request.table request.key
      (.noSuchColumnFamily request.table family) false)

/-- What a request is answered: a read the cells that stand in the store, an append the cell that it
leaves, and any other write nothing. -/
def IsAnswered (store : Store) : Request → Result → Prop
  | get table key columns _, result =>
    ∃ cells, store.Lists table key columns cells ∧ result = .cells cells
  | put .., result | delete .., result => result = .nothing
  | append table key coordinate value, result =>
    result = .cells [⟨key, coordinate.family, coordinate.qualifier,
      (store.cell? ⟨table, key, coordinate⟩).elim [] Store.Entry.value ++ value, store.writes + 1⟩]
  | scan table range columns _ limit, result =>
    ∃ all rows, store.Gathers table range columns all ∧ RowLimit.Fills limit all rows ∧
      result = .rows (rows.map (·.2))

/-- What a request leaves at a place where something may stand, under a timestamp. -/
def leaves (timestamp : Nat) (place : Store.Place) (old : Option Store.Entry) :
    Request → Option Store.Entry
  | get .. | scan .. => old
  | put table key coordinate value =>
    if ⟨table, key, coordinate⟩ = place then some ⟨value, timestamp⟩ else old
  | append table key coordinate value =>
    if ⟨table, key, coordinate⟩ = place then
      some ⟨old.elim [] Store.Entry.value ++ value, timestamp⟩
    else old
  | delete table key columns =>
    if table = place.table ∧ key = place.key ∧ columns.contains place.coordinate = true then none
    else old

/-- What a request leaves of a store: the tables with their families, and every cell as it leaves
that. Only a put and an append take a timestamp. -/
structure Leaves (request : Request) (before after : Store) : Prop where
  /-- No table comes or goes, and none declares other families. -/
  tables : ∀ name, (after.tables.get? name).map Store.Table.families =
    (before.tables.get? name).map Store.Table.families
  /-- A write of a cell is counted. -/
  writes : after.writes = before.writes + request.stamps
  /-- Each cell is what the request leaves. -/
  cells : ∀ place,
    after.cell? place = request.leaves (before.writes + 1) place (before.cell? place)

/-- A store answers each call by running it. -/
def onStore : Backend Store := fun call store => call.run store

/-- Executing a request on a store does what is documented. -/
structure Executes (request : Request) (store : Store) : Prop where
  /-- It fails with the errors that it fails with, and no others. -/
  fails : ∀ error, ((request : Submission).execute onStore none store).1 = .error error ↔
    request.FailsWith store error
  /-- If it fails, the store is left alone. -/
  unchanged : ∀ error, request.FailsWith store error →
    ((request : Submission).execute onStore none store).2 = store
  /-- If there is no such error it is answered, and leaves what it leaves. -/
  answered : (∀ error, ¬ request.FailsWith store error) →
    ∃ result after, (request : Submission).execute onStore none store = (.ok result, after) ∧
      request.IsAnswered store result ∧ request.Leaves store after

/-! ## Failing -/

/-- A request fails exactly if it is refused, with what is told of the refusal. -/
theorem failsWith_iff {request : Request} {store : Store} {error : Error} :
    request.FailsWith store error ↔
      ∃ refusal, request.admission store = .error refusal ∧ error = request.classify refusal := by
  simp only [admission_error]
  constructor
  · rintro (missing | ⟨found, named, undeclared⟩)
    · exact ⟨_, .inl ⟨missing, rfl⟩, rfl⟩
    · exact ⟨_, .inr ⟨_, _, found, named, undeclared, rfl⟩, rfl⟩
  · rintro ⟨_, ⟨missing, rfl⟩ | ⟨table, family, found, named, undeclared, rfl⟩, rfl⟩
    · exact .tableNotFound missing
    · exact .noSuchColumnFamily found named undeclared

/-- A request that is refused resolves with what is told of the refusal, and leaves the store
alone. -/
theorem execute_refused {request : Request} {store : Store} {refusal : Error}
    (refused : request.admission store = .error refusal) :
    (request : Submission).execute onStore none store =
      (.error (request.classify refusal), store) := by
  have called : onStore (request.toCall none) store = (.error refusal, store) :=
    run_refused refused
  simp only [Submission.execute, called, (classify_refusal refused).1, Bool.false_eq_true,
    ↓reduceIte]

/-! ## Answering -/

/-- A request whose call is answered resolves with the answer. -/
theorem execute_answered {request : Request} {store after : Store} {reply : Store.Reply}
    (answered : request.call.run store = (.ok reply, after)) :
    (request : Submission).execute onStore none store = (.ok (request.result reply), after) := by
  have called : onStore (request.toCall none) store = (.ok reply, after) := answered
  simp only [Submission.execute, called]

/-- A read leaves everything alone. -/
theorem leaves_of_isRead {request : Request} (isRead : request.kind.isWrite = false)
    (store : Store) : request.Leaves store store := by
  cases request with
  | put | append | delete => cases isRead
  | get | scan => exact ⟨fun _ => rfl, rfl, fun _ => rfl⟩

/-- Altering a row leaves every table with its families. -/
theorem families_alterRow (store : Store) (name key : Bytes)
    (change : Option Store.Row → Option Store.Row) (other : Bytes) :
    ((store.alterRow name key change).tables.get? other).map Store.Table.families =
      (store.tables.get? other).map Store.Table.families := by
  unfold Store.alterRow
  by_cases same : name = other
  · subst same
    rw [SortedMap.get?_alter_self]
    cases store.tables.get? name <;> rfl
  · rw [SortedMap.get?_alter_ne _ same]

/-- All columns are meant where a request that is well formed names no family. -/
theorem contains_of_isNone {columns : Columns} (wellFormed : columns.WellFormed)
    (all : columns.family.isNone = true) (coordinate : Coordinate) :
    columns.contains coordinate = true := by
  obtain ⟨_ | family, _ | names⟩ := columns
  · rfl
  · cases (wellFormed.qualifiers names rfl).2
  · cases all
  · cases all

/-- A write makes of the row at its key what it leaves there. -/
theorem get?_change {request : Request} (wellFormed : request.WellFormed) (timestamp : Nat)
    {place : Store.Place} (here : request.table = place.table ∧ request.key = place.key)
    (row : Option Store.Row) :
    ((request.change timestamp row).getD .empty).get? place.coordinate =
      request.leaves timestamp place ((row.getD .empty).get? place.coordinate) := by
  obtain ⟨name, key, other⟩ := place
  cases request with
  | get | scan => rfl
  | put table row coordinate value =>
    obtain ⟨rfl, rfl⟩ : table = name ∧ row = key := here
    simp only [change, leaves, Store.get?_placed, Store.Place.mk.injEq, true_and]
  | append table row coordinate value =>
    obtain ⟨rfl, rfl⟩ : table = name ∧ row = key := here
    simp only [change, leaves, Store.get?_placed, Store.Place.mk.injEq, true_and]
    split
    · rename_i same
      subst same
      rfl
    · rfl
  | delete table row columns =>
    obtain ⟨rfl, rfl⟩ : table = name ∧ row = key := here
    -- A removal without a family takes the whole row, whatever the qualifiers.
    have removes : (columns.family.isNone || columns.contains other) = columns.contains other := by
      cases all : columns.family.isNone with
      | true => rw [contains_of_isNone wellFormed.2.2 all]; rfl
      | false => rfl
    simp only [change, leaves, Store.get?_removed, removes, true_and]

/-- A write leaves the cells of other rows alone. -/
theorem leaves_elsewhere {request : Request} (timestamp : Nat) {place : Store.Place}
    (elsewhere : ¬ (request.table = place.table ∧ request.key = place.key))
    (old : Option Store.Entry) : request.leaves timestamp place old = old := by
  cases request with
  | get | scan => rfl
  | put | append =>
    refine if_neg ?_
    rintro rfl
    exact elsewhere ⟨rfl, rfl⟩
  | delete => exact if_neg fun ⟨table, key, _⟩ => elsewhere ⟨table, key⟩

/-- What a write that is admitted makes of a store is what it leaves. -/
theorem leaves_of_admitted {request : Request} (wellFormed : request.WellFormed)
    {store : Store} {table : Store.Table} (admitted : request.admission store = .ok table) :
    request.Leaves store { store.alterRow request.table request.key
      (request.change (store.writes + 1)) with writes := store.writes + request.stamps } := by
  refine ⟨families_alterRow store _ _ _, rfl, fun place => ?_⟩
  rw [Store.cell?_withWrites]
  cases known : store.hasTable place.table with
  | true =>
    rw [Store.cell?_alterRow store _ _ _ known]
    split
    · rename_i here
      exact get?_change wellFormed _ here _
    · rename_i elsewhere
      rw [leaves_elsewhere _ elsewhere]
  | false =>
    have absent {store : Store} (unknown : store.hasTable place.table = false) :
        store.cell? place = none := by
      rw [Store.cell?, Store.row?, Option.not_isSome_iff_eq_none.1 (Bool.eq_false_iff.1 unknown)]
      rfl
    have elsewhere : ¬ (request.table = place.table ∧ request.key = place.key) := by
      rintro ⟨same, -⟩
      rw [← same, (store.hasTable_iff _).2 ⟨table, (admission_ok admitted).1⟩] at known
      cases known
    rw [leaves_elsewhere _ elsewhere, absent known, absent]
    rw [Store.hasTable_alterRow, known]

/-- A request that is well formed and admitted is answered, and leaves what it leaves. -/
theorem answered_of_admitted {request : Request} (wellFormed : request.WellFormed)
    {store : Store} {table : Store.Table} (admitted : request.admission store = .ok table) :
    ∃ result after, (request : Submission).execute onStore none store = (.ok result, after) ∧
      request.IsAnswered store result ∧ request.Leaves store after := by
  obtain ⟨found, -, declared⟩ := admission_ok admitted
  cases request with
  | get name key columns filter =>
    have declared : table.checkColumns name columns = .ok () := declared
    have answered : (get name key columns filter).call.run store =
        (.ok (.cells (Store.selected columns key (table.row key))), store) :=
      congrArg (fun reply => (reply.map Store.Reply.cells, store))
        (Store.get_of_declared found declared key)
    exact ⟨_, _, execute_answered answered, ⟨_, Store.lists_selected found key columns, rfl⟩,
      leaves_of_isRead rfl store⟩
  | scan name range columns filter limit =>
    have declared : table.checkColumns name columns = .ok () := declared
    have answered : (scan name range columns filter limit).call.run store =
        (.ok (.rows (Store.cut (limit.bind RowLimit.rows?) (Store.gathered columns range table))),
          store) :=
      congrArg (fun reply => (reply.map Store.Reply.rows, store))
        (Store.scan_of_declared found declared range (limit.bind RowLimit.rows?))
    exact ⟨_, _, execute_answered answered, ⟨_, _, Store.gathers_gathered found range columns,
      RowLimit.fills_cut wellFormed.2.2.2 _, rfl⟩, leaves_of_isRead rfl store⟩
  | put =>
    exact ⟨_, _, execute_answered (run_admitted rfl admitted), rfl,
      leaves_of_admitted wellFormed admitted⟩
  | append =>
    exact ⟨_, _, execute_answered (run_admitted rfl admitted), rfl,
      leaves_of_admitted wellFormed admitted⟩
  | delete =>
    exact ⟨_, _, execute_answered (run_admitted rfl admitted), rfl,
      leaves_of_admitted wellFormed admitted⟩

/-- Executing a request that is well formed does what is documented. -/
theorem executes_of_wellFormed {request : Request} (wellFormed : request.WellFormed)
    (store : Store) : request.Executes store := by
  cases admitted : request.admission store with
  | error refusal =>
    have refused := execute_refused admitted
    have only (error : Error) :
        request.FailsWith store error ↔ error = request.classify refusal := by
      rw [failsWith_iff, admitted]
      simp
    refine ⟨fun error => ?_, fun error _ => by rw [refused], fun none_fails => ?_⟩
    · rw [refused, only, Except.error.injEq, eq_comm]
    · exact absurd ((only _).2 rfl) (none_fails _)
  | ok table =>
    have never (error : Error) : ¬ request.FailsWith store error := by
      rw [failsWith_iff, admitted]
      simp
    have answered := answered_of_admitted wellFormed admitted
    refine ⟨fun error => ?_, fun error fails => absurd fails (never error), fun _ => answered⟩
    obtain ⟨result, after, resolved, -⟩ := answered
    rw [resolved]
    exact ⟨nofun, fun fails => absurd fails (never error)⟩

/-- A request that is built is well formed, can be built again from its fields and from any other
spelling of them, and executing it on a store does what is documented. -/
theorem executable_of_build {arguments : Arguments} {request : Request}
    (built : arguments.build = .ok request) :
    (arguments.Spell request ∧ request.WellFormed) ∧
      request.arguments.build = .ok request ∧
      (∀ others : Arguments, others.Spell request → others.build = .ok request) ∧
      ∀ store, request.Executes store := by
  obtain ⟨spell, wellFormed⟩ := build_eq_ok.1 built
  exact ⟨⟨spell, wellFormed⟩, build_eq_ok.2 ⟨request.arguments_spell, wellFormed⟩,
    fun _ spell => build_eq_ok.2 ⟨spell, wellFormed⟩, executes_of_wellFormed wellFormed⟩

/-- A scan in mixed spellings: a table in characters outside of ASCII, keys in a buffer and a view,
and qualifiers in a list. -/
def mixedScan : Arguments :=
  .scan (.string "é") (.bytes .buffer [1]) (.bytes .view [200]) (.string "f")
    (.list [.string "q", .raw [0]]) none (.int 2)

/-- The mixed spellings make no difference. -/
theorem executable_of_build_mixed :
    mixedScan.build = .ok (.scan [0xC3, 0xA9] ⟨[1], [200]⟩ ⟨some [102], some [[113], [0]]⟩ none
        (some (.count (.int 2)))) ∧
      ∀ store, (Request.scan [0xC3, 0xA9] ⟨[1], [200]⟩ ⟨some [102], some [[113], [0]]⟩ none
        (some (.count (.int 2)))).Executes store := by
  have built : mixedScan.build = .ok _ := rfl
  exact ⟨built, (executable_of_build built).2.2.2⟩

/-- A scan with the double that is no number as its limit. -/
def limitlessScan : Request :=
  .scan [116] ⟨[], []⟩ .all none (some (.count (.float (0.0 / 0.0))))

/-- A limit that is no number is not below one, so it is taken although it is not at least one. -/
theorem build_limitlessScan :
    (Arguments.scan (.raw [116]) (.raw []) (.raw []) .none .none none (.float (0.0 / 0.0))).build =
        .ok limitlessScan ∧
      ¬ Number.int 1 ≤ (RowLimit.count (.float (0.0 / 0.0))).number := by
  have missing : (Number.float (0.0 / 0.0)).exact = .nan := by decide +kernel
  refine ⟨build_eq_ok.2 ⟨limitlessScan.arguments_spell, nofun, .inl rfl, ⟨nofun, nofun⟩, ?_⟩,
    by decide +kernel⟩
  rintro _ ⟨⟩
  exact absurd missing

end Request
end WideColumn
