import WideColumn.Proofs.Bytes
import WideColumn.Proofs.Charset.Writing
import WideColumn.Proofs.Number
import WideColumn.Request.Build

/-!
# What requests are built from

A request is built exactly if its arguments spell it and it is well formed. How a byte string is
spelled, in which form of bytes or as text in UTF-8, makes no difference, so a request can be built
again from its own fields and from any other spelling of them.
-/
namespace WideColumn

/-! ## Spelling -/

namespace Value

/-- The byte string that a value stands for where bytes are expected: that which it holds in any
form, or its characters in UTF-8. -/
inductive Spells : Value → Bytes → Prop where
  /-- Bytes. -/
  | bytes (form : ByteForm) (data : Bytes) : Spells (.bytes form data) data
  /-- Characters. -/
  | text (characters : String) : Spells (.string characters) characters.toUTF8.data.toList

/-- A byte string that may be absent. -/
inductive SpellsOptional : Value → Option Bytes → Prop where
  /-- It is absent. -/
  | absent : SpellsOptional .none Option.none
  /-- It is there. -/
  | present {value : Value} {data : Bytes} (spells : value.Spells data) :
    SpellsOptional value (some data)

/-- The byte strings of a sequence, which may be absent: of a list, of a tuple or of the keys of a
mapping. -/
inductive SpellsAll : Value → Option (List Bytes) → Prop where
  /-- It is absent. -/
  | absent : SpellsAll .none Option.none
  /-- A list. -/
  | list {items : List Value} {names : List Bytes} (spell : List.Forall₂ Spells items names) :
    SpellsAll (.list items) (some names)
  /-- A tuple. -/
  | tuple {items : List Value} {names : List Bytes} (spell : List.Forall₂ Spells items names) :
    SpellsAll (.tuple items) (some names)
  /-- A mapping. -/
  | mapping {entries : List (Text × Value)} {names : List Bytes}
    (spell : List.Forall₂ Spells (entries.map fun (key, _) => .text key) names) :
    SpellsAll (.mapping entries) (some names)

end Value

/-! ## Well-formed requests -/

/-- Columns that a request can address: names are not empty, and qualifiers come within a family. -/
structure Columns.WellFormed (columns : Columns) : Prop where
  /-- A family has a name. -/
  family : columns.family ≠ some []
  /-- Qualifiers are given only if there are some, within a family. -/
  qualifiers : ∀ names, columns.qualifiers = some names →
    names ≠ [] ∧ columns.family.isSome = true

/-- A coordinate that a write can address. -/
structure Coordinate.WellFormed (coordinate : Coordinate) : Prop where
  /-- The family has a name. -/
  family : coordinate.family ≠ []
  /-- The qualifier is not empty. -/
  qualifier : coordinate.qualifier ≠ []

/-- A range whose start does not come after a stop that bounds it. -/
def KeyRange.WellFormed (range : KeyRange) : Prop := range.stop = [] ∨ range.start ≤ range.stop

/-- The number of a row limit. -/
def RowLimit.number : RowLimit → Number
  | count n => n
  | one => .int 1

/-- A row limit is at least one, unless it is the double that is no number. -/
def RowLimit.WellFormed (limit : RowLimit) : Prop :=
  limit.number.exact ≠ .nan → .int 1 ≤ limit.number

/-- A row limit is well formed exactly if it is not below one. -/
theorem RowLimit.wellFormed_iff {limit : RowLimit} :
    limit.WellFormed ↔ ¬ limit.number < .int 1 := by
  have one : Number.int 1 ≤ .int 1 := by decide
  unfold RowLimit.WellFormed
  by_cases missing : limit.number.exact = .nan
  · have unordered : ¬ limit.number < .int 1 := by
      rw [Number.lt_iff, missing]
      nofun
    exact ⟨fun _ => unordered, fun _ number => absurd missing number⟩
  · rw [← Number.le_iff_not_lt one (Number.le_self_iff.2 missing)]
    exact ⟨fun above => above missing, fun above _ => above⟩

namespace Request

/-- What holds of every request that is built. -/
def WellFormed : Request → Prop
  | get table key columns _ | delete table key columns =>
    table ≠ [] ∧ key ≠ [] ∧ columns.WellFormed
  | put table key coordinate _ | append table key coordinate _ =>
    table ≠ [] ∧ key ≠ [] ∧ coordinate.WellFormed
  | scan table range columns _ limit =>
    table ≠ [] ∧ range.WellFormed ∧ columns.WellFormed ∧ ∀ rows ∈ limit, rows.WellFormed

/-- What a request is built from. -/
inductive Arguments where
  /-- A read of one row. -/
  | get (table key family qualifiers : Value) (filter : Option Filter)
  /-- A replacement. -/
  | put (table key family qualifier value : Value)
  /-- An extension. -/
  | append (table key family qualifier value : Value)
  /-- A removal. -/
  | delete (table key family qualifiers : Value)
  /-- A read of a range. -/
  | scan (table start stop family qualifiers : Value) (filter : Option Filter) (limit : Value)

/-- Build a request from its arguments. -/
def Arguments.build : Arguments → Except Error Request
  | get table key family qualifiers filter => ofGet table key family qualifiers filter
  | put table key family qualifier value => ofPut table key family qualifier value
  | append table key family qualifier value => ofAppend table key family qualifier value
  | delete table key family qualifiers => ofDelete table key family qualifiers
  | scan table start stop family qualifiers filter limit =>
    ofScan table start stop family qualifiers filter limit

/-- Arguments that spell the fields of a request, each in whatever form. -/
inductive Arguments.Spell : Arguments → Request → Prop where
  /-- A read of one row. -/
  | get {table key family qualifiers : Value} {filter : Option Filter} {name row : Bytes}
    {columns : Columns} (tables : table.Spells name) (keys : key.Spells row)
    (families : family.SpellsOptional columns.family)
    (names : qualifiers.SpellsAll columns.qualifiers) :
    Spell (.get table key family qualifiers filter) (.get name row columns filter)
  /-- A replacement. -/
  | put {table key family qualifier value : Value} {name row data : Bytes} {coordinate : Coordinate}
    (tables : table.Spells name) (keys : key.Spells row)
    (families : family.Spells coordinate.family) (names : qualifier.Spells coordinate.qualifier)
    (values : value.Spells data) :
    Spell (.put table key family qualifier value) (.put name row coordinate data)
  /-- An extension. -/
  | append {table key family qualifier value : Value} {name row data : Bytes}
    {coordinate : Coordinate} (tables : table.Spells name) (keys : key.Spells row)
    (families : family.Spells coordinate.family) (names : qualifier.Spells coordinate.qualifier)
    (values : value.Spells data) :
    Spell (.append table key family qualifier value) (.append name row coordinate data)
  /-- A removal. -/
  | delete {table key family qualifiers : Value} {name row : Bytes} {columns : Columns}
    (tables : table.Spells name) (keys : key.Spells row)
    (families : family.SpellsOptional columns.family)
    (names : qualifiers.SpellsAll columns.qualifiers) :
    Spell (.delete table key family qualifiers) (.delete name row columns)
  /-- A read of a range, whose limit is kept as it is given. -/
  | scan {table start stop family qualifiers : Value} {filter : Option Filter} {name : Bytes}
    {range : KeyRange} {columns : Columns} {limit : Option RowLimit} (tables : table.Spells name)
    (starts : start.Spells range.start) (stops : stop.Spells range.stop)
    (families : family.SpellsOptional columns.family)
    (names : qualifiers.SpellsAll columns.qualifiers) :
    Spell (.scan table start stop family qualifiers filter (.ofOption RowLimit.value limit))
      (.scan name range columns filter limit)

/-- The family of columns, as a value that it can be built from. -/
def familyValue (columns : Columns) : Value := .ofOption .raw columns.family

/-- The qualifiers of columns, as a value that they can be built from. -/
def qualifiersValue (columns : Columns) : Value :=
  .ofOption (fun names => .tuple (names.map .raw)) columns.qualifiers

/-- The fields of a request, as arguments that it can be built from again. -/
def arguments : Request → Arguments
  | get table key columns filter =>
    .get (.raw table) (.raw key) (familyValue columns) (qualifiersValue columns) filter
  | put table key coordinate value =>
    .put (.raw table) (.raw key) (.raw coordinate.family) (.raw coordinate.qualifier) (.raw value)
  | append table key coordinate value =>
    .append (.raw table) (.raw key) (.raw coordinate.family) (.raw coordinate.qualifier)
      (.raw value)
  | delete table key columns =>
    .delete (.raw table) (.raw key) (familyValue columns) (qualifiersValue columns)
  | scan table range columns filter limit =>
    .scan (.raw table) (.raw range.start) (.raw range.stop) (familyValue columns)
      (qualifiersValue columns) filter (.ofOption RowLimit.value limit)

/-! ## One field -/

/-- A field has bytes exactly if its value spells them. -/
theorem bytesOf_eq_ok {field : String} {value : Value} {data : Bytes} :
    bytesOf field value = .ok data ↔ value.Spells data := by
  have spelled : value.Spells data → bytesOf field value = .ok data := by
    rintro (⟨form, data⟩ | ⟨characters⟩)
    · rfl
    · have encoded := Charset.Writer.encode_strict.2
        (Charset.writeAll_utf8.2 ⟨characters, rfl, rfl⟩)
      simp only [bytesOf, Store.Comparator.encodeText, encoded]
  refine ⟨fun done => ?_, spelled⟩
  cases value with
  | bytes form data => cases done; exact .bytes form _
  | text text =>
    simp only [bytesOf, Store.Comparator.encodeText] at done
    split at done
    · rename_i written encoded
      cases done
      obtain ⟨characters, rfl, rfl⟩ := Charset.writeAll_utf8.1
        (Charset.Writer.encode_strict.1 encoded)
      exact .text characters
    · cases done
  | none | bool | number | list | tuple | mapping => cases done

/-- An optional field is absent or has bytes exactly if its value says so. -/
theorem bytesOf?_eq_ok {field : String} {value : Value} {data : Option Bytes} :
    bytesOf? field value = .ok data ↔ value.SpellsOptional data := by
  have present (given : value ≠ .none) :
      bytesOf? field value = .ok data ↔ ∃ bytes, value.Spells bytes ∧ some bytes = data := by
    rw [show bytesOf? field value = (bytesOf field value).map some by
      cases value with
      | none => exact absurd rfl given
      | _ => rfl, Except.map_eq_ok]
    simp only [bytesOf_eq_ok]
  constructor
  · intro done
    by_cases given : value = .none
    · subst given
      cases done
      exact .absent
    · obtain ⟨bytes, spells, rfl⟩ := (present given).1 done
      exact .present spells
  · rintro (_ | ⟨spells⟩)
    · rfl
    · refine (present ?_).2 ⟨_, spells, rfl⟩
      rintro rfl
      cases spells

/-- The members of a sequence have bytes exactly if each spells its own. -/
theorem mapM_bytesOf_eq_ok {field : String} {items : List Value} {names : List Bytes} :
    items.mapM (bytesOf field) = .ok names ↔ List.Forall₂ Value.Spells items names := by
  simp only [Except.mapM_eq_ok, bytesOf_eq_ok]

/-- What the members of a sequence of qualifiers are taken for: a sequence without members is
refused. -/
def takenNames (field : String) : List Bytes → Except Error (Option (List Bytes))
  | [] => .error (.request (.noQualifiers field))
  | first :: others => .ok (some (first :: others))

/-- The members of a sequence are taken exactly if there are some. -/
theorem takenNames_eq_ok {field : String} {given : List Bytes} {names : Option (List Bytes)} :
    takenNames field given = .ok names ↔ names = some given ∧ given ≠ [] := by
  cases given with
  | nil => exact ⟨nofun, fun ⟨_, some_given⟩ => absurd rfl some_given⟩
  | cons first others =>
    exact ⟨fun done => ⟨(Except.ok.inj done).symm, nofun⟩, fun ⟨same, _⟩ => by rw [same]; rfl⟩

/-- Qualifiers are absent or are the members of a sequence that has some. -/
theorem qualifiersOf_eq_ok {field : String} {value : Value} {names : Option (List Bytes)} :
    qualifiersOf field value = .ok names ↔ value.SpellsAll names ∧ names ≠ some [] := by
  -- Sequences are read in one way, whatever holds their members.
  have sequence {value : Value} {items : List Value}
      (read : qualifiersOf field value = items.mapM (bytesOf field) >>= takenNames field)
      (spelled : value.SpellsAll names ↔
        ∃ given, names = some given ∧ List.Forall₂ Value.Spells items given) :
      qualifiersOf field value = .ok names ↔ value.SpellsAll names ∧ names ≠ some [] := by
    simp only [read, Except.bind_eq_ok, mapM_bytesOf_eq_ok, takenNames_eq_ok, spelled]
    constructor
    · rintro ⟨given, spell, rfl, some_given⟩
      exact ⟨⟨given, rfl, spell⟩, fun none_given => some_given (Option.some.inj none_given)⟩
    · rintro ⟨⟨given, rfl, spell⟩, some_given⟩
      exact ⟨given, spell, rfl, fun none_given => some_given (congrArg some none_given)⟩
  cases value with
  | none =>
    constructor
    · intro done
      cases done
      exact ⟨.absent, nofun⟩
    · rintro ⟨⟨⟩, -⟩
      rfl
  | list items =>
    refine sequence (bind_congr fun given => by cases given <;> rfl) ⟨?_, ?_⟩
    · rintro (_ | ⟨spell⟩)
      exact ⟨_, rfl, spell⟩
    · rintro ⟨given, rfl, spell⟩
      exact .list spell
  | tuple items =>
    refine sequence (bind_congr fun given => by cases given <;> rfl) ⟨?_, ?_⟩
    · rintro (_ | _ | ⟨spell⟩)
      exact ⟨_, rfl, spell⟩
    · rintro ⟨given, rfl, spell⟩
      exact .tuple spell
  | mapping entries =>
    refine sequence (bind_congr fun given => by cases given <;> rfl) ⟨?_, ?_⟩
    · rintro (_ | _ | _ | ⟨spell⟩)
      exact ⟨_, rfl, spell⟩
    · rintro ⟨given, rfl, spell⟩
      exact .mapping spell
  | bool | number | text | bytes => exact ⟨nofun, nofun⟩

/-- A field is not refused exactly if it is not empty. -/
theorem requireNonempty_eq_ok {kind : RequestKind} {field : String} {data : Bytes} {done : Unit} :
    requireNonempty kind field data = .ok done ↔ data ≠ [] := by
  cases data with
  | nil => exact ⟨nofun, fun given => absurd rfl given⟩
  | cons => exact ⟨fun _ => nofun, fun _ => rfl⟩

/-- The table and the key of a request. -/
theorem rowOf_eq_ok {kind : RequestKind} {table key : Value} {name row : Bytes} :
    rowOf kind table key = .ok (name, row) ↔
      table.Spells name ∧ key.Spells row ∧ name ≠ [] ∧ row ≠ [] := by
  simp only [rowOf, Except.bind_eq_ok, bytesOf_eq_ok, requireNonempty_eq_ok, pure, Except.pure,
    Except.ok.injEq, Prod.mk.injEq]
  constructor
  · rintro ⟨_, tables, _, keys, _, named, _, keyed, rfl, rfl⟩
    exact ⟨tables, keys, named, keyed⟩
  · rintro ⟨tables, keys, named, keyed⟩
    exact ⟨_, tables, _, keys, (), named, (), keyed, rfl, rfl⟩

/-- The columns of a request. -/
theorem columnsOf_eq_ok {kind : RequestKind} {family qualifiers : Value} {columns : Columns} :
    columnsOf kind family qualifiers = .ok columns ↔
      family.SpellsOptional columns.family ∧ qualifiers.SpellsAll columns.qualifiers ∧
        columns.WellFormed := by
  simp only [columnsOf, Except.bind_eq_ok, bytesOf?_eq_ok, qualifiersOf_eq_ok]
  constructor
  · rintro ⟨family, families, names, ⟨spell, some_given⟩, done⟩
    cases family with
    | none =>
      cases names with
      | none => cases done; exact ⟨families, spell, nofun, nofun⟩
      | some given => cases done
    | some name =>
      obtain ⟨_, named, done⟩ := Except.bind_eq_ok.1 done
      rw [requireNonempty_eq_ok] at named
      cases done
      refine ⟨families, spell, fun same => named (Option.some.inj same), ?_⟩
      rintro given rfl
      exact ⟨fun none_given => some_given (congrArg some none_given), rfl⟩
  · obtain ⟨family, names⟩ := columns
    rintro ⟨families, spell, wellFormed⟩
    refine ⟨_, families, _, ⟨spell, fun same => (wellFormed.qualifiers [] same).1 rfl⟩, ?_⟩
    cases family with
    | none =>
      cases names with
      | none => rfl
      | some given => cases (wellFormed.qualifiers given rfl).2
    | some name =>
      refine Except.bind_eq_ok.2 ⟨(), requireNonempty_eq_ok.2 fun same => ?_, rfl⟩
      exact wellFormed.family (congrArg some same)

/-- The coordinate and the value of a write. -/
theorem cellOf_eq_ok {kind : RequestKind} {family qualifier value : Value}
    {coordinate : Coordinate} {data : Bytes} :
    cellOf kind family qualifier value = .ok (coordinate, data) ↔
      family.Spells coordinate.family ∧ qualifier.Spells coordinate.qualifier ∧
        value.Spells data ∧ coordinate.WellFormed := by
  simp only [cellOf, Except.bind_eq_ok, bytesOf_eq_ok, requireNonempty_eq_ok, pure, Except.pure,
    Except.ok.injEq, Prod.mk.injEq]
  constructor
  · rintro ⟨_, families, _, names, _, values, _, named, _, qualified, rfl, rfl⟩
    exact ⟨families, names, values, named, qualified⟩
  · rintro ⟨families, names, values, named, qualified⟩
    exact ⟨_, families, _, names, _, values, (), named, (), qualified, rfl, rfl⟩

/-- The range of a scan. -/
theorem rangeOf_eq_ok {start stop : Value} {range : KeyRange} :
    rangeOf start stop = .ok range ↔
      start.Spells range.start ∧ stop.Spells range.stop ∧ range.WellFormed := by
  have refused (start stop : Bytes) :
      (!stop.isEmpty && compare start stop == .gt) = true ↔
        ¬ KeyRange.WellFormed ⟨start, stop⟩ := by
    rw [KeyRange.WellFormed, not_or, List.not_le, ← Bytes.compare_eq_gt, Bool.and_eq_true,
      Bool.not_eq_true', List.isEmpty_eq_false_iff, beq_iff_eq]
  simp only [rangeOf, Except.bind_eq_ok, bytesOf_eq_ok]
  constructor
  · rintro ⟨first, starts, last, stops, done⟩
    split at done
    · cases done
    · rename_i ordered
      cases done
      rw [refused, not_not] at ordered
      exact ⟨starts, stops, ordered⟩
  · rintro ⟨starts, stops, wellFormed⟩
    refine ⟨_, starts, _, stops, ?_⟩
    rw [if_neg fun disordered => (refused ..).1 disordered wellFormed]
    rfl

/-- A row limit is kept as it is given, unless it is below one. -/
theorem limitOf_value (rows : RowLimit) :
    limitOf rows.value = if rows.number < .int 1 then .error (belowOne rows.value)
      else .ok (some rows) := by
  cases rows with
  | one => rfl
  | count n =>
    have compared : (Value.number n).less (.int 1) = .ok (n.lt (.int 1)) := by
      simp [Value.less, Value.order, Value.toNumber?, Number.lt]
    simp only [limitOf, RowLimit.value, RowLimit.number, compared]
    change _ = if n.lt (.int 1) = true then _ else _
    cases n.lt (.int 1) <;> rfl

/-- What is taken for a row limit is absent or is one. -/
theorem limitOf_cases {value : Value} {limit : Option RowLimit} (done : limitOf value = .ok limit) :
    value = .none ∧ limit = none ∨ ∃ rows : RowLimit, value = rows.value := by
  cases value with
  | none => exact .inl ⟨rfl, (Except.ok.inj done).symm⟩
  | number n => exact .inr ⟨.count n, rfl⟩
  | bool value =>
    cases value with
    | true => exact .inr ⟨.one, rfl⟩
    | false => cases done
  | text => cases done
  | bytes form => cases form <;> cases done
  | list | tuple | mapping => simp [limitOf, Value.less, Value.order, Value.toNumber?] at done

/-- A row limit is absent or is kept as it is given, if it is not below one. -/
theorem limitOf_eq_ok {value : Value} {limit : Option RowLimit} :
    limitOf value = .ok limit ↔
      value = .ofOption RowLimit.value limit ∧ ∀ rows ∈ limit, rows.WellFormed := by
  constructor
  · intro done
    rcases limitOf_cases done with ⟨rfl, rfl⟩ | ⟨rows, rfl⟩
    · exact ⟨rfl, nofun⟩
    · rw [limitOf_value] at done
      split at done
      · cases done
      · rename_i above
        obtain rfl := Except.ok.inj done
        refine ⟨rfl, ?_⟩
        rintro _ ⟨⟩
        exact RowLimit.wellFormed_iff.2 above
  · rintro ⟨rfl, wellFormed⟩
    cases limit with
    | none => rfl
    | some rows =>
      rw [Value.ofOption, limitOf_value, if_neg (RowLimit.wellFormed_iff.1 (wellFormed rows rfl))]

/-! ## All fields -/

/-- A request is built from its arguments exactly if they spell it and it is well formed. -/
theorem build_eq_ok {arguments : Arguments} {request : Request} :
    arguments.build = .ok request ↔ arguments.Spell request ∧ request.WellFormed := by
  cases arguments with
  | get table key family qualifiers filter =>
    simp only [Arguments.build, ofGet, Except.bind_eq_ok, Prod.exists, rowOf_eq_ok, columnsOf_eq_ok]
    constructor
    · rintro ⟨name, row, ⟨tables, keys, named, keyed⟩, columns, ⟨families, names, wellFormed⟩, ⟨⟩⟩
      exact ⟨.get tables keys families names, named, keyed, wellFormed⟩
    · rintro ⟨⟨tables, keys, families, names⟩, named, keyed, wellFormed⟩
      exact ⟨_, _, ⟨tables, keys, named, keyed⟩, _, ⟨families, names, wellFormed⟩, rfl⟩
  | put table key family qualifier value =>
    simp only [Arguments.build, ofPut, Except.bind_eq_ok, Prod.exists, rowOf_eq_ok, cellOf_eq_ok]
    constructor
    · rintro ⟨name, row, ⟨tables, keys, named, keyed⟩, coordinate, data,
        ⟨families, names, values, wellFormed⟩, ⟨⟩⟩
      exact ⟨.put tables keys families names values, named, keyed, wellFormed⟩
    · rintro ⟨_ | ⟨tables, keys, families, names, values⟩, named, keyed, wellFormed⟩
      exact ⟨_, _, ⟨tables, keys, named, keyed⟩, _, _, ⟨families, names, values, wellFormed⟩, rfl⟩
  | append table key family qualifier value =>
    simp only [Arguments.build, ofAppend, Except.bind_eq_ok, Prod.exists, rowOf_eq_ok, cellOf_eq_ok]
    constructor
    · rintro ⟨name, row, ⟨tables, keys, named, keyed⟩, coordinate, data,
        ⟨families, names, values, wellFormed⟩, ⟨⟩⟩
      exact ⟨.append tables keys families names values, named, keyed, wellFormed⟩
    · rintro ⟨_ | _ | ⟨tables, keys, families, names, values⟩, named, keyed, wellFormed⟩
      exact ⟨_, _, ⟨tables, keys, named, keyed⟩, _, _, ⟨families, names, values, wellFormed⟩, rfl⟩
  | delete table key family qualifiers =>
    simp only [Arguments.build, ofDelete, Except.bind_eq_ok, Prod.exists, rowOf_eq_ok,
      columnsOf_eq_ok]
    constructor
    · rintro ⟨name, row, ⟨tables, keys, named, keyed⟩, columns, ⟨families, names, wellFormed⟩, ⟨⟩⟩
      exact ⟨.delete tables keys families names, named, keyed, wellFormed⟩
    · rintro ⟨_ | _ | _ | ⟨tables, keys, families, names⟩, named, keyed, wellFormed⟩
      exact ⟨_, _, ⟨tables, keys, named, keyed⟩, _, ⟨families, names, wellFormed⟩, rfl⟩
  | scan table start stop family qualifiers filter limit =>
    simp only [Arguments.build, ofScan, Except.bind_eq_ok, bytesOf_eq_ok, requireNonempty_eq_ok,
      rangeOf_eq_ok, limitOf_eq_ok, columnsOf_eq_ok]
    constructor
    · rintro ⟨name, tables, _, named, range, ⟨starts, stops, ordered⟩, rows, ⟨rfl, limited⟩,
        columns, ⟨families, names, wellFormed⟩, ⟨⟩⟩
      exact ⟨.scan tables starts stops families names, named, ordered, wellFormed, limited⟩
    · rintro ⟨_ | _ | _ | _ | ⟨tables, starts, stops, families, names⟩, named, ordered, wellFormed,
        limited⟩
      exact ⟨_, tables, (), named, _, ⟨starts, stops, ordered⟩, _, ⟨rfl, limited⟩, _,
        ⟨families, names, wellFormed⟩, rfl⟩

/-- A request is spelled by its own fields. -/
theorem arguments_spell (request : Request) : request.arguments.Spell request := by
  have families (columns : Columns) : (familyValue columns).SpellsOptional columns.family := by
    unfold familyValue
    cases columns.family with
    | none => exact .absent
    | some name => exact .present (.bytes ..)
  have names (columns : Columns) : (qualifiersValue columns).SpellsAll columns.qualifiers := by
    unfold qualifiersValue
    cases columns.qualifiers with
    | none => exact .absent
    | some names =>
      refine .tuple (List.forall₂_map_left_iff.2 (List.forall₂_same.2 fun name _ => ?_))
      exact .bytes ..
  cases request with
  | get => exact .get (.bytes ..) (.bytes ..) (families _) (names _)
  | put => exact .put (.bytes ..) (.bytes ..) (.bytes ..) (.bytes ..) (.bytes ..)
  | append => exact .append (.bytes ..) (.bytes ..) (.bytes ..) (.bytes ..) (.bytes ..)
  | delete => exact .delete (.bytes ..) (.bytes ..) (families _) (names _)
  | scan => exact .scan (.bytes ..) (.bytes ..) (.bytes ..) (families _) (names _)

end Request
end WideColumn
