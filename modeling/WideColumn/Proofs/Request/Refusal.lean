import WideColumn.Proofs.Filter.Patterns
import WideColumn.Proofs.Request.Building

/-!
# How requests fail to be built

Arguments of the accepted kinds make a request or are refused as an invalid request, with two
exceptions that come from conversions the checks rely on. A text with a surrogate has no UTF-8 form,
and the failure of the encoder gets through. A row limit below one is shown in the message of its
refusal, and a number of too many digits cannot be.
-/
namespace WideColumn

/-! ## Accepted values -/

namespace Value

/-- Whether a value is accepted as bytes: it is bytes in any form, or a text. -/
def IsBytesLike : Value → Prop
  | bytes .. | text _ => True
  | _ => False

/-- Whether a value is accepted where bytes may be absent. -/
def IsOptionalBytes : Value → Prop
  | none | bytes .. | text _ => True
  | _ => False

/-- Whether a value is accepted as qualifiers: it is absent or a sequence of what is accepted as
bytes. A text and bytes are sequences too. -/
def IsQualifiers : Value → Prop
  | none | bytes .. | text _ => True
  | list items | tuple items => ∀ item ∈ items, item.IsBytesLike
  | _ => False

/-- Whether a value is accepted as a limit: it is absent or an integer, which truth values are. -/
def IsLimit : Value → Prop
  | none | bool _ | number (.int _) => True
  | _ => False

/-- The members of a list or a tuple. -/
def members : Value → List Value
  | list items | tuple items => items
  | _ => []

end Value

namespace Request

/-- A way to a request: from its arguments, or from a cell and a table. -/
inductive Construction where
  /-- From its arguments. -/
  | direct (arguments : Arguments)
  /-- A replacement that writes a cell to a table. -/
  | putCell (table row family qualifier value : Value)
  /-- An extension that appends a cell to a table. -/
  | appendCell (table row family qualifier value : Value)

namespace Construction

/-- Build the request. -/
def build : Construction → Except Error Request
  | direct arguments => arguments.build
  | putCell table row family qualifier value => Request.putCell table row family qualifier value
  | appendCell table row family qualifier value =>
    Request.appendCell table row family qualifier value

/-- Whether all arguments are of accepted kinds. -/
def Accepted : Construction → Prop
  | direct (.get table key family qualifiers _) | direct (.delete table key family qualifiers) =>
    table.IsBytesLike ∧ key.IsBytesLike ∧ family.IsOptionalBytes ∧ qualifiers.IsQualifiers
  | direct (.put table key family qualifier value)
  | direct (.append table key family qualifier value)
  | putCell table key family qualifier value | appendCell table key family qualifier value =>
    ∀ field ∈ [table, key, family, qualifier, value], field.IsBytesLike
  | direct (.scan table start stop family qualifiers _ limit) =>
    table.IsBytesLike ∧ start.IsBytesLike ∧ stop.IsBytesLike ∧ family.IsOptionalBytes ∧
      qualifiers.IsQualifiers ∧ limit.IsLimit

/-- The values of the fields that hold bytes, the members of qualifiers among them. -/
def fields : Construction → List Value
  | direct (.get table key family qualifiers _) | direct (.delete table key family qualifiers) =>
    [table, key, family] ++ qualifiers.members
  | direct (.put table key family qualifier value)
  | direct (.append table key family qualifier value)
  | putCell table key family qualifier value | appendCell table key family qualifier value =>
    [table, key, family, qualifier, value]
  | direct (.scan table start stop family qualifiers _ _) =>
    [table, start, stop, family] ++ qualifiers.members

/-- The limit, where there is one. -/
def limit : Construction → Value
  | direct (.scan _ _ _ _ _ _ limit) => limit
  | _ => .none

/-- The ways in which a request fails to be built. -/
inductive Fails (construction : Construction) : Error → Prop
  /-- It is an invalid request. -/
  | invalid (fault : RequestFault) : Fails construction (.request fault)
  /-- One of its texts has a surrogate and no UTF-8 form. -/
  | surrogate {text : Text} (given : .text text ∈ construction.fields)
    (surrogate : ¬ text.IsOfCharacters) (first last : Nat) :
    Fails construction (.conversion (.encode "utf-8" text first last Charset.surrogateReason))
  /-- Its limit is a number below one with too many digits for a message. -/
  | longLimit {n : Int} (given : construction.limit = .int n) (below : n < 1)
    (long : (Value.int n).isTooLong = true) : Fails construction (.misuse .longNumber)

end Construction

/-! ## One field -/

/-- A value that is given as bytes: it is bytes, or a text in one of the fields. -/
inductive Construction.Gives (construction : Construction) : Value → Prop
  /-- Bytes. -/
  | bytes (form : ByteForm) (data : Bytes) : Gives construction (.bytes form data)
  /-- A text. -/
  | text {text : Text} (given : .text text ∈ construction.fields) : Gives construction (.text text)

section Fields

open WideColumn.Except Value

variable {construction : Construction} {kind : RequestKind} {field : String} {value : Value}

/-- What a field holds is given if it is accepted. -/
theorem Construction.gives_of_mem (given : value ∈ construction.fields)
    (accepted : value.IsBytesLike) : construction.Gives value := by
  cases value with
  | bytes form data => exact .bytes form data
  | text text => exact .text given
  | none | bool | number | list | tuple | mapping => exact accepted.elim

/-- A field fails for its text only. -/
theorem bytesOf_fails (given : construction.Gives value) :
    FailsAs construction.Fails (bytesOf field value) := by
  cases given with
  | bytes form data => exact failsAs_ok data
  | @text text given =>
    show FailsAs construction.Fails (Store.Comparator.encodeText text)
    by_cases characters : text.IsOfCharacters
    · obtain ⟨data, encoded⟩ := Store.Comparator.encodeText_characters characters
      rw [encoded]
      exact failsAs_ok data
    · obtain ⟨first, last, refused⟩ := Store.Comparator.encodeText_surrogate characters
      rw [refused]
      exact failsAs_error (.surrogate given characters first last)

/-- A field that may be absent fails for its text only. -/
theorem bytesOf?_fails (given : value ∈ construction.fields) (accepted : value.IsOptionalBytes) :
    FailsAs construction.Fails (bytesOf? field value) := by
  cases value with
  | none => exact failsAs_ok Option.none
  | bytes | text =>
    have present : FailsAs construction.Fails (bytesOf field _) :=
      bytesOf_fails (construction.gives_of_mem given trivial)
    exact present.map some
  | bool | number | list | tuple | mapping => exact accepted.elim

/-- Qualifiers are refused as a request or fail for the text of a member. -/
theorem qualifiersOf_fails (given : ∀ member ∈ value.members, member ∈ construction.fields)
    (accepted : value.IsQualifiers) :
    FailsAs construction.Fails (qualifiersOf field value) := by
  have sequence {items : List Value} (given : ∀ item ∈ items, item ∈ construction.fields)
      (accepted : ∀ item ∈ items, item.IsBytesLike) :
      FailsAs construction.Fails (qualifiersOf field (.list items)) := by
    refine FailsAs.bind (.mapM fun item listed => ?_) fun names _ => ?_
    · exact bytesOf_fails (construction.gives_of_mem (given item listed) (accepted item listed))
    · cases names with
      | nil => exact failsAs_error (.invalid _)
      | cons first others => exact failsAs_ok _
  cases value with
  | none => exact failsAs_ok Option.none
  | bytes | text => exact failsAs_error (.invalid _)
  | list items | tuple items => exact sequence given accepted
  | bool | number | mapping => exact accepted.elim

/-- An empty field is refused as a request. -/
theorem requireNonempty_fails (data : Bytes) :
    FailsAs construction.Fails (requireNonempty kind field data) := by
  unfold requireNonempty
  split
  · exact failsAs_error (.invalid _)
  · exact failsAs_ok ()

/-- An integer is too long exactly from a power of ten on. -/
theorem isTooLong_int {n : Int} :
    (Value.int n).isTooLong = true ↔ Nat.pow 10 digitLimit ≤ n.natAbs := by
  simp only [Value.isTooLong, decide_eq_true_eq]

/-- An integer below one is refused as a limit, by way of its digits. -/
theorem limitOf_int {n : Int} (below : n < 1) : limitOf (.int n) = .error (belowOne (.int n)) := by
  have limited := limitOf_value (.count (.int n))
  have less : (RowLimit.count (.int n)).number < .int 1 := Number.int_lt_int.2 below
  rwa [if_pos less] at limited

/-- A limit is refused as a request, unless that takes too many digits. -/
theorem limitOf_fails (value : Value) (given : construction.limit = value)
    (accepted : value.IsLimit) :
    FailsAs construction.Fails (limitOf value) := by
  cases value with
  | none => exact failsAs_ok Option.none
  | bool flag =>
    cases flag with
    | true => exact failsAs_ok _
    | false => exact failsAs_error (.invalid _)
  | number n =>
    cases n with
    | float x => exact accepted.elim
    | int n =>
      by_cases below : n < 1
      · rw [limitOf_int below]
        unfold belowOne
        split
        · next long => exact failsAs_error (.longLimit given below long)
        · exact failsAs_error (.invalid _)
      · have above : ¬ (RowLimit.count (.int n)).number < .int 1 :=
          fun less => below (Number.int_lt_int.1 less)
        have limited := limitOf_value (.count (.int n))
        rw [if_neg above] at limited
        exact fun fault failed => nomatch limited.symm.trans failed
  | text | bytes | list | tuple | mapping => exact accepted.elim

/-- The table and the key of a request. -/
theorem rowOf_fails {table key : Value} (tables : construction.Gives table)
    (keys : construction.Gives key) : FailsAs construction.Fails (rowOf kind table key) :=
  (bytesOf_fails tables).bind fun _ _ => (bytesOf_fails keys).bind fun _ _ =>
    (requireNonempty_fails _).bind fun _ _ => (requireNonempty_fails _).bind fun _ _ =>
      failsAs_ok _

/-- The coordinate and the value of a write. -/
theorem cellOf_fails {family qualifier value : Value} (families : construction.Gives family)
    (names : construction.Gives qualifier) (values : construction.Gives value) :
    FailsAs construction.Fails (cellOf kind family qualifier value) :=
  (bytesOf_fails families).bind fun _ _ => (bytesOf_fails names).bind fun _ _ =>
    (bytesOf_fails values).bind fun _ _ => (requireNonempty_fails _).bind fun _ _ =>
      (requireNonempty_fails _).bind fun _ _ => failsAs_ok _

/-- The columns of a request. -/
theorem columnsOf_fails {family qualifiers : Value} (families : family ∈ construction.fields)
    (names : ∀ member ∈ qualifiers.members, member ∈ construction.fields)
    (family_accepted : family.IsOptionalBytes) (accepted : qualifiers.IsQualifiers) :
    FailsAs construction.Fails (columnsOf kind family qualifiers) := by
  refine (bytesOf?_fails families family_accepted).bind fun found _ =>
    (qualifiersOf_fails names accepted).bind fun given _ => ?_
  cases found with
  | some family => exact (requireNonempty_fails _).bind fun _ _ => failsAs_ok _
  | none =>
    cases given with
    | some names => exact failsAs_error (.invalid _)
    | none => exact failsAs_ok _

/-- The range of a scan. -/
theorem rangeOf_fails {start stop : Value} (starts : construction.Gives start)
    (stops : construction.Gives stop) : FailsAs construction.Fails (rangeOf start stop) := by
  refine (bytesOf_fails starts).bind fun _ _ => (bytesOf_fails stops).bind fun _ _ => ?_
  split
  · exact failsAs_error (.invalid _)
  · exact failsAs_ok _

/-- A replacement. -/
theorem ofPut_fails {table key family qualifier value : Value}
    (given : ∀ field ∈ [table, key, family, qualifier, value], construction.Gives field) :
    FailsAs construction.Fails (ofPut table key family qualifier value) := by
  simp only [List.forall_mem_cons] at given
  obtain ⟨tables, keys, families, names, values, -⟩ := given
  exact (rowOf_fails tables keys).bind fun _ _ =>
    (cellOf_fails families names values).bind fun _ _ => failsAs_ok _

/-- An extension. -/
theorem ofAppend_fails {table key family qualifier value : Value}
    (given : ∀ field ∈ [table, key, family, qualifier, value], construction.Gives field) :
    FailsAs construction.Fails (ofAppend table key family qualifier value) := by
  simp only [List.forall_mem_cons] at given
  obtain ⟨tables, keys, families, names, values, -⟩ := given
  exact (rowOf_fails tables keys).bind fun _ _ =>
    (cellOf_fails families names values).bind fun _ _ => failsAs_ok _

end Fields

/-! ## All fields -/

open WideColumn.Except in
/-- A construction from accepted arguments fails in one of the known ways. -/
theorem Construction.build_fails {construction : Construction} (accepted : construction.Accepted) :
    FailsAs construction.Fails construction.build := by
  have written {table key family qualifier value : Value}
      (fields : construction.fields = [table, key, family, qualifier, value])
      (accepted : ∀ field ∈ [table, key, family, qualifier, value], field.IsBytesLike) :
      ∀ field ∈ [table, key, family, qualifier, value], construction.Gives field :=
    fun field listed => construction.gives_of_mem (fields ▸ listed) (accepted field listed)
  cases construction with
  | putCell table row family qualifier value =>
    have given := written rfl accepted
    rw [List.forall_mem_cons] at given
    refine (bytesOf_fails given.1).bind fun name _ => ofPut_fails ?_
    exact List.forall_mem_cons.2 ⟨.bytes .fixed name, given.2⟩
  | appendCell table row family qualifier value =>
    have given := written rfl accepted
    rw [List.forall_mem_cons] at given
    refine (bytesOf_fails given.1).bind fun name _ => ofAppend_fails ?_
    exact List.forall_mem_cons.2 ⟨.bytes .fixed name, given.2⟩
  | direct arguments =>
    cases arguments with
    | put => exact ofPut_fails (written rfl accepted)
    | append => exact ofAppend_fails (written rfl accepted)
    | get table key family qualifiers filter | delete table key family qualifiers =>
      obtain ⟨tables, keys, families, names⟩ := accepted
      refine (rowOf_fails (gives_of_mem (by simp [fields]) tables)
        (gives_of_mem (by simp [fields]) keys)).bind fun _ _ =>
        (columnsOf_fails (by simp [fields]) (fun member listed => ?_) families names).bind
          fun _ _ => failsAs_ok _
      exact List.mem_append_right _ listed
    | scan table start stop family qualifiers filter limit =>
      obtain ⟨tables, starts, stops, families, names, limits⟩ := accepted
      refine (bytesOf_fails (gives_of_mem (by simp [fields]) tables)).bind fun _ _ =>
        (requireNonempty_fails _).bind fun _ _ =>
        (rangeOf_fails (gives_of_mem (by simp [fields]) starts)
          (gives_of_mem (by simp [fields]) stops)).bind fun _ _ =>
        (limitOf_fails limit rfl limits).bind fun _ _ =>
        (columnsOf_fails (by simp [fields]) (fun member listed => ?_) families names).bind
          fun _ _ => failsAs_ok _
      exact List.mem_append_right _ listed

/-! ## Surrogates -/

/-- What spells bytes has no surrogate. -/
theorem characters_of_spells {value : Value} {data : Bytes} (spells : value.Spells data) :
    ∀ text, value = .text text → text.IsOfCharacters := by
  cases spells with
  | bytes form data => exact nofun
  | text characters =>
    rintro _ ⟨⟩
    exact Text.characters_ofString characters

/-- What may be absent and spells bytes has no surrogate. -/
theorem characters_of_spellsOptional {value : Value} {data : Option Bytes}
    (spells : value.SpellsOptional data) : ∀ text, value = .text text → text.IsOfCharacters := by
  cases spells with
  | absent => exact nofun
  | present spells => exact characters_of_spells spells

/-- The members of what spells qualifiers have no surrogate. -/
theorem characters_of_spellsAll {value : Value} {names : Option (List Bytes)}
    (spells : value.SpellsAll names) :
    ∀ member ∈ value.members, ∀ text, member = .text text → text.IsOfCharacters := by
  have sequence {items : List Value} {names : List Bytes}
      (spell : List.Forall₂ Value.Spells items names) :
      ∀ item ∈ items, ∀ text, item = .text text → text.IsOfCharacters :=
    ((List.forall₂_and_left _ _).1 (spell.imp fun _ _ spells =>
      ⟨characters_of_spells spells, spells⟩)).1
  cases spells with
  | absent | mapping => exact nofun
  | list spell | tuple spell => exact sequence spell

/-- A request that is built from its arguments has no surrogate in its fields. -/
theorem Construction.characters_of_direct (arguments : Arguments) {request : Request}
    (built : arguments.build = .ok request) :
    ∀ field ∈ (direct arguments).fields, ∀ text, field = .text text → text.IsOfCharacters := by
  obtain ⟨spell, -⟩ := build_eq_ok.1 built
  cases spell with
  | get tables keys families names | delete tables keys families names =>
    refine List.forall_mem_append.2 ⟨?_, characters_of_spellsAll names⟩
    simp only [List.forall_mem_cons]
    exact ⟨characters_of_spells tables, characters_of_spells keys,
      characters_of_spellsOptional families, nofun⟩
  | put tables keys families names values | append tables keys families names values =>
    simp only [fields, List.forall_mem_cons]
    exact ⟨characters_of_spells tables, characters_of_spells keys, characters_of_spells families,
      characters_of_spells names, characters_of_spells values, nofun⟩
  | scan tables starts stops families names =>
    refine List.forall_mem_append.2 ⟨?_, characters_of_spellsAll names⟩
    simp only [List.forall_mem_cons]
    exact ⟨characters_of_spells tables, characters_of_spells starts, characters_of_spells stops,
      characters_of_spellsOptional families, nofun⟩

/-- A request that is built in any way has no surrogate in its fields. -/
theorem Construction.characters_of_build {construction : Construction} {request : Request}
    (built : construction.build = .ok request) :
    ∀ field ∈ construction.fields, ∀ text, field = .text text → text.IsOfCharacters := by
  cases construction with
  | direct arguments => exact characters_of_direct arguments built
  | putCell table row family qualifier value =>
    obtain ⟨name, named, built⟩ := Except.bind_eq_ok.1 built
    have others := characters_of_direct (.put (.raw name) row family qualifier value) built
    exact List.forall_mem_cons.2 ⟨characters_of_spells (bytesOf_eq_ok.1 named),
      (List.forall_mem_cons.1 others).2⟩
  | appendCell table row family qualifier value =>
    obtain ⟨name, named, built⟩ := Except.bind_eq_ok.1 built
    have others := characters_of_direct (.append (.raw name) row family qualifier value) built
    exact List.forall_mem_cons.2 ⟨characters_of_spells (bytesOf_eq_ok.1 named),
      (List.forall_mem_cons.1 others).2⟩

/-! ## Outcomes -/

/-- What comes of building a request. -/
structure Construction.Outcomes (construction : Construction) : Prop where
  /-- A request, or a failure in one of the known ways. -/
  known : (∃ request, construction.build = .ok request) ∨
    ∃ error, construction.build = .error error ∧ construction.Fails error
  /-- Without surrogates in texts and without a limit that is too long, every failure is an invalid
  request. -/
  invalid : (∀ text, .text text ∈ construction.fields → text.IsOfCharacters) →
    construction.limit.isTooLong = false →
    ∀ error, construction.build = .error error → error.kind = .invalidRequest
  /-- A surrogate in a text never makes a request. -/
  surrogate : ∀ text, .text text ∈ construction.fields → ¬ text.IsOfCharacters →
    ∃ error, construction.build = .error error

/-- Accepted arguments make a request or are refused as an invalid one, but for the failures of two
conversions: of a text with a surrogate, and of a limit with too many digits. -/
theorem construction_outcomes {construction : Construction} (accepted : construction.Accepted) :
    construction.Outcomes := by
  have fails := construction.build_fails accepted
  refine ⟨?_, fun characters short error failed => ?_, fun text given surrogate => ?_⟩
  · cases outcome : construction.build with
    | ok request => exact .inl ⟨request, rfl⟩
    | error error => exact .inr ⟨error, rfl, fails error outcome⟩
  · cases fails error failed with
    | invalid fault => rfl
    | surrogate given surrogate first last => exact absurd (characters _ given) surrogate
    | longLimit given below long =>
      rw [given, long] at short
      cases short
  · cases outcome : construction.build with
    | error error => exact ⟨error, rfl⟩
    | ok request =>
      exact absurd (Construction.characters_of_build outcome _ given text rfl) surrogate

/-- A read whose table is named by a surrogate. -/
def surrogateTable : Construction :=
  .direct (.get (.text [.ofNat 0xD800]) (.string "k") .none .none none)

/-- The surrogate does not make a request, and the failure is one of the known ones. -/
theorem construction_outcomes_ofSurrogate :
    surrogateTable.Accepted ∧
      ∃ error, surrogateTable.build = .error error ∧ surrogateTable.Fails error := by
  have accepted : surrogateTable.Accepted := ⟨trivial, trivial, trivial, trivial⟩
  have outcomes := construction_outcomes accepted
  have surrogate : ¬ Text.IsOfCharacters [.ofNat 0xD800] := by
    intro characters
    cases characters _ (List.mem_singleton.2 rfl)
  obtain ⟨error, failed⟩ := outcomes.surrogate _ (List.mem_cons_self ..) surrogate
  rcases outcomes.known with ⟨request, built⟩ | known
  · cases failed.symm.trans built
  · exact ⟨accepted, known⟩

/-- A scan of a whole table up to a limit. -/
def limitedScan (limit : Value) : Construction :=
  .direct (.scan (.string "t") (.raw []) (.raw []) .none .none none limit)

/-- A number with too many digits that lies below one. -/
def longLimit : Int := -(Nat.pow 10 Value.digitLimit)

/-- Arguments of accepted kinds fail with an error of the encoder and with an error of writing a
number, neither of which is that of an invalid request. -/
theorem construction_leaks_conversion :
    (surrogateTable.Accepted ∧
      surrogateTable.build =
        .error (.conversion (.encode "utf-8" [.ofNat 0xD800] 0 1 Charset.surrogateReason)) ∧
      ErrorKind.invalidRequest ∉ ErrorKind.lineage 6 .unicodeEncode) ∧
    ((limitedScan (.int longLimit)).Accepted ∧
      (limitedScan (.int longLimit)).build = .error (.misuse .longNumber) ∧
      ErrorKind.invalidRequest ∉ ErrorKind.lineage 6 .value) := by
  have below : longLimit < 1 :=
    Int.lt_of_le_of_lt (Int.neg_nonpos_of_nonneg (Int.natCast_nonneg _)) (by decide)
  have long : (Value.int longLimit).isTooLong = true := by
    rw [isTooLong_int, longLimit, Int.natAbs_neg, Int.natAbs_natCast]
  have limited : limitOf (.int longLimit) = .error (.misuse .longNumber) := by
    rw [limitOf_int below, belowOne, if_pos long]
  have scans {limit : Value} {error : Error} (failed : limitOf limit = .error error) :
      (limitedScan limit).build = .error error := by
    show (do
      let limit ← limitOf limit
      return Request.scan _ ⟨[], []⟩ (← columnsOf .scan .none .none) none limit) = _
    rw [failed]
    rfl
  exact ⟨⟨⟨trivial, trivial, trivial, trivial⟩, rfl, by decide⟩,
    ⟨trivial, trivial, trivial, trivial, trivial, trivial⟩, scans limited, by decide⟩

end Request
end WideColumn
