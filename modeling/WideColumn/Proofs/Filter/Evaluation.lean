import WideColumn.Proofs.Filter.PatchPoint
import WideColumn.Proofs.Store.Formula

/-!
# How converted filters fail

A filter that was converted meets rows later, on a worker. There it fails only as one of its leaves
does: a regular expression with what the engine raises for its pattern, or a range of columns with a
bound that has no order against bytes. The bounds of such a range are not looked at when it is
built, unlike the references of all other filters, so any value can be such a bound.

Which patterns the engine refuses, with which errors and on which data is up to the engine: what is
said here holds of any.
-/
namespace WideColumn

/-! ## Trees of the store -/

namespace Store.Filter

variable {kind : Error → Prop}

/-- Keeping cells fails as the test does. -/
theorem failsAs_keep {test : Cell → Except Error Bool}
    (each : ∀ cell, Except.FailsAs kind (test cell)) (cells : List Cell) :
    Except.FailsAs kind (keep test cells) := by
  induction cells with
  | nil => exact Except.failsAs_ok _
  | cons cell rest ih =>
    exact (each cell).bind fun _ _ => ih.bind fun _ _ => Except.failsAs_ok _

variable [Pattern.Engine]

/-- Several filters in turn fail as one of them does. -/
theorem failsAs_applyAll {key : Bytes} {members : List Filter}
    (each : ∀ member ∈ members, ∀ cells, Except.FailsAs kind (member.apply key cells))
    (cells : List Cell) : Except.FailsAs kind (applyAll key cells members) := by
  induction members generalizing cells with
  | nil => exact Except.failsAs_ok _
  | cons member rest ih =>
    obtain ⟨here, later⟩ := List.forall_mem_cons.1 each
    rw [applyAll]
    refine (here cells).bind fun kept _ => ?_
    cases kept with
    | nil => exact Except.failsAs_ok _
    | cons cell others => exact ih later _

/-- Several filters on the same cells fail as one of them does. -/
theorem failsAs_applyEach {key : Bytes} {members : List Filter}
    (each : ∀ member ∈ members, ∀ cells, Except.FailsAs kind (member.apply key cells))
    (cells : List Cell) : Except.FailsAs kind (applyEach key cells members) := by
  induction members with
  | nil => exact Except.failsAs_ok _
  | cons member rest ih =>
    obtain ⟨here, later⟩ := List.forall_mem_cons.1 each
    exact (here cells).bind fun _ _ => (ih later).bind fun _ _ => Except.failsAs_ok _

/-- A filter fails on a row as one of its leaves does on some row with the same key. -/
theorem failsAs_apply {filter : Filter} {key : Bytes} :
    (∀ leaf ∈ filter.leaves, ∀ cells, Except.FailsAs kind (leaf.apply key cells)) →
      ∀ cells, Except.FailsAs kind (filter.apply key cells) := by
  induction filter using tree_induction with
  | list operator members ih =>
    intro leaf cells
    have each : ∀ member ∈ members, ∀ cells, Except.FailsAs kind (member.apply key cells) :=
      fun member listed => ih member listed fun one of_member =>
        leaf one (mem_leaves_list.2 ⟨member, listed, of_member⟩)
    cases operator with
    | mustPassAll => exact failsAs_applyAll each cells
    | mustPassOne => exact (failsAs_applyEach each cells).bind fun _ _ => Except.failsAs_ok _
  | _ => exact fun leaf => leaf _ (List.mem_singleton.2 rfl)

end Store.Filter

namespace Filter

/-! ## Leaves -/

mutual

/-- By recursion on the filter: every leaf of what it is converted to is what one of its own leaves,
which is no list, is converted to. -/
theorem leaf_of_convert {filter : Filter} {converted : Store.Filter}
    (done : filter.convert .standard = .ok converted) {leaf : Store.Filter}
    (listed : leaf ∈ converted.leaves) :
    ∃ source ∈ filter.leaves, (∀ operator members, source ≠ list operator members) ∧
      source.convert .standard = .ok leaf := by
  cases filter with
  | list operator members =>
    obtain ⟨built, each, rest⟩ := Except.bind_eq_ok.1 done
    cases rest
    exact leaf_of_convertAll each listed
  | compare | keyRegexp =>
    obtain ⟨built, comparison, rest⟩ := Except.bind_eq_ok.1 done
    cases rest
    obtain rfl := List.mem_singleton.1 listed
    exact ⟨_, List.mem_singleton.2 rfl, nofun, done⟩
  | columnPrefix | columnRange | keyOnly | firstKeyOnly =>
    cases done
    obtain rfl := List.mem_singleton.1 listed
    exact ⟨_, List.mem_singleton.2 rfl, nofun, rfl⟩
  | inconvertible _ _ failure => cases done

/-- Every leaf of what several filters are converted to is what one of their leaves is converted
to. -/
theorem leaf_of_convertAll {members : List Filter} {converted : List Store.Filter}
    (done : convertAll .standard members = .ok converted) {leaf : Store.Filter}
    (listed : leaf ∈ Store.Filter.leavesOf converted) :
    ∃ source ∈ leavesOf members, (∀ operator members, source ≠ list operator members) ∧
      source.convert .standard = .ok leaf := by
  cases members with
  | nil =>
    cases done
    cases listed
  | cons member rest =>
    obtain ⟨first, one, more⟩ := Except.bind_eq_ok.1 done
    obtain ⟨others, each, more⟩ := Except.bind_eq_ok.1 more
    cases more
    rcases List.mem_append.1 listed with here | later
    · obtain ⟨source, among, gives⟩ := leaf_of_convert one here
      exact ⟨source, List.mem_append_left _ among, gives⟩
    · obtain ⟨source, among, gives⟩ := leaf_of_convertAll each later
      exact ⟨source, List.mem_append_right _ among, gives⟩

end

/-- What a filter may fail with on a row. -/
inductive MayFail [Pattern.Engine] (filter : Filter) : Error → Prop where
  /-- The engine raises it for a pattern. -/
  | pattern {leaf : Filter} {forms : PatternForms} {data : Bytes} {error : Error}
    (listed : leaf ∈ filter.leaves) (holds : leaf.pattern? = some forms)
    (raised : Pattern.Engine.search forms.raw data = .error error) : MayFail filter error
  /-- The start of a range of columns is no bound. -/
  | start {start stop : Value} {startInclusive stopInclusive : Bool}
    (listed : columnRange start startInclusive stop stopInclusive ∈ filter.leaves)
    (unordered : ¬ Store.Filter.IsBound start) :
    MayFail filter (.misuse (.notOrdered "<" "bytes" start.typeName))
  /-- The stop of a range of columns is no bound. -/
  | stop {start stop : Value} {startInclusive stopInclusive : Bool}
    (listed : columnRange start startInclusive stop stopInclusive ∈ filter.leaves)
    (unordered : ¬ Store.Filter.IsBound stop) :
    MayFail filter (.misuse (.notOrdered ">" "bytes" stop.typeName))

/-- A comparator that was converted fails only with what the engine raises for its pattern. -/
theorem failsAs_passes [Pattern.Engine] {comparator : Comparator} {kindName : Bytes}
    {converted : Store.Comparator} (done : comparator.convert .standard kindName = .ok converted)
    (op : CompareOp) (data : Bytes) :
    Except.FailsAs (fun error => ∃ forms, comparator = .regex forms ∧
      Pattern.Engine.search forms.raw data = .error error)
      (Store.Filter.passes op converted data) := by
  rw [Comparator.passes_of_convert done]
  cases comparator with
  | regex forms =>
    rw [Comparator.admits]
    cases searched : Pattern.Engine.search forms.raw data with
    | ok found => exact Except.failsAs_ok _
    | error error => exact Except.failsAs_error ⟨forms, rfl, searched⟩
  | substring value => cases value <;> exact Except.failsAs_ok _
  | _ => exact Except.failsAs_ok _

/-- Nothing is compared with a value that is no bound. -/
theorem withinBound_misfit (op : CompareOp) (comparison : String) (qualifier : Bytes)
    {bound : Value} (unordered : ¬ Store.Filter.IsBound bound) :
    withinBound op comparison qualifier bound =
      .error (.misuse (.notOrdered comparison "bytes" bound.typeName)) := by
  cases bound with
  | none => exact absurd .absent unordered
  | bytes form data =>
    cases form with
    | fixed => exact absurd (.fixed data) unordered
    | buffer => exact absurd (.buffer data) unordered
    | view => rfl
  | _ => rfl

/-- A qualifier is compared with a bound unless it is no bound. -/
theorem failsAs_withinBound (op : CompareOp) (comparison : String) (qualifier : Bytes)
    (bound : Value) :
    Except.FailsAs (fun error => ¬ Store.Filter.IsBound bound ∧
      error = .misuse (.notOrdered comparison "bytes" bound.typeName))
      (withinBound op comparison qualifier bound) := by
  by_cases ordered : Store.Filter.IsBound bound
  · obtain ⟨inside, decided⟩ := Store.Filter.withinBound_ok op comparison qualifier ordered
    rw [decided]
    exact Except.failsAs_ok _
  · rw [withinBound_misfit op comparison qualifier ordered]
    exact Except.failsAs_error ⟨ordered, rfl⟩

/-- What a leaf of a filter is converted to fails on a row only as the filter may. -/
theorem failsAs_leaf [Pattern.Engine] {filter leaf : Filter} {converted : Store.Filter}
    (listed : leaf ∈ filter.leaves) (single : ∀ operator members, leaf ≠ list operator members)
    (done : leaf.convert .standard = .ok converted) (key : Bytes) (cells : List Cell) :
    Except.FailsAs filter.MayFail (converted.apply key cells) := by
  cases leaf with
  | compare component op comparator =>
    obtain ⟨built, comparison, rest⟩ := Except.bind_eq_ok.1 done
    cases rest
    have passes (data : Bytes) :
        Except.FailsAs filter.MayFail (Store.Filter.passes op built data) := by
      intro error failed
      obtain ⟨forms, rfl, raised⟩ := failsAs_passes comparison op data error failed
      exact .pattern listed rfl raised
    cases component with
    | row => exact (passes key).bind fun _ _ => Except.failsAs_ok _
    | _ => exact Store.Filter.failsAs_keep (fun cell => passes _) cells
  | keyRegexp forms =>
    obtain ⟨built, comparison, rest⟩ := Except.bind_eq_ok.1 done
    cases rest
    refine Except.FailsAs.bind (fun error failed => ?_) fun _ _ => Except.failsAs_ok _
    obtain ⟨_, same, raised⟩ :=
      @failsAs_passes _ (.regex forms) _ _ comparison .equal key error failed
    cases same
    exact .pattern listed rfl raised
  | columnPrefix reference =>
    cases done
    exact Store.Filter.failsAs_keep (fun cell => Except.failsAs_ok _) cells
  | columnRange start startInclusive stop stopInclusive =>
    cases done
    refine Store.Filter.failsAs_keep (fun cell => ?_) cells
    rw [Store.Filter.inRange_eq, withinColumns]
    refine Except.FailsAs.bind (fun error failed => ?_) fun after _ => ?_
    · obtain ⟨unordered, rfl⟩ := failsAs_withinBound _ _ _ _ error failed
      exact .start listed unordered
    · cases after with
      | false => exact Except.failsAs_ok _
      | true =>
        intro error failed
        obtain ⟨unordered, rfl⟩ := failsAs_withinBound _ _ _ _ error failed
        exact .stop listed unordered
  | keyOnly => cases done; exact Except.failsAs_ok _
  | firstKeyOnly => cases done; exact Except.failsAs_ok _
  | list operator members => exact absurd rfl (single operator members)
  | inconvertible _ _ failure => cases done

/-! ## Filters -/

/-- Every range of columns in a filter has bounds that are absent or ordered bytes. -/
def HasBounds (filter : Filter) : Prop :=
  ∀ start startInclusive stop stopInclusive,
    columnRange start startInclusive stop stopInclusive ∈ filter.leaves →
      Store.Filter.IsBound start ∧ Store.Filter.IsBound stop

/-- The engine answers for every pattern in a filter, whatever the data. -/
def PatternsAnswer [Pattern.Engine] (filter : Filter) : Prop :=
  ∀ leaf ∈ filter.leaves, ∀ forms, leaf.pattern? = some forms →
    ∀ data, ∃ found, Pattern.Engine.search forms.raw data = .ok found

/-- A value that is no bound, as a bound of a range of columns. -/
structure Misfit [Pattern.Engine] (bound : Value) : Prop where
  /-- As a start it is accepted and converted, and comparing any cell with it fails. -/
  start (startInclusive stopInclusive : Bool) :
    ∃ filter converted, ofColumnRange bound startInclusive .none stopInclusive = .ok filter ∧
      filter.toStore = .ok converted ∧ ∀ key cell rest, converted.apply key (cell :: rest) =
        .error (.misuse (.notOrdered "<" "bytes" bound.typeName))
  /-- So it is as a stop. -/
  stop (startInclusive stopInclusive : Bool) :
    ∃ filter converted, ofColumnRange .none startInclusive bound stopInclusive = .ok filter ∧
      filter.toStore = .ok converted ∧ ∀ key cell rest, converted.apply key (cell :: rest) =
        .error (.misuse (.notOrdered ">" "bytes" bound.typeName))

/-- A value that is no bound is let through on either side, and fails every row with a cell. -/
theorem misfit [Pattern.Engine] {bound : Value} (unordered : ¬ Store.Filter.IsBound bound) :
    Misfit bound := by
  constructor
  · intro startInclusive stopInclusive
    refine ⟨.columnRange bound startInclusive .none stopInclusive, _, ?_, rfl,
      fun key cell rest => ?_⟩
    · cases bound <;> rfl
    · rw [Store.Filter.apply, Store.Filter.keep, Store.Filter.inRange_eq, withinColumns,
        withinBound_misfit _ _ _ unordered]
      rfl
  · intro startInclusive stopInclusive
    refine ⟨.columnRange .none startInclusive bound stopInclusive, _, rfl, rfl,
      fun key cell rest => ?_⟩
    rw [Store.Filter.apply, Store.Filter.keep, Store.Filter.inRange_eq, withinColumns,
      withinBound_misfit _ _ _ unordered]
    rfl

/-- How a filter and what it is converted to fail. -/
structure Evaluates [Pattern.Engine] (filter : Filter) (converted : Store.Filter) : Prop where
  /-- On a row it gives cells, or it fails because of a pattern or a bound that it holds. -/
  fails (key : Bytes) (cells : List Cell) (error : Error)
    (failed : converted.apply key cells = .error error) : filter.MayFail error
  /-- If it has bounds where bounds are asked for, it fails only with what the engine raises for a
  pattern that it holds. -/
  patterns (bounds : filter.HasBounds) (key : Bytes) (cells : List Cell) (error : Error)
    (failed : converted.apply key cells = .error error) :
    ∃ leaf ∈ filter.leaves, ∃ forms data, leaf.pattern? = some forms ∧
      Pattern.Engine.search forms.raw data = .error error
  /-- If the engine answers for its patterns as well, it gives cells of every row. -/
  returns (bounds : filter.HasBounds) (answers : filter.PatternsAnswer) (key : Bytes)
    (cells : List Cell) : ∃ kept, converted.apply key cells = .ok kept
  /-- Any value but a bound can be a bound, and fails every row that has a cell. -/
  misfits (bound : Value) (unordered : ¬ Store.Filter.IsBound bound) : Misfit bound

/-- Whatever the engine, a filter that was converted fails on a row only with what the engine raises
for a pattern or because of a value that is no bound. -/
theorem evaluates_of_toStore [Pattern.Engine] {filter : Filter} {converted : Store.Filter}
    (done : filter.toStore = .ok converted) : filter.Evaluates converted := by
  have fails (key : Bytes) (cells : List Cell) :
      Except.FailsAs filter.MayFail (converted.apply key cells) := by
    refine Store.Filter.failsAs_apply (fun leaf listed cells => ?_) cells
    obtain ⟨source, among, single, gives⟩ := leaf_of_convert done listed
    exact failsAs_leaf among single gives key cells
  have patterns (bounds : filter.HasBounds) {error : Error} (may : filter.MayFail error) :
      ∃ leaf ∈ filter.leaves, ∃ forms data, leaf.pattern? = some forms ∧
        Pattern.Engine.search forms.raw data = .error error := by
    cases may with
    | pattern listed holds raised => exact ⟨_, listed, _, _, holds, raised⟩
    | start listed unordered => exact absurd (bounds _ _ _ _ listed).1 unordered
    | stop listed unordered => exact absurd (bounds _ _ _ _ listed).2 unordered
  constructor
  · exact fails
  · exact fun bounds key cells error failed => patterns bounds (fails key cells error failed)
  · intro bounds answers key cells
    cases outcome : converted.apply key cells with
    | ok kept => exact ⟨kept, rfl⟩
    | error error =>
      obtain ⟨leaf, listed, forms, data, holds, raised⟩ :=
        patterns bounds (fails key cells error outcome)
      obtain ⟨found, searched⟩ := answers leaf listed forms holds data
      cases raised.symm.trans searched
  · exact fun bound => misfit

/-- The columns from `a` on, or all of a row whose key matches a pattern that does not compile. -/
def unclosed : Filter :=
  .list .mustPassOne
    [.columnRange (.raw [97]) true .none false, .keyRegexp ⟨[40], "(", "iso8859-1"⟩]

/-- Its bounds are right and its pattern fails it. -/
theorem evaluates_ofUnclosed :
    ∃ converted, unclosed.toStore = .ok converted ∧ unclosed.Evaluates converted ∧
      unclosed.HasBounds ∧ converted.apply [107] [] =
        .error (.pattern ⟨.unterminatedGroup, some 0, [40]⟩) := by
  have done : unclosed.toStore = .ok (.list .mustPassOne
      [.columnRange (.raw [97]) true .none false,
        .compare .row .equal (.regex [40] (.string "iso8859-1") .empty)]) := rfl
  refine ⟨_, done, evaluates_of_toStore done, ?_, rfl⟩
  intro start startInclusive stop stopInclusive listed
  rcases List.mem_cons.1 listed with same | other
  · cases same
    exact ⟨.fixed [97], .absent⟩
  · cases List.mem_singleton.1 other

/-- A range of columns from the text `a` on is accepted and converted. The first cell it meets fails
it with a wrong kind of value, which is no fault of a pattern. -/
theorem columnRange_of_text_misused :
    ofColumnRange (.string "a") true .none false =
        .ok (.columnRange (.string "a") true .none false) ∧
      (columnRange (.string "a") true .none false).toStore =
        .ok (.columnRange (.string "a") true .none false) ∧
      (Store.Filter.columnRange (.string "a") true .none false).apply [107]
          [⟨[107], [102], [113], [118], 1⟩] =
        .error (.misuse (.notOrdered "<" "bytes" "str")) ∧
      (Error.misuse (.notOrdered "<" "bytes" "str")).kind = .type :=
  ⟨rfl, rfl, rfl, rfl⟩

end Filter
end WideColumn
