import WideColumn.Filter.Conversion
import WideColumn.Proofs.Bytes
import WideColumn.Proofs.Charset.Writing
import WideColumn.Proofs.Filter.Meaning
import WideColumn.Proofs.Store.Filter

/-!
# Converted filters

A filter that converts does on every row what it means. Comparators agree one by one, the tests that
the store's filters make of a cell agree by that, and lists agree member by member.
-/
namespace WideColumn

namespace CompareOp

/-- An operator accepts how data compares to a reference exactly if it admits the data. -/
theorem accepts_compare (op : CompareOp) (data reference : Bytes) :
    op.accepts (compare data reference) = op.admits data reference := by
  have before := @Bytes.compare_eq_lt data reference
  have after := @Bytes.compare_eq_gt data reference
  have same := @Std.LawfulEqOrd.compare_eq_iff_eq _ _ _ data reference
  cases op <;>
    simp [accepts, admits, before, after, same, Bool.beq_eq_decide_eq, bne, ← List.not_lt]

/-- An operator accepts a match or its absence exactly if it admits it. -/
theorem accepts_ofMatch (op : CompareOp) (found : Bool) :
    op.accepts (Store.Comparator.ofMatch found) = op.admitsMatch found := by
  cases op <;> cases found <;> rfl

end CompareOp

namespace Comparator

/-- A text that has a UTF-8 form is encoded as it. -/
theorem encodeText_ok {text : Text} {data : Bytes}
    (encoded : Store.Comparator.encodeText text = .ok data) :
    data = text.flatMap Charset.utf8Bytes := by
  unfold Store.Comparator.encodeText at encoded
  split at encoded
  · next written =>
    cases encoded
    exact Charset.Writer.writeAll_scalars rfl (Charset.Writer.encode_strict.1 written)
  · cases encoded

/-- A regular expression that converts has the raw bytes of its pattern as its reference. -/
theorem convertRegex_ok {kind : Bytes} {forms : PatternForms} {converted : Store.Comparator}
    (done : convertRegex .standard kind forms = .ok converted) :
    converted = .regex forms.raw (.string forms.charset) .empty := by
  obtain ⟨built, fromText, rest⟩ := Except.bind_eq_ok.1 done
  obtain ⟨data, -, rfl⟩ := Except.map_eq_ok.1 fromText
  cases rest
  rfl

/-- Under every operator, a comparator and what it is converted to let the same data pass. -/
theorem passes_of_convert [Pattern.Engine] {comparator : Comparator} {kind : Bytes}
    {converted : Store.Comparator} (done : comparator.convert .standard kind = .ok converted)
    (op : CompareOp) (data : Bytes) :
    Store.Filter.passes op converted data = comparator.admits op data := by
  cases comparator with
  | binary reference =>
    cases done
    exact congrArg _ (op.accepts_compare data reference)
  | binaryPrefix reference =>
    cases done
    exact congrArg _ (op.accepts_compare (data.take reference.length) reference)
  | substring value =>
    cases value with
    | text text =>
      obtain ⟨reference, encoded, rfl⟩ := Except.map_eq_ok.1 done
      have found : Bytes.contains reference data.lower = decide (reference <:+: data.lower) :=
        Bool.eq_iff_iff.2 (Bytes.contains_iff.trans decide_eq_true_iff.symm)
      simp only [Store.Filter.passes, Store.Comparator.compareTo, admits, found,
        ← encodeText_ok encoded]
      exact congrArg _ (op.accepts_ofMatch _)
    | bytes form _ => cases form <;> cases done
    | _ => cases done
  | regex forms =>
    rw [convertRegex_ok done]
    simp only [Store.Filter.passes, Store.Comparator.compareTo, admits]
    cases Pattern.Engine.search forms.raw data with
    | ok found => exact congrArg _ (op.accepts_ofMatch found)
    | error fault => rfl

end Comparator

namespace Store.Filter

/-- Keeping the cells that pass a test is the library's filter with a test that may fail. -/
theorem keep_eq_filterM (test : Cell → Except Error Bool) (cells : List Cell) :
    keep test cells = cells.filterM test := by
  -- The library's filter collects backwards, so the induction carries what it has collected.
  have collected : ∀ kept, List.filterAuxM test cells kept =
      (keep test cells).map fun others => others.reverse ++ kept := by
    induction cells with
    | nil => intro kept; rfl
    | cons cell rest ih =>
      intro kept
      rw [List.filterAuxM, keep]
      cases test cell with
      | error fault => rfl
      | ok passed =>
        simp only [bind, Except.bind, pure, Except.pure, ih]
        cases keep test rest <;> cases passed <;> simp [Except.map]
  rw [List.filterM, collected]
  cases keep test cells <;> simp [Except.map, bind, Except.bind, pure, Except.pure]

/-- Against a bound that is a byte string, one comparison and one equality decide. -/
theorem outside_bytes {beyond : Value → Value → Except Misuse Bool} {form : ByteForm}
    {bound qualifier : Bytes} {result : Bool}
    (decided : beyond (.raw qualifier) (.bytes form bound) = .ok result) (inclusive : Bool) :
    outside beyond (.bytes form bound) inclusive qualifier =
      .ok (result || (decide (qualifier = bound) && !inclusive)) := by
  simp only [outside, decided, compared, bind, Except.bind, pure, Except.pure, Value.equals,
    Bool.beq_eq_decide_eq]
  cases result <;> rfl

/-- A qualifier violates a lower bound exactly if it does not lie on the inner side of it. -/
theorem outside_less (start : Value) (inclusive : Bool) (qualifier : Bytes) :
    outside Value.less start inclusive qualifier =
      (withinBound (if inclusive then .greaterOrEqual else .greater) "<" qualifier start).map
        not := by
  have verdict (bound : Bytes) :
      (decide (qualifier < bound) || (decide (qualifier = bound) && !inclusive)) =
        !(if inclusive then CompareOp.greaterOrEqual else .greater).admits qualifier bound := by
    rw [Bool.eq_iff_iff]
    cases inclusive with
    | true => simp [CompareOp.admits, List.not_le]
    | false => simp [CompareOp.admits, Bytes.le_iff]
  cases start with
  | bytes form bound =>
    have decided (ordered : Value.formsOrdered .fixed form = true) :
        Value.less (.raw qualifier) (.bytes form bound) = .ok (decide (qualifier < bound)) := by
      simp [Value.less, Value.order, ordered, Bool.beq_eq_decide_eq, Bytes.compare_eq_lt]
    cases form with
    | view => rfl
    | _ => rw [outside_bytes (decided rfl), verdict]; rfl
  | none => rfl
  | text => rfl
  | _ => simp [outside, Value.less, Value.order, compared]; rfl

/-- A qualifier violates an upper bound exactly if it does not lie on the inner side of it. -/
theorem outside_greater (stop : Value) (inclusive : Bool) (qualifier : Bytes) :
    outside Value.greater stop inclusive qualifier =
      (withinBound (if inclusive then .lessOrEqual else .less) ">" qualifier stop).map not := by
  have verdict (bound : Bytes) :
      (decide (bound < qualifier) || (decide (qualifier = bound) && !inclusive)) =
        !(if inclusive then CompareOp.lessOrEqual else .less).admits qualifier bound := by
    rw [Bool.eq_iff_iff]
    cases inclusive with
    | true => simp [CompareOp.admits, List.not_le]
    | false => simp [CompareOp.admits, Bytes.le_iff, eq_comm (a := qualifier) (b := bound)]
  cases stop with
  | bytes form bound =>
    have decided (ordered : Value.formsOrdered .fixed form = true) :
        Value.greater (.raw qualifier) (.bytes form bound) = .ok (decide (bound < qualifier)) := by
      simp [Value.greater, Value.order, ordered, Bool.beq_eq_decide_eq, Bytes.compare_eq_gt]
    cases form with
    | view => rfl
    | _ => rw [outside_bytes (decided rfl), verdict]; rfl
  | none => rfl
  | text => rfl
  | _ => simp [outside, Value.greater, Value.order, compared]; rfl

/-- The store tests a range of columns as it is meant. -/
theorem inRange_eq (start : Value) (startInclusive : Bool) (stop : Value) (stopInclusive : Bool)
    (qualifier : Bytes) :
    inRange start startInclusive stop stopInclusive qualifier =
      withinColumns start startInclusive stop stopInclusive qualifier := by
  rw [inRange, withinColumns, outside_less, outside_greater]
  cases withinBound (if startInclusive then .greaterOrEqual else .greater) "<" qualifier start with
  | error fault => rfl
  | ok after =>
    cases after with
    | false => rfl
    | true =>
      cases withinBound (if stopInclusive then .lessOrEqual else .less) ">" qualifier stop with
      | error fault => rfl
      | ok before => cases before <;> rfl

/-- The union of several results has each cell as the first result that has it. -/
theorem union_eq (cells : List Cell) (results : List (List Cell)) :
    union cells results = cells.filterMap (RowChange.rendition results) := by
  refine congrArg (cells.filterMap ·) (funext fun cell => ?_)
  rw [RowChange.rendition, List.head?_filterMap]
  refine congrArg (results.findSome? ·) (funext fun kept => ?_)
  rw [lastAt, RowChange.cellAt, List.getLast?_filter]

end Store.Filter

namespace Filter

section

variable [Pattern.Engine]

/-- A test of the row key acts on the whole row, however the key is tested. -/
theorem apply_compare_row {op : CompareOp} {comparator : Store.Comparator}
    {test : Bytes → Except Error Bool}
    (agree : ∀ data, Store.Filter.passes op comparator data = test data) (key : Bytes)
    (cells : List Cell) :
    (Store.Filter.compare .row op comparator).apply key cells =
      RowChange.ofKeyTest test key cells := by
  rw [Store.Filter.apply, RowChange.ofKeyTest, agree]
  cases test key with
  | error fault => rfl
  | ok passed => cases passed <;> rfl

mutual

/-- By recursion on the filter: what it is converted to changes every row as it is meant. -/
theorem apply_of_convert {filter : Filter} {converted : Store.Filter}
    (done : filter.convert .standard = .ok converted) (key : Bytes) (cells : List Cell) :
    converted.apply key cells = filter.meaning key cells := by
  cases filter with
  | compare component op comparator =>
    obtain ⟨built, comparison, rest⟩ := Except.bind_eq_ok.1 done
    cases rest
    have agree := Comparator.passes_of_convert comparison op
    cases component with
    | row => exact apply_compare_row agree key cells
    | _ => simp only [Store.Filter.apply, Store.Filter.keep_eq_filterM, agree]; rfl
  | columnPrefix reference =>
    cases done
    have begins (cell : Cell) :
        reference.isPrefixOf cell.qualifier = decide (reference <+: cell.qualifier) :=
      Bool.eq_iff_iff.2 (List.isPrefixOf_iff_prefix.trans decide_eq_true_iff.symm)
    simp only [Store.Filter.apply, Store.Filter.hasPrefix, Store.Filter.keep_ok, begins]
    rfl
  | columnRange start startInclusive stop stopInclusive =>
    cases done
    simp only [Store.Filter.apply, Store.Filter.keep_eq_filterM, Store.Filter.inRange_eq]
    rfl
  | keyOnly => cases done; rfl
  | firstKeyOnly => cases done; rfl
  | list operator members =>
    obtain ⟨built, each, rest⟩ := Except.bind_eq_ok.1 done
    cases rest
    cases operator with
    | mustPassAll => exact applyAll_of_convert each key cells
    | mustPassOne =>
      simp only [Store.Filter.apply, meaning, RowChange.either, applyEach_of_convert each,
        Store.Filter.union_eq]
  | keyRegexp forms =>
    obtain ⟨built, comparison, rest⟩ := Except.bind_eq_ok.1 done
    cases rest
    have agree := @Comparator.passes_of_convert _ (.regex forms) _ _ comparison .equal
    exact apply_compare_row agree key cells
  | inconvertible _ _ failure => cases done

/-- A list whose members must all pass hands on what each member leaves. -/
theorem applyAll_of_convert {members : List Filter} {converted : List Store.Filter}
    (done : convertAll .standard members = .ok converted) (key : Bytes) (cells : List Cell) :
    Store.Filter.applyAll key cells converted = RowChange.inTurn (meanings members) key cells := by
  cases members with
  | nil => cases done; rfl
  | cons member rest =>
    obtain ⟨first, one, more⟩ := Except.bind_eq_ok.1 done
    obtain ⟨others, each, more⟩ := Except.bind_eq_ok.1 more
    cases more
    rw [Store.Filter.applyAll, meanings, RowChange.inTurn, apply_of_convert one]
    dsimp only
    cases member.meaning key cells with
    | error fault => rfl
    | ok kept =>
      cases kept with
      | nil => rfl
      | cons cell kept => exact applyAll_of_convert each key (cell :: kept)

/-- The members of a list agree one by one on the same cells. -/
theorem applyEach_of_convert {members : List Filter} {converted : List Store.Filter}
    (done : convertAll .standard members = .ok converted) (key : Bytes) (cells : List Cell) :
    Store.Filter.applyEach key cells converted =
      (meanings members).mapM fun change => change key cells := by
  cases members with
  | nil => cases done; rfl
  | cons member rest =>
    obtain ⟨first, one, more⟩ := Except.bind_eq_ok.1 done
    obtain ⟨others, each, more⟩ := Except.bind_eq_ok.1 more
    cases more
    rw [Store.Filter.applyEach, meanings, List.mapM_cons, apply_of_convert one,
      applyEach_of_convert each]

end

/-- Conversion keeps the meaning: on every row, a converted filter gives the cells, or the error,
that the filter as it was built means. -/
theorem toStore_keeps_meaning {filter : Filter} {converted : Store.Filter}
    (done : filter.toStore = .ok converted) (key : Bytes) (cells : List Cell) :
    converted.apply key cells = filter.meaning key cells :=
  apply_of_convert done key cells

end

/-- In rows whose key holds the byte `E9`, which alone is no UTF-8, the columns that begin with `q`,
without their values; in all rows the cells whose values begin below `m`, as they are. -/
def byteOrBeginning : Filter :=
  .list .mustPassOne [
    .list .mustPassAll [.keyRegexp ⟨[0xE9], "é", "iso8859-1"⟩, .columnPrefix [0x71], .keyOnly],
    .compare .value .less (.binaryPrefix [0x6D])]

/-- Of the cells of the row `E9`, the first loses its value, since the pipe keeps it, the second
stays as it is, and the third goes. -/
theorem toStore_keeps_meaning_of_byteOrBeginning :
    ∃ converted, byteOrBeginning.toStore = .ok converted ∧
      converted.apply [0xE9] [⟨[0xE9], [0x66], [0x71], [0x61], 1⟩,
          ⟨[0xE9], [0x66], [0x72], [0x61], 2⟩, ⟨[0xE9], [0x66], [0x73], [0x7A], 3⟩] =
        .ok [⟨[0xE9], [0x66], [0x71], [], 1⟩, ⟨[0xE9], [0x66], [0x72], [0x61], 2⟩] :=
  ⟨_, rfl, (@toStore_keeps_meaning _ byteOrBeginning _ rfl _ _).trans rfl⟩

end Filter
end WideColumn
