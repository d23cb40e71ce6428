import WideColumn.Client
import WideColumn.Proofs.Filter.PatchPoint
import WideColumn.Proofs.Pipeline.Basic

/-!
# Reads whose filters are not converted

The filter of a read is converted before anything else is done about the read. So where the patch
point is broken, a read whose filter holds a pattern is refused with the error of the conversion and
leaves no trace: nothing is queued and the store is not called. There is no way around the patch
point by which such a filter could still reach the store.
-/
namespace WideColumn

/-- A read with a filter is refused with an error, and that is all that happens. -/
structure RefusesReads (point : PatchPoint) (filter : Filter) (error : Error) : Prop where
  /-- The dispatcher refuses it. -/
  dispatcher : ∀ {β : Type} (dispatcher : Dispatcher β) (request : Request),
    dispatcher.patchPoint = point → dispatcher.isClosed = false → request.filter? = some filter →
    dispatcher.submit request = (.error error, [], dispatcher)
  /-- So does the client, by the method of its kind. -/
  client : ∀ {β : Type} (dispatcher : Dispatcher β) (request : Request),
    dispatcher.patchPoint = point → dispatcher.isClosed = false → request.filter? = some filter →
    Client.submit request.kind request dispatcher = (.error error, [], dispatcher)
  /-- Whatever else is going on, no read is under way afterwards that was not before, no task is
  queued and the store is not called. -/
  step : ∀ {β σ : Type} {backend : Backend σ} {before after : Pipeline β σ} {request : Request}
    {answer : Except Error (Option Store.Filter)},
    before.dispatcher.patchPoint = point → before.dispatcher.isClosed = false →
    request.filter? = some filter → Pipeline.Step backend before (.admitted request answer) after →
    answer = .error error ∧ after = before

section Refusal

variable {β : Type} {point : PatchPoint} {filter : Filter} {error : Error}
  (fails : filter.convert point = .error error)
include fails

/-- A read is not admitted if its filter is not converted. -/
theorem admitRead_error {dispatcher : Dispatcher β} {request : Request}
    (patched : dispatcher.patchPoint = point) (is_open : dispatcher.isClosed = false)
    (filtered : request.filter? = some filter) :
    dispatcher.admitRead request = .error error := by
  simp only [Dispatcher.admitRead, is_open, Bool.false_eq_true, ↓reduceIte,
    Dispatcher.convertedFilter, filtered, patched, fails]
  rfl

/-- A read is refused if its filter is not converted. -/
theorem submit_error {dispatcher : Dispatcher β} {request : Request}
    (patched : dispatcher.patchPoint = point) (is_open : dispatcher.isClosed = false)
    (filtered : request.filter? = some filter) :
    dispatcher.submit request = (.error error, [], dispatcher) := by
  have isRead : request.kind.isWrite = false := by
    cases request with
    | get | scan => rfl
    | _ => cases filtered
  have refused := admitRead_error fails patched is_open filtered
  simp only [Dispatcher.submit, isRead, Bool.false_eq_true, ↓reduceIte, Dispatcher.enqueueRead,
    refused]

/-- Reads are refused with the error of the conversion of their filter. -/
theorem refusesReads_of_convert : RefusesReads point filter error := by
  constructor
  · intro β dispatcher request patched is_open filtered
    exact submit_error fails patched is_open filtered
  · intro β dispatcher request patched is_open filtered
    have expected : Client.expect request.kind request = .ok request := if_pos rfl
    rw [Client.submit, expected]
    exact submit_error fails patched is_open filtered
  · intro β σ backend before after request answer patched is_open filtered step
    have refused := admitRead_error fails patched is_open filtered
    cases step with
    | letIn _ isRead converted admitted => cases admitted.symm.trans refused
    | turnAway _ isRead other failed => exact ⟨failed.symm.trans refused, rfl⟩

end Refusal

/-- If the patch point is broken, a filter with patterns is never converted: conversion stops at the
first part that holds a pattern, or at a part before it that could not be converted anyway, and reads
with the filter are refused with the same error. A filter without patterns is converted by way of any
patch point as by way of that of the store. -/
theorem patterns_need_patchPoint {filter : Filter} (encodable : filter.PatternsEncodable) :
    (∀ (point : PatchPoint) (reason : PatchFailure) (cause : Error), point.Breaks reason cause →
      filter.HoldsPattern →
      ∃ error, filter.StopsAt reason cause error ∧ filter.convert point = .error error ∧
        RefusesReads point filter error) ∧
      (¬ filter.HoldsPattern → ∀ point, filter.convert point = filter.toStore) := by
  constructor
  · intro point reason cause breaks holds
    obtain ⟨error, stops, fails⟩ := Filter.convert_broken breaks encodable holds
    exact ⟨error, stops, fails, refusesReads_of_convert fails⟩
  · intro plain point
    refine Filter.convert_of_plain point fun leaf among => ?_
    exact Option.not_isSome_iff_eq_none.1 fun pattern => plain ⟨leaf, among, pattern⟩

/-- The patch point of a class without fields. -/
def missingPoint : PatchPoint := ⟨.plain, "_value"⟩

/-- The patch point of a class whose field cannot be written. -/
def refusingPoint : PatchPoint := ⟨.frozen, "_value"⟩

/-- The patch point of a class without fields is missing. -/
theorem missingPoint_breaks :
    missingPoint.Breaks .missingField (.access (.noField "Plain" "_value")) := .missing rfl

/-- The patch point of a class whose field cannot be written refuses. -/
theorem refusingPoint_breaks :
    refusingPoint.Breaks .accessDenied
      (.access (.noSetter "_value" "RegexStringComparator")) := .refusing rfl

/-- A pattern whose text is that of a string has a UTF-8 form. -/
theorem pattern_encodable (raw : Bytes) (s charset : String) :
    ∀ forms ∈ some (⟨raw, s, charset⟩ : PatternForms), forms.text.IsOfCharacters := by
  rintro _ ⟨⟩
  exact Text.characters_ofString s

/-- Two patterns in a list within a list, behind a part without a pattern. -/
def nestedPatterns : Filter :=
  .list .mustPassOne [.compare .qualifier .equal (.substring (.string "q")),
    .list .mustPassAll [.compare .value .notEqual (.regex ⟨[0xE9], "é", "iso8859-1"⟩),
      .keyRegexp ⟨[0x75], "u", "iso8859-1"⟩]]

/-- The first pattern is that of a filter of values, whose kind the error names. -/
theorem patterns_need_patchPoint_ofNested :
    nestedPatterns.PatternsEncodable ∧ nestedPatterns.HoldsPattern ∧
      RefusesReads missingPoint nestedPatterns
        (.filterConversion (Filter.kindBytes "ValueFilter") .missingField
          (some (.access (.noField "Plain" "_value")))) ∧
      RefusesReads refusingPoint nestedPatterns
        (.filterConversion (Filter.kindBytes "ValueFilter") .accessDenied
          (some (.access (.noSetter "_value" "RegexStringComparator")))) := by
  have encodable : nestedPatterns.PatternsEncodable :=
    List.forall_mem_cons.2 ⟨nofun, List.forall_mem_cons.2 ⟨pattern_encodable _ _ _,
      List.forall_mem_cons.2 ⟨pattern_encodable _ _ _, nofun⟩⟩⟩
  have holds : nestedPatterns.HoldsPattern :=
    ⟨_, List.mem_cons_of_mem _ List.mem_cons_self, rfl⟩
  obtain ⟨refused, -⟩ := patterns_need_patchPoint encodable
  obtain ⟨_, -, missing, reads_missing⟩ := refused _ _ _ missingPoint_breaks holds
  obtain ⟨_, -, refusing, reads_refusing⟩ := refused _ _ _ refusingPoint_breaks holds
  cases missing
  cases refusing
  exact ⟨encodable, holds, reads_missing, reads_refusing⟩

/-- A surrogate to look for, in front of a pattern. -/
def surrogateFirst : Filter :=
  .list .mustPassAll [.compare .value .equal (.substring (.text [.ofNat 0xD800])),
    .keyRegexp ⟨[0x75], "u", "iso8859-1"⟩]

/-- The patch point is missing and the filter holds a pattern, but conversion does not come so far. -/
theorem surrogate_stops_first :
    surrogateFirst.PatternsEncodable ∧ surrogateFirst.HoldsPattern ∧
      missingPoint.Breaks .missingField (.access (.noField "Plain" "_value")) ∧
      surrogateFirst.convert missingPoint =
        .error (.conversion (.encode "utf-8" [.ofNat 0xD800] 0 1 "surrogates not allowed")) := by
  have encodable : surrogateFirst.PatternsEncodable :=
    List.forall_mem_cons.2 ⟨nofun, List.forall_mem_cons.2 ⟨pattern_encodable _ _ _, nofun⟩⟩
  exact ⟨encodable, ⟨_, List.mem_cons_of_mem _ List.mem_cons_self, rfl⟩, missingPoint_breaks, rfl⟩

end WideColumn
