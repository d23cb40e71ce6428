import WideColumn.Deferred.Basic

/-!
# What a caller learns of a call

A call that is answered resolves its request. A call that fails is told to the caller as a failed
call, and it is worth another attempt or not. Both are said here by the classes of errors and by the
flag that an error carries, as callers and stores would say it, and the classification that runs
agrees on every error. With a limit on attempts, what the store answers to one request, call after
call, decides its outcome.
-/
namespace WideColumn

namespace Error

variable {error : Error}

/-- Whether an error is of a class or of a class below it. -/
def IsA (error : Error) (kind : ErrorKind) : Prop := kind ∈ error.kind.lineage 6

instance (error : Error) (kind : ErrorKind) : Decidable (error.IsA kind) :=
  inferInstanceAs (Decidable (kind ∈ error.kind.lineage 6))

/-- The flag of an error on whether the same call may succeed when it is made again. -/
def retryable (error : Error) : Bool :=
  match error.operation? with
  | some facts => facts.retryable
  | none => error.passesByItself

/-- Whether a failure is worth another attempt: a failed call that is flagged so, or an error of the
store that is flagged so and does not say that a table or a family is missing. -/
def MayPass (error : Error) : Prop :=
  error.retryable = true ∧ (error.IsA .backendOperation ∨
    error.IsA .backend ∧ ¬ error.IsA .tableNotFound ∧ ¬ error.IsA .noSuchColumnFamily)

/-- The table of classes agrees with what execution looks at: whether an error is a failed call, and
what it says is missing. Only errors of the store are flagged without being failed calls. -/
theorem classes : (error : Error) →
    (error.IsA .backendOperation ↔ error.isOperationFailure = true) ∧
      ((error.IsA .tableNotFound ↔ error.operationFailure = .tableNotFound) ∧
      (error.IsA .noSuchColumnFamily ↔ error.operationFailure = .noSuchColumnFamily)) ∧
      (error.isOperationFailure = true →
        error.operationFailure = .general ∧ error.passesByItself = false) ∧
      (error.passesByItself = true → error.IsA .backend)
  | reraised error => error.classes
  | plain kind _ => by cases kind <;> exact of_decide_eq_true rfl
  | misuse fault => by
    simp only [IsA, kind, misuseKind]
    cases fault.family <;> exact of_decide_eq_true rfl
  | conversion fault | codecFailure fault => by
    simp only [IsA, kind, conversionKind]
    cases fault.family <;> exact of_decide_eq_true rfl
  | pattern fault => by
    simp only [IsA, kind, patternKind]
    cases fault.family <;> exact of_decide_eq_true rfl
  | operation failure .. => by cases failure <;> exact of_decide_eq_true rfl
  | flagged failure _ retryable => by
    cases failure <;> cases retryable <;> exact of_decide_eq_true rfl
  | request _ | filter _ | access _ | frozenField _ | foreignSlot .. | unsupportedEncoding ..
  | bufferFull .. | closed .. | poolShutDown | filterConversion .. | exhausted .. | flushFailed _
  | deferredTimeout _ | doubleCompletion .. | stillPending | tableNotFound _ | tableExists _
  | noSuchColumnFamily .. | unknownRequest _ | negativeAdvance _ | noAttempts | invalidSettings ..
  | missingFile _ | unknownDeferred _ | wouldBlock => of_decide_eq_true rfl

/-- Only failed calls carry facts. -/
theorem operation?_eq_none (foreign : error.isOperationFailure = false) :
    error.operation? = none := by
  fun_induction isOperationFailure error with
  | case1 | case2 => cases foreign
  | case3 error ih => exact ih foreign
  | case4 error no_operation no_exhausted no_reraised =>
    exact operation?.eq_4 error no_operation no_exhausted no_reraised

/-- The flag of a failed call is that of its facts. -/
theorem isTransient_of_failed (failed : error.isOperationFailure = true) :
    error.isTransient = error.retryable := by
  have quiet := (error.classes.2.2.1 failed).2
  unfold isTransient retryable
  rw [failed]
  cases error.operation? with
  | none => exact quiet.symm
  | some facts => rfl

/-- A failed call is worth another attempt if it is flagged so. -/
theorem mayPass_of_failed (failed : error.isOperationFailure = true) :
    error.MayPass ↔ error.retryable = true :=
  and_iff_left (.inl (error.classes.1.2 failed))

/-- An error of the store is worth another attempt if it is flagged so and nothing is missing. -/
theorem mayPass_of_foreign (foreign : error.isOperationFailure = false) :
    error.MayPass ↔ error.operationFailure = .general ∧ error.passesByItself = true := by
  obtain ⟨failed, ⟨table, family⟩, -, ofStore⟩ := error.classes
  have flag : error.retryable = error.passesByItself := by
    unfold retryable
    rw [operation?_eq_none foreign]
  simp only [MayPass, flag, failed, foreign, table, family, Bool.false_eq_true, false_or]
  constructor
  · rintro ⟨passes, -, no_table, no_family⟩
    refine ⟨?_, passes⟩
    cases missing : error.operationFailure with
    | general => rfl
    | tableNotFound => exact absurd missing no_table
    | noSuchColumnFamily => exact absurd missing no_family
  · rintro ⟨general, passes⟩
    rw [general]
    exact ⟨passes, ofStore passes, nofun, nofun⟩

/-- A call that failed on every attempt is never flagged. -/
theorem retryable_exhausted (attempts : Int) (last : Error) (raised : Bool) :
    (exhausted attempts last raised).retryable = false := by
  unfold retryable operation?
  cases last.operation? <;> rfl

end Error

namespace Request

variable {request : Request} {error reported : Error}

/-- What a caller is told of an error that the store raised while a request was executed. -/
inductive Reports (request : Request) (error : Error) : Error → Prop where
  /-- A failed call is told as it is. -/
  | unchanged (failed : error.IsA .backendOperation) : Reports request error error
  /-- The table is missing. -/
  | tableNotFound (missing : error.IsA .tableNotFound) :
    Reports request error
      (.operation .tableNotFound request.kind request.table request.key error false)
  /-- The family is missing. -/
  | noSuchColumnFamily (missing : error.IsA .noSuchColumnFamily) :
    Reports request error
      (.operation .noSuchColumnFamily request.kind request.table request.key error false)
  /-- Any other error is told as a failed call, flagged by whether it is worth another attempt. -/
  | general (foreign : ¬ error.IsA .backendOperation) (no_table : ¬ error.IsA .tableNotFound)
    (no_family : ¬ error.IsA .noSuchColumnFamily) (retryable : Bool)
    (flag : retryable = true ↔ error.MayPass) :
    Reports request error
      (.operation .general request.kind request.table request.key error retryable)

/-- A failed call is told as it is, and as nothing else. -/
theorem reports_of_failed (isFailed : error.isOperationFailure = true) :
    request.Reports error reported ↔ reported = error := by
  obtain ⟨failed, ⟨table, family⟩, ofFailed, -⟩ := error.classes
  have general := (ofFailed isFailed).1
  constructor
  · rintro (_ | missing | missing | ⟨foreign⟩)
    · rfl
    · cases general.symm.trans (table.1 missing)
    · cases general.symm.trans (family.1 missing)
    · exact absurd (failed.2 isFailed) foreign
  · rintro rfl
    exact .unchanged (failed.2 isFailed)

/-- Any other error is told as classification says, and as nothing else. -/
theorem reports_of_foreign (isForeign : error.isOperationFailure = false) :
    request.Reports error reported ↔ reported = request.classify error := by
  obtain ⟨failed, ⟨table, family⟩, -⟩ := error.classes
  have foreign : ¬ error.IsA .backendOperation := by
    rw [failed, isForeign]
    nofun
  have passing := Error.mayPass_of_foreign isForeign
  unfold classify
  constructor
  · rintro (isA | missing | missing | ⟨_, no_table, no_family, retryable, flag⟩)
    · exact absurd isA foreign
    · rw [table.1 missing]
      rfl
    · rw [family.1 missing]
      rfl
    · rw [table] at no_table
      rw [family] at no_family
      cases missing : error.operationFailure with
      | tableNotFound => exact absurd missing no_table
      | noSuchColumnFamily => exact absurd missing no_family
      | general =>
        have same : retryable = error.passesByItself := by
          rw [Bool.eq_iff_iff, flag, passing, missing]
          exact and_iff_right rfl
        rw [same]
        rfl
  · rintro rfl
    cases missing : error.operationFailure with
    | tableNotFound => exact .tableNotFound (table.2 missing)
    | noSuchColumnFamily => exact .noSuchColumnFamily (family.2 missing)
    | general =>
      refine .general foreign ?_ ?_ _ ?_
      · rw [table, missing]
        nofun
      · rw [family, missing]
        nofun
      · rw [passing, missing]
        exact (and_iff_right rfl).symm

/-- An error is told in one way. -/
theorem Reports.unique {other : Error} (one : request.Reports error reported)
    (two : request.Reports error other) : reported = other := by
  cases isFailed : error.isOperationFailure with
  | true => rw [(reports_of_failed isFailed).1 one, (reports_of_failed isFailed).1 two]
  | false => rw [(reports_of_foreign isFailed).1 one, (reports_of_foreign isFailed).1 two]

/-- A caller is told of a failed call, flagged by whether the error is worth another attempt. -/
theorem Reports.flagged (reports : request.Reports error reported) :
    reported.isOperationFailure = true ∧ (reported.retryable = true ↔ error.MayPass) := by
  cases isFailed : error.isOperationFailure with
  | true =>
    obtain rfl := (reports_of_failed isFailed).1 reports
    exact ⟨isFailed, (Error.mayPass_of_failed isFailed).symm⟩
  | false =>
    obtain rfl := (reports_of_foreign isFailed).1 reports
    refine ⟨rfl, ?_⟩
    rw [Error.mayPass_of_foreign isFailed]
    simp [classify, Error.retryable, Error.operation?]

end Request

/-! ## One call -/

namespace Submission

variable {σ : Type} {backend : Backend σ} {filter : Option Store.Filter} {request : Request}
  {state : σ}

/-- A call that is answered resolves its request. -/
theorem execute_ok {reply : Store.Reply}
    (answered : (backend (request.toCall filter) state).1 = .ok reply) :
    ((request : Submission).execute backend filter state).1 = .ok (request.result reply) := by
  unfold execute
  cases called : backend (request.toCall filter) state with
  | mk answer after =>
    rw [called] at answered
    obtain rfl : answer = .ok reply := answered
    simp only [called]

/-- A call that fails is told to the caller. -/
theorem execute_error {error : Error}
    (failed : (backend (request.toCall filter) state).1 = .error error) :
    ∃ reported, ((request : Submission).execute backend filter state).1 = .error reported ∧
      request.Reports error reported := by
  unfold execute
  cases called : backend (request.toCall filter) state with
  | mk answer after =>
    rw [called] at failed
    obtain rfl : answer = .error error := failed
    simp only [called]
    refine ⟨_, rfl, ?_⟩
    cases isFailed : error.isOperationFailure with
    | true => exact (Request.reports_of_failed isFailed).2 rfl
    | false => exact (Request.reports_of_foreign isFailed).2 rfl

end Submission

/-! ## Several calls -/

/-- The answers call for another attempt: they are failures that are worth one, and fewer than the
limit. -/
def Inconclusive (limit : Nat) (answers : List (Except Error Store.Reply)) : Prop :=
  ∃ failures : List Error, answers = failures.map .error ∧ failures.length < limit ∧
    ∀ failure ∈ failures, failure.MayPass

namespace Request

/-- How the answers of the store decide the outcome of a request that is tried up to a limit. -/
inductive Decides (request : Request) (limit : Nat) :
    List (Except Error Store.Reply) → Outcome → Prop where
  /-- After failures that are worth another attempt, the store answers. -/
  | resolved {failures : List Error} (passing : ∀ failure ∈ failures, failure.MayPass)
    (few : failures.length < limit) (reply : Store.Reply) :
    Decides request limit (failures.map .error ++ [.ok reply]) (.ok (request.result reply))
  /-- After failures that are worth another attempt, there is one that is not. -/
  | refused {failures : List Error} (passing : ∀ failure ∈ failures, failure.MayPass)
    (few : failures.length < limit) {error reported : Error} (lasting : ¬ error.MayPass)
    (reports : request.Reports error reported) :
    Decides request limit (failures.map .error ++ [.error error]) (.error reported)
  /-- All attempts fail with failures that are worth another attempt. -/
  | exhausted {failures : List Error} (passing : ∀ failure ∈ failures, failure.MayPass)
    (all : failures.length + 1 = limit) {error reported : Error} (passes : error.MayPass)
    (reports : request.Reports error reported) :
    Decides request limit (failures.map .error ++ [.error error])
      (.error (.exhausted limit reported true))

namespace Decides

variable {request : Request} {limit : Nat} {answers : List (Except Error Store.Reply)}
  {outcome other : Outcome}

/-- However answers are split into failures and a last answer, the last answer is the same. -/
theorem last_eq {failures others : List Error} {one two : Except Error Store.Reply}
    (same : failures.map .error ++ [one] = others.map .error ++ [two]) : one = two :=
  List.singleton_inj.1 (List.append_inj' same rfl).2

/-- The answers decide one outcome. -/
theorem unique (one : request.Decides limit answers outcome)
    (two : request.Decides limit answers other) : outcome = other := by
  cases one with
  | resolved passing few reply =>
    generalize split : _ ++ [Except.ok reply] = whole at two
    cases two with
    | resolved =>
      cases last_eq split
      rfl
    | refused | exhausted => cases last_eq split
  | @refused failures passing few error reported lasting reports =>
    generalize split : _ ++ [Except.error error] = whole at two
    cases two with
    | resolved => cases last_eq split
    | refused _ _ _ others =>
      cases last_eq split
      rw [reports.unique others]
    | exhausted _ _ passes =>
      cases last_eq split
      exact absurd passes lasting
  | @exhausted failures passing all error reported passes reports =>
    generalize split : _ ++ [Except.error error] = whole at two
    cases two with
    | resolved => cases last_eq split
    | refused _ _ lasting =>
      cases last_eq split
      exact absurd passes lasting
    | exhausted _ _ _ others =>
      cases last_eq split
      rw [reports.unique others]

/-- No error that reaches a caller is flagged as worth another attempt. -/
theorem lasting {error : Error} (decides : request.Decides limit answers (.error error)) :
    error.retryable = false := by
  cases decides with
  | refused passing few lasting reports =>
    rw [Bool.eq_false_iff, Ne, reports.flagged.2]
    exact lasting
  | exhausted => exact Error.retryable_exhausted _ _ _

end Decides
end Request
end WideColumn
