import WideColumn.Request.Basic
import WideColumn.Store.Call

/-!
# Executing requests

A request becomes exactly one call of the store, and the reply becomes the result that the caller
sees. Whatever the store raises is classified, so that what reaches a caller does not depend on the
store's own errors: missing tables and families have classes of their own, and any other failure
keeps whether trying again may help. An error that is classified already passes unchanged.
-/
namespace WideColumn

/-- What a request resolves with. -/
inductive Result where
  /-- Nothing, for a put or a removal. -/
  | nothing
  /-- The cells of a row, or the one cell that an append wrote. -/
  | cells (cells : List Cell)
  /-- The rows of a scan, which can be read once. -/
  | rows (rows : List (List Cell))
  /-- A value that a caller resolved a deferred result with. -/
  | value (value : Value)

namespace Result

instance : Inhabited Result := ⟨nothing⟩

/-- What the answer to a call is converted to. -/
def ofReply : Store.Reply → Result
  | .nothing | .flag _ => nothing
  | .cell cell => cells [cell]
  | .cells found => cells found
  | .rows found => rows (found.map (·.2))

end Result

namespace Error

/-- Whether an error stands for a failed call of the store. -/
def isOperationFailure : Error → Bool
  | operation .. | exhausted .. => true
  | reraised error => error.isOperationFailure
  | _ => false

/-- Whether trying again may help: a failed call of the store that is flagged so. -/
def isTransient (error : Error) : Bool :=
  error.isOperationFailure && error.operation?.any (·.retryable)

/-- Whether the store flags an error of its own as one that may pass. -/
def passesByItself : Error → Bool
  | plain .backendUnavailable _ => true
  | flagged _ _ retryable => retryable
  | reraised error => error.passesByItself
  | _ => false

/-- The class of a failed call of the store. -/
def operationFailure : Error → OperationFailure
  | tableNotFound _ => .tableNotFound
  | noSuchColumnFamily .. => .noSuchColumnFamily
  | flagged failure .. => failure
  | reraised error => error.operationFailure
  | _ => .general

end Error

namespace Request

/-- The call of the store that executes a request, with its filter converted. -/
def toCall (filter : Option Store.Filter) : Request → Store.Call
  | get table key columns _ => .get table key columns filter
  | put table key coordinate value => .put table key coordinate (.raw value)
  | append table key coordinate value => .append table key coordinate (.raw value)
  | delete table key columns => .delete table key columns
  | scan table range columns _ limit =>
    .scan table range columns filter (limit.bind RowLimit.rows?)

/-- What a request resolves with when its call is answered. For a put or a removal this is nothing,
whatever the answer. -/
def result (request : Request) (reply : Store.Reply) : Result :=
  match request with
  | put .. | delete .. => .nothing
  | get .. | append .. | scan .. => .ofReply reply

/-- Classify what the store raised while a request was executed. A missing table or family is never
worth another attempt, even if the store says so. -/
def classify (request : Request) (error : Error) : Error :=
  let failure := error.operationFailure
  .operation failure request.kind request.table request.key error
    (failure == .general && error.passesByItself)

end Request

/-- Something that answers calls of the store, from a state to the next. -/
abbrev Backend (σ : Type) := Store.Call → σ → Except Error Store.Reply × σ

/-- Execute what a caller submitted by one call of the store. Only requests can be executed. -/
def Submission.execute (backend : Backend σ) (filter : Option Store.Filter)
    (submission : Submission) (state : σ) : Except Error Result × σ :=
  match submission with
  | .request described =>
    match backend (described.toCall filter) state with
    | (.ok reply, state) => (.ok (described.result reply), state)
    | (.error error, state) =>
      (.error (if error.isOperationFailure then error else described.classify error), state)
  | other => (.error (.unknownRequest other.typeName), state)

end WideColumn
