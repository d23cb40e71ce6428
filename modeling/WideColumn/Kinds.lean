/-!
# Kinds, states and reasons

The small vocabularies that requests, results and log events share, with their printed names.
-/
namespace WideColumn

/-- The operation that a request describes. -/
inductive RequestKind where
  /-- Read one row. -/
  | get
  /-- Store one cell. -/
  | put
  /-- Remove a row, a family or columns. -/
  | delete
  /-- Append bytes to one cell. -/
  | append
  /-- Read a range of rows. -/
  | scan
deriving DecidableEq, Inhabited

namespace RequestKind

/-- The printed name of a kind. -/
def name : RequestKind → String
  | get => "get"
  | put => "put"
  | delete => "delete"
  | append => "append"
  | scan => "scan"

/-- All kinds. -/
def all : List RequestKind := [get, put, delete, append, scan]

/-- Writes are buffered until the next flush; reads are not. -/
def isWrite : RequestKind → Bool
  | put | delete | append => true
  | get | scan => false

end RequestKind

/-- The life of a deferred result: pending, then one of the two terminal states for good. -/
inductive DeferredState where
  /-- No outcome yet. -/
  | pending
  /-- Completed with a value. -/
  | resolved
  /-- Completed with an error. -/
  | failed
deriving DecidableEq, Inhabited

/-- The printed name of a state. -/
def DeferredState.name : DeferredState → String
  | pending => "pending"
  | resolved => "resolved"
  | failed => "failed"

/-- All states. -/
def DeferredState.all : List DeferredState := [.pending, .resolved, .failed]

/-- What made the buffer drain. -/
inductive FlushReason where
  /-- A caller asked for it. -/
  | explicit
  /-- The buffer reached its threshold. -/
  | size
  /-- The interval since the last flush ran out. -/
  | interval
  /-- The client is closing. -/
  | shutdown
deriving DecidableEq, Inhabited

namespace FlushReason

/-- The printed name of a reason. -/
def name : FlushReason → String
  | explicit => "explicit"
  | size => "size"
  | interval => "interval"
  | shutdown => "shutdown"

/-- All reasons. -/
def all : List FlushReason := [explicit, size, interval, shutdown]

end FlushReason

/-- Why raw bytes could not be put into a store comparator. -/
inductive PatchFailure where
  /-- The comparator has no such field. -/
  | missingField
  /-- The comparator refuses the write. -/
  | accessDenied
deriving DecidableEq, Inhabited

namespace PatchFailure

/-- The printed name of a failure. -/
def name : PatchFailure → String
  | missingField => "missing_field"
  | accessDenied => "access_denied"

/-- All failures. -/
def all : List PatchFailure := [missingField, accessDenied]

end PatchFailure

/-- How a comparison result is turned into keeping or dropping. -/
inductive CompareOp where
  /-- Data before the reference. -/
  | less
  /-- Data before or equal to the reference. -/
  | lessOrEqual
  /-- Data equal to the reference. -/
  | equal
  /-- Data other than the reference. -/
  | notEqual
  /-- Data after or equal to the reference. -/
  | greaterOrEqual
  /-- Data after the reference. -/
  | greater
  /-- No data at all. -/
  | noOp
deriving DecidableEq, Inhabited

namespace CompareOp

/-- The printed name of an operator. -/
def name : CompareOp → String
  | less => "less"
  | lessOrEqual => "less_or_equal"
  | equal => "equal"
  | notEqual => "not_equal"
  | greaterOrEqual => "greater_or_equal"
  | greater => "greater"
  | noOp => "no_op"

/-- All operators. -/
def all : List CompareOp := [less, lessOrEqual, equal, notEqual, greaterOrEqual, greater, noOp]

/-- Whether data that compares this way to the reference is kept. -/
def accepts : CompareOp → Ordering → Bool
  | less, comparison => comparison == .lt
  | lessOrEqual, comparison => comparison != .gt
  | equal, comparison => comparison == .eq
  | notEqual, comparison => comparison != .eq
  | greaterOrEqual, comparison => comparison != .lt
  | greater, comparison => comparison == .gt
  | noOp, _ => false

end CompareOp

/-- How the members of a filter list combine. -/
inductive ListOperator where
  /-- Each member filters what the one before left. -/
  | mustPassAll
  /-- A cell stays if some member keeps it. -/
  | mustPassOne
deriving DecidableEq, Inhabited

namespace ListOperator

/-- The printed name of an operator. -/
def name : ListOperator → String
  | mustPassAll => "must_pass_all"
  | mustPassOne => "must_pass_one"

/-- All operators. -/
def all : List ListOperator := [mustPassAll, mustPassOne]

end ListOperator

/-- The member name of a printed name: the same word in capitals. -/
def memberName (name : String) : String := name.toUpper

end WideColumn
