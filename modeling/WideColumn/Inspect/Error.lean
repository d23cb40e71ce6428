import WideColumn.Error

/-!
# Errors as records

A record of an error holds its class, its message, the class of its cause and whatever else the
class is known by. Tools show and compare records; the library itself never reads them.
-/
namespace WideColumn

/-- A record with plain names. -/
def Value.record (entries : List (String × Value)) : Value :=
  .mapping (entries.map fun (name, value) => (Text.ofString name, value))

/-- The record of an issue with settings. -/
def Issue.inspect (issue : Issue) : Value :=
  .record [("loc", .list (issue.path.map .text)), ("type", .string issue.fault.kind),
    ("msg", .text issue.fault.message)]

namespace Error

/-- The facts of a failed call of the store. -/
def operationEntries (error : Error) : List (String × Value) :=
  match error.operation? with
  | some facts => [("operation", .string facts.kind.name), ("table", .raw facts.table),
      ("key", .raw facts.key), ("retryable", .bool facts.retryable)]
  | none => []

/-- The parts that every record has. -/
def commonEntries (error : Error) : List (String × Value) :=
  let cause :=
    match error.cause? with
    | some kind => [("cause", Value.string kind.name)]
    | none => []
  [("error", .string error.kind.name), ("message", .text error.message)] ++ cause

mutual

/-- The parts that depend on the class, for an error that may stand for another. -/
def ownEntries : Error → List (String × Value)
  | unsupportedEncoding encoding _ _ => [("encoding", encoding)]
  | bufferFull pending capacity => [("pending", .int pending), ("capacity", .int capacity)]
  | filterConversion kind reason _ => [("filter_kind", .raw kind), ("reason", .string reason.name)]
  | operation failure kind table key cause retryable =>
    operationEntries (operation failure kind table key cause retryable)
  | exhausted attempts last raised =>
    operationEntries (exhausted attempts last raised) ++
      [("attempts", .int attempts), ("last_error", last.inspect)]
  | reraised error => ownEntries error
  | flushFailed failures => [("failures", .list (inspectAll failures))]
  | deferredTimeout bound => [("timeout", .number bound)]
  | doubleCompletion state _ => [("state", .string state.name)]
  | _ => []

/-- The record of an error. -/
def inspect : Error → Value
  | invalidSettings title issues =>
    .record [("error", .string ErrorKind.validation.name), ("title", .string title),
      ("errors", .list (issues.map Issue.inspect))]
  | error => .record (commonEntries error ++ ownEntries error)

/-- The records of errors. -/
def inspectAll : List Error → List Value
  | [] => []
  | error :: rest => error.inspect :: inspectAll rest

end

end Error
end WideColumn
