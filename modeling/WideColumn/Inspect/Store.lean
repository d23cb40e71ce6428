import WideColumn.Inspect.Error
import WideColumn.Store.Call

/-!
# What the store holds and answers, as records

A cell is shown as its coordinates, its value and its timestamp; filters and comparators by class,
kind and parts.
-/
namespace WideColumn

/-- A byte string that may be absent. -/
def Value.rawOption (data : Option Bytes) : Value := .ofOption Value.raw data

/-- A cell as a list of its parts. -/
def Cell.inspect (cell : Cell) : Value :=
  .list [.raw cell.row, .raw cell.family, .raw cell.qualifier, .raw cell.value,
    .int cell.timestamp]

/-- The cells of a row. -/
def Cell.inspectAll (cells : List Cell) : Value := .list (cells.map Cell.inspect)

namespace Store

/-- A reply of the store. -/
def Reply.inspect : Reply → Value
  | nothing => .none
  | flag b => .bool b
  | cell found => found.inspect
  | cells found => Cell.inspectAll found
  | rows found => .list (found.map fun row => .list [.raw row.1, Cell.inspectAll row.2])

/-- The parts of a comparator. -/
def Comparator.inspectEntries (comparator : Comparator) : List (String × Value) :=
  [("class", .string comparator.className), ("value", .raw comparator.value),
    ("repr", .text comparator.quoted)] ++
    match comparator with
    | .regex _ charset _ => [("charset", charset)]
    | _ => []

namespace Filter

mutual

/-- The record of a filter. -/
def inspect (filter : Filter) : Value :=
  .record ([("class", .string filter.kindName),
    ("kind", .raw (Charset.asciiBytes filter.kindName))] ++ ownEntries filter)

/-- The parts of a filter that depend on its kind. -/
def ownEntries : Filter → List (String × Value)
  | compare component op comparator =>
    [("cmp_op", .string op.name), ("comparator", .record comparator.inspectEntries),
      ("repr", .text (quotedCompare component op comparator))]
  | columnPrefix reference => [("prefix", reference)]
  | columnRange low lowInclusive high highInclusive =>
    [("min", low), ("min_inclusive", .bool lowInclusive), ("max", high),
      ("max_inclusive", .bool highInclusive)]
  | keyOnly | firstKeyOnly => []
  | list operator members =>
    [("operator", .string operator.name), ("filters", .list (inspectAll members))]

/-- The records of filters. -/
def inspectAll : List Filter → List Value
  | [] => []
  | filter :: rest => filter.inspect :: inspectAll rest

end

end Filter
end Store
end WideColumn
