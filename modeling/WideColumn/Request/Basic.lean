import WideColumn.Filter.Conversion
import WideColumn.Store.Basic

/-!
# Requests

A request describes one operation on one table. Requests never change once they are built, and what
reaches a request has been validated: its byte fields are bytes, and the fields that name something
are not empty. A scan reads the rows of a range of keys, with a limit on their number.
-/
namespace WideColumn

/-- A limit on the rows of a scan, kept as it was given. -/
inductive RowLimit where
  /-- A number. -/
  | count (value : Number)
  /-- The truth value that counts as one. -/
  | one

namespace RowLimit

/-- The limit as it was given. -/
def value : RowLimit → Value
  | count n => .number n
  | one => .bool true

/-- How many rows a scan stops after. -/
def rows? : RowLimit → Option Nat
  | count n => n.ceil?
  | one => some 1

end RowLimit

/-- A request. -/
inductive Request where
  /-- Read one row. -/
  | get (table key : Bytes) (columns : Columns) (filter : Option Filter)
  /-- Replace the value of a cell. -/
  | put (table key : Bytes) (coordinate : Coordinate) (value : Bytes)
  /-- Extend the value of a cell. -/
  | append (table key : Bytes) (coordinate : Coordinate) (value : Bytes)
  /-- Remove a row, a family of it or columns of a family. -/
  | delete (table key : Bytes) (columns : Columns)
  /-- Read a range of rows. -/
  | scan (table : Bytes) (range : KeyRange) (columns : Columns) (filter : Option Filter)
    (limit : Option RowLimit)

namespace Request

/-- The operation. -/
def kind : Request → RequestKind
  | get .. => .get
  | put .. => .put
  | append .. => .append
  | delete .. => .delete
  | scan .. => .scan

/-- The class name of a request. -/
def className : Request → String
  | get .. => "GetRequest"
  | put .. => "PutRequest"
  | append .. => "AppendRequest"
  | delete .. => "DeleteRequest"
  | scan .. => "ScanRequest"

/-- The table. -/
def table : Request → Bytes
  | get table .. | put table .. | append table .. | delete table .. | scan table .. => table

/-- The row key; for a scan the key that it starts from. -/
def key : Request → Bytes
  | get _ key .. | put _ key .. | append _ key .. | delete _ key .. => key
  | scan _ range .. => range.start

/-- The filter of a read. -/
def filter? : Request → Option Filter
  | get _ _ _ filter | scan _ _ _ filter _ => filter
  | _ => none

/-- Whether the filters of two requests that were built apart count as equal. -/
def equalFilters : Option Filter → Option Filter → Bool
  | none, none => true
  | some a, some b => a.equals b
  | _, _ => false

/-- Whether two row limits count as equal. -/
def equalLimits : Option RowLimit → Option RowLimit → Bool
  | none, none => true
  | some a, some b => a.value.equals b.value
  | _, _ => false

/-- Whether two requests that were built apart are equal. -/
def equals : Request → Request → Bool
  | get t k c f, get t' k' c' f' => t == t' && k == k' && decide (c = c') && equalFilters f f'
  | put t k c v, put t' k' c' v' | append t k c v, append t' k' c' v' =>
    t == t' && k == k' && c == c' && v == v'
  | delete t k c, delete t' k' c' => t == t' && k == k' && decide (c = c')
  | scan t r c f l, scan t' r' c' f' l' =>
    t == t' && decide (r = r') && decide (c = c') && equalFilters f f' && equalLimits l l'
  | _, _ => false

end Request

/-- What a caller hands to the pipeline, which is a request if all is well. -/
inductive Submission where
  /-- A request. -/
  | request (request : Request)
  /-- Something that describes itself like a request but is none. -/
  | lookalike (className : String) (kind : RequestKind) (table key : Value)
  /-- Any other value. -/
  | value (value : Value)

namespace Submission

instance : Coe Request Submission := ⟨request⟩

/-- The name of the class of a submission. -/
def typeName : Submission → String
  | request r => r.className
  | lookalike className .. => className
  | value v => v.typeName

/-- The operation that a submission claims to be. -/
def kind? : Submission → Option RequestKind
  | request r => some r.kind
  | lookalike _ kind .. => some kind
  | value _ => none

/-- The table that a submission names. -/
def tableValue : Submission → Value
  | request r => .raw r.table
  | lookalike _ _ table _ => table
  | value _ => .none

/-- The row key that a submission names. -/
def keyValue : Submission → Value
  | request r => .raw r.key
  | lookalike _ _ _ key => key
  | value _ => .none

/-- Whether a submission claims to be a write. -/
def isWrite (submission : Submission) : Bool := submission.kind?.any RequestKind.isWrite

end Submission
end WideColumn
