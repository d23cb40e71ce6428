import WideColumn.Store.Cell
import WideColumn.Store.Comparator
import WideColumn.Value.Order

/-!
# Store filters

A filter looks at one row at a time and gives the cells that stay; a row of which no cell stays is
dropped. Filters never add or reorder cells. Column bounds are kept as they were given, so a bound
of the wrong kind shows only when a cell is compared with it.
-/
namespace WideColumn.Store

/-- The part of a cell that a compare filter looks at. -/
inductive Component where
  /-- The row key. -/
  | row
  /-- The column family. -/
  | family
  /-- The column qualifier. -/
  | qualifier
  /-- The value. -/
  | value
deriving DecidableEq

/-- The name of the compare filter of a component. -/
def Component.filterName : Component → String
  | row => "RowFilter"
  | family => "FamilyFilter"
  | qualifier => "QualifierFilter"
  | value => "ValueFilter"

/-- A filter of the store. -/
inductive Filter where
  /-- Keep by comparing one part of each cell; the row key decides for all cells of a row. -/
  | compare (component : Component) (op : CompareOp) (comparator : Comparator)
  /-- Keep qualifiers with a prefix. -/
  | columnPrefix (reference : Value)
  /-- Keep qualifiers between two bounds, an absent bound being open. -/
  | columnRange (low : Value) (lowInclusive : Bool) (high : Value) (highInclusive : Bool)
  /-- Keep all cells without their values. -/
  | keyOnly
  /-- Keep the first cell. -/
  | firstKeyOnly
  /-- Combine filters. -/
  | list (operator : ListOperator) (members : List Filter)

namespace Filter

/-- The name of a filter's kind. -/
def kindName : Filter → String
  | compare component .. => component.filterName
  | columnPrefix _ => "ColumnPrefixFilter"
  | columnRange .. => "ColumnRangeFilter"
  | keyOnly => "KeyOnlyFilter"
  | firstKeyOnly => "FirstKeyOnlyFilter"
  | list .. => "FilterList"

/-- The quoted form of a compare filter. -/
def quotedCompare (component : Component) (op : CompareOp) (comparator : Comparator) : Text :=
  component.filterName ++ "(" ++ memberName op.name ++ ", " ++ comparator.quoted ++ ")"

section

variable [Pattern.Engine]

/-- Whether a comparator lets data pass under an operator. -/
def passes (op : CompareOp) (comparator : Comparator) (data : Bytes) : Except Error Bool :=
  (comparator.compareTo data).map op.accepts

end

/-- Keep the cells that pass a test which may fail. -/
def keep (test : Cell → Except Error Bool) : List Cell → Except Error (List Cell)
  | [] => .ok []
  | cell :: rest => do
    let kept ← test cell
    let others ← keep test rest
    return if kept then cell :: others else others

/-- Whether a qualifier starts with a prefix of any kind. -/
def hasPrefix (reference : Value) (qualifier : Bytes) : Except Error Bool :=
  match reference with
  | .bytes _ data => .ok (data.isPrefixOf qualifier)
  | other => .error (.misuse (.notPrefix other.typeName))

/-- A comparison of caller values as a filter sees it. -/
def compared (result : Except Misuse Bool) : Except Error Bool :=
  match result with
  | .ok holds => .ok holds
  | .error fault => .error (.misuse fault)

/-- Whether a qualifier violates one bound. -/
def outside (beyond : Value → Value → Except Misuse Bool) (bound : Value) (inclusive : Bool)
    (qualifier : Bytes) : Except Error Bool :=
  match bound with
  | .none => .ok false
  | bound => do
    if ← compared (beyond (.raw qualifier) bound) then return true
    else return Value.equals (.raw qualifier) bound && !inclusive

/-- Whether a qualifier lies between two bounds. -/
def inRange (low : Value) (lowInclusive : Bool) (high : Value) (highInclusive : Bool)
    (qualifier : Bytes) : Except Error Bool := do
  if ← outside Value.less low lowInclusive qualifier then return false
  else return !(← outside Value.greater high highInclusive qualifier)

/-- The last cell with the given coordinate. -/
def lastAt (coordinate : Coordinate) (cells : List Cell) : Option Cell :=
  cells.reverse.find? fun cell => cell.coordinate = coordinate

/-- For each cell, the rendition of the first result that has its coordinate. -/
def union (cells : List Cell) (results : List (List Cell)) : List Cell :=
  cells.filterMap fun cell => results.findSome? (lastAt cell.coordinate)

variable [Pattern.Engine]

mutual

/-- The cells of a row that stay. -/
def apply (key : Bytes) (cells : List Cell) : Filter → Except Error (List Cell)
  | compare .row op comparator => do
    return if ← passes op comparator key then cells else []
  | compare .family op comparator => keep (fun cell => passes op comparator cell.family) cells
  | compare .qualifier op comparator =>
    keep (fun cell => passes op comparator cell.qualifier) cells
  | compare .value op comparator => keep (fun cell => passes op comparator cell.value) cells
  | columnPrefix reference => keep (fun cell => hasPrefix reference cell.qualifier) cells
  | columnRange low lowInclusive high highInclusive =>
    keep (fun cell => inRange low lowInclusive high highInclusive cell.qualifier) cells
  | keyOnly => .ok (cells.map fun cell => { cell with value := [] })
  | firstKeyOnly => .ok (cells.take 1)
  | list .mustPassAll members => applyAll key cells members
  | list .mustPassOne members => do return union cells (← applyEach key cells members)

/-- Pass the cells through all members in order, stopping when none are left. -/
def applyAll (key : Bytes) (cells : List Cell) : List Filter → Except Error (List Cell)
  | [] => .ok cells
  | member :: rest => do
    match ← apply key cells member with
    | [] => return []
    | kept => applyAll key kept rest

/-- The results of all members on the same cells. -/
def applyEach (key : Bytes) (cells : List Cell) : List Filter → Except Error (List (List Cell))
  | [] => .ok []
  | member :: rest => do
    let kept ← apply key cells member
    return kept :: (← applyEach key cells rest)

end

end Filter
end WideColumn.Store
