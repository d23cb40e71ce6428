import Mathlib.Data.List.Infix
import WideColumn.Filter.Basic

/-!
# The meaning of filters

What a filter does to the cells of a row, told by its structure alone and without a store. Byte
strings are compared lexicographically. A regular expression is searched for as the raw bytes of its
pattern, whatever its text says. A list whose members must all pass is a pipe that ends early when
no cell is left; a list of which one member must pass keeps each cell as the first member that keeps
it leaves it, where a cell is known by its coordinate.
-/
namespace WideColumn

namespace CompareOp

/-- Whether an operator lets data pass that is ordered against a reference. -/
def admits (op : CompareOp) (data reference : Bytes) : Bool :=
  match op with
  | less => data < reference
  | lessOrEqual => data ≤ reference
  | equal => data = reference
  | notEqual => data ≠ reference
  | greaterOrEqual => reference ≤ data
  | greater => reference < data
  | noOp => false

/-- Whether an operator lets data pass of which only a match is known: a match counts as equal to
the reference, anything else as greater. -/
def admitsMatch (op : CompareOp) (found : Bool) : Bool :=
  match op with
  | equal | lessOrEqual => found
  | notEqual | greater => !found
  | greaterOrEqual => true
  | less | noOp => false

end CompareOp

section

variable [Pattern.Engine]

/-- Whether data passes under an operator and a comparator. A text is looked for in UTF-8,
regardless of case; a reference of another kind is found nowhere. -/
def Comparator.admits (op : CompareOp) (data : Bytes) : Comparator → Except Error Bool
  | binary reference => .ok (op.admits data reference)
  | binaryPrefix reference => .ok (op.admits (data.take reference.length) reference)
  | substring (.text text) =>
    .ok (op.admitsMatch (text.lower.flatMap Charset.utf8Bytes <:+: data.lower))
  | substring _ => .ok (op.admitsMatch false)
  | regex forms => (Pattern.Engine.search forms.raw data).map op.admitsMatch

end

/-- A change of the cells of a row with a given key. -/
abbrev RowChange := Bytes → List Cell → Except Error (List Cell)

namespace RowChange

/-- Keep a row or drop it, by a test of its key. -/
def ofKeyTest (test : Bytes → Except Error Bool) : RowChange := fun key cells => do
  if ← test key then return cells else return []

/-- Keep some cells, by a test of each. -/
def ofCellTest (test : Cell → Except Error Bool) : RowChange := fun _ cells => cells.filterM test

/-- Changes one after another, which end early when no cell is left. -/
def inTurn : List RowChange → RowChange
  | [] => fun _ cells => .ok cells
  | change :: rest => fun key cells => do
    let kept ← change key cells
    if kept = [] then return [] else inTurn rest key kept

/-- The cell at a coordinate, the last one if there are several. -/
def cellAt (place : Coordinate) (cells : List Cell) : Option Cell :=
  (cells.filter fun cell => cell.coordinate = place).getLast?

/-- What the first of several results that has a cell leaves of it. -/
def rendition (results : List (List Cell)) (cell : Cell) : Option Cell :=
  (results.filterMap (cellAt cell.coordinate)).head?

/-- Changes of the same cells, of which the first that keeps a cell decides what is left of it. -/
def either (changes : List RowChange) : RowChange := fun key cells => do
  let results ← changes.mapM fun change => change key cells
  return cells.filterMap (rendition results)

end RowChange

/-- Whether a qualifier lies on the inner side of a bound, as an operator tells it. Absent bounds
are open, and a bound of a kind that has no order against bytes is a misuse. -/
def withinBound (op : CompareOp) (comparison : String) (qualifier : Bytes) :
    Value → Except Error Bool
  | .none => .ok true
  | .bytes .fixed bound | .bytes .buffer bound => .ok (op.admits qualifier bound)
  | other => .error (.misuse (.notOrdered comparison "bytes" other.typeName))

/-- Whether a qualifier lies in a range of columns; the start decides first. -/
def withinColumns (start : Value) (startInclusive : Bool) (stop : Value) (stopInclusive : Bool)
    (qualifier : Bytes) : Except Error Bool := do
  if ← withinBound (if startInclusive then .greaterOrEqual else .greater) "<" qualifier start then
    withinBound (if stopInclusive then .lessOrEqual else .less) ">" qualifier stop
  else return false

namespace Filter

variable [Pattern.Engine]

mutual

/-- What a filter does to the cells of a row. -/
def meaning : Filter → RowChange
  | compare .row op comparator => .ofKeyTest fun key => comparator.admits op key
  | compare .family op comparator => .ofCellTest fun cell => comparator.admits op cell.family
  | compare .qualifier op comparator =>
    .ofCellTest fun cell => comparator.admits op cell.qualifier
  | compare .value op comparator => .ofCellTest fun cell => comparator.admits op cell.value
  | columnPrefix reference =>
    fun _ cells => .ok (cells.filter fun cell => reference <+: cell.qualifier)
  | columnRange start startInclusive stop stopInclusive =>
    .ofCellTest fun cell => withinColumns start startInclusive stop stopInclusive cell.qualifier
  | keyOnly => fun _ cells => .ok (cells.map fun cell => { cell with value := [] })
  | firstKeyOnly => fun _ cells => .ok (cells.take 1)
  | list .mustPassAll members => .inTurn (meanings members)
  | list .mustPassOne members => .either (meanings members)
  | keyRegexp forms => .ofKeyTest fun key => (Comparator.regex forms).admits .equal key
  | inconvertible _ _ failure => fun _ _ => .error failure

/-- What each of several filters does to the cells of a row. -/
def meanings : List Filter → List RowChange
  | [] => []
  | member :: rest => member.meaning :: meanings rest

end

end Filter
end WideColumn
