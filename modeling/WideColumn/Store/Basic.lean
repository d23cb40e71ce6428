import WideColumn.SortedMap
import WideColumn.Store.Filter

/-!
# The store

Tables of rows of cells, one version per cell. Tables, the rows of a table and the cells of a row
are sorted maps, so reading needs no sorting and two stores with the same contents are equal. A
counter of successful writes gives each write its timestamp. A failed operation leaves the store as
it was, except that an append with an unusable value leaves its row behind without cells.
-/
namespace WideColumn

/-- What is stored under a coordinate. -/
structure Store.Entry where
  /-- The value. -/
  value : Bytes
  /-- The place of the last write among all writes of the store. -/
  timestamp : Nat
deriving DecidableEq, Inhabited

/-- The cells of a row. -/
abbrev Store.Row := SortedMap Coordinate Store.Entry

/-- A table. -/
structure Store.Table where
  /-- The column families that it declares. -/
  families : List Bytes
  /-- Its rows by key. -/
  rows : SortedMap Bytes Store.Row

/-- A store. -/
structure Store where
  /-- The tables by name. -/
  tables : SortedMap Bytes Store.Table
  /-- How many puts and appends have succeeded. -/
  writes : Nat

/-- Which columns of a row an operation addresses. -/
structure Columns where
  /-- The family, or all families. -/
  family : Option Bytes
  /-- The qualifiers, or all qualifiers. -/
  qualifiers : Option (List Bytes)
deriving DecidableEq

namespace Columns

/-- All columns. -/
def all : Columns := ⟨none, none⟩

/-- Whether a coordinate is among the columns. -/
def contains (columns : Columns) (coordinate : Coordinate) : Bool :=
  (match columns.family with
    | none => true
    | some family => coordinate.family == family) &&
  (match columns.qualifiers with
    | none => true
    | some qualifiers => qualifiers.contains coordinate.qualifier)

end Columns

/-- Row keys from `start` on and before `stop`; an empty `stop` bounds nothing. -/
structure KeyRange where
  /-- The first key. -/
  start : Bytes
  /-- The key that ends the range. -/
  stop : Bytes
deriving DecidableEq

/-- Whether a key lies in a range. -/
def KeyRange.contains (range : KeyRange) (key : Bytes) : Bool :=
  compare key range.start != .lt && (range.stop.isEmpty || compare key range.stop == .lt)

namespace Store

instance : Inhabited Table := ⟨⟨[], .empty⟩⟩

/-- The store without tables. -/
def empty : Store := ⟨.empty, 0⟩

instance : Inhabited Store := ⟨empty⟩

/-- The cells of a row, in order. -/
def Row.cells (key : Bytes) (row : Row) : List Cell :=
  row.entries.map fun (coordinate, entry) =>
    ⟨key, coordinate.family, coordinate.qualifier, entry.value, entry.timestamp⟩

/-- A table by name. -/
def table (store : Store) (name : Bytes) : Except Error Table :=
  match store.tables.get? name with
  | some table => .ok table
  | none => .error (.tableNotFound name)

/-- Refuse a family that a table does not declare. -/
def Table.checkFamily (name : Bytes) (table : Table) (family : Bytes) : Except Error Unit :=
  if table.families.contains family then .ok () else .error (.noSuchColumnFamily name family)

/-- Refuse columns of a family that a table does not declare. -/
def Table.checkColumns (name : Bytes) (table : Table) (columns : Columns) : Except Error Unit :=
  match columns.family with
  | none => .ok ()
  | some family => table.checkFamily name family

/-- A store with one table replaced. -/
def setTable (store : Store) (name : Bytes) (table : Table) : Store :=
  { store with tables := store.tables.insert name table }

/-- A table with one row replaced. -/
def Table.setRow (table : Table) (key : Bytes) (row : Row) : Table :=
  { table with rows := table.rows.insert key row }

/-- The row at a key, without cells if there is none. -/
def Table.row (table : Table) (key : Bytes) : Row := (table.rows.get? key).getD .empty

/-- Whether there is a table of a name. -/
def hasTable (store : Store) (name : Bytes) : Bool := store.tables.contains name

/-- Create a table. -/
def createTable (store : Store) (name : Bytes) (families : List Bytes) : Except Error Store :=
  if store.hasTable name then .error (.tableExists name)
  else .ok (store.setTable name ⟨families, .empty⟩)

/-- Delete a table with all its rows. -/
def deleteTable (store : Store) (name : Bytes) : Except Error Store :=
  if store.hasTable name then .ok { store with tables := store.tables.erase name }
  else .error (.tableNotFound name)

/-- Store one value at a coordinate, under the next timestamp. -/
def write (store : Store) (name : Bytes) (table : Table) (key : Bytes) (coordinate : Coordinate)
    (value : Bytes) : Store :=
  let timestamp := store.writes + 1
  let row := (table.row key).insert coordinate ⟨value, timestamp⟩
  { store.setTable name (table.setRow key row) with writes := timestamp }

/-- Replace the value of a cell. -/
def put (store : Store) (name key : Bytes) (coordinate : Coordinate) (value : Value) :
    Except Error Store := do
  let table ← store.table name
  table.checkFamily name coordinate.family
  let data ← Comparator.bytesOf value
  return store.write name table key coordinate data

/-- Extend the value of a cell, which counts as empty when absent. The row comes into being before
the value is looked at. -/
def append (store : Store) (name key : Bytes) (coordinate : Coordinate) (value : Value) :
    Except Error Cell × Store :=
  match store.table name with
  | .error error => (.error error, store)
  | .ok table =>
    match table.checkFamily name coordinate.family with
    | .error error => (.error error, store)
    | .ok () =>
      match Comparator.bytesOf value with
      | .error error => (.error error, store.setTable name (table.setRow key (table.row key)))
      | .ok data =>
        let previous := ((table.row key).get? coordinate).elim [] Entry.value
        let combined := previous ++ data
        (.ok ⟨key, coordinate.family, coordinate.qualifier, combined, store.writes + 1⟩,
          store.write name table key coordinate combined)

/-- What is left of a table when columns of a row are removed. A row without cells goes as well. -/
def Table.remove (table : Table) (key : Bytes) (columns : Columns) : Table :=
  match table.rows.get? key with
  | none => table
  | some row =>
    let rest := row.filter fun coordinate _ => !columns.contains coordinate
    if columns.family.isNone || rest.isEmpty then { table with rows := table.rows.erase key }
    else table.setRow key rest

/-- Remove a row, a family of it or columns of a family. -/
def delete (store : Store) (name key : Bytes) (columns : Columns) : Except Error Store := do
  let table ← store.table name
  table.checkColumns name columns
  return store.setTable name (table.remove key columns)

/-- The cells of a row that lie in the columns and pass the filter, if there is one. A filter sees
no row without cells. -/
def select (key : Bytes) (row : Row) (columns : Columns) (filter : Option Filter) :
    Except Error (List Cell) :=
  let cells := (row.cells key).filter fun cell => columns.contains cell.coordinate
  match filter with
  | none => .ok cells
  | some filter => if cells.isEmpty then .ok [] else filter.apply key cells

/-- Read a row; one that is absent has no cells. -/
def get (store : Store) (name key : Bytes) (columns : Columns) (filter : Option Filter) :
    Except Error (List Cell) := do
  let table ← store.table name
  table.checkColumns name columns
  match table.rows.get? key with
  | none => return []
  | some row => select key row columns filter

/-- Read rows one by one, leaving out those without cells, until as many are found as the limit
says. At least one is looked for. -/
def collect (read : Bytes → Row → Except Error (List Cell)) :
    (limit : Option Nat) → List (Bytes × Row) → Except Error (List (Bytes × List Cell))
  | _, [] => .ok []
  | limit, (key, row) :: rest => do
    match ← read key row with
    | [] => collect read limit rest
    | cells =>
      match limit with
      | none => return (key, cells) :: (← collect read none rest)
      | some (more + 2) => return (key, cells) :: (← collect read (some (more + 1)) rest)
      | some _ => return [(key, cells)]

/-- Read the rows of a range in order of their keys. -/
def scan (store : Store) (name : Bytes) (range : KeyRange) (columns : Columns)
    (filter : Option Filter) (limit : Option Nat) : Except Error (List (Bytes × List Cell)) := do
  let table ← store.table name
  table.checkColumns name columns
  collect (fun key row => select key row columns filter) limit
    (table.rows.entries.filter fun (key, _) => range.contains key)

/-- Whether a key lies behind a range that a value ends, if one does. -/
def isBehind (stop : Value) (key : Bytes) : Except Misuse Bool :=
  if stop.isTruthy then (Value.raw key).atLeast stop else .ok false

/-- The rows from one value on and before another. Row keys are compared with the values one after
the other, and the first one behind the range ends the search. -/
def between (start stop : Value) : List (Bytes × Row) → Except Misuse (List (Bytes × Row))
  | [] => .ok []
  | (key, row) :: rest => do
    if ← (Value.raw key).less start then between start stop rest
    else if ← isBehind stop key then return []
    else return (key, row) :: (← between start stop rest)

/-- Read the rows of a range whose ends are values. An end that has no order with row keys is only
noticed where there is a row. -/
def scanBetween (store : Store) (name : Bytes) (start stop : Value) (columns : Columns)
    (filter : Option Filter) (limit : Option Nat) : Except Error (List (Bytes × List Cell)) := do
  let table ← store.table name
  table.checkColumns name columns
  match between start stop table.rows.entries with
  | .error fault => throw (.misuse fault)
  | .ok rows => collect (fun key row => select key row columns filter) limit rows

end Store
end WideColumn
