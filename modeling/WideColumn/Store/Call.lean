import WideColumn.Store.Basic

/-!
# Calls of the store

One call of the store as a value, its effect and its reply. A sequence of calls is a history, and
the state after a history is the fold of the effects of its calls.
-/
namespace WideColumn.Store

/-- A call. -/
inductive Call where
  /-- Create a table with column families. -/
  | createTable (table : Bytes) (families : List Bytes)
  /-- Delete a table. -/
  | deleteTable (table : Bytes)
  /-- Ask for a table. -/
  | tableExists (table : Bytes)
  /-- Replace the value of a cell. -/
  | put (table key : Bytes) (coordinate : Coordinate) (value : Value)
  /-- Extend the value of a cell. -/
  | append (table key : Bytes) (coordinate : Coordinate) (value : Value)
  /-- Read a row. -/
  | get (table key : Bytes) (columns : Columns) (filter : Option Filter)
  /-- Remove from a row. -/
  | delete (table key : Bytes) (columns : Columns)
  /-- Read a range of rows. -/
  | scan (table : Bytes) (range : KeyRange) (columns : Columns) (filter : Option Filter)
    (limit : Option Nat)

/-- What a call answers. -/
inductive Reply where
  /-- Nothing. -/
  | nothing
  /-- Yes or no. -/
  | flag (value : Bool)
  /-- The cell that was written. -/
  | cell (cell : Cell)
  /-- The cells of a row. -/
  | cells (cells : List Cell)
  /-- The rows of a range with their keys. -/
  | rows (rows : List (Bytes × List Cell))

namespace Call

/-- The operation on rows that a call performs and the key it addresses. -/
def operation? : Call → Option (RequestKind × Bytes)
  | put _ key .. => some (.put, key)
  | append _ key .. => some (.append, key)
  | get _ key .. => some (.get, key)
  | delete _ key .. => some (.delete, key)
  | scan _ range .. => some (.scan, range.start)
  | _ => none

/-- A call that changes the store and answers nothing. -/
def changing (store : Store) : Except Error Store → Except Error Reply × Store
  | .ok after => (.ok .nothing, after)
  | .error error => (.error error, store)

/-- A call that leaves the store alone. -/
def reading (store : Store) (reply : Except Error Reply) : Except Error Reply × Store :=
  (reply, store)

/-- The reply to a call and the store after it. -/
def run (store : Store) : Call → Except Error Reply × Store
  | createTable table families => changing store (store.createTable table families)
  | deleteTable table => changing store (store.deleteTable table)
  | tableExists table => reading store (.ok (.flag (store.hasTable table)))
  | put table key coordinate value => changing store (store.put table key coordinate value)
  | append table key coordinate value =>
    let (cell, after) := store.append table key coordinate value
    (cell.map .cell, after)
  | get table key columns filter => reading store ((store.get table key columns filter).map .cells)
  | delete table key columns => changing store (store.delete table key columns)
  | scan table range columns filter limit =>
    reading store ((store.scan table range columns filter limit).map .rows)

end Call

/-- The store after a history of calls. -/
def after (store : Store) (history : List Call) : Store :=
  history.foldl (fun store call => (call.run store).2) store

end WideColumn.Store
