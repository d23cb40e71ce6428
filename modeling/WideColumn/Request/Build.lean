import WideColumn.Request.Basic

/-!
# Building requests

A request is built from caller values, and everything that is wrong with them is found at that
point. Byte fields take any form of byte string as well as text, which is encoded in UTF-8. All
fields are read before the first of them is refused for being empty.
-/
namespace WideColumn.Request

/-- The bytes of a field. A view is copied, which takes that it has not been released. -/
def bytesOf (field : String) (value : Value) : Except Error Bytes :=
  match value with
  | .text text => Store.Comparator.encodeText text
  | .bytes _ data => .ok data
  | other => .error (.request (.notBytes field other.typeName))

/-- The bytes of a field that may be absent. -/
def bytesOf? (field : String) (value : Value) : Except Error (Option Bytes) :=
  match value with
  | .none => .ok none
  | value => (bytesOf field value).map some

/-- The members of a sequence of qualifiers, or `none` for all columns. A single qualifier is no
sequence, and a sequence without members is refused. -/
def qualifiersOf (field : String) (value : Value) : Except Error (Option (List Bytes)) :=
  match value with
  | .none => .ok none
  | .text _ | .bytes .. => .error (.request (.singleQualifier field))
  | value =>
    match value.items with
    | .error fault => .error (.misuse fault)
    | .ok items => do
      match ← items.mapM (bytesOf field) with
      | [] => throw (.request (.noQualifiers field))
      | qualifiers => return some qualifiers

/-- Refuse an empty field. -/
def requireNonempty (kind : RequestKind) (field : String) (data : Bytes) : Except Error Unit :=
  if data.isEmpty then .error (.request (.emptyField kind field)) else .ok ()

/-- The table and the row key of a request. -/
def rowOf (kind : RequestKind) (table key : Value) : Except Error (Bytes × Bytes) := do
  let table ← bytesOf "table" table
  let key ← bytesOf "key" key
  requireNonempty kind "table" table
  requireNonempty kind "row key" key
  return (table, key)

/-- The columns of a request: qualifiers make sense within a family only. -/
def columnsOf (kind : RequestKind) (family qualifiers : Value) : Except Error Columns := do
  let family ← bytesOf? "family" family
  let qualifiers ← qualifiersOf "qualifiers" qualifiers
  match family with
  | some family =>
    requireNonempty kind "family" family
    return ⟨some family, qualifiers⟩
  | none =>
    if qualifiers.isSome then throw (.request (.qualifiersWithoutFamily kind))
    else return ⟨none, none⟩

/-- Build a read of one row. -/
def ofGet (table key family qualifiers : Value) (filter : Option Filter) :
    Except Error Request := do
  let (table, key) ← rowOf .get table key
  return .get table key (← columnsOf .get family qualifiers) filter

/-- Build a removal. -/
def ofDelete (table key family qualifiers : Value) : Except Error Request := do
  let (table, key) ← rowOf .delete table key
  return .delete table key (← columnsOf .delete family qualifiers)

/-- The coordinate and the value of a write to one cell. -/
def cellOf (kind : RequestKind) (family qualifier value : Value) :
    Except Error (Coordinate × Bytes) := do
  let family ← bytesOf "family" family
  let qualifier ← bytesOf "qualifier" qualifier
  let value ← bytesOf "value" value
  requireNonempty kind "family" family
  requireNonempty kind "qualifier" qualifier
  return (⟨family, qualifier⟩, value)

/-- Build a replacement of a cell's value. -/
def ofPut (table key family qualifier value : Value) : Except Error Request := do
  let (table, key) ← rowOf .put table key
  let (coordinate, value) ← cellOf .put family qualifier value
  return .put table key coordinate value

/-- Build an extension of a cell's value. -/
def ofAppend (table key family qualifier value : Value) : Except Error Request := do
  let (table, key) ← rowOf .append table key
  let (coordinate, value) ← cellOf .append family qualifier value
  return .append table key coordinate value

/-- The range of a scan, whose start must not lie behind a stop that bounds it. -/
def rangeOf (start stop : Value) : Except Error KeyRange := do
  let start ← bytesOf "start_key" start
  let stop ← bytesOf "stop_key" stop
  if !stop.isEmpty && compare start stop == .gt then throw (.request (.startAfterStop start stop))
  else return ⟨start, stop⟩

/-- What refuses a limit below one. The message shows the limit, so a number that is too long to be
written out comes to grief there. -/
def belowOne (limit : Value) : Error :=
  if limit.isTooLong then .misuse .longNumber else .request (.rowLimit limit)

/-- A limit on rows, which must not be below one. -/
def limitOf (value : Value) : Except Error (Option RowLimit) :=
  match value with
  | .none => .ok none
  | value =>
    match value.less (.int 1) with
    | .error fault => .error (.misuse fault)
    | .ok true => .error (belowOne value)
    | .ok false =>
      match value with
      | .number n => .ok (some (.count n))
      | _ => .ok (some .one)

/-- Build a read of a range of rows. -/
def ofScan (table start stop family qualifiers : Value) (filter : Option Filter) (limit : Value) :
    Except Error Request := do
  let table ← bytesOf "table" table
  requireNonempty .scan "table" table
  let range ← rangeOf start stop
  let limit ← limitOf limit
  return .scan table range (← columnsOf .scan family qualifiers) filter limit

/-- Build the replacement that writes the value of a cell at the coordinate of that cell, in another
table. -/
def putCell (table : Value) (row family qualifier value : Value) : Except Error Request := do
  let table ← bytesOf "table" table
  ofPut (.raw table) row family qualifier value

/-- Build the extension that appends the value of a cell at the coordinate of that cell, in another
table. -/
def appendCell (table : Value) (row family qualifier value : Value) : Except Error Request := do
  let table ← bytesOf "table" table
  ofAppend (.raw table) row family qualifier value

end WideColumn.Request
