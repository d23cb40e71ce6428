import WideColumn.Json
import WideColumn.Log.Config
import WideColumn.Log.Format

/-!
# How events are printed

An event is printed with the fields of its surroundings, its logger, its level and the time. Byte
strings among the fields become text first: ASCII stands as it is and every other byte is escaped. A
line is either text, with the fields in order of their names, or one object.

Lines are the work of a logging library. What is here does for events without an attached error and
without fields that the library has a use for itself; nothing is proved from it.
-/
namespace WideColumn.Log

/-- A byte string as text: ASCII as it is, every other byte escaped. -/
def escapedBytes (data : Bytes) : Text :=
  data.flatMap fun byte =>
    if byte < 0x80 then [CodePoint.ofByte byte] else "\\x" ++ Text.hex 2 byte.toNat

/-- A field with a byte string becomes one with a text; a view of a buffer is left alone. -/
def renderedField : Value → Value
  | .bytes .fixed data | .bytes .buffer data => .text (escapedBytes data)
  | other => other

/-- The same fields with byte strings as text. -/
def renderBytes (fields : List (Text × Value)) : List (Text × Value) :=
  fields.map fun (name, value) => (name, renderedField value)

/-- Fields over others: a name that both have keeps its place and takes the later value. -/
def withFields (fields : List (Text × Value)) (more : List (Text × Value)) : List (Text × Value) :=
  more.foldl (fun fields (name, value) => put name value fields) fields
where
  /-- Give a name a value. -/
  put (name : Text) (value : Value) : List (Text × Value) → List (Text × Value)
    | [] => [(name, value)]
    | (known, old) :: rest =>
      if known = name then (known, value) :: rest else (known, old) :: put name value rest

/-- Characters that a text must not hold to be printed as it is. -/
def needsQuotes (c : CodePoint) : Bool := " \t=\r\n\"'".toList.any fun d => CodePoint.ofChar d == c

/-- The form of a field's value in a line of text. -/
def fieldText : Value → Text
  | .text text => if text.any needsQuotes then text.quoted else text
  | other => other.quoted

/-- A printed line. -/
inductive Line where
  /-- A line of text. -/
  | text (content : Text)
  /-- A line with one object. -/
  | object (content : Json)

/-- The text of a line. -/
def Line.render : Line → Text
  | text content => content
  | object content => content.render

/-- Names that a printed event gives to parts of its own. -/
def ownNames : List String := ["event", "level", "logger", "timestamp"]

/-- Whether a name comes before another or is the same. -/
def namesInOrder (a b : Text × Value) : Bool :=
  compareOfLessAndEq (a.1.map (·.val)) (b.1.map (·.val)) != .gt

/-- The parts that every printed event has. -/
def ownFields (stamp : Text) (event : Event) : List (Text × Value) :=
  [("event", .text event.message), ("level", .string event.level.name),
    ("logger", .string event.source), ("timestamp", .text stamp)]

/-- The line of an event, without the error that may be attached to it: the logging library prints
that as well, over several lines or as a further part of the object. -/
def line (isJson : Bool) (stamp : Text) (event : Event) : Line :=
  let taken := ownNames.map Text.ofString
  let fields := (renderBytes event.fields).filter fun (name, _) => !taken.contains name
  if isJson then .object (.ofValue (.mapping (ownFields stamp event ++ fields)))
  else
    let shown : Text := (fields.mergeSort namesInOrder).flatMap fun (name, value) =>
      (" " : Text) ++ name ++ "=" ++ fieldText value
    let source := Text.ofString event.source
    .text (stamp ++ " [" ++ Text.padRight 9 event.level.name ++ "] " ++
      Text.padRight 30 event.message ++ " [" ++ source ++ "]" ++ shown)

/-- The line of an event, if events of its level are printed. -/
def Config.line? (config : Config) (stamp : Text) (event : Event) : Option Line :=
  if config.prints event.level then some (line config.isJson stamp event) else none

/-- An event as it is sent: its message may hold places for arguments, and surroundings add fields.
-/
structure Dispatch where
  /-- The event. -/
  event : Event
  /-- The arguments of its message. -/
  arguments : List Value
  /-- Whether it comes from outside the library, where a broken message costs the line only. -/
  isForeign : Bool

/-- Print what is sent in surroundings with fields of their own. -/
def Config.print (config : Config) (stamp : Text) (surroundings : List (Text × Value))
    (sent : Dispatch) : Except Error (Option Line) :=
  match fill sent.event.message sent.arguments with
  | .error error => if sent.isForeign then .ok none else .error error
  | .ok message =>
    let fields := withFields surroundings sent.event.fields
    .ok (config.line? stamp { sent.event with message, fields })

end WideColumn.Log
