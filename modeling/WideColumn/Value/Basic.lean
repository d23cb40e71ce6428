import WideColumn.Number.Basic
import WideColumn.Text.Quoted

/-!
# Caller values

Callers hand over values whose kind is only checked when a request, a filter or a setting is built
from them. A byte string can come as fixed bytes, as a mutable buffer or as a view; a sequence as a
list or a tuple. Messages name the kind of a value and show values in quoted form.
-/
namespace WideColumn

/-- How a byte string was handed over. A value has the bytes that stood there when it was used, so
buffers do not change under a call and views are live: a view that was released, which has no bytes
any more, is not among the values. -/
inductive ByteForm where
  /-- Fixed bytes. -/
  | fixed
  /-- A mutable buffer. -/
  | buffer
  /-- A view of a buffer that has not been released. -/
  | view
deriving DecidableEq, Inhabited

/-- The name of a form in messages. -/
def ByteForm.name : ByteForm → String
  | .fixed => "bytes"
  | .buffer => "bytearray"
  | .view => "memoryview"

/-- A value as a caller hands it over. -/
inductive Value where
  /-- The absent value. -/
  | none
  /-- A truth value, which counts as one or zero where a number is expected. -/
  | bool (value : Bool)
  /-- A number. -/
  | number (value : Number)
  /-- A text. -/
  | text (value : Text)
  /-- A byte string in one of its forms. -/
  | bytes (form : ByteForm) (data : Bytes)
  /-- A list. -/
  | list (items : List Value)
  /-- A tuple. -/
  | tuple (items : List Value)
  /-- A mapping with text keys, in insertion order. -/
  | mapping (entries : List (Text × Value))

namespace Value

instance : Inhabited Value := ⟨.none⟩

/-- An integer as a value. -/
abbrev int (n : Int) : Value := .number (.int n)

/-- A double as a value. -/
abbrev float (x : Float) : Value := .number (.float x)

/-- Fixed bytes as a value. -/
abbrev raw (data : Bytes) : Value := .bytes .fixed data

/-- The text of a string as a value. -/
abbrev string (s : String) : Value := .text (Text.ofString s)

/-- An optional value with `none` for absence. -/
def ofOption (wrap : α → Value) : Option α → Value
  | Option.none => .none
  | some a => wrap a

/-- The name of a value's kind in messages. -/
def typeName : Value → String
  | .none => "NoneType"
  | .bool _ => "bool"
  | .number (.int _) => "int"
  | .number (.float _) => "float"
  | .text _ => "str"
  | .bytes form _ => form.name
  | .list _ => "list"
  | .tuple _ => "tuple"
  | .mapping _ => "dict"

/-- The spelling of a truth value. -/
def boolText (b : Bool) : Text := if b then "True" else "False"

mutual

/-- The form of a value inside messages: texts and bytes are quoted. -/
def quoted : Value → Text
  | .none => "None"
  | .bool b => boolText b
  | .number n => n.render
  | .text t => t.quoted
  | .bytes .fixed data => data.quoted
  | .bytes .buffer data => "bytearray(" ++ data.quoted ++ ")"
  | .bytes .view _ => "<memory>"
  | .list items => "[" ++ Text.intercalate ", " (quotedAll items) ++ "]"
  | .tuple [item] => "(" ++ item.quoted ++ ",)"
  | .tuple items => "(" ++ Text.intercalate ", " (quotedAll items) ++ ")"
  | .mapping entries => "\x7b" ++ Text.intercalate ", " (quotedEntries entries) ++ "\x7d"

/-- The quoted forms of several values. -/
def quotedAll : List Value → List Text
  | [] => []
  | item :: rest => item.quoted :: quotedAll rest

/-- The quoted forms of the entries of a mapping. -/
def quotedEntries : List (Text × Value) → List Text
  | [] => []
  | (key, item) :: rest => (key.quoted ++ ": " ++ item.quoted) :: quotedEntries rest

end

/-- The plain form of a value: a text stands for itself, all else is quoted. -/
def display : Value → Text
  | .text t => t
  | value => value.quoted

/-- Whether a value counts as true: not absent, not zero, not empty. -/
def isTruthy : Value → Bool
  | .none => false
  | .bool b => b
  | .number n => !n.eq (.int 0)
  | .text t => !t.isEmpty
  | .bytes _ data => !data.isEmpty
  | .list items | .tuple items => !items.isEmpty
  | .mapping entries => !entries.isEmpty

/-- How many digits of a whole number are written out at most. -/
def digitLimit : Nat := 4300

/-- Whether a value is a whole number with more digits than are written out. -/
def isTooLong : Value → Bool
  | .number (.int n) => Nat.pow 10 digitLimit ≤ n.natAbs
  | _ => false

/-- The number a value counts as, truth values included. -/
def toNumber? : Value → Option Number
  | .bool b => some (.int b.toNat)
  | .number n => some n
  | _ => Option.none

end Value
end WideColumn
