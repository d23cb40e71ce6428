import WideColumn.Charset.Name
import WideColumn.Error
import WideColumn.Value.Conversion

/-!
# Looking up charsets

Callers name a charset by a value, which should be a text. Unknown names and transformations that
are no conversion are unsupported encodings; a value of another kind is misused.
-/
namespace WideColumn.Charset

/-- The first part of a value that cannot be a key, by its kind. -/
def unhashable? : Value → Option String
  | .list _ => some "list"
  | .mapping _ => some "dict"
  | .bytes .buffer _ => some "bytearray"
  | .tuple items => items.findSome? fun
    | .list _ => some "list"
    | .mapping _ => some "dict"
    | .bytes .buffer _ => some "bytearray"
    | _ => none
  | _ => none

/-- The charset that a value names. -/
def lookup (encoding : Value) : Except Error Charset :=
  match unhashable? encoding, encoding with
  | some type, _ => .error (.misuse (.unhashable type))
  | none, .text name =>
    match ofName name with
    | .ok charset => .ok charset
    | .error (.unencodable fault) => .error (.conversion fault)
    | .error .embeddedNul => .error (.misuse .embeddedNul)
    | .error .unknown => .error (.unsupportedEncoding encoding none true)
    | .error .notText =>
      .error (.unsupportedEncoding encoding (some "not a text encoding") true)
    | .error (.refused fault) => .error (.codecFailure fault)
  | none, other => .error (.misuse (.charsetNotText other.typeName))

/-- A failed conversion as an error; a failure inside a codec keeps its own cause. -/
def Fault.toError (fault : Fault) : Error :=
  match fault with
  | .within .. => .codecFailure fault
  | other => .conversion other

/-- Write a text in the charset that a value names. -/
def encodeAs [Externals] (encoding : Value) (handler : Handler) (text : Text) :
    Except Error Bytes := do
  let charset ← lookup encoding
  match charset.encode handler text with
  | .ok data => return data
  | .error fault => throw fault.toError

/-- Read bytes in the charset that a value names. -/
def decodeAs [Externals] (encoding : Value) (handler : Handler) (data : Value) :
    Except Error Text := do
  let charset ← lookup encoding
  match data.toBytes with
  | .error fault => throw (.misuse fault)
  | .ok data =>
    match charset.decode handler data with
    | .ok text => return text
    | .error fault => throw fault.toError

end WideColumn.Charset
