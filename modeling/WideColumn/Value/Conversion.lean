import WideColumn.Value.Misuse

/-!
# Bytes and sequences out of caller values

`Value.toBytes` accepts what can be read as a byte string: the byte forms themselves, a length
(that many zero bytes) and a sequence of numbers below 256. `Value.items` gives the members of a
sequence, the keys of a mapping included.
-/
namespace WideColumn.Value

/-- One byte out of a value. -/
def toByte (value : Value) : Except Misuse UInt8 :=
  match value with
  | .bool b => .ok (if b then 1 else 0)
  | .number (.int n) =>
    if 0 ≤ n ∧ n < 256 then .ok (UInt8.ofNat n.toNat) else .error .byteRange
  | other => .error (.notInteger other.typeName)

/-- As many zero bytes as a length says. -/
def zeros (n : Int) : Except Misuse Bytes :=
  if n < 0 then .error .negativeCount
  else if Int.pow 2 63 ≤ n then .error .hugeCount
  else .ok (List.replicate n.toNat 0)

/-- The byte string that a value stands for. -/
def toBytes (value : Value) : Except Misuse Bytes :=
  match value with
  | .bytes _ data => .ok data
  | .text _ => .error .textWithoutCharset
  | .bool b => zeros b.toNat
  | .number (.int n) => zeros n
  | .list items | .tuple items => items.mapM toByte
  | .mapping [] => .ok []
  | .mapping ((key, _) :: _) => (Value.text key).toByte.map fun byte => [byte]
  | other => .error (.notBytes other.typeName)

/-- The members of a sequence. -/
def items : Value → Except Misuse (List Value)
  | .list items | .tuple items => .ok items
  | .mapping entries => .ok (entries.map fun (key, _) => .text key)
  | .text t => .ok (t.map fun c => .text [c])
  | .bytes _ data => .ok (data.map fun byte => .int byte.toNat)
  | other => .error (.notIterable other.typeName)

end WideColumn.Value
