/-!
# Byte strings

Row keys, names and values are lists of bytes, ordered lexicographically by `compare`. This module
holds the small searches on them that comparators and filters need. Each is written by recursion
on the bytes, so its laws go by induction on the data.
-/
namespace WideColumn

/-- A byte string: the type of every table name, row key, family, qualifier and value. -/
abbrev Bytes := List UInt8

namespace Bytes

/-- Whether `needle` occurs somewhere in `data`. The empty string occurs everywhere. -/
def contains (needle : Bytes) : Bytes → Bool
  | [] => needle.isEmpty
  | byte :: rest => needle.isPrefixOf (byte :: rest) || contains needle rest

/-- The lower-case form of an ASCII capital; any other byte stands for itself. -/
def lowerByte (byte : UInt8) : UInt8 :=
  if 65 ≤ byte ∧ byte ≤ 90 then byte + 32 else byte

/-- Lower-case the ASCII capitals and leave every other byte alone. -/
def lower (data : Bytes) : Bytes := data.map lowerByte

/-- Lower-casing never changes the length. -/
@[simp] theorem length_lower (data : Bytes) : data.lower.length = data.length := by
  simp [lower]

/-- Lower-casing distributes over concatenation, since it acts byte by byte. -/
@[simp] theorem lower_append (left right : Bytes) :
    lower (left ++ right) = lower left ++ lower right := by
  simp [lower]

end Bytes
end WideColumn
