import WideColumn.Value.Basic

/-!
# Misused values

What goes wrong when a value of the wrong kind or size reaches an operation that does not check its
arguments first. Each cause has one message.
-/
namespace WideColumn

/-- Why an operation cannot use a value. -/
inductive Misuse where
  /-- A text where bytes are built and no charset is given. -/
  | textWithoutCharset
  /-- A value that holds no bytes. -/
  | notBytes (type : String)
  /-- A value that is no integer where one is needed. -/
  | notInteger (type : String)
  /-- A negative length. -/
  | negativeCount
  /-- A length beyond every index. -/
  | hugeCount
  /-- A byte outside `0..255`. -/
  | byteRange
  /-- Two values without an order, and the comparison that was tried. -/
  | notOrdered (comparison left right : String)
  /-- A value that is no sequence. -/
  | notIterable (type : String)
  /-- A value that lacks an attribute. -/
  | noAttribute (type name : String)
  /-- A prefix test against something other than bytes. -/
  | notPrefix (type : String)
  /-- A charset name that is no text. -/
  | charsetNotText (type : String)
  /-- A value that cannot be the key of a cache. -/
  | unhashable (type : String)
  /-- A NUL in a charset name. -/
  | embeddedNul
  /-- A whole number with more digits than are written out. -/
  | longNumber

namespace Misuse

/-- The class of a misuse: a wrong kind, a wrong value, a missing attribute or an overflow. -/
inductive Family where
  /-- A value of the wrong kind. -/
  | type
  /-- A value of the right kind that is out of bounds. -/
  | value
  /-- A missing attribute. -/
  | attribute
  /-- A number too large. -/
  | overflow
deriving DecidableEq

/-- The class of each cause. -/
def family : Misuse → Family
  | negativeCount | byteRange | embeddedNul | longNumber => .value
  | noAttribute .. => .attribute
  | hugeCount => .overflow
  | _ => .type

/-- The name of an absent value is short in one message only. -/
private def shortName (type : String) : String := if type = "NoneType" then "None" else type

/-- The message of each cause. -/
def message : Misuse → Text
  | textWithoutCharset => "string argument without an encoding"
  | notBytes type => "cannot convert '" ++ type ++ "' object to bytes"
  | notInteger type => "'" ++ type ++ "' object cannot be interpreted as an integer"
  | negativeCount => "negative count"
  | hugeCount => "cannot fit 'int' into an index-sized integer"
  | byteRange => "bytes must be in range(0, 256)"
  | notOrdered comparison left right =>
    "'" ++ comparison ++ "' not supported between instances of '" ++ left ++ "' and '" ++ right ++
      "'"
  | notIterable type => "'" ++ type ++ "' object is not iterable"
  | noAttribute type name => "'" ++ type ++ "' object has no attribute '" ++ name ++ "'"
  | notPrefix type =>
    "startswith first arg must be bytes or a tuple of bytes, not " ++ type
  | charsetNotText type => "lookup() argument must be str, not " ++ shortName type
  | unhashable type => "unhashable type: '" ++ type ++ "'"
  | embeddedNul => "embedded null character"
  | longNumber =>
    "Exceeds the limit (" ++ Text.ofNat Value.digitLimit ++
      " digits) for integer string conversion; use sys.set_int_max_str_digits() to increase " ++
      "the limit"

end Misuse
end WideColumn
