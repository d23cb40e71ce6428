import WideColumn.Pattern.Engine
import WideColumn.Text.Lower
import WideColumn.Value.Conversion

/-!
# Store comparators

A comparator orders data relative to its reference bytes. Substring and regular-expression
comparators only tell matching data, which compares as equal, from other data, which compares as
greater. A regular expression is given as text and kept as its UTF-8 bytes; matching itself never
decodes anything.
-/
namespace WideColumn.Store

/-- What is kept of the last compilation of a regular expression. -/
inductive PatternCache where
  /-- Nothing was compiled yet. -/
  | empty
  /-- The last pattern that compiled. -/
  | compiled (pattern : Pattern.Compiled)
  /-- Bytes that were written over the cache. -/
  | overwritten (data : Bytes)

/-- A comparator of the store. -/
inductive Comparator where
  /-- Lexicographic order of the whole data. -/
  | binary (value : Bytes)
  /-- Lexicographic order of the data cut to the length of the reference. -/
  | binaryPrefix (value : Bytes)
  /-- Whether the reference occurs in the data, ASCII letters regardless of case. -/
  | substring (value : Bytes)
  /-- Whether the reference, as a regular expression, matches somewhere in the data. The charset is
  on record only. -/
  | regex (value : Bytes) (charset : Value) (cache : PatternCache)

namespace Comparator

/-- The reference bytes. -/
def value : Comparator → Bytes
  | binary value | binaryPrefix value | substring value | regex value _ _ => value

/-- The class name of a comparator. -/
def className : Comparator → String
  | binary _ => "BinaryComparator"
  | binaryPrefix _ => "BinaryPrefixComparator"
  | substring _ => "SubstringComparator"
  | regex .. => "RegexStringComparator"

/-- The quoted form of a comparator. -/
def quoted (comparator : Comparator) : Text :=
  comparator.className ++ "(" ++ comparator.value.quoted ++ ")"

/-- Equal for matching data and greater for other data. -/
def ofMatch (found : Bool) : Ordering := if found then .eq else .gt

/-- Order data relative to the reference. -/
def compareTo [Pattern.Engine] (comparator : Comparator) (data : Bytes) : Except Error Ordering :=
  match comparator with
  | binary value => .ok (compare data value)
  | binaryPrefix value => .ok (compare (data.take value.length) value)
  | substring value => .ok (ofMatch (Bytes.contains value data.lower))
  | regex value _ _ => (Pattern.Engine.search value data).map ofMatch

/-- Bring the cache up to date with the reference: a compiled pattern of other bytes is compiled
anew, and a failing compilation leaves the cache as it was. -/
def refresh (value : Bytes) (cache : PatternCache) : Except Error Pattern.Compiled :=
  let fresh : Except Error Pattern.Compiled :=
    match Pattern.compile value with
    | .ok compiled => .ok compiled
    | .error fault => .error (.pattern fault)
  match cache with
  | .empty => fresh
  | .compiled pattern => if pattern.source = value then .ok pattern else fresh
  | .overwritten _ => .error (.misuse (.noAttribute "bytes" "pattern"))

/-- Order data relative to the reference by way of the cache: the comparator afterwards and the
result. -/
def compareCached (comparator : Comparator) (data : Bytes) : Comparator × Except Error Ordering :=
  match comparator with
  | regex value charset cache =>
    match refresh value cache with
    | .ok pattern =>
      (regex value charset (.compiled pattern), .ok (ofMatch (pattern.search data)))
    | .error error => (comparator, .error error)
  | other => (other, other.compareTo data)

/-- Put a charset on record. Only regular expressions have one. -/
def setCharset (charset : Value) : Comparator → Comparator
  | regex value _ cache => regex value charset cache
  | other => other

/-- Encode a text in UTF-8. -/
def encodeText (text : Text) : Except Error Bytes :=
  match Charset.utf8Writer.encode .strict text with
  | .ok data => .ok data
  | .error fault => .error (.conversion fault)

/-- Bytes out of a value. -/
def bytesOf (value : Value) : Except Error Bytes :=
  match value.toBytes with
  | .ok data => .ok data
  | .error fault => .error (.misuse fault)

/-- A comparator of whole values. -/
def ofBinary (value : Value) : Except Error Comparator := (bytesOf value).map binary

/-- A comparator of prefixes. -/
def ofPrefix (value : Value) : Except Error Comparator := (bytesOf value).map binaryPrefix

/-- A substring comparator: the text is lower-cased before it is encoded. -/
def ofSubstring (value : Value) : Except Error Comparator :=
  match value with
  | .text text => (encodeText text.lower).map substring
  | .bytes .fixed _ | .bytes .buffer _ =>
    .error (.misuse (.noAttribute value.typeName "encode"))
  | other => .error (.misuse (.noAttribute other.typeName "lower"))

/-- A regular-expression comparator, with UTF-8 on record. -/
def ofRegex (value : Value) : Except Error Comparator :=
  match value with
  | .text text => (encodeText text).map fun data => regex data (.string "utf-8") .empty
  | other => .error (.misuse (.noAttribute other.typeName "encode"))

end Comparator
end WideColumn.Store
