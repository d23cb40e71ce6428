import WideColumn.Charset.Lookup
import WideColumn.Filter.Patch
import WideColumn.Store.Filter

/-!
# Filters

What a caller attaches to a read. Filters are built from caller values, never change, and know
nothing of a particular store. A pattern has two forms, fixed once: its raw bytes, which decide what
matches, and a text that only feeds the store's text constructor.
-/
namespace WideColumn

/-- The raw bytes of a pattern, its text and the canonical name of the charset that relates them. -/
structure PatternForms where
  /-- The bytes that decide what matches. -/
  raw : Bytes
  /-- The text, with replacement characters for bytes that do not decode. -/
  text : Text
  /-- The canonical charset name. -/
  charset : String
deriving DecidableEq

/-- The forms of a pattern given as text or bytes, by a conversion. -/
def PatternForms.ofPattern (conversion : Charset.Conversion) (pattern : Value) :
    Except Error PatternForms :=
  match pattern with
  | .text [] => throw (.filter .emptyPattern)
  | .text text =>
    match conversion.write text with
    | .ok raw => return ⟨raw, text, conversion.name⟩
    | .error (.encode codec whole start stop reason) =>
      throw (.filter (.notRepresentable text conversion.name
        (.encode codec whole start stop reason)))
    | .error fault => throw fault.toError
  | .bytes .fixed [] | .bytes .buffer [] => throw (.filter .emptyPattern)
  | .bytes .fixed raw | .bytes .buffer raw =>
    match conversion.read raw with
    | .ok text => return ⟨raw, text, conversion.name⟩
    | .error fault => throw fault.toError
  | other => throw (.filter (.patternType other.typeName))

/-- The forms of a pattern in the charset that a value names. -/
def PatternForms.ofValue [Charset.Externals] (pattern charset : Value) :
    Except Error PatternForms := do
  ofPattern (← Charset.lookup charset).conversion pattern

/-- The default charset, which maps each byte to the code point of its number. -/
def defaultCharset : Value := .string "iso-8859-1"

/-- A reference and the rule of comparing with it. -/
inductive Comparator where
  /-- Lexicographic order. -/
  | binary (value : Bytes)
  /-- Lexicographic order of prefixes. -/
  | binaryPrefix (value : Bytes)
  /-- Containment regardless of case. The value is checked when the filter is converted. -/
  | substring (value : Value)
  /-- A match of a regular expression over raw bytes. -/
  | regex (forms : PatternForms)

namespace Comparator

/-- The class name of a comparator. -/
def className : Comparator → String
  | binary _ => "BinaryComparator"
  | binaryPrefix _ => "BinaryPrefixComparator"
  | substring _ => "SubstringComparator"
  | regex _ => "RegexStringComparator"

/-- The text of a comparator. -/
def display : Comparator → Text
  | binary value => "BinaryComparator(" ++ value.quoted ++ ")"
  | binaryPrefix value => "BinaryPrefixComparator(" ++ value.quoted ++ ")"
  | substring value => "SubstringComparator(" ++ value.quoted ++ ")"
  | regex forms => "RegexStringComparator(" ++ forms.raw.quoted ++ ", " ++ forms.charset ++ ")"

/-- A comparator of whole values. -/
def ofBinary (value : Value) : Except Error Comparator :=
  (Store.Comparator.bytesOf value).map binary

/-- A comparator of prefixes. -/
def ofPrefix (value : Value) : Except Error Comparator :=
  (Store.Comparator.bytesOf value).map binaryPrefix

/-- A regular-expression comparator. -/
def ofRegex [Charset.Externals] (pattern charset : Value) : Except Error Comparator :=
  (PatternForms.ofValue pattern charset).map regex

end Comparator

/-- A filter as a caller builds it. -/
inductive Filter where
  /-- Compare one part of each cell. -/
  | compare (component : Store.Component) (op : CompareOp) (comparator : Comparator)
  /-- Keep columns whose qualifier has a prefix. -/
  | columnPrefix (reference : Bytes)
  /-- Keep columns whose qualifier lies between two bounds, an absent bound being open. -/
  | columnRange (start : Value) (startInclusive : Bool) (stop : Value) (stopInclusive : Bool)
  /-- Keep coordinates without values. -/
  | keyOnly
  /-- Keep the first cell of each row. -/
  | firstKeyOnly
  /-- Combine filters. -/
  | list (operator : ListOperator) (members : List Filter)
  /-- Keep rows whose key matches a regular expression over raw bytes. -/
  | keyRegexp (forms : PatternForms)
  /-- A filter of the caller's own that fails to convert. -/
  | inconvertible (kindName : String) (text : Text) (failure : Error)

namespace Filter

/-- The class name of a filter. -/
def className : Filter → String
  | compare component .. => component.filterName
  | columnPrefix _ => "ColumnPrefixFilter"
  | columnRange .. => "ColumnRangeFilter"
  | keyOnly => "KeyOnlyFilter"
  | firstKeyOnly => "FirstKeyOnlyFilter"
  | list .. => "FilterList"
  | keyRegexp _ => "KeyRegexpFilter"
  | inconvertible _ text _ => (text.toString?).getD ""

/-- The kind name of the store filter that a filter is converted to. -/
def kindName : Filter → String
  | keyRegexp _ => "RowFilter"
  | inconvertible kind _ _ => kind
  | other => other.className

mutual

/-- The text of a filter. -/
def display : Filter → Text
  | compare component op comparator =>
    component.filterName ++ "(" ++ memberName op.name ++ ", " ++ comparator.display ++ ")"
  | columnPrefix reference => "ColumnPrefixFilter(" ++ reference.quoted ++ ")"
  | columnRange start startInclusive stop stopInclusive =>
    let opening := if startInclusive then "[" else "("
    let closing := if stopInclusive then "]" else ")"
    "ColumnRangeFilter(" ++ opening ++ start.quoted ++ ", " ++ stop.quoted ++ closing ++ ")"
  | keyOnly => "KeyOnlyFilter()"
  | firstKeyOnly => "FirstKeyOnlyFilter()"
  | list operator members =>
    "FilterList(" ++ memberName operator.name ++ ", [" ++
      Text.intercalate ", " (displayAll members) ++ "])"
  | keyRegexp forms =>
    "KeyRegexpFilter(\"" ++ Charset.readUtf8Leniently forms.raw ++ "\", " ++ forms.charset ++ ")"
  | inconvertible _ text _ => text

/-- The texts of several filters. -/
def displayAll : List Filter → List Text
  | [] => []
  | member :: rest => member.display :: displayAll rest

end

/-- A filter of column prefixes. -/
def ofColumnPrefix (reference : Value) : Except Error Filter :=
  if reference.isTruthy then (Store.Comparator.bytesOf reference).map columnPrefix
  else .error (.filter .emptyColumnPrefix)

/-- A filter of column ranges. -/
def ofColumnRange (start : Value) (startInclusive : Bool) (stop : Value) (stopInclusive : Bool) :
    Except Error Filter :=
  let filter := columnRange start startInclusive stop stopInclusive
  match start, stop with
  | .none, _ | _, .none => .ok filter
  | start, stop =>
    match start.greater stop with
    | .error fault => .error (.misuse fault)
    | .ok true => .error (.filter (.startAfterStop start stop))
    | .ok false => .ok filter

/-- A list of filters, which needs members. -/
def ofList (operator : ListOperator) (members : List Filter) : Except Error Filter :=
  if members.isEmpty then .error (.filter .noMembers) else .ok (list operator members)

/-- A filter of row keys by a regular expression. -/
def ofKeyRegexp [Charset.Externals] (pattern charset : Value) : Except Error Filter :=
  (PatternForms.ofValue pattern charset).map keyRegexp

/-- Whether two filters built apart are equal: only row-key expressions compare by content. -/
def equals : Filter → Filter → Bool
  | keyRegexp a, keyRegexp b => a.raw == b.raw && a.charset == b.charset
  | _, _ => false

/-- What the hash of a filter is made of: the content of a row-key expression. Other filters are
hashed by identity. -/
def hashKey? : Filter → Option (Bytes × String)
  | keyRegexp forms => some (forms.raw, forms.charset)
  | _ => none

end Filter
end WideColumn
