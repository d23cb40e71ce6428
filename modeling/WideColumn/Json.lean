import WideColumn.Value.Basic

/-!
# JSON

Logs in object form and records that leave the library are JSON texts. Integers keep all their
digits and doubles are written in the shortest way that reads back the same; what is not printable
ASCII is escaped, so that a text never breaks a line. Infinities and no number have the customary
names, which are not part of the standard.
-/
namespace WideColumn

/-- A JSON value. -/
inductive Json where
  /-- Nothing. -/
  | null
  /-- A truth value. -/
  | bool (value : Bool)
  /-- A number. -/
  | number (value : Number)
  /-- A text. -/
  | text (value : Text)
  /-- An array. -/
  | array (items : List Json)
  /-- An object, with its entries in order. -/
  | object (entries : List (Text × Json))

namespace Json

instance : Inhabited Json := ⟨null⟩

/-- The escape of a unit of sixteen bits. -/
def unitEscape (unit : Nat) : Text := "\\u" ++ Text.hex 4 unit

/-- The form of a code point inside a text. -/
def escape (c : CodePoint) : Text :=
  if c = CodePoint.ofChar '"' ∨ c = CodePoint.ofChar '\\' then [CodePoint.ofChar '\\', c]
  else if 0x20 ≤ c.val ∧ c.val < 0x7F then [c]
  else if c = CodePoint.ofChar '\n' then "\\n"
  else if c = CodePoint.ofChar '\r' then "\\r"
  else if c = CodePoint.ofChar '\t' then "\\t"
  else if c = CodePoint.ofChar '\x08' then "\\b"
  else if c = CodePoint.ofChar '\x0c' then "\\f"
  else if c.val < 0x10000 then unitEscape c.val
  else
    let rest := c.val - 0x10000
    unitEscape (0xD800 + rest / 1024) ++ unitEscape (0xDC00 + rest % 1024)

/-- A text between quotes. -/
def quote (text : Text) : Text := "\"" ++ text.flatMap escape ++ "\""

/-- The form of a number. -/
def renderNumber : Number → Text
  | .int n => Text.ofInt n
  | .float x =>
    match Binary64.ofFloat x with
    | .nan => "NaN"
    | .infinite negative => if negative then "-Infinity" else "Infinity"
    | .finite .. => (Number.float x).render

mutual

/-- The text of a value, on one line. -/
def render : Json → Text
  | null => "null"
  | bool b => if b then "true" else "false"
  | number n => renderNumber n
  | text content => quote content
  | array items => "[" ++ Text.intercalate ", " (renderAll items) ++ "]"
  | object entries => "\x7b" ++ Text.intercalate ", " (renderEntries entries) ++ "\x7d"

/-- The texts of values. -/
def renderAll : List Json → List Text
  | [] => []
  | item :: rest => item.render :: renderAll rest

/-- The texts of entries. -/
def renderEntries : List (Text × Json) → List Text
  | [] => []
  | (name, value) :: rest => (quote name ++ ": " ++ value.render) :: renderEntries rest

end

/-- Put an entry in its place among entries that are in order of their names. -/
def insertByName (entry : Text × Json) : List (Text × Json) → List (Text × Json)
  | [] => [entry]
  | next :: rest =>
    if compareOfLessAndEq (entry.1.map (·.val)) (next.1.map (·.val)) = .gt then
      next :: insertByName entry rest
    else entry :: next :: rest

mutual

/-- The same value with the entries of every object in order of their names. -/
def sorted : Json → Json
  | array items => array (sortedAll items)
  | object entries => object (sortedEntries entries)
  | other => other

/-- The same values with entries in order. -/
def sortedAll : List Json → List Json
  | [] => []
  | item :: rest => item.sorted :: sortedAll rest

/-- Entries in order of their names. -/
def sortedEntries : List (Text × Json) → List (Text × Json)
  | [] => []
  | (name, value) :: rest => insertByName (name, value.sorted) (sortedEntries rest)

end

mutual

/-- A value as it stands in an object: byte strings are quoted, and a tuple is a list. -/
def ofValue : Value → Json
  | .none => null
  | .bool b => bool b
  | .number n => number n
  | .text content => text content
  | .bytes form data => text (Value.bytes form data).quoted
  | .list items | .tuple items => array (ofValues items)
  | .mapping entries => object (ofEntries entries)

/-- Values as they stand in an object. -/
def ofValues : List Value → List Json
  | [] => []
  | item :: rest => ofValue item :: ofValues rest

/-- Entries as they stand in an object. -/
def ofEntries : List (Text × Value) → List (Text × Json)
  | [] => []
  | (name, value) :: rest => (name, ofValue value) :: ofEntries rest

end

end Json
end WideColumn
