import WideColumn.Text.Printable

/-!
# Quoted forms

Messages show byte strings and texts between quotes. The single quote is the delimiter unless the
content has a single quote and no double quote. The delimiter and the backslash are escaped by a
backslash, tab, newline and carriage return by their letters, and what is not printable by the
shortest of the hexadecimal escapes that holds it.
-/
namespace WideColumn

/-- The delimiter for a content that has the given kinds of quotes. -/
def quoteMark (hasSingle hasDouble : Bool) : Char :=
  if hasSingle && !hasDouble then '"' else '\''

namespace CodePoint

/-- The backslash escape of a code point that is not shown as itself. -/
def escape (c : CodePoint) : Text :=
  if c.val < 0x100 then ("\\x" : Text) ++ Text.hex 2 c.val
  else if c.val < 0x10000 then ("\\u" : Text) ++ Text.hex 4 c.val
  else ("\\U" : Text) ++ Text.hex 8 c.val

/-- The form of a code point between quotes, given which code points show as themselves. -/
def quoteWith (mark : Char) (shown : CodePoint → Bool) (c : CodePoint) : Text :=
  if c = ofChar mark ∨ c = ofChar '\\' then [ofChar '\\', c]
  else if c = ofChar '\t' then "\\t"
  else if c = ofChar '\n' then "\\n"
  else if c = ofChar '\r' then "\\r"
  else if shown c then [c]
  else c.escape

end CodePoint

/-- The quoted form of a text. -/
def Text.quoted (text : Text) : Text :=
  let mark := quoteMark (text.holds '\'') (text.holds '"')
  CodePoint.ofChar mark :: text.flatMap (CodePoint.quoteWith mark CodePoint.isPrintable) ++
    [CodePoint.ofChar mark]

/-- The quoted form of a byte string: a leading `b`, then the bytes with only printable ASCII shown
as itself. -/
def Bytes.quoted (data : Bytes) : Text :=
  let content := Text.ofBytes data
  let mark := quoteMark (content.holds '\'') (content.holds '"')
  let shown (c : CodePoint) : Bool := 0x20 ≤ c.val && c.val < 0x7F
  CodePoint.ofChar 'b' :: CodePoint.ofChar mark ::
    content.flatMap (CodePoint.quoteWith mark shown) ++ [CodePoint.ofChar mark]

end WideColumn
