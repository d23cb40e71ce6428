import WideColumn.Bytes

/-!
# Text

A text is a list of code points. Every value below `0x110000` is allowed, lone surrogates
included: a caller may hand over such a text, and the charsets refuse it only when it is
encoded. A plain string coerces to the text of its characters.
-/
namespace WideColumn

/-- A Unicode code point, surrogates included. -/
structure CodePoint where
  /-- The number of the code point. -/
  val : Nat
  /-- The code space ends below `0x110000`. -/
  isLt : val < 0x110000
deriving DecidableEq

namespace CodePoint

/-- Every character is a code point. -/
def ofChar (c : Char) : CodePoint :=
  ⟨c.toNat, by
    have h := c.valid
    simp only [UInt32.isValidChar, Nat.isValidChar] at h
    simp only [Char.toNat]
    omega⟩

/-- The code point of a number, or U+FFFD for a number outside the code space. -/
def ofNat (n : Nat) : CodePoint :=
  if h : n < 0x110000 then ⟨n, h⟩ else ⟨0xFFFD, by decide⟩

/-- The code point whose number is a byte. -/
def ofByte (byte : UInt8) : CodePoint :=
  ⟨byte.toNat, Nat.lt_trans byte.toNat_lt (by decide)⟩

/-- Surrogates are reserved for pairs of UTF-16 units and stand for no character. -/
def isSurrogate (c : CodePoint) : Bool := 0xD800 ≤ c.val && c.val < 0xE000

/-- A code point is ASCII when it is below 128. -/
def isAscii (c : CodePoint) : Bool := c.val < 128

instance : Inhabited CodePoint := ⟨⟨0, by decide⟩⟩

/-- Numbers of code points order them. -/
instance : Ord CodePoint := ⟨fun a b => compare a.val b.val⟩

end CodePoint

/-- A sequence of code points. -/
abbrev Text := List CodePoint

namespace Text

/-- The text of a string. -/
def ofString (s : String) : Text := s.toList.map CodePoint.ofChar

instance : Coe String Text := ⟨ofString⟩

/-- The string with the same characters, when no surrogate stands in the way. -/
def toString? (text : Text) : Option String :=
  if text.any CodePoint.isSurrogate then none
  else some (String.ofList (text.map fun c => Char.ofNat c.val))

/-- The text whose code points are the given bytes. -/
def ofBytes (data : Bytes) : Text := data.map CodePoint.ofByte

/-- Write texts one after another with a separator between neighbours. -/
def intercalate (separator : Text) : List Text → Text
  | [] => []
  | [text] => text
  | text :: rest => text ++ separator ++ intercalate separator rest

/-- Extend a text with blanks on the right to at least `width` code points. -/
def padRight (width : Nat) (text : Text) : Text :=
  text ++ List.replicate (width - text.length) (CodePoint.ofChar ' ')

/-- The least `width` lower-case hexadecimal digits of a number. -/
def hex (width : Nat) (n : Nat) : Text :=
  match width with
  | 0 => []
  | width + 1 =>
    hex width (n / 16) ++ ofString (String.singleton (Nat.digitChar (n % 16)))

/-- The decimal digits of a natural number. -/
def ofNat (n : Nat) : Text := (Nat.toDigits 10 n).map CodePoint.ofChar

/-- The decimal form of an integer. -/
def ofInt : Int → Text
  | .ofNat n => ofNat n
  | .negSucc n => CodePoint.ofChar '-' :: ofNat (n + 1)

/-- Whether a text holds one particular character. -/
def holds (text : Text) (c : Char) : Bool := text.any (· == CodePoint.ofChar c)

end Text
end WideColumn
