import WideColumn.Text.Basic

/-!
# Byte tables

A single-byte charset gives each of the 256 bytes at most one character. Reading a byte is a
look-up; writing a code point takes the last byte that stands for it.
-/
namespace WideColumn.Charset

/-- What each byte stands for, in the order of the bytes. -/
structure Table where
  /-- The character of each byte, `none` for a byte without one. -/
  characters : List (Option Char)

namespace Table

/-- The entry of a character of a table's text; U+FFFE marks a byte without one. -/
def entry (c : Char) : Option Char := if c.toNat = 0xFFFE then none else some c

/-- A table from the characters of all bytes. -/
def ofString (characters : String) : Table := ⟨characters.toList.map entry⟩

/-- A table that agrees with ASCII below 128, from the characters of the upper half. -/
def ofUpperHalf (characters : String) : Table :=
  ⟨(List.range 128).map (fun n => some (Char.ofNat n)) ++ characters.toList.map entry⟩

/-- The code point that a byte stands for. -/
def read (table : Table) (byte : UInt8) : Option CodePoint :=
  (table.characters[byte.toNat]?).join.map CodePoint.ofChar

/-- The position of a code point in a list of entries, counted from `index`; the last one wins. -/
def lastIndex (c : CodePoint) (index : Nat) : List (Option Char) → Option Nat
  | [] => none
  | entry :: rest =>
    match lastIndex c (index + 1) rest with
    | some found => some found
    | none => if entry.map CodePoint.ofChar = some c then some index else none

/-- The byte that a code point is written as. -/
def write (table : Table) (c : CodePoint) : Option UInt8 :=
  (lastIndex c 0 table.characters).map UInt8.ofNat

end Table
end WideColumn.Charset
