import WideColumn.Bytes

/-!
# Cells

A cell is one stored value with its coordinates: row key, family and qualifier. Within a row, cells
are ordered by family, then by qualifier, both by bytes.
-/
namespace WideColumn

/-- The place of a cell within its row. -/
structure Coordinate where
  /-- The column family. -/
  family : Bytes
  /-- The column qualifier. -/
  qualifier : Bytes
deriving DecidableEq, Inhabited

namespace Coordinate

/-- Families decide first, then qualifiers. -/
instance : Ord Coordinate :=
  ⟨compareLex (compareOn Coordinate.family) (compareOn Coordinate.qualifier)⟩

instance : Std.TransOrd Coordinate :=
  inferInstanceAs
    (Std.TransCmp (compareLex (compareOn Coordinate.family) (compareOn Coordinate.qualifier)))

instance : Std.LawfulEqOrd Coordinate where
  eq_of_compare {a b} h := by
    obtain ⟨families, qualifiers⟩ := Ordering.then_eq_eq.1 h
    cases a
    cases b
    cases Std.LawfulEqOrd.eq_of_compare families
    cases Std.LawfulEqOrd.eq_of_compare qualifiers
    rfl

end Coordinate

/-- One cell of a row. -/
structure Cell where
  /-- The row key. -/
  row : Bytes
  /-- The column family. -/
  family : Bytes
  /-- The column qualifier. -/
  qualifier : Bytes
  /-- The value. -/
  value : Bytes
  /-- The place of the last write in the order of all writes of the store. -/
  timestamp : Nat
deriving DecidableEq, Inhabited

/-- The coordinate of a cell. -/
def Cell.coordinate (cell : Cell) : Coordinate := ⟨cell.family, cell.qualifier⟩

end WideColumn
