import Mathlib.Data.List.Infix
import Mathlib.Order.Compare
import WideColumn.Bytes

/-!
# Order and occurrence of byte strings

The order that byte strings are compared by is the lexicographic one, and a byte string occurs in
another exactly if it is a run of neighbours in it.
-/
namespace WideColumn.Bytes

/-! ## Order -/

/-- A byte string compares as less exactly if it comes first in lexicographic order. -/
theorem compare_eq_lt {a b : Bytes} : compare a b = .lt ↔ a < b := by
  induction a generalizing b with
  | nil =>
    cases b with
    | nil => decide
    | cons y ys => exact ⟨fun _ => List.nil_lt_cons y ys, fun _ => rfl⟩
  | cons x xs ih =>
    cases b with
    | nil => exact ⟨nofun, fun less => absurd less (List.not_lt_nil _)⟩
    | cons y ys =>
      rw [List.compare_cons_cons, Ordering.then_eq_lt, ih, List.cons_lt_cons_iff,
        Std.compare_eq_lt, Std.LawfulEqOrd.compare_eq_iff_eq]

/-- A byte string compares as greater exactly if it comes last in lexicographic order. -/
theorem compare_eq_gt {a b : Bytes} : compare a b = .gt ↔ b < a := by
  rw [Std.OrientedOrd.eq_swap, Ordering.swap_eq_gt, compare_eq_lt]

/-- A byte string that does not come after another comes before it or is the same. -/
theorem le_iff {a b : Bytes} : a ≤ b ↔ a < b ∨ a = b := by
  rw [← List.not_lt, ← compare_eq_gt, ← compare_eq_lt, ← Std.LawfulEqOrd.compare_eq_iff_eq (a := a)]
  cases compare a b <;> decide

/-! ## Beginnings -/

/-- Cutting two byte strings to one length keeps their order. -/
theorem take_le_take {a b : Bytes} (ordered : a ≤ b) (count : Nat) :
    a.take count ≤ b.take count := by
  induction count generalizing a b with
  | zero => exact List.nil_le _
  | succ count ih =>
    cases a with
    | nil => exact List.nil_le _
    | cons x xs =>
      cases b with
      | nil => exact absurd (List.nil_lt_cons x xs) ordered
      | cons y ys =>
        rw [List.take_succ_cons, List.take_succ_cons, List.cons_le_cons_iff]
        exact (List.cons_le_cons_iff.1 ordered).imp_right fun ⟨same, later⟩ => ⟨same, ih later⟩

section Cut

variable {reference data : Bytes}

/-- Cut to the length of a reference, data compares as less exactly if it comes before it uncut. -/
theorem compare_take_eq_lt :
    compare (data.take reference.length) reference = .lt ↔ data < reference := by
  rw [compare_eq_lt]
  induction reference generalizing data with
  | nil => exact ⟨nofun, fun less => absurd less (List.not_lt_nil _)⟩
  | cons y ys ih =>
    cases data with
    | nil => rfl
    | cons x xs =>
      rw [List.length_cons, List.take_succ_cons, List.cons_lt_cons_iff, List.cons_lt_cons_iff, ih]

/-- Cut to the length of a reference, data compares as equal exactly if it begins with it. -/
theorem compare_take_eq_eq :
    compare (data.take reference.length) reference = .eq ↔ reference <+: data := by
  rw [Std.LawfulEqOrd.compare_eq_iff_eq, List.prefix_iff_eq_take, eq_comm]

/-- Cut to the length of a reference, data compares as greater exactly if it comes after it without
beginning with it. -/
theorem compare_take_eq_gt :
    compare (data.take reference.length) reference = .gt ↔
      reference < data ∧ ¬ reference <+: data := by
  constructor
  · intro greater
    have not_before : reference ≤ data := fun before =>
      nomatch greater.symm.trans (compare_take_eq_lt.2 before)
    have no_prefix : ¬ reference <+: data := fun begins =>
      nomatch greater.symm.trans (compare_take_eq_eq.2 begins)
    exact ⟨(le_iff.1 not_before).resolve_right fun same => no_prefix (same ▸ List.prefix_rfl),
      no_prefix⟩
  · rintro ⟨after, no_prefix⟩
    cases compared : compare (data.take reference.length) reference with
    | lt => exact absurd (compare_take_eq_lt.1 compared) (List.lt_asymm after)
    | eq => exact absurd (compare_take_eq_eq.1 compared) no_prefix
    | gt => rfl

end Cut

/-! ## Occurrence -/

/-- A byte string occurs in another exactly if it is a run of neighbours in it. -/
theorem contains_iff {needle data : Bytes} : contains needle data = true ↔ needle <:+: data := by
  induction data with
  | nil => rw [contains, List.isEmpty_iff, List.infix_nil]
  | cons byte rest ih =>
    rw [contains, Bool.or_eq_true, List.isPrefixOf_iff_prefix, ih, List.infix_cons_iff]

end WideColumn.Bytes
