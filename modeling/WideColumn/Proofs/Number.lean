import Mathlib.Order.Compare
import WideColumn.Number.Basic

/-!
# The order of numbers

Numbers are ordered by their exact values. The double that is no number has no place in the order,
not even with itself, and any two others are ordered one way or the other. A sum is in the order
only if its first part is, so time that has left the order never comes back. Against a natural
number the least natural number that is not below decides.
-/
namespace WideColumn

open Float.Model (Format UnpackedFloat)

namespace Binary64

/-- Products of powers of two compare the other way round when they are exchanged. -/
theorem compareFinite_swap (a b : Bool) (m n : Nat) (i j : Int) :
    compareFinite b n j a m i = (compareFinite a m i b n j).swap := by
  unfold compareFinite
  rw [Int.min_comm j i]
  exact Std.OrientedOrd.eq_swap

/-- Two values compare the other way round when they are exchanged. -/
theorem compare?_swap (a b : Binary64) : compare? b a = (compare? a b).map Ordering.swap := by
  cases a with
  | nan => cases b <;> rfl
  | infinite negative =>
    cases b with
    | nan => rfl
    | infinite other => cases negative <;> cases other <;> rfl
    | finite => cases negative <;> rfl
  | finite negative significand exponent =>
    cases b with
    | nan => rfl
    | infinite other => cases other <;> rfl
    | finite other significand' exponent' => exact congrArg some (compareFinite_swap ..)

/-- Two values are ordered if each is ordered with itself. -/
theorem compare?_isSome {a b : Binary64} (left : (compare? a a).isSome)
    (right : (compare? b b).isSome) : (compare? a b).isSome := by
  cases a with
  | nan => cases left
  | infinite | finite =>
    cases b with
    | nan => cases right
    | infinite | finite => rfl

/-- A value other than no number equals itself. -/
theorem compare?_self {a : Binary64} (number : a ≠ .nan) : compare? a a = some .eq := by
  cases a with
  | nan => exact absurd rfl number
  | infinite negative => cases negative <;> rfl
  | finite negative significand exponent => exact congrArg some Std.ReflOrd.compare_self

/-- Values that compare are numbers. -/
theorem ne_nan_of_compare? {a b : Binary64} {order : Ordering}
    (found : compare? a b = some order) : a ≠ .nan ∧ b ≠ .nan := by
  constructor
  · rintro rfl
    cases found
  · rintro rfl
    cases a <;> cases found

/-- The double that is no number decodes to none. -/
theorem unpack_of_nan {x : Float} (missing : ofFloat x = .nan) :
    x.toModel.unpack = .notANumber := by
  unfold ofFloat at missing
  dsimp only at missing
  have exponent : x.toBits.toNat / Nat.pow 2 52 % Nat.pow 2 11 = 2047 := by
    by_contra other
    rw [if_neg other] at missing
    split at missing <;> cases missing
  have fraction : x.toBits.toNat % Nat.pow 2 52 ≠ 0 := by
    intro zero
    rw [if_pos exponent, if_pos zero] at missing
    cases missing
  have ones : @UnpackedFloat.unpackExponent Format.binary64 x.toBits.toBitVec = -1#_ := by
    apply BitVec.eq_of_toNat_eq
    simp only [UnpackedFloat.unpackExponent, BitVec.toNat_cast, BitVec.extractLsb_toNat,
      Nat.shiftRight_eq_div_pow]
    exact exponent
  have rest : @UnpackedFloat.unpackMantissa Format.binary64 x.toBits.toBitVec ≠ 0#_ := by
    intro zero
    apply fraction
    simpa [UnpackedFloat.unpackMantissa] using congrArg BitVec.toNat zero
  change UnpackedFloat.unpack Format.binary64 x.toBits.toBitVec = _
  unfold UnpackedFloat.unpack
  dsimp only
  rw [if_pos ones, if_neg rest]

/-- What is added to no number makes no number. -/
theorem nan_add {x : Float} (missing : ofFloat x = .nan) (y : Float) : ofFloat (x + y) = .nan := by
  have same : x + y = ⟨Float.Model.pack .notANumber⟩ := by
    change Float.ofModel (Float.Model.pack (UnpackedFloat.add _ x.toModel.unpack _)) = _
    rw [unpack_of_nan missing]
    cases y.toModel.unpack <;> rfl
  rw [same]
  decide +kernel

/-- A finite value compares with a natural number as the two products do that a common unit makes
of them. -/
theorem compareFinite_natural (negative : Bool) (significand : Nat) (exponent : Int) (count : Nat) :
    compareFinite negative significand exponent false count 0 =
      compare (if negative then -((significand * Nat.pow 2 exponent.toNat : Nat) : Int)
        else (significand * Nat.pow 2 exponent.toNat : Nat))
        ((count * Nat.pow 2 (-exponent).toNat : Nat) : Int) := by
  have left : (exponent - min exponent 0).toNat = exponent.toNat := by omega
  have right : (0 - min exponent 0).toNat = (-exponent).toNat := by omega
  have power (n : Nat) : (Nat.pow 2 n : Int) = Int.pow 2 n := Int.natCast_pow 2 n
  unfold compareFinite
  simp only [left, right, Bool.false_eq_true, ↓reduceIte, Int.natCast_mul, power]

end Binary64

namespace Number

/-- One number is less than another exactly if they compare so. -/
theorem lt_iff {a b : Number} : a < b ↔ Binary64.compare? a.exact b.exact = some .lt := beq_iff_eq

/-- One number is at most another exactly if they compare so. -/
theorem le_iff {a b : Number} :
    a ≤ b ↔ ∃ order, Binary64.compare? a.exact b.exact = some order ∧ order.isLE = true := by
  change Number.le a b = true ↔ _
  unfold Number.le
  cases Binary64.compare? a.exact b.exact with
  | none => simp
  | some order => cases order <;> simp

/-- A number that is at most itself is one, and so is ordered with itself. -/
theorem isSome_of_le_self {a : Number} (ordered : a ≤ a) :
    (Binary64.compare? a.exact a.exact).isSome := by
  obtain ⟨order, found, -⟩ := le_iff.1 ordered
  rw [found, Option.isSome_some]

/-- Of two numbers one is less unless the other is at most it. -/
theorem lt_of_not_le {a b : Number} (left : a ≤ a) (right : b ≤ b) (above : ¬ b ≤ a) : a < b := by
  obtain ⟨order, found⟩ := Option.isSome_iff_exists.1
    (Binary64.compare?_isSome (isSome_of_le_self left) (isSome_of_le_self right))
  rw [le_iff, Binary64.compare?_swap a.exact b.exact, found] at above
  rw [lt_iff, found]
  cases order with
  | lt => rfl
  | eq => exact absurd ⟨.eq, rfl, rfl⟩ above
  | gt => exact absurd ⟨.lt, rfl, rfl⟩ above

/-- Numbers are in the order, the double that is none is not. -/
theorem le_self_iff {a : Number} : a ≤ a ↔ a.exact ≠ .nan := by
  rw [le_iff]
  constructor
  · rintro ⟨order, found, -⟩
    exact (Binary64.ne_nan_of_compare? found).1
  · intro number
    exact ⟨.eq, Binary64.compare?_self number, rfl⟩

/-- A number that is at most another and that other are both in the order. -/
theorem le_self_of_le {a b : Number} (below : a ≤ b) : a ≤ a ∧ b ≤ b := by
  obtain ⟨order, found, -⟩ := le_iff.1 below
  rw [le_self_iff, le_self_iff]
  exact Binary64.ne_nan_of_compare? found

/-- What is less is not at least. -/
theorem not_le_of_lt {a b : Number} (less : a < b) : ¬ b ≤ a := by
  rw [le_iff, Binary64.compare?_swap a.exact b.exact, lt_iff.1 less]
  rintro ⟨_, ⟨⟩, ⟨⟩⟩

/-- Of two numbers in the order, one is at most the other exactly if the other is not less. -/
theorem le_iff_not_lt {a b : Number} (left : a ≤ a) (right : b ≤ b) : a ≤ b ↔ ¬ b < a :=
  ⟨fun below less => not_le_of_lt less below,
    fun above => Decidable.byContradiction fun far => above (lt_of_not_le right left far)⟩

/-- A sum with a double in front is one of doubles. -/
theorem exists_float_add (x : Float) (b : Number) :
    ∃ y, Number.float x + b = .float (x + y) := by
  have sum : (Number.float x).add? b = b.toFloat?.map fun y => .float (x + y) := by
    rw [Option.map_eq_bind]
    cases b <;> rfl
  change ∃ y, ((Number.float x).add? b).getD (.float (x + b.toFloat)) = .float (x + y)
  rw [sum]
  cases b.toFloat? with
  | none => exact ⟨b.toFloat, rfl⟩
  | some y => exact ⟨y, rfl⟩

/-- A sum is in the order only if its first part is. -/
theorem le_self_of_add {a b : Number} (ordered : a + b ≤ a + b) : a ≤ a := by
  rw [le_self_iff] at ordered ⊢
  cases a with
  | int n => exact nofun
  | float x =>
    intro missing
    obtain ⟨y, sum⟩ := exists_float_add x b
    rw [sum] at ordered
    exact ordered (Binary64.nan_add missing y)

/-- A natural number is exact. -/
theorem exact_natural (n : Nat) : (Number.int n).exact = .finite false n 0 := by
  simp [exact, Binary64.ofInt]

/-- Integers are ordered as such. -/
theorem int_lt_int {m n : Int} : Number.int m < .int n ↔ m < n := by
  have signed (k : Int) : (if decide (k < 0) = true then -(k.natAbs * 1 : Int) else k.natAbs * 1) =
      k := by
    simp only [decide_eq_true_iff]
    omega
  rw [lt_iff]
  show some (compare (if decide (m < 0) = true then -(m.natAbs * 1 : Int) else m.natAbs * 1)
    (if decide (n < 0) = true then -(n.natAbs * 1 : Int) else n.natAbs * 1)) = some .lt ↔ _
  rw [signed, signed, Option.some.injEq, Std.compare_eq_lt]

/-- A natural number is at least a number exactly if it is at least the least natural number that
is. -/
theorem le_natural_iff {a : Number} (count : Nat) :
    a ≤ .int count ↔ ∃ n, a.ceil? = some n ∧ n ≤ count := by
  rw [le_iff, exact_natural]
  unfold ceil?
  cases a.exact with
  | nan => simp [Binary64.compare?]
  | infinite negative => cases negative <;> simp [Binary64.compare?]
  | finite negative significand exponent =>
    have positive : 0 < Nat.pow 2 (-exponent).toNat := Nat.pow_pos (by decide)
    simp only [Binary64.compare?, Binary64.compareFinite_natural, Option.some.injEq,
      exists_eq_left', Std.isLE_compare]
    cases negative with
    | true =>
      simp only [↓reduceIte, Option.some.injEq, exists_eq_left', Nat.zero_le, iff_true]
      omega
    | false =>
      simp only [Bool.false_eq_true, ↓reduceIte, Int.ofNat_le]
      split
      · rename_i whole
        rw [show (-exponent).toNat = 0 by omega]
        simp
      · rename_i fraction
        rw [show exponent.toNat = 0 by omega]
        generalize Nat.pow 2 (-exponent).toNat = unit at positive
        simp only [Option.some.injEq, exists_eq_left',
          Nat.div_le_iff_le_mul_add_pred positive, Nat.mul_comm unit]
        change significand * 1 ≤ _ ↔ _
        omega

/-- A number that is at most a natural number is below the next. -/
theorem lt_succ_of_le_natural {a : Number} {count : Nat} (below : a ≤ .int count) :
    a < .int (count + 1 : Nat) := by
  rw [le_iff, exact_natural] at below
  rw [lt_iff, exact_natural]
  cases shape : a.exact with
  | nan =>
    rw [shape] at below
    simp [Binary64.compare?] at below
  | infinite negative =>
    rw [shape] at below
    cases negative <;> simp_all [Binary64.compare?]
  | finite negative significand exponent =>
    rw [shape] at below
    have positive : 0 < Nat.pow 2 (-exponent).toNat := Nat.pow_pos (by decide)
    simp only [Binary64.compare?, Binary64.compareFinite_natural, Option.some.injEq,
      exists_eq_left', Std.isLE_compare, Std.compare_eq_lt] at below ⊢
    rw [Nat.succ_mul]
    omega

end Number
end WideColumn
