import Mathlib.Data.ENNReal.Real
import WideColumn.Proofs.Number
import WideColumn.Proofs.Settings.Valid

/-!
# Delays in exact arithmetic

The delays between attempts, computed without rounding and without a largest number. Delays are
never negative and settings may ask for an infinite one, so the exact values are the nonnegative
reals with infinity. A delay lies between its power and that power with one more first delay added,
both under the cap. With a base of at least two, the first of these bounds for an attempt is above
the second one for the attempt before, so no random additions can make delays fall.
-/
namespace WideColumn

open scoped ENNReal

/-! ## Exact values -/

/-- The exact value of a double; a negative one and the one that is no number count as zero. -/
noncomputable def Binary64.value : Binary64 → ℝ≥0∞
  | .nan => 0
  | .infinite negative => if negative then 0 else ⊤
  | .finite negative significand exponent =>
    if negative then 0 else ENNReal.ofReal (significand * 2 ^ exponent)

/-- The exact value of a number; a negative one and the one that is none count as zero. -/
noncomputable def Number.value (a : Number) : ℝ≥0∞ := a.exact.value

/-- A product with a power of two is above a natural number if it is so without fractions. -/
theorem natCast_lt_scaled {count significand : Nat} {exponent : Int}
    (less : count * 2 ^ (-exponent).toNat < significand * 2 ^ exponent.toNat) :
    (count : ℝ) < significand * 2 ^ exponent := by
  have split : exponent = exponent.toNat - (-exponent).toNat := by omega
  have power : (2 : ℝ) ^ exponent = 2 ^ exponent.toNat / 2 ^ (-exponent).toNat := by
    conv_lhs => rw [split]
    rw [zpow_sub₀ two_ne_zero, zpow_natCast, zpow_natCast]
  rw [power, ← mul_div_assoc, lt_div_iff₀ (by positivity)]
  exact_mod_cast less

/-- A number above a natural number has an exact value above it. -/
theorem Number.natCast_lt_value {count : Nat} {x : Number} (above : Number.int count < x) :
    (count : ℝ≥0∞) < x.value := by
  have order := Number.lt_iff.1 above
  rw [Number.exact_natural, Binary64.compare?_swap x.exact] at order
  unfold Number.value
  cases shape : x.exact with
  | nan =>
    rw [shape] at order
    simp [Binary64.compare?] at order
  | infinite negative =>
    rw [shape] at order
    cases negative with
    | true => simp [Binary64.compare?] at order
    | false => simp [Binary64.value]
  | finite negative significand exponent =>
    rw [shape] at order
    have larger : ((count * Nat.pow 2 (-exponent).toNat : Nat) : Int) <
        if negative then -((significand * Nat.pow 2 exponent.toNat : Nat) : Int)
        else (significand * Nat.pow 2 exponent.toNat : Nat) := by
      simpa [Binary64.compare?, Binary64.compareFinite_natural, Std.compare_eq_gt] using order
    cases negative with
    | true =>
      simp only [↓reduceIte] at larger
      omega
    | false =>
      simp only [Bool.false_eq_true, ↓reduceIte, Int.ofNat_lt] at larger
      exact ENNReal.natCast_lt_ofReal.2 (natCast_lt_scaled larger)

/-! ## Exact delays -/

/-- Arithmetic without rounding: nothing is out of range. -/
noncomputable instance : DelayArithmetic ℝ≥0∞ where
  zero := 0
  less a b := decide (a < b)
  add? a b := some (a + b)
  mul? a b := some (a * b)
  pow? a n := some (a ^ n)

namespace Backoff

/-- Delays of other numbers. -/
def map {α β : Type} (f : α → β) (backoff : Backoff α) : Backoff β :=
  ⟨f backoff.initial, f backoff.cap, f backoff.jitter, f backoff.base⟩

variable {backoff : Backoff ℝ≥0∞} {addition : ℝ≥0∞} {draws : Nat → ℝ≥0∞}

/-- Without rounding, a delay is a power and its random addition under the cap. -/
theorem delay_eq (n : Nat) :
    backoff.delay n addition =
      min (backoff.initial * backoff.base ^ (n - 1) + addition) backoff.cap := by
  have smaller (a b : ℝ≥0∞) : least a b = min a b := by
    simp only [least, DelayArithmetic.less, decide_eq_true_eq, min_comm a b, min_def_lt]
  have greater (a : ℝ≥0∞) : greatest DelayArithmetic.zero a = a := by
    simp only [greatest, DelayArithmetic.less, DelayArithmetic.zero, decide_eq_true_eq]
    split
    · rfl
    · next zero => exact (nonpos_iff_eq_zero.1 (not_lt.1 zero)).symm
  rw [delay, greater, smaller]
  rfl

/-- A delay lies between its power and that power with one more first delay, both under the cap, if
random additions are no longer than the first delay. -/
theorem delay_bounds (short : backoff.jitter ≤ backoff.initial)
    (within : addition ≤ backoff.jitter) (n : Nat) :
    min (backoff.initial * backoff.base ^ (n - 1)) backoff.cap ≤ backoff.delay n addition ∧
      backoff.delay n addition ≤
        min (backoff.initial * (backoff.base ^ (n - 1) + 1)) backoff.cap := by
  rw [delay_eq, mul_add_one]
  constructor
  · exact min_le_min_right _ le_self_add
  · exact min_le_min_right _ (add_le_add_right (within.trans short) _)

/-- A power of a base of at least two leaves room for one below the next. -/
theorem pow_add_one_le {base : ℝ≥0∞} (double : 2 ≤ base) (n : Nat) :
    base ^ n + 1 ≤ base ^ (n + 1) := by
  have positive : 1 ≤ base := one_le_two.trans double
  calc base ^ n + 1
    _ ≤ base ^ n + base ^ n := by gcongr; exact one_le_pow₀ positive
    _ = base ^ n * 2 := (mul_two _).symm
    _ ≤ base ^ n * base := by gcongr
    _ = base ^ (n + 1) := (pow_succ base n).symm

/-- With a base of at least two, the delay after one attempt is at most the delay after the next,
whatever is added to them. -/
theorem delay_le_next (short : backoff.jitter ≤ backoff.initial) (double : 2 ≤ backoff.base)
    {first second : ℝ≥0∞} (within : first ≤ backoff.jitter) (n : Nat) :
    backoff.delay (n + 1) first ≤ backoff.delay (n + 2) second := by
  calc backoff.delay (n + 1) first
    _ ≤ min (backoff.initial * (backoff.base ^ n + 1)) backoff.cap :=
      (delay_bounds short within (n + 1)).2
    _ ≤ min (backoff.initial * backoff.base ^ (n + 1)) backoff.cap := by
      gcongr
      exact pow_add_one_le double n
    _ ≤ backoff.delay (n + 2) second := by
      rw [delay_eq]
      exact min_le_min_right _ le_self_add

/-- By induction on the number of attempts: with a base of at least two, delays never fall. -/
theorem delay_monotone (short : backoff.jitter ≤ backoff.initial) (double : 2 ≤ backoff.base)
    (within : ∀ n, draws n ≤ backoff.jitter) :
    Monotone fun n => backoff.delay (n + 1) (draws (n + 1)) :=
  monotone_nat_of_le_succ fun n => delay_le_next short double (within (n + 1)) n

/-- Delays in exact arithmetic under settings on retries that were read, for all random additions
within the jitter. The first delay and the cap are positive and the base is more than one. A delay
is a power and its addition under the cap, and lies between that power and the power with one more
first delay, both under the cap. So no delay is above the cap, the first is at most twice the first
delay of the settings, and with a base of at least two delays never fall. -/
theorem delays_of_settings {entries : Entries} {settings : RetrySettings} (draws : Nat → ℝ≥0∞)
    (right : RetrySettings.read entries = .valid settings)
    (within : ∀ n, draws n ≤ (settings.policy.backoff.map Number.value).jitter) :
    let backoff := settings.policy.backoff.map Number.value
    let initial := settings.initialDelay.value
    let cap := settings.maxDelay.value
    let base := settings.exponentialBase.value
    0 < initial ∧ 0 < cap ∧ 1 < base ∧
      (∀ n ≥ 1, backoff.delay n (draws n) =
        max 0 (min (initial * base ^ (n - 1) + draws n) cap)) ∧
      (∀ n ≥ 1, min (initial * base ^ (n - 1)) cap ≤ backoff.delay n (draws n) ∧
        backoff.delay n (draws n) ≤ min (initial * (base ^ (n - 1) + 1)) cap) ∧
      (∀ n ≥ 1, backoff.delay n (draws n) ≤ cap) ∧
      backoff.delay 1 (draws 1) ≤ 2 * initial ∧
      (2 ≤ base → ∀ m n, 1 ≤ m → m ≤ n →
        backoff.delay m (draws m) ≤ backoff.delay n (draws n)) := by
  intro backoff initial cap base
  have valid := RetrySettings.valid_of_read right
  have short : backoff.jitter ≤ backoff.initial := le_rfl
  have bounds (n : Nat) : min (initial * base ^ (n - 1)) cap ≤ backoff.delay n (draws n) ∧
      backoff.delay n (draws n) ≤ min (initial * (base ^ (n - 1) + 1)) cap :=
    delay_bounds short (within n) n
  refine ⟨mod_cast Number.natCast_lt_value valid.initial,
    mod_cast Number.natCast_lt_value valid.cap, mod_cast Number.natCast_lt_value valid.base,
    fun n _ => (delay_eq n).trans (max_eq_right zero_le).symm, fun n _ => bounds n,
    fun n _ => (bounds n).2.trans (min_le_right _ _), ?_, ?_⟩
  · calc backoff.delay 1 (draws 1)
      _ ≤ min (initial * (base ^ 0 + 1)) cap := (bounds 1).2
      _ ≤ initial * (base ^ 0 + 1) := min_le_left _ _
      _ = 2 * initial := by rw [pow_zero, one_add_one_eq_two, mul_comm]
  · intro double m n positive order
    obtain ⟨m, rfl⟩ := Nat.exists_eq_add_of_le' positive
    obtain ⟨n, rfl⟩ := Nat.exists_eq_add_of_le' (positive.trans order)
    exact delay_monotone short double within (Nat.le_of_succ_le_succ order)

/-- Settings with a first delay of one second, a cap of ten and a base of three, and additions of a
whole second: the second delay is four seconds, and the third, of nine and one more, is the cap. -/
theorem delays_of_settings_ofThrees :
    let settings : RetrySettings := ⟨3, .float 1.0, .float 10.0, .float 3.0⟩
    let backoff := settings.policy.backoff.map Number.value
    RetrySettings.read [("initial_delay_seconds", .int 1), ("max_delay_seconds", .int 10),
        ("exponential_base", .int 3)] = .valid settings ∧
      backoff.delay 2 1 = 4 ∧ backoff.delay 3 1 = 10 := by
  intro settings backoff
  have read : RetrySettings.read [("initial_delay_seconds", .int 1), ("max_delay_seconds", .int 10),
      ("exponential_base", .int 3)] = .valid settings := rfl
  have one : (Number.float 1.0).value = 1 := by
    rw [Number.value, show (Number.float 1.0).exact = .finite false (2 ^ 52) (-52) by
      decide +kernel]
    norm_num [Binary64.value]
  have three : (Number.float 3.0).value = 3 := by
    rw [Number.value, show (Number.float 3.0).exact = .finite false (3 * 2 ^ 51) (-51) by
      decide +kernel]
    norm_num [Binary64.value]
  have ten : (Number.float 10.0).value = 10 := by
    rw [Number.value, show (Number.float 10.0).exact = .finite false (5 * 2 ^ 50) (-49) by
      decide +kernel]
    norm_num [Binary64.value]
  obtain ⟨-, -, -, formula, -⟩ :=
    delays_of_settings (fun _ => 1) read fun _ => one.ge
  refine ⟨read, ?_, ?_⟩
  · rw [formula 2 (by decide), one, three, ten]
    norm_num
  · rw [formula 3 (by decide), one, three, ten]
    norm_num

end Backoff
end WideColumn
