/-!
# Double-precision numbers, exactly

A double is a sign, a significand and a power of two. `Binary64.ofFloat` reads these from the
encoding, and `Binary64.round` finds the double nearest to such a product, ties going to the even
significand. Both work in exact integers, so comparisons and powers that mix integers and doubles
need no intermediate rounding.
-/
namespace WideColumn

/-- The value of a double. -/
inductive Binary64 where
  /-- No number. -/
  | nan
  /-- An infinity. -/
  | infinite (negative : Bool)
  /-- The number `±significand · 2 ^ exponent`. -/
  | finite (negative : Bool) (significand : Nat) (exponent : Int)
deriving DecidableEq

namespace Binary64

/-- Exponent of the least positive double. -/
def leastExponent : Int := -1074

/-- Read the encoding of a double. -/
def ofFloat (x : Float) : Binary64 :=
  let bits := x.toBits.toNat
  let negative := bits / Nat.pow 2 63 == 1
  let biased := bits / Nat.pow 2 52 % Nat.pow 2 11
  let fraction := bits % Nat.pow 2 52
  if biased = 2047 then if fraction = 0 then .infinite negative else .nan
  else if biased = 0 then .finite negative fraction leastExponent
  else .finite negative (Nat.pow 2 52 + fraction) (leastExponent + (Int.ofNat biased - 1))

/-- `n · 2 ^ shift` when that is an integer, and its floor with what was cut off otherwise. -/
def scale (n : Nat) (shift : Int) : Nat × Bool :=
  match shift with
  | .ofNat k => (n * Nat.pow 2 k, true)
  | .negSucc k => (n / Nat.pow 2 (k + 1), n % Nat.pow 2 (k + 1) == 0)

/-- The encoding of the double nearest to `significand · 2 ^ exponent`; an infinity when that lies
beyond the largest double. -/
def round (negative : Bool) (significand : Nat) (exponent : Int) : Float :=
  let sign : Nat := if negative then Nat.pow 2 63 else 0
  if significand = 0 then Float.ofBits (UInt64.ofNat sign)
  else
    -- The unit of the last place: at most 53 bits remain, and never below the least exponent.
    let width : Int := significand.log2 + 1
    let unit := max leastExponent (exponent + width - 53)
    -- Twice the quotient keeps the half that decides the rounding.
    let (doubled, exact) := scale significand (exponent - unit + 1)
    let quotient := doubled / 2
    let half := doubled % 2 == 1
    let up := half && (!exact || quotient % 2 == 1)
    let rounded := if up then quotient + 1 else quotient
    -- A carry into bit 53 moves to the next unit by the layout of the encoding.
    let biased := (unit - leastExponent).toNat
    let encoded := biased * Nat.pow 2 52 + rounded
    let infinity := 2047 * Nat.pow 2 52
    if infinity ≤ encoded then Float.ofBits (UInt64.ofNat (sign + infinity))
    else Float.ofBits (UInt64.ofNat (sign + encoded))

/-- Compare `±a · 2 ^ i` with `±b · 2 ^ j`. -/
def compareFinite (aNegative : Bool) (a : Nat) (i : Int) (bNegative : Bool) (b : Nat) (j : Int) :
    Ordering :=
  let least := min i j
  let left : Int := a * Int.pow 2 (i - least).toNat
  let right : Int := b * Int.pow 2 (j - least).toNat
  compare (if aNegative then -left else left) (if bNegative then -right else right)

/-- Order two values; `none` when one of them is no number. -/
def compare? : Binary64 → Binary64 → Option Ordering
  | .nan, _ | _, .nan => none
  | .infinite a, .infinite b => some (compare b.toNat a.toNat)
  | .infinite a, .finite .. => some (if a then .lt else .gt)
  | .finite .., .infinite b => some (if b then .gt else .lt)
  | .finite a m i, .finite b n j => some (compareFinite a m i b n j)

/-- An integer as a value; every integer is one exactly. -/
def ofInt (n : Int) : Binary64 := .finite (n < 0) n.natAbs 0

end Binary64
end WideColumn
