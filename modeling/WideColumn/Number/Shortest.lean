import WideColumn.Number.Binary64
import WideColumn.Text.Basic

/-!
# Shortest decimals

A finite double is written with the fewest significant digits that read back as the same double,
and among those with the digits nearest to it. A double reads back from every decimal in its
rounding interval: the points nearer to it than to its neighbours, with the ends included when its
significand is even. Everything is decided in exact integers. Magnitudes from `10 ^ -4` up to below
`10 ^ 16` are written positionally and all others with an exponent.
-/
namespace WideColumn.Shortest

/-- A positive rational number as a quotient of positive integers. -/
structure Ratio where
  /-- Numerator. -/
  num : Nat
  /-- Denominator. -/
  den : Nat

/-- `n · 2 ^ shift` as a quotient. -/
def Ratio.ofScaled (n : Nat) (shift : Int) : Ratio :=
  match shift with
  | .ofNat k => ⟨n * Nat.pow 2 k, 1⟩
  | .negSucc k => ⟨n, Nat.pow 2 (k + 1)⟩

/-- `n · 10 ^ shift` as a quotient. -/
def Ratio.ofDecimal (n : Nat) (shift : Int) : Ratio :=
  match shift with
  | .ofNat k => ⟨n * Nat.pow 10 k, 1⟩
  | .negSucc k => ⟨n, Nat.pow 10 (k + 1)⟩

/-- Order quotients by cross multiplication. -/
def Ratio.compare (a b : Ratio) : Ordering := Ord.compare (a.num * b.den) (b.num * a.den)

/-- A rounding interval around a value. -/
structure Interval where
  /-- The value itself. -/
  value : Ratio
  /-- Half way to the next smaller double. -/
  low : Ratio
  /-- Half way to the next larger double. -/
  high : Ratio
  /-- Whether the two ends belong to the interval. -/
  closed : Bool

/-- The rounding interval of `significand · 2 ^ exponent`. The neighbour below a power of two lies
at half the distance of the one above, except at the least exponent. -/
def Interval.ofBinary (significand : Nat) (exponent : Int) : Interval :=
  let below :=
    if significand = Nat.pow 2 52 ∧ exponent ≠ Binary64.leastExponent then 4 * significand - 1
    else 4 * significand - 2
  { value := .ofScaled (4 * significand) (exponent - 2)
    low := .ofScaled below (exponent - 2)
    high := .ofScaled (4 * significand + 2) (exponent - 2)
    closed := significand % 2 == 0 }

/-- Whether a quotient reads back as the value of the interval. -/
def Interval.holds (interval : Interval) (r : Ratio) : Bool :=
  match interval.low.compare r, r.compare interval.high with
  | .lt, .lt => true
  | .eq, _ | _, .eq => interval.closed
  | _, _ => false

/-- The number `k` with `10 ^ (k - 1) ≤ value < 10 ^ k`, searched upwards from a lower bound. -/
def decimalExponent (value : Ratio) (start : Int) : Nat → Int
  | 0 => start
  | fuel + 1 =>
    if value.compare (.ofDecimal 1 start) == .lt then start
    else decimalExponent value (start + 1) fuel

/-- Significant digits: the value is `digits · 10 ^ (point - count)`. -/
structure Decimal where
  /-- All digits of the grid as one number. -/
  digits : Nat
  /-- Number of digits of the grid on which it lies. -/
  count : Nat
  /-- Position of the decimal point relative to the first digit of the grid. -/
  point : Int

/-- The better of the two neighbours of the value on the grid of `count` digits, if one of them
reads back. -/
def onGrid? (interval : Interval) (point : Int) (count : Nat) : Option Decimal :=
  let power := Ratio.ofDecimal 1 (count - point)
  let numerator := interval.value.num * power.num
  let denominator := interval.value.den * power.den
  let below := numerator / denominator
  let rest := numerator % denominator
  let hit (n : Nat) : Bool := n != 0 && interval.holds (.ofDecimal n (point - count))
  match hit below, hit (below + 1) with
  | true, true =>
    match compare (2 * rest) denominator with
    | .lt => some ⟨below, count, point⟩
    | .gt => some ⟨below + 1, count, point⟩
    | .eq => some ⟨if below % 2 = 0 then below else below + 1, count, point⟩
  | true, false => some ⟨below, count, point⟩
  | false, true => some ⟨below + 1, count, point⟩
  | false, false => none

/-- The first grid with a hit, from `count` digits on; the grid of seventeen digits always has
one. -/
def search (interval : Interval) (point : Int) (count : Nat) : Nat → Decimal
  | 0 => ⟨0, count, point⟩
  | fuel + 1 => (onGrid? interval point count).getD (search interval point (count + 1) fuel)

/-- The shortest decimal of a positive double. -/
def ofBinary (significand : Nat) (exponent : Int) : Decimal :=
  let interval := Interval.ofBinary significand exponent
  -- A lower bound of the decimal exponent, since `3 / 10 < log 2 < 31 / 100`.
  let bits : Int := significand.log2 + exponent
  let start := (if 0 ≤ bits then bits * 3 / 10 else bits * 31 / 100) - 1
  search interval (decimalExponent interval.value start 40) 1 17

/-- The digits without trailing zeros and the place of the point among them. A grid point that was
rounded up to a power of ten has one digit more than its grid. -/
def Decimal.normal (d : Decimal) : List Char × Int :=
  let digits := Nat.toDigits 10 d.digits
  ((digits.reverse.dropWhile (· == '0')).reverse, d.point + (digits.length - d.count : Int))

/-- Write digits with the point after the first `point` of them. -/
def layout (digits : List Char) (point : Int) : List Char :=
  if -4 < point ∧ point ≤ 16 then
    if point ≤ 0 then
      '0' :: '.' :: List.replicate (-point).toNat '0' ++ digits
    else
      let whole := digits.take point.toNat
      let fraction := digits.drop point.toNat
      whole ++ List.replicate (point.toNat - whole.length) '0' ++
        '.' :: (if fraction.isEmpty then ['0'] else fraction)
  else
    let shown := (point - 1).natAbs
    let fraction := digits.drop 1
    digits.take 1 ++ (if fraction.isEmpty then [] else '.' :: fraction) ++
      'e' :: (if point - 1 < 0 then '-' else '+') ::
        ((if shown < 10 then ['0'] else []) ++ Nat.toDigits 10 shown)

/-- The text of a double. -/
def render (x : Binary64) : List Char :=
  match x with
  | .nan => "nan".toList
  | .infinite negative => (if negative then "-inf" else "inf").toList
  | .finite negative significand exponent =>
    let magnitude :=
      if significand = 0 then "0.0".toList
      else
        let (digits, point) := (ofBinary significand exponent).normal
        layout digits point
    if negative then '-' :: magnitude else magnitude

end WideColumn.Shortest
