import WideColumn.Number.Basic

/-!
# Decimal notation

Reading numbers from decimal digits. A decimal becomes the nearest double, ties going to the even
significand; the quotient is computed in exact integers and carries one extra bit that tells whether
something was cut off.
-/
namespace WideColumn.Binary64

/-- The double nearest to a quotient of positive integers. -/
def roundRatio (negative : Bool) (num den : Nat) : Float :=
  if num = 0 then round negative 0 0
  else
    -- Enough bits that the extra one lies below the half of the last place.
    let shift := (den.log2 : Int) - num.log2 + 66
    let (scaled, divisor) :=
      match shift with
      | .ofNat k => (num * Nat.pow 2 k, den)
      | .negSucc k => (num, den * Nat.pow 2 (k + 1))
    let sticky := if scaled % divisor = 0 then 0 else 1
    round negative (scaled / divisor * 2 + sticky) (-shift - 1)

/-- The double nearest to `digits · 10 ^ exponent`. -/
def ofDecimal (negative : Bool) (digits : Nat) (exponent : Int) : Float :=
  let magnitude := (Nat.toDigits 10 digits).length + exponent
  if digits = 0 ∨ magnitude < -330 then round negative 0 0
  else if 320 < magnitude then round negative 1 1024
  else
    match exponent with
    | .ofNat k => round negative (digits * Nat.pow 10 k) 0
    | .negSucc k => roundRatio negative digits (Nat.pow 10 (k + 1))

end WideColumn.Binary64

namespace WideColumn.Decimal

/-- The number that decimal digits stand for. -/
def natural (digits : List Char) : Nat :=
  digits.foldl (fun value c => value * 10 + (c.toNat - 48)) 0

/-- Leading digits and the rest. -/
def span (text : List Char) : List Char × List Char :=
  (text.takeWhile Char.isDigit, text.dropWhile Char.isDigit)

/-- A sign, if there is one. -/
def sign : List Char → Bool × List Char
  | '-' :: rest => (true, rest)
  | '+' :: rest => (false, rest)
  | text => (false, text)

/-- An exponent part, if there is one: its value and the rest. A letter without digits after it is
left alone. -/
def exponent : List Char → Int × List Char
  | c :: rest =>
    if c = 'e' ∨ c = 'E' then
      let (negative, digits) := sign rest
      match span digits with
      | ([], _) => (0, c :: rest)
      | (digits, rest) =>
        (if negative then -(natural digits : Int) else natural digits, rest)
    else (0, c :: rest)
  | [] => (0, [])

/-- Unsigned decimal notation: digits with at most one point and an optional exponent, and at least
one digit before the exponent. Gives the double and the rest. -/
def float? (negative : Bool) (text : List Char) : Option (Float × List Char) :=
  let (whole, rest) := span text
  let (fraction, rest) :=
    match rest with
    | '.' :: rest => span rest
    | rest => ([], rest)
  if whole.isEmpty && fraction.isEmpty then none
  else
    let (power, rest) := exponent rest
    some (Binary64.ofDecimal negative (natural (whole ++ fraction)) (power - fraction.length), rest)

end WideColumn.Decimal
