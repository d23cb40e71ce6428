import WideColumn.Number.Shortest

/-!
# Numbers of settings, clocks and delays

A number is an integer or a double, and stays what it was given as: arithmetic on two integers is
exact, and one double makes the result a double. Comparisons are exact in every mix. An integer too
large for a double has no double form, and arithmetic that needs one is refused.
-/
namespace WideColumn

/-- An integer of any size or a double. -/
inductive Number where
  /-- An integer. -/
  | int (value : Int)
  /-- A double. -/
  | float (value : Float)

namespace Number

instance : Inhabited Number := ⟨.int 0⟩

/-- The exact value. -/
def exact : Number → Binary64
  | .int n => .ofInt n
  | .float x => .ofFloat x

/-- The nearest double, unless an integer is too large for any. -/
def toFloat? : Number → Option Float
  | .int n =>
    let x := Binary64.round (n < 0) n.natAbs 0
    if x.isInf then none else some x
  | .float x => some x

/-- The nearest double, an infinity for an integer too large. -/
def toFloat : Number → Float
  | .int n => Binary64.round (n < 0) n.natAbs 0
  | .float x => x

/-- Strictly less; false as soon as one side is no number. -/
def lt (a b : Number) : Bool := Binary64.compare? a.exact b.exact == some .lt

/-- Less or equal; false as soon as one side is no number. -/
def le (a b : Number) : Bool :=
  match Binary64.compare? a.exact b.exact with
  | some .lt | some .eq => true
  | _ => false

/-- Equal in value, whatever the kinds. -/
def eq (a b : Number) : Bool := Binary64.compare? a.exact b.exact == some .eq

/-- The least natural number that is not below a number; none for infinity and for no number. -/
def ceil? (a : Number) : Option Nat :=
  match a.exact with
  | .nan | .infinite false => none
  | .infinite true | .finite true _ _ => some 0
  | .finite false significand exponent =>
    if 0 ≤ exponent then some (significand * Nat.pow 2 exponent.toNat)
    else
      let unit := Nat.pow 2 (-exponent).toNat
      some ((significand + unit - 1) / unit)

instance : LT Number := ⟨fun a b => a.lt b = true⟩
instance : LE Number := ⟨fun a b => a.le b = true⟩
instance (a b : Number) : Decidable (a < b) := inferInstanceAs (Decidable (a.lt b = true))
instance (a b : Number) : Decidable (a ≤ b) := inferInstanceAs (Decidable (a.le b = true))

/-- Combine two numbers exactly when both are integers and as doubles otherwise; refused when an
integer has no double form. -/
def combine? (onInts : Int → Int → Int) (onFloats : Float → Float → Float) :
    Number → Number → Option Number
  | .int a, .int b => some (.int (onInts a b))
  | a, b => do return .float (onFloats (← a.toFloat?) (← b.toFloat?))

/-- Sum, refused when an integer has no double form. -/
def add? : Number → Number → Option Number := combine? (· + ·) (· + ·)

/-- Product, refused when an integer has no double form. -/
def mul? : Number → Number → Option Number := combine? (· * ·) (· * ·)

instance : Add Number := ⟨fun a b => (a.add? b).getD (.float (a.toFloat + b.toFloat))⟩
instance : Sub Number :=
  ⟨fun a b => (combine? (· - ·) (· - ·) a b).getD (.float (a.toFloat - b.toFloat))⟩

/-- A double raised to a natural power, rounded once. `none` when a finite base leaves the range. -/
def powFloat? (base : Float) (n : Nat) : Option Float :=
  if n = 0 then some 1.0
  else
    match Binary64.ofFloat base with
    | .nan => some base
    | .infinite negative => some (Binary64.round (negative && n % 2 == 1) 1 1024)
    | .finite negative significand exponent =>
      let power := Binary64.round (negative && n % 2 == 1) (Nat.pow significand n) (exponent * n)
      if power.isInf then none else some power

/-- A number raised to a natural power. -/
def pow? (base : Number) (n : Nat) : Option Number :=
  match base with
  | .int b => some (.int (Int.pow b n))
  | .float x => (powFloat? x n).map .float

/-- The text of a number. -/
def render : Number → Text
  | .int n => Text.ofInt n
  | .float x => (Shortest.render (.ofFloat x)).map CodePoint.ofChar

end Number
end WideColumn
