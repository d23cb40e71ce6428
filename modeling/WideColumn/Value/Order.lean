import WideColumn.Value.Misuse

/-!
# Comparing caller values

Numbers compare by value with truth values as one and zero, texts by code points, byte strings by
bytes, sequences of one kind by their first difference. Any other pair has no order, and asking for
one is a misuse that names the two kinds. Views of buffers have an order only against mutable
buffers.
-/
namespace WideColumn.Value

/-- Equality and order of two byte forms: a view compares with mutable buffers only. -/
def formsOrdered : ByteForm → ByteForm → Bool
  | .buffer, _ | _, .buffer => true
  | .fixed, .fixed => true
  | _, _ => false

/-- The result of ordering two values: `none` when a double that is no number is involved. -/
abbrev OrderResult := Except (String × String) (Option Ordering)

mutual

/-- Whether two values are equal, whatever their kinds. -/
def equals : Value → Value → Bool
  | .none, .none => true
  | .text a, .text b => a == b
  | .bytes _ a, .bytes _ b => a == b
  | .list a, .list b => equalsAll a b
  | .tuple a, .tuple b => equalsAll a b
  | .mapping a, .mapping b => a.length == b.length && equalsEntries a b
  | a, b =>
    match a.toNumber?, b.toNumber? with
    | some x, some y => x.eq y
    | _, _ => false

/-- Whether two sequences are equal item by item. -/
def equalsAll : List Value → List Value → Bool
  | [], [] => true
  | a :: as, b :: bs => equals a b && equalsAll as bs
  | _, _ => false

/-- Whether every entry of the first mapping stands in the second. -/
def equalsEntries : List (Text × Value) → List (Text × Value) → Bool
  | [], _ => true
  | (key, value) :: rest, entries =>
    (match entries.lookup key with
      | some other => equals value other
      | Option.none => false) && equalsEntries rest entries

end

mutual

/-- Order two values, or name the kinds of the pair that has no order. -/
def order (a b : Value) : OrderResult :=
  match a, b with
  | .text x, .text y => .ok (some (compare x y))
  | .bytes f x, .bytes g y =>
    if formsOrdered f g then .ok (some (compare x y)) else .error (f.name, g.name)
  | .list x, .list y => orderAll x y
  | .tuple x, .tuple y => orderAll x y
  | a, b =>
    match a.toNumber?, b.toNumber? with
    | some x, some y => .ok (Binary64.compare? x.exact y.exact)
    | _, _ => .error (a.typeName, b.typeName)

/-- Order two sequences by their first difference, a proper beginning coming first. -/
def orderAll : List Value → List Value → OrderResult
  | [], [] => .ok (some .eq)
  | [], _ :: _ => .ok (some .lt)
  | _ :: _, [] => .ok (some .gt)
  | a :: as, b :: bs => if equals a b then orderAll as bs else order a b

end

/-- Whether the first value is less than the second. -/
def less (a b : Value) : Except Misuse Bool :=
  match order a b with
  | .ok result => .ok (result == some .lt)
  | .error (left, right) => .error (.notOrdered "<" left right)

/-- Whether the first value is greater than the second. -/
def greater (a b : Value) : Except Misuse Bool :=
  match order a b with
  | .ok result => .ok (result == some .gt)
  | .error (left, right) => .error (.notOrdered ">" left right)

/-- Whether the first value is not less than the second, the two being comparable. -/
def atLeast (a b : Value) : Except Misuse Bool :=
  match order a b with
  | .ok result => .ok (result == some .gt || result == some .eq)
  | .error (left, right) => .error (.notOrdered ">=" left right)

end WideColumn.Value
