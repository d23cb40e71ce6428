import WideColumn.Charset.Handler

/-!
# Punycode

Punycode writes the ASCII code points of a text first and then, as numbers, where each other code
point is inserted among them. The code points are inserted in ascending order. A state between two
insertions is a code point and a slot of the text that is there so far; a delta is the number of
states from one insertion to the next. Numbers are written in digits of weights that depend on
the deltas before.
-/
namespace WideColumn.Charset.Punycode

/-! ## Numbers -/

/-- The byte of a digit: letters are worth less than figures. -/
def digit (worth : Nat) : UInt8 := UInt8.ofNat (if worth < 26 then worth + 97 else worth + 22)

/-- What a code point is worth as a digit, letters regardless of case. -/
def digit? (c : CodePoint) : Option Nat :=
  if 65 ≤ c.val ∧ c.val ≤ 90 then some (c.val - 65)
  else if 97 ≤ c.val ∧ c.val ≤ 122 then some (c.val - 97)
  else if 48 ≤ c.val ∧ c.val ≤ 57 then some (c.val - 22)
  else none

/-- A digit below the threshold of its place ends the number. -/
def threshold (bias place : Nat) : Nat := max 1 (min 26 (36 * (place + 1) - bias))

/-- A threshold leaves room for digits on both sides. -/
theorem threshold_bounds (bias place : Nat) :
    1 ≤ threshold bias place ∧ threshold bias place ≤ 26 := by
  unfold threshold
  omega

/-- The digits of a number from a place on, the least first. -/
def writeNumber (bias place number : Nat) : Bytes :=
  let limit := threshold bias place
  if number < limit then [digit number]
  else
    digit (limit + (number - limit) % (36 - limit)) ::
      writeNumber bias (place + 1) ((number - limit) / (36 - limit))
termination_by number
decreasing_by
  have bounds := threshold_bounds bias place
  calc (number - threshold bias place) / (36 - threshold bias place)
    _ ≤ number - threshold bias place := Nat.div_le_self ..
    _ < number := by omega

/-- Divide a number by 35 until it is small: 36 for each division, and what is left. -/
def shrink (counted number : Nat) : Nat × Nat :=
  if 455 < number then shrink (counted + 36) (number / 35) else (counted, number)
termination_by number
decreasing_by exact Nat.div_lt_self (by omega) (by decide)

/-- The bias after a delta that makes a text `length` long. -/
def adapt (first : Bool) (length delta : Nat) : Nat :=
  let damped := delta / if first then 700 else 2
  let (counted, rest) := shrink 0 (damped + damped / length)
  counted + 36 * rest / (rest + 38)

/-! ## Writing -/

/-- The deltas of the occurrences of a code point in the rest of a text, and the slot after the last
of them. `slot` is where the last insertion was, `index` the slot here, and `owed` counts the states
of the code points that were skipped. -/
def occurrences (point owed slot index : Nat) : Text → List Nat × Nat
  | [] => ([], slot)
  | c :: rest =>
    if c.val = point then
      let (deltas, last) := occurrences point 0 (index + 1) (index + 1) rest
      ((owed + index - slot) :: deltas, last)
    else occurrences point owed slot (if c.val < point then index + 1 else index) rest

/-- The deltas of all occurrences of ascending code points in a text. -/
def deltas (text : Text) (point slot : Nat) : List CodePoint → List Nat
  | [] => []
  | c :: rest =>
    let owed := (text.countP (·.val < c.val) + 1) * (c.val - point)
    let (here, last) := occurrences c.val owed slot 0 text
    here ++ deltas text c.val last rest

/-- Deltas as digits, for a text that is `length` long before the first of them. -/
def writeDeltas (bias : Nat) (first : Bool) (length : Nat) : List Nat → Bytes
  | [] => []
  | delta :: rest =>
    writeNumber bias 0 delta ++
      writeDeltas (adapt first (length + 1) delta) false (length + 1) rest

/-- Write a text. Every text can be written, so no handler is asked. -/
def encode (text : Text) : Bytes :=
  let basic := text.filter CodePoint.isAscii
  let others := (text.filter fun c => !c.isAscii).eraseDups.mergeSort fun a b => a.val ≤ b.val
  let digits := writeDeltas 72 true basic.length (deltas text 128 0 others)
  if basic.isEmpty then digits else (basic.map fun c => UInt8.ofNat c.val) ++ 45 :: digits

/-! ## Reading -/

/-- What is known between two insertions. -/
structure Insertion where
  /-- The text so far. -/
  text : Text
  /-- The code point that was inserted last. -/
  point : Nat
  /-- The slot behind it. -/
  slot : Nat
  /-- The bias of the next number. -/
  bias : Nat
  /-- Whether nothing was inserted yet. -/
  first : Bool

/-- Insert the next code point. One outside the code space becomes a question mark, unless that is
refused. -/
def Insertion.next (strict : Bool) (state : Insertion) (delta : Nat) : Except Fault Insertion :=
  let slots := state.text.length + 1
  let slot := (state.slot + delta) % slots
  let point := state.point + (state.slot + delta) / slots
  let inserted (c : CodePoint) : Insertion :=
    ⟨state.text.insertIdx slot c, c.val, slot + 1, adapt state.first slots delta, false⟩
  if h : point < 0x110000 then .ok (inserted ⟨point, h⟩)
  else if strict then
    .error (.refused ("Invalid character U+" ++ (Nat.toDigits 16 point).map CodePoint.ofChar))
  else .ok (inserted (CodePoint.ofChar '?'))

/-- Insert what the rest of the digits says. `number` is what the digits before `place` are worth.
Digits that make no number are refused, or end the text. -/
def insertAll (strict : Bool) (state : Insertion) (place weight number : Nat) :
    Text → Except Fault Text
  | [] =>
    if strict && place != 0 then .error (.refused "incomplete punicode string")
    else .ok state.text
  | c :: rest =>
    match digit? c with
    | none =>
      if strict then .error (.refused ("Invalid extended code point '" ++ [c] ++ "'"))
      else .ok state.text
    | some worth =>
      let limit := threshold state.bias place
      let number := number + worth * weight
      if worth < limit then do insertAll strict (← state.next strict number) 0 1 0 rest
      else insertAll strict state (place + 1) (weight * (36 - limit)) number rest

/-- Insert into a basic text what digits say. -/
def decode (strict : Bool) (basic digits : Text) : Except Fault Text :=
  insertAll strict ⟨basic, 128, 0, 72, true⟩ 0 1 0 digits

/-- The bytes before the last hyphen, if there is one, and those behind it. -/
def split (data : Bytes) : Bytes × Bytes :=
  let digits := (data.reverse.takeWhile (· != 45)).reverse
  (data.take (data.length - digits.length - 1), digits)

end WideColumn.Charset.Punycode
