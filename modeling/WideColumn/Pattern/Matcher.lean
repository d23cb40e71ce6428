import WideColumn.Pattern.Syntax

/-!
# Matching

A pattern means a search for one way of going on: given a place in the data and what must follow, it
gives the first success in the order of preference, or none. Alternatives go from left to right,
greedy repeats take another round before they stop and lazy ones stop first. A round of a repeat
that takes no bytes is not followed by a further one.
-/
namespace WideColumn.Pattern

/-- A place in the data, with what the groups have captured. -/
structure Place where
  /-- The bytes before the place, nearest first. -/
  back : Bytes
  /-- The bytes from the place on. -/
  rest : Bytes
  /-- The captured bytes of groups, by index. -/
  groups : List (Nat × Bytes)

/-- The number of bytes before a place. -/
def Place.offset (place : Place) : Nat := place.back.length

/-- Move over one byte if it passes a test. -/
def Place.step (place : Place) (test : UInt8 → Bool) : Option Place :=
  match place.rest with
  | [] => none
  | byte :: rest =>
    if test byte then some { place with back := byte :: place.back, rest } else none

/-- Move over the given bytes, compared under a key. -/
def Place.skip (key : UInt8 → UInt8) : Bytes → Place → Option Place
  | [], place => some place
  | byte :: bytes, place =>
    (place.step fun other => key other == key byte).bind (skip key bytes)

/-- Move back over a number of bytes. -/
def Place.retreat : Nat → Place → Option Place
  | 0, place => some place
  | n + 1, place =>
    match place.back with
    | [] => none
    | byte :: back => retreat n { place with back, rest := byte :: place.rest }

/-- What must follow a place. -/
abbrev Continuation := Place → Option Place

/-- The meaning of a pattern. -/
abbrev Machine := Place → Continuation → Option Place

/-- Take one byte that passes a test. -/
def take (test : UInt8 → Bool) : Machine := fun place next => (place.step test).bind next

/-- Whether a repeat may take another round. -/
def mayContinue (max : Option Nat) (count : Nat) (last : Option Nat) (place : Place) : Bool :=
  (match max with
    | some max => count < max
    | none => true) && last != some place.offset

/-- Rounds of a greedy repeat. `count` rounds are done and the last optional one began at `last`. -/
def greedy (body : Machine) (min : Nat) (max : Option Nat) :
    (fuel count : Nat) → (last : Option Nat) → Machine
  | 0, _, _ => fun _ _ => none
  | fuel + 1, count, last => fun place next =>
    if count < min then body place fun after => greedy body min max fuel (count + 1) last after next
    else if mayContinue max count last place then
      (body place fun after =>
        greedy body min max fuel (count + 1) (some place.offset) after next) <|> next place
    else next place

/-- Rounds of a lazy repeat. -/
def lazy (body : Machine) (min : Nat) (max : Option Nat) :
    (fuel count : Nat) → (last : Option Nat) → Machine
  | 0, _, _ => fun _ _ => none
  | fuel + 1, count, last => fun place next =>
    if count < min then body place fun after => lazy body min max fuel (count + 1) last after next
    else
      next place <|>
        (if mayContinue max count last place then
          body place fun after => lazy body min max fuel (count + 1) (some place.offset) after next
        else none)

/-- Rounds of a possessive repeat: each round is settled by itself. -/
def possessive (body : Machine) (min : Nat) (max : Option Nat) :
    (fuel count : Nat) → (last : Option Nat) → Place → Option Place
  | 0, _, _ => fun _ => none
  | fuel + 1, count, last => fun place =>
    if count < min then
      (body place some).bind (possessive body min max fuel (count + 1) last)
    else if mayContinue max count last place then
      match body place some with
      | some after => possessive body min max fuel (count + 1) (some place.offset) after
      | none => some place
    else some place

/-- A bound on the rounds of a repeat: those required, and two for each byte that is left. -/
def rounds (min : Nat) (place : Place) : Nat := min + 2 * place.rest.length + 3

/-- Whether a byte is a word byte. -/
def isWord (byte : Option UInt8) : Bool := byte.any Category.word.holds

/-- Whether a place lies between a word byte and another; an empty text has no boundaries. -/
def Place.isBoundary (place : Place) : Bool := isWord place.back.head? != isWord place.rest.head?

/-- Whether an anchor holds at a place. -/
def Anchor.holds (anchor : Anchor) (flags : List Flag) (place : Place) : Bool :=
  match anchor with
  | .start =>
    place.back.isEmpty || (flags.contains .multiline && place.back.head? == some 10)
  | .stop =>
    place.rest.isEmpty || place.rest == [10] ||
      (flags.contains .multiline && place.rest.head? == some 10)
  | .dataStart => place.back.isEmpty
  | .dataStop => place.rest.isEmpty
  | .boundary => place.isBoundary
  | .notBoundary => !(place.back.isEmpty && place.rest.isEmpty) && !place.isBoundary

/-- How bytes are compared under the flags. -/
def caseKey (flags : List Flag) : UInt8 → UInt8 :=
  if flags.contains .ignoreCase then Bytes.lowerByte else id

/-- Whether a byte, given by its key, belongs to a member of a set. The only other byte with the
same key is the capital 32 below. -/
def Member.holds (key : UInt8 → UInt8) (byte : UInt8) : Member → Bool
  | .literal other => key other == byte
  | .range low high =>
    let inside (other : UInt8) : Bool := low ≤ other && other ≤ high
    inside byte || (key (byte - 32) == byte && inside (byte - 32))
  | .category kind negated => kind.holds byte != negated

/-- The capital of a small letter of ASCII; any other byte stands for itself. -/
def upperByte (byte : UInt8) : UInt8 := if 97 ≤ byte ∧ byte ≤ 122 then byte - 32 else byte

/-- Whether a byte is matched by a set. Regardless of case, the byte counts by its key; where the
locale decides about cases, either of its forms will do, even if the set is a complement. -/
def setHolds (flags : List Flag) (negated : Bool) (members : List Member) (byte : UInt8) : Bool :=
  let holds (key : UInt8 → UInt8) (byte : UInt8) : Bool :=
    (members.any fun member => member.holds key byte) != negated
  if flags.contains .ignoreCase && flags.contains .locale then
    holds id (Bytes.lowerByte byte) || holds id (upperByte byte)
  else holds (caseKey flags) (caseKey flags byte)

/-- Run a pattern by itself and settle its first success. -/
def settle (machine : Machine) (place : Place) : Option Place := machine place some

mutual

/-- The meaning of an item. -/
def Item.machine (flags : List Flag) : Item → Machine
  | .literal byte => take fun other => caseKey flags other == caseKey flags byte
  | .notLiteral byte => take fun other => caseKey flags other != caseKey flags byte
  | .any => take fun byte => flags.contains .dotAll || byte != 10
  | .set negated members => take (setHolds flags negated members)
  | .anchor anchor => fun place next => if anchor.holds flags place then next place else none
  | .group index on off body =>
    let inner := machineAll (Flag.within flags on off) body
    match index with
    | none => inner
    | some index => fun place next =>
      inner place fun after =>
        let captured := (after.back.take (after.offset - place.offset)).reverse
        next { after with groups := (index, captured) :: after.groups }
  | .atomic body =>
    let inner := machineAll flags body
    fun place next => (settle inner place).bind next
  | .loop greed min max body =>
    let inner := machineAll flags body
    match greed with
    | .greedy => fun place next => greedy inner min max (rounds min place) 0 none place next
    | .lazy => fun place next => lazy inner min max (rounds min place) 0 none place next
    | .possessive => fun place next =>
      (possessive inner min max (rounds min place) 0 none place).bind next
  | .choice alternatives => machineAny flags alternatives
  | .backref index => fun place next =>
    match place.groups.lookup index with
    | some captured => (place.skip (caseKey flags) captured).bind next
    | none => none
  | .look behind negated body =>
    let inner := machineAll flags body
    fun place next =>
      let found := (place.retreat (behind.elim 0 Width.low)).bind (settle inner)
      if negated then if found.isSome then none else next place
      else
        match found with
        | some after => next { place with groups := after.groups }
        | none => none
  | .condition index yes no =>
    let left := machineAll flags yes
    let right := machineAll flags no
    fun place next =>
      if (place.groups.lookup index).isSome then left place next else right place next

/-- The meaning of a sequence. -/
def machineAll (flags : List Flag) : List Item → Machine
  | [] => fun place next => next place
  | item :: rest =>
    let head := item.machine flags
    let tail := machineAll flags rest
    fun place next => head place fun after => tail after next

/-- The meaning of a choice. -/
def machineAny (flags : List Flag) : List (List Item) → Machine
  | [] => fun _ _ => none
  | sequence :: rest =>
    let head := machineAll flags sequence
    let tail := machineAny flags rest
    fun place next => head place next <|> tail place next

end

/-- Whether a machine succeeds at some place from here on. -/
def searchFrom (machine : Machine) (back : Bytes) : Bytes → Bool
  | [] => (machine ⟨back, [], []⟩ some).isSome
  | byte :: rest =>
    (machine ⟨back, byte :: rest, []⟩ some).isSome || searchFrom machine (byte :: back) rest

end WideColumn.Pattern
