import WideColumn.Bytes

/-!
# Regular expressions over bytes

The syntax of patterns, and the range of lengths that a pattern can match. A pattern is a sequence
of items; the items of a group or of an alternative are such sequences again.
-/
namespace WideColumn.Pattern

/-- Options of matching and reading. -/
inductive Flag where
  /-- Letters match regardless of case. -/
  | ignoreCase
  /-- Classes follow the locale. -/
  | locale
  /-- Line anchors match at every line. -/
  | multiline
  /-- The dot matches newlines too. -/
  | dotAll
  /-- Blanks and comments in the pattern are skipped. -/
  | verbose
  /-- Classes are those of ASCII. -/
  | ascii
  /-- Repeats are refused. -/
  | template
  /-- Classes are those of Unicode; refused for bytes. -/
  | unicode
deriving DecidableEq

/-- The letter of a flag. -/
def Flag.ofLetter? (byte : UInt8) : Option Flag :=
  match Char.ofNat byte.toNat with
  | 'i' => some .ignoreCase
  | 'L' => some .locale
  | 'm' => some .multiline
  | 's' => some .dotAll
  | 'x' => some .verbose
  | 'a' => some .ascii
  | 't' => some .template
  | 'u' => some .unicode
  | _ => none

/-- Flags of which only one can hold. -/
def Flag.isExclusive : Flag → Bool
  | .ascii | .locale | .unicode => true
  | _ => false

/-- The flags inside a group that turns some on and others off. One that excludes others takes their
place. -/
def Flag.within (flags on off : List Flag) : List Flag :=
  let outer := if on.any isExclusive then flags.filter fun flag => !flag.isExclusive else flags
  (outer ++ on).filter fun flag => !off.contains flag

/-- Classes of bytes. -/
inductive Category where
  /-- Decimal digits. -/
  | digit
  /-- Blanks. -/
  | space
  /-- Letters, digits and the underscore. -/
  | word
deriving DecidableEq

/-- Whether a byte belongs to a class. -/
def Category.holds (category : Category) (byte : UInt8) : Bool :=
  match category with
  | .digit => 48 ≤ byte && byte ≤ 57
  | .space => byte == 32 || (9 ≤ byte && byte ≤ 13)
  | .word =>
    (48 ≤ byte && byte ≤ 57) || (65 ≤ byte && byte ≤ 90) || (97 ≤ byte && byte ≤ 122) ||
      byte == 95

/-- A member of a set. -/
inductive Member where
  /-- One byte. -/
  | literal (byte : UInt8)
  /-- The bytes between two ends. -/
  | range (low high : UInt8)
  /-- A class or its complement. -/
  | category (category : Category) (negated : Bool)
deriving DecidableEq

/-- Places that match without taking bytes. -/
inductive Anchor where
  /-- The start, or the start of a line. -/
  | start
  /-- The end, before a final newline too, or the end of a line. -/
  | stop
  /-- The start of the data. -/
  | dataStart
  /-- The end of the data. -/
  | dataStop
  /-- A place between a word byte and another. -/
  | boundary
  /-- A place that is no boundary. -/
  | notBoundary
deriving DecidableEq

/-- How a repeat chooses its count. -/
inductive Greed where
  /-- As many as possible first. -/
  | greedy
  /-- As few as possible first. -/
  | lazy
  /-- As many as possible and no fewer. -/
  | possessive
deriving DecidableEq

/-- The name of a repeat as an operator. -/
def Greed.operator : Greed → String
  | greedy => "MAX_REPEAT"
  | lazy => "MIN_REPEAT"
  | possessive => "POSSESSIVE_REPEAT"

/-- The least and the greatest number of bytes something can take. -/
structure Width where
  /-- The least number. -/
  low : Nat
  /-- The greatest number, or the cap. -/
  high : Nat
deriving DecidableEq

/-- One item of a pattern. -/
inductive Item where
  /-- One byte. -/
  | literal (byte : UInt8)
  /-- Any byte but one. -/
  | notLiteral (byte : UInt8)
  /-- Any byte, newlines only if they are allowed. -/
  | any
  /-- A byte of a set or of its complement. -/
  | set (negated : Bool) (members : List Member)
  /-- A place. -/
  | anchor (anchor : Anchor)
  /-- A group, captured if it has an index, with flags turned on and off inside. -/
  | group (index : Option Nat) (on off : List Flag) (body : List Item)
  /-- A group that is not entered again once it has matched. -/
  | atomic (body : List Item)
  /-- A repeat. -/
  | loop (greed : Greed) (min : Nat) (max : Option Nat) (body : List Item)
  /-- A choice between sequences, tried in order. -/
  | choice (alternatives : List (List Item))
  /-- What a group captured last. -/
  | backref (index : Nat)
  /-- A look ahead without taking bytes, or a look behind at texts of the given width. -/
  | look (behind : Option Width) (negated : Bool) (body : List Item)
  /-- One of two sequences, by whether a group has captured. -/
  | condition (index : Nat) (yes no : List Item)

/-- Widths are capped here. -/
def maxWidth : Nat := Nat.pow 2 64

mutual

/-- The width of an item, given the widths of the groups before it. -/
def Item.width (groups : List (Option Width)) : Item → Width
  | .literal _ | .notLiteral _ | .any | .set .. => ⟨1, 1⟩
  | .anchor _ | .look .. => ⟨0, 0⟩
  | .group _ _ _ body | .atomic body => widthAll groups body
  | .loop _ min max body =>
    let width := widthAll groups body
    let high :=
      match max with
      | some max => width.high * max
      | none => if width.high = 0 then 0 else maxWidth
    ⟨width.low * min, high⟩
  | .choice alternatives => widthAny groups alternatives
  | .backref index => ((groups[index]?).join).getD ⟨0, 0⟩
  | .condition _ yes no =>
    let left := widthAll groups yes
    let right := widthAll groups no
    ⟨min left.low right.low, max left.high right.high⟩

/-- The width of a sequence. -/
def widthAll (groups : List (Option Width)) : List Item → Width
  | [] => ⟨0, 0⟩
  | item :: rest =>
    let head := item.width groups
    let tail := widthAll groups rest
    ⟨min (head.low + tail.low) maxWidth, min (head.high + tail.high) maxWidth⟩

/-- The width of a choice. -/
def widthAny (groups : List (Option Width)) : List (List Item) → Width
  | [] => ⟨maxWidth, 0⟩
  | sequence :: rest =>
    let head := widthAll groups sequence
    let tail := widthAny groups rest
    ⟨min head.low tail.low, max head.high tail.high⟩

end

end WideColumn.Pattern
