import WideColumn.Text.Quoted

/-!
# Pattern faults

Why a pattern is no regular expression. A fault has a cause and, nearly always, a position in the
pattern. The message adds line and column when the pattern has more than one line.
-/
namespace WideColumn.Pattern

/-- What is wrong with a pattern. -/
inductive Cause where
  /-- A backslash with nothing after it. -/
  | escapeAtEnd
  /-- An escape with too few digits. -/
  | incompleteEscape (escape : Text)
  /-- An octal escape beyond a byte. -/
  | octalRange (escape : Text)
  /-- An escape without a meaning. -/
  | badEscape (escape : Text)
  /-- A reference to a group inside itself. -/
  | openGroup
  /-- A reference inside a lookbehind to a group of the same lookbehind. -/
  | lookbehindGroup
  /-- A reference to a group that does not exist. -/
  | groupReference (index : Nat)
  /-- A set without its closing bracket. -/
  | unterminatedSet
  /-- A range of a set whose ends are out of order or no single bytes. -/
  | badRange (low high : Text)
  /-- A repeat whose bounds are out of order. -/
  | minAboveMax
  /-- A repeat bound that is too large. -/
  | hugeRepeat
  /-- A number with more digits than are read. -/
  | hugeNumber (digits : Nat)
  /-- A repeat with nothing before it. -/
  | nothingToRepeat
  /-- A repeat of a repeat. -/
  | multipleRepeat
  /-- The pattern ends inside a construct. -/
  | endOfPattern
  /-- A name that is not there. -/
  | missingName
  /-- A name without its end. -/
  | unterminatedName (terminator : Char)
  /-- A name that is no identifier. -/
  | nameCharacter (name : Text)
  /-- A reference to a name that does not exist. -/
  | unknownName (name : Text)
  /-- A name given twice. -/
  | redefinedName (name : Text) (index former : Nat)
  /-- A construct that does not exist. -/
  | unknownExtension (construct : Text)
  /-- A comment without its end. -/
  | unterminatedComment
  /-- A group without its end. -/
  | unterminatedGroup
  /-- A condition with more than two alternatives. -/
  | conditionBranches
  /-- A condition on group zero. -/
  | badGroupNumber
  /-- Flags for the whole pattern that do not stand at its start. -/
  | lateFlags
  /-- Something wrong with inline flags. -/
  | inlineFlags (detail : String)
  /-- A letter that is no flag. -/
  | unknownFlag
  /-- Something missing after inline flags. -/
  | missingAfterFlags (what : String)
  /-- Flags of the whole pattern that exclude each other. -/
  | incompatibleFlags
  /-- A closing parenthesis without its group. -/
  | unbalanced
  /-- A lookbehind over texts of different lengths. -/
  | variableLookbehind
  /-- A lookbehind over texts that are too long. -/
  | farLookbehind
  /-- A repeat in a template. -/
  | templateRepeat (operator : String)
deriving DecidableEq

/-- The message of a cause, before the position is added. -/
def Cause.message : Cause → Text
  | escapeAtEnd => "bad escape (end of pattern)"
  | incompleteEscape escape => "incomplete escape " ++ escape
  | octalRange escape => "octal escape value " ++ escape ++ " outside of range 0-0o377"
  | badEscape escape => "bad escape " ++ escape
  | openGroup => "cannot refer to an open group"
  | lookbehindGroup => "cannot refer to group defined in the same lookbehind subpattern"
  | groupReference index => "invalid group reference " ++ Text.ofNat index
  | unterminatedSet => "unterminated character set"
  | badRange low high => "bad character range " ++ low ++ "-" ++ high
  | minAboveMax => "min repeat greater than max repeat"
  | hugeRepeat => "the repetition number is too large"
  | hugeNumber digits =>
    "Exceeds the limit (4300 digits) for integer string conversion: value has " ++
      Text.ofNat digits ++ " digits; use sys.set_int_max_str_digits() to increase the limit"
  | nothingToRepeat => "nothing to repeat"
  | multipleRepeat => "multiple repeat"
  | endOfPattern => "unexpected end of pattern"
  | missingName => "missing group name"
  | unterminatedName terminator =>
    "missing " ++ [CodePoint.ofChar terminator] ++ ", unterminated name"
  | nameCharacter name => "bad character in group name " ++ name.quoted
  | unknownName name => "unknown group name " ++ name.quoted
  | redefinedName name index former =>
    "redefinition of group name " ++ name.quoted ++ " as group " ++ Text.ofNat index ++
      "; was group " ++ Text.ofNat former
  | unknownExtension construct => "unknown extension " ++ construct
  | unterminatedComment => "missing ), unterminated comment"
  | unterminatedGroup => "missing ), unterminated subpattern"
  | conditionBranches => "conditional backref with more than two branches"
  | badGroupNumber => "bad group number"
  | lateFlags => "global flags not at the start of the expression"
  | inlineFlags detail => "bad inline flags: " ++ detail
  | unknownFlag => "unknown flag"
  | missingAfterFlags what => "missing " ++ what
  | incompatibleFlags => "ASCII and LOCALE flags are incompatible"
  | unbalanced => "unbalanced parenthesis"
  | variableLookbehind => "look-behind requires fixed-width pattern"
  | farLookbehind => "looks too much behind"
  | templateRepeat operator => "internal: unsupported template operator " ++ operator

/-- A fault of a pattern. -/
structure Fault where
  /-- What is wrong. -/
  cause : Cause
  /-- Where, if the fault has a place. -/
  position : Option Nat
  /-- The pattern. -/
  pattern : Bytes
deriving DecidableEq

namespace Fault

/-- The kind of a fault. -/
inductive Family where
  /-- A pattern that is no regular expression. -/
  | pattern
  /-- A number too large. -/
  | overflow
  /-- Flags that exclude each other, or a number with too many digits. -/
  | value
deriving DecidableEq

/-- The kind of each fault. -/
def family (fault : Fault) : Family :=
  match fault.cause with
  | .hugeRepeat => .overflow
  | .incompatibleFlags | .hugeNumber _ => .value
  | _ => .pattern

/-- Replace code points beyond ASCII by their escapes. -/
def asciiOnly (text : Text) : Text :=
  text.flatMap fun c => if c.isAscii then [c] else c.escape

/-- Line and column of a position, both counted from one. -/
def place (pattern : Bytes) (position : Nat) : Nat × Nat :=
  let before := pattern.take position
  ((before.count 10) + 1, (before.reverse.takeWhile (· != 10)).length + 1)

/-- The whole message. -/
def message (fault : Fault) : Text :=
  let text := asciiOnly fault.cause.message
  match fault.position with
  | none => text
  | some position =>
    let placed := text ++ " at position " ++ Text.ofNat position
    if fault.pattern.elem 10 then
      let (line, column) := place fault.pattern position
      placed ++ " (line " ++ Text.ofNat line ++ ", column " ++ Text.ofNat column ++ ")"
    else placed

end Fault
end WideColumn.Pattern
