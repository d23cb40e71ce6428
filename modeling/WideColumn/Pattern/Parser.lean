import WideColumn.Pattern.Fault
import WideColumn.Pattern.Syntax

/-!
# Reading patterns

A pattern is read token by token, an escape being one token of two bytes. The reader keeps the
widths and names of the groups it has opened, for references back to them. Every round of every loop
takes a token or descends into a construct that took one, so four times the length of the pattern
bounds the depth of the reading.
-/
namespace WideColumn.Pattern

/-- One unit of a pattern. -/
inductive Token where
  /-- A byte. -/
  | plain (byte : UInt8)
  /-- A backslash and the byte after it. -/
  | escaped (byte : UInt8)
deriving DecidableEq

/-- The text of a token. -/
def Token.text : Token → Text
  | .plain byte => [CodePoint.ofByte byte]
  | .escaped byte => [CodePoint.ofByte 92, CodePoint.ofByte byte]

/-- Whether a token is the given character. -/
def Token.is (token : Token) (c : Char) : Bool := token == .plain (UInt8.ofNat c.toNat)

/-- What is known while a pattern is read. -/
structure ReaderState where
  /-- The whole pattern. -/
  pattern : Bytes
  /-- The bytes that are left. -/
  rest : Bytes
  /-- Flags of the whole pattern. -/
  flags : List Flag
  /-- Widths of the groups, `none` for the whole pattern and for open groups. -/
  widths : List (Option Width)
  /-- Names of groups. -/
  names : List (Text × Nat)
  /-- Inside a lookbehind, the number of groups that were open before it. -/
  lookbehind : Option Nat
  /-- Conditions on groups by number, and where they stand. -/
  conditions : List (Nat × Nat)

/-- A step of reading. -/
abbrev Reading := StateT ReaderState (Except Fault)

namespace Reading

/-- The place of the next token. -/
def position : Reading Nat := do
  let s ← get
  return s.pattern.length - s.rest.length

/-- Fail with a cause, `offset` bytes before the next token. -/
def refuse (cause : Cause) (offset : Nat) : Reading α := do
  let s ← get
  throw ⟨cause, some ((← position) - offset), s.pattern⟩

/-- Continue at the given bytes; a lone backslash is refused as soon as it comes next. -/
def moveTo (rest : Bytes) : Reading Unit := do
  let s ← get
  if rest = [92] then throw ⟨.escapeAtEnd, some (s.pattern.length - 1), s.pattern⟩
  else set { s with rest }

/-- The next token, if there is one. -/
def peek : Reading (Option Token) := do
  match (← get).rest with
  | [] => return none
  | 92 :: byte :: _ => return some (.escaped byte)
  | byte :: _ => return some (.plain byte)

/-- Take the next token, if there is one. -/
def next : Reading (Option Token) := do
  match (← get).rest with
  | [] => return none
  | 92 :: byte :: rest => moveTo rest; return some (.escaped byte)
  | byte :: rest => moveTo rest; return some (.plain byte)

/-- Take the given character if it comes next. -/
def accept (c : Char) : Reading Bool := do
  match ← peek with
  | some token => if token.is c then discard next; return true else return false
  | none => return false

/-- Take at most `count` bytes of a kind. -/
def takeWhile (kind : UInt8 → Bool) : (count : Nat) → Reading Bytes
  | 0 => return []
  | count + 1 => do
    match ← peek with
    | some (.plain byte) =>
      if kind byte then
        discard next
        return byte :: (← takeWhile kind count)
      else return []
    | _ => return []

/-- Take everything up to a terminator, and the terminator. -/
def takeUntil (terminator : Char) : (fuel : Nat) → (name : Text) → Reading Text
  | 0, name => return name
  | fuel + 1, name => do
    match ← next with
    | none =>
      if name.isEmpty then refuse .missingName 0
      else refuse (.unterminatedName terminator) name.length
    | some token =>
      if token.is terminator then
        if name.isEmpty then refuse .missingName 1 else return name
      else takeUntil terminator fuel (name ++ token.text)

/-- Take a name up to its terminator. -/
def name (terminator : Char) : Reading Text := do
  takeUntil terminator ((← get).rest.length + 1) []

end Reading

/-- Octal digits. -/
def isOctal (byte : UInt8) : Bool := 48 ≤ byte && byte ≤ 55

/-- Hexadecimal digits. -/
def isHex (byte : UInt8) : Bool :=
  Category.digit.holds byte || (65 ≤ byte && byte ≤ 70) || (97 ≤ byte && byte ≤ 102)

/-- ASCII letters. -/
def isLetter (byte : UInt8) : Bool := (65 ≤ byte && byte ≤ 90) || (97 ≤ byte && byte ≤ 122)

/-- The value of a digit. -/
def digitValue (byte : UInt8) : Nat :=
  if byte ≤ 57 then byte.toNat - 48 else if byte ≤ 70 then byte.toNat - 55 else byte.toNat - 87

/-- The value of digits in a base. -/
def digitsValue (base : Nat) (digits : Bytes) : Nat :=
  digits.foldl (fun value byte => value * base + digitValue byte) 0

/-- Letters of the first 256 code points beyond ASCII, the sign `µ` and the ordinals included. -/
def isHighLetter (n : Nat) : Bool :=
  n == 0xAA || n == 0xB5 || n == 0xBA || (0xC0 ≤ n && n != 0xD7 && n != 0xF7)

/-- Whether a code point can start an identifier. -/
def isNameStart (c : CodePoint) : Bool :=
  c.val == 95 || (65 ≤ c.val && c.val ≤ 90) || (97 ≤ c.val && c.val ≤ 122) || isHighLetter c.val

/-- Whether a name is an identifier. -/
def isIdentifier (name : Text) : Bool :=
  match name with
  | [] => false
  | c :: rest =>
    isNameStart c &&
      rest.all fun c => isNameStart c || (48 ≤ c.val && c.val ≤ 57) || c.val == 0xB7

/-- The bytes that common escapes stand for. -/
def escapedByte? (byte : UInt8) : Option UInt8 :=
  match Char.ofNat byte.toNat with
  | 'a' => some 7
  | 'b' => some 8
  | 'f' => some 12
  | 'n' => some 10
  | 'r' => some 13
  | 't' => some 9
  | 'v' => some 11
  | '\\' => some 92
  | _ => none

/-- The class that an escape stands for, and whether it is the complement. -/
def escapedCategory? (byte : UInt8) : Option (Category × Bool) :=
  match Char.ofNat byte.toNat with
  | 'd' => some (.digit, false)
  | 'D' => some (.digit, true)
  | 's' => some (.space, false)
  | 'S' => some (.space, true)
  | 'w' => some (.word, false)
  | 'W' => some (.word, true)
  | _ => none

/-- The place that an escape stands for. -/
def escapedAnchor? (byte : UInt8) : Option Anchor :=
  match Char.ofNat byte.toNat with
  | 'A' => some .dataStart
  | 'Z' => some .dataStop
  | 'b' => some .boundary
  | 'B' => some .notBoundary
  | _ => none

/-- The text of an escape with further digits. -/
def escapeText (byte : UInt8) (digits : Bytes) : Text :=
  (Token.escaped byte).text ++ Text.ofBytes digits

/-- The byte of a hexadecimal escape, whose letter has been taken. -/
def readHexEscape : Reading UInt8 := do
  let digits ← Reading.takeWhile isHex 2
  if digits.length = 2 then return UInt8.ofNat (digitsValue 16 digits)
  else Reading.refuse (.incompleteEscape (escapeText 120 digits)) (2 + digits.length)

/-- The byte of an octal escape with all its digits. -/
def octalByte (first : UInt8) (rest : Bytes) : Reading UInt8 := do
  let value := digitsValue 8 (first :: rest)
  if value ≤ 255 then return UInt8.ofNat value
  else Reading.refuse (.octalRange (escapeText first rest)) (2 + rest.length)

/-- An escape inside a set, already taken. -/
def readSetEscape (byte : UInt8) : Reading Member := do
  match escapedByte? byte, escapedCategory? byte with
  | some literal, _ => return .literal literal
  | none, some (category, negated) => return .category category negated
  | none, none =>
    if byte = 120 then return .literal (← readHexEscape)
    else if isOctal byte then
      return .literal (← octalByte byte (← Reading.takeWhile isOctal 2))
    else if Category.digit.holds byte || isLetter byte then
      Reading.refuse (.badEscape (escapeText byte [])) 2
    else return .literal byte

/-- Check a reference to a group from inside a lookbehind. -/
def checkLookbehind (index : Nat) : Reading Unit := do
  let s ← get
  match s.lookbehind with
  | none => return
  | some outside =>
    if (s.widths[index]?).join.isNone then Reading.refuse .openGroup 0
    if outside ≤ index then Reading.refuse .lookbehindGroup 0

/-- A reference to a group by number, whose escape took `width` bytes. -/
def readReference (index width : Nat) : Reading Item := do
  let s ← get
  if index < s.widths.length then
    if (s.widths[index]?).join.isNone then Reading.refuse .openGroup width
    checkLookbehind index
    return .backref index
  else Reading.refuse (.groupReference index) (width - 1)

/-- An escape outside sets, already taken. -/
def readEscape (byte : UInt8) : Reading Item := do
  match escapedAnchor? byte, escapedCategory? byte, escapedByte? byte with
  | some anchor, _, _ => return .anchor anchor
  | none, some (category, negated), _ => return .set false [.category category negated]
  | none, none, some literal => return .literal literal
  | none, none, none =>
    if byte = 120 then return .literal (← readHexEscape)
    else if byte = 48 then
      return .literal (UInt8.ofNat (digitsValue 8 (← Reading.takeWhile isOctal 2)))
    else if Category.digit.holds byte then
      match ← Reading.takeWhile Category.digit.holds 1 with
      | [second] =>
        if isOctal byte && isOctal second then
          match ← Reading.takeWhile isOctal 1 with
          | [third] => return .literal (← octalByte byte [second, third])
          | _ => readReference (digitsValue 10 [byte, second]) 3
        else readReference (digitsValue 10 [byte, second]) 3
      | _ => readReference (digitsValue 10 [byte]) 2
    else if isLetter byte then Reading.refuse (.badEscape (escapeText byte [])) 2
    else return .literal byte

/-- The member that a token of a set stands for. -/
def readMember (token : Token) : Reading Member := do
  match token with
  | .plain byte => return .literal byte
  | .escaped byte => readSetEscape byte

/-- The members of a set up to its bracket. `start` is the place of the opening bracket, and the
members read so far come last first. -/
def readMembers (start : Nat) : (fuel : Nat) → List Member → Reading (List Member)
  | 0, members => return members
  | fuel + 1, members => do
    let unterminated : Reading (List Member) := do
      Reading.refuse .unterminatedSet ((← Reading.position) - start)
    match ← Reading.next with
    | none => unterminated
    | some token =>
      if token.is ']' && !members.isEmpty then return members.reverse
      else
        let low ← readMember token
        if ← Reading.accept '-' then
          match ← Reading.next with
          | none => unterminated
          | some other =>
            if other.is ']' then return (low :: members).reverse ++ [.literal 45]
            else
              let high ← readMember other
              let bad : Reading (List Member) :=
                Reading.refuse (.badRange token.text other.text)
                  (token.text.length + 1 + other.text.length)
              match low, high with
              | .literal a, .literal b =>
                if b < a then bad else readMembers start fuel (.range a b :: members)
              | _, _ => bad
        else readMembers start fuel (low :: members)

/-- Drop repeated members, keeping the first of each. -/
def distinct : List Member → List Member
  | [] => []
  | member :: rest => member :: (distinct rest).filter (· != member)

/-- A set whose opening bracket has been taken. -/
def readSet : Reading Item := do
  let start := (← Reading.position) - 1
  let negated ← Reading.accept '^'
  let members ← readMembers start ((← get).rest.length + 1) []
  match distinct members, negated with
  | [.literal byte], false => return .literal byte
  | [.literal byte], true => return .notLiteral byte
  | members, _ => return .set negated members

/-- What a repeat sign asks for. -/
inductive RepeatSign where
  /-- Bounds on the count. -/
  | bounds (min : Nat) (max : Option Nat)
  /-- A brace that stands for itself. -/
  | literal

/-- Counts from here on are too large. -/
def countLimit : Nat := 4294967295

/-- Numbers with more digits are not read. -/
def digitLimit : Nat := 4300

/-- A bound of a repeat by its digits. -/
def readBound (digits : Bytes) : Reading Nat := do
  let s ← get
  if digitLimit < digits.length then throw ⟨.hugeNumber digits.length, none, s.pattern⟩
  else if countLimit ≤ digitsValue 10 digits then throw ⟨.hugeRepeat, none, s.pattern⟩
  else return digitsValue 10 digits

/-- The bounds after an opening brace; anything but a proper pair of bounds makes the brace stand
for itself. `here` is the place after the brace. -/
def readBounds (here : Nat) : Reading RepeatSign := do
  let s ← get
  if (← Reading.peek) == some (.plain 125) then return .literal
  let fuel := s.rest.length
  let low ← Reading.takeWhile Category.digit.holds fuel
  let high ← if ← Reading.accept ',' then Reading.takeWhile Category.digit.holds fuel else pure low
  if !(← Reading.accept '}') then
    Reading.moveTo s.rest
    return .literal
  let min ← if low.isEmpty then pure 0 else readBound low
  if high.isEmpty then return .bounds min none
  else
    let max ← readBound high
    if max < min then Reading.refuse .minAboveMax ((← Reading.position) - here)
    else return .bounds min (some max)

/-- What a repeat repeats: the last of the items read so far, which come last first. `width` is the
number of bytes of the repeat sign. -/
def repeated (items : List Item) (width : Nat) : Reading (List Item) := do
  match items with
  | [] | .anchor _ :: _ => Reading.refuse .nothingToRepeat width
  | .loop .. :: _ => Reading.refuse .multipleRepeat width
  | .group none [] [] body :: _ => return body
  | item :: _ => return [item]

/-- Whether a byte counts as a letter in the texts about flags. -/
def Token.isLetter : Token → Bool
  | .plain byte => Pattern.isLetter byte || isHighLetter byte.toNat
  | .escaped _ => false

/-- The flag of a token. -/
def Token.flag? : Token → Option Flag
  | .plain byte => Flag.ofLetter? byte
  | .escaped _ => none

/-- The flags turned on, from the given first one: the flags and the character that ends them. -/
def readFlagsOn : (fuel : Nat) → Flag → List Flag → Reading (List Flag × Token)
  | 0, _, on => return (on, .plain 41)
  | fuel + 1, flag, on => do
    if flag = .unicode then
      Reading.refuse (.inlineFlags "cannot use 'u' flag with a bytes pattern") 0
    let on := if on.contains flag then on else on ++ [flag]
    if flag.isExclusive && on.any fun other => other.isExclusive && other != flag then
      Reading.refuse (.inlineFlags "flags 'a', 'u' and 'L' are incompatible") 0
    match ← Reading.next with
    | none => Reading.refuse (.missingAfterFlags "-, : or )") 0
    | some token =>
      if token.is ')' || token.is '-' || token.is ':' then return (on, token)
      else
        match token.flag? with
        | some flag => readFlagsOn fuel flag on
        | none =>
          Reading.refuse (if token.isLetter then .unknownFlag else .missingAfterFlags "-, : or )")
            token.text.length

/-- The flags turned off, from the given first one up to the colon. -/
def readFlagsOff : (fuel : Nat) → Flag → List Flag → Reading (List Flag)
  | 0, _, off => return off
  | fuel + 1, flag, off => do
    if flag.isExclusive then
      Reading.refuse (.inlineFlags "cannot turn off flags 'a', 'u' and 'L'") 0
    let off := if off.contains flag then off else off ++ [flag]
    match ← Reading.next with
    | none => Reading.refuse (.missingAfterFlags ":") 0
    | some token =>
      if token.is ':' then return off
      else
        match token.flag? with
        | some flag => readFlagsOff fuel flag off
        | none =>
          Reading.refuse (if token.isLetter then .unknownFlag else .missingAfterFlags ":")
            token.text.length

/-- Inline flags, from a token that is a flag or a minus sign: the flags of a group, or `none` for
flags of the whole pattern. -/
def readFlags (first : Token) : Reading (Option (List Flag × List Flag)) := do
  let fuel := (← get).rest.length + 2
  let (on, stop) ←
    match first.flag? with
    | some flag => readFlagsOn fuel flag []
    | none => pure ([], first)
  if stop.is ')' then
    modify fun s => { s with flags := s.flags ++ on.filter fun flag => !s.flags.contains flag }
    return none
  if on.contains .template then
    Reading.refuse (.inlineFlags "cannot turn on global flag") 1
  let off ←
    if stop.is '-' then
      match ← Reading.next with
      | none => Reading.refuse (.missingAfterFlags "flag") 0
      | some token =>
        match token.flag? with
        | some flag => readFlagsOff fuel flag []
        | none =>
          Reading.refuse (if token.isLetter then .unknownFlag else .missingAfterFlags "flag")
            token.text.length
    else pure []
  if off.contains .template then
    Reading.refuse (.inlineFlags "cannot turn off global flag") 1
  if on.any off.contains then Reading.refuse (.inlineFlags "flag turned on and off") 1
  return some (on, off)

/-- Refuse a name that is no identifier; the terminator after it has been taken. -/
def checkName (name : Text) : Reading Unit := do
  if !isIdentifier name then Reading.refuse (.nameCharacter name) (name.length + 1)

/-- Whether a code point of a name is a blank that may stand around a number. -/
def isNumberBlank (c : CodePoint) : Bool :=
  c.val == 32 || (9 ≤ c.val && c.val ≤ 13) || c.val == 0x85 || c.val == 0xA0

/-- Whether a code point is a decimal digit of ASCII. -/
def isNumberDigit (c : CodePoint) : Bool := 48 ≤ c.val && c.val ≤ 57

/-- The digits of a number, between which single underscores may stand. -/
def numberDigits? : Text → Option Text
  | [] => none
  | [c] => if isNumberDigit c then some [c] else none
  | c :: d :: rest =>
    if !isNumberDigit c then none
    else if d.val = 95 then (numberDigits? rest).map (c :: ·)
    else (numberDigits? (d :: rest)).map (c :: ·)

/-- The number that a name stands for, which may have blanks around it and a sign in front. There is
none if it is below zero or has too many digits. -/
def nameNumber? (name : Text) : Option Nat := do
  let trimmed := ((name.dropWhile isNumberBlank).reverse.dropWhile isNumberBlank).reverse
  let sign := trimmed.head?.map (·.val)
  let digits ← numberDigits? (if sign = some 43 ∨ sign = some 45 then trimmed.drop 1 else trimmed)
  let number := digits.foldl (fun value c => value * 10 + (c.val - 48)) 0
  if digitLimit < digits.length ∨ (sign = some 45 ∧ number ≠ 0) then none else some number

/-- Groups from here on there cannot be. -/
def groupLimit : Nat := 1073741823

/-- The group that a condition is about; the parenthesis after its name has been taken. -/
def readCondition (name : Text) : Reading Nat := do
  let s ← get
  let offset := name.length + 1
  if isIdentifier name then
    match s.names.lookup name with
    | some index => return index
    | none => Reading.refuse (.unknownName name) offset
  else
    match nameNumber? name with
    | none => Reading.refuse (.nameCharacter name) offset
    | some 0 => Reading.refuse .badGroupNumber offset
    | some index =>
      if groupLimit ≤ index then Reading.refuse (.groupReference index) offset
      let place := (← Reading.position) - offset
      modify fun s =>
        if (s.conditions.lookup index).isSome then s
        else { s with conditions := s.conditions ++ [(index, place)] }
      return index

/-- Open a group: its index, with its name on record. -/
def openGroup (name : Option Text) : Reading Nat := do
  let s ← get
  let index := s.widths.length
  set { s with widths := s.widths ++ [none] }
  match name with
  | none => return index
  | some name =>
    match s.names.lookup name with
    | some former => Reading.refuse (.redefinedName name index former) (name.length + 1)
    | none =>
      modify fun s => { s with names := (name, index) :: s.names }
      return index

/-- Close a group: its width is known from here on. -/
def closeGroup (index : Nat) (body : List Item) : Reading Unit :=
  modify fun s => { s with widths := s.widths.set index (some (widthAll s.widths body)) }

/-- Require the closing parenthesis of a group that starts at `start`. -/
def closeParenthesis (start : Nat) : Reading Unit := do
  if !(← Reading.accept ')') then
    Reading.refuse .unterminatedGroup ((← Reading.position) - start)

/-- Skip a comment up to its parenthesis. -/
def skipComment (start : Nat) : (fuel : Nat) → Reading Unit
  | 0 => return
  | fuel + 1 => do
    match ← Reading.next with
    | none => Reading.refuse .unterminatedComment ((← Reading.position) - start)
    | some token => if token.is ')' then return else skipComment start fuel

/-- Skip the rest of a line. -/
def skipLine : (fuel : Nat) → Reading Unit
  | 0 => return
  | fuel + 1 => do
    match ← Reading.next with
    | none => return
    | some token => if token == .plain 10 then return else skipLine fuel

/-- What an opening parenthesis leads to. -/
inductive Opening where
  /-- Nothing: a comment or flags of the whole pattern. -/
  | nothing
  /-- Flags of the whole pattern. -/
  | globalFlags
  /-- A finished item. -/
  | item (item : Item)
  /-- A look ahead or behind. -/
  | look (behind negated : Bool)
  /-- A condition on a group. -/
  | condition (index : Nat)
  /-- A group to capture, with its name. -/
  | capture (name : Option Text)
  /-- A group without an index, with its flags. -/
  | group (on off : List Flag)
  /-- A group that is not entered again. -/
  | atomic

/-- What stands after `(?P`. -/
def readNamed : Reading Opening := do
  if ← Reading.accept '<' then
    let name ← Reading.name '>'
    checkName name
    return .capture (some name)
  else if ← Reading.accept '=' then
    let name ← Reading.name ')'
    checkName name
    let s ← get
    match s.names.lookup name with
    | none => Reading.refuse (.unknownName name) (name.length + 1)
    | some index =>
      if (s.widths[index]?).join.isNone then Reading.refuse .openGroup (name.length + 1)
      checkLookbehind index
      return .item (.backref index)
  else
    match ← Reading.next with
    | none => Reading.refuse .endOfPattern 0
    | some token =>
      Reading.refuse (.unknownExtension ("?P" ++ token.text)) (token.text.length + 2)

/-- What stands after an opening parenthesis at `start`. -/
def readOpening (start : Nat) : Reading Opening := do
  if !(← Reading.accept '?') then return .capture none
  match ← Reading.next with
  | none => Reading.refuse .endOfPattern 0
  | some token =>
    if token.is 'P' then readNamed
    else if token.is ':' then return .group [] []
    else if token.is '#' then
      skipComment start ((← get).rest.length + 1)
      return .nothing
    else if token.is '=' then return .look false false
    else if token.is '!' then return .look false true
    else if token.is '<' then
      match ← Reading.next with
      | none => Reading.refuse .endOfPattern 0
      | some token =>
        if token.is '=' then return .look true false
        else if token.is '!' then return .look true true
        else Reading.refuse (.unknownExtension ("?<" ++ token.text)) (token.text.length + 2)
    else if token.is '(' then
      let index ← readCondition (← Reading.name ')')
      checkLookbehind index
      return .condition index
    else if token.is '>' then return .atomic
    else if token.flag?.isSome || token.is '-' then
      match ← readFlags token with
      | none => return .globalFlags
      | some (on, off) => return .group on off
    else Reading.refuse (.unknownExtension ("?" ++ token.text)) (token.text.length + 1)

/-- The greed of a repeat, by the sign after it. -/
def readGreed : Reading Greed := do
  if ← Reading.accept '?' then return .lazy
  else if ← Reading.accept '+' then return .possessive
  else return .greedy

/-- Replace the groups that neither capture nor set flags by their items. -/
def flatten : List Item → List Item
  | [] => []
  | .group none [] [] body :: rest => body ++ flatten rest
  | item :: rest => item :: flatten rest

mutual

/-- A choice between sequences. `outer` says that it is the whole pattern. -/
def readChoice (verbose outer : Bool) : (fuel : Nat) → Reading (List Item)
  | 0 => return []
  | fuel + 1 => do
    let first ← readSequence verbose outer fuel []
    if (← Reading.peek) == some (.plain 124) then
      let others ← readAlternatives verbose outer fuel
      return [.choice (first :: others)]
    else return first

/-- The alternatives after the first one. -/
def readAlternatives (verbose outer : Bool) : (fuel : Nat) → Reading (List (List Item))
  | 0 => return []
  | fuel + 1 => do
    if ← Reading.accept '|' then
      let s ← get
      let verbose := if outer then s.flags.contains .verbose else verbose
      let sequence ← readSequence verbose false fuel []
      return sequence :: (← readAlternatives verbose outer fuel)
    else return []

/-- A sequence of items; those read so far come last first. `first` says that it starts the pattern,
where flags of the whole pattern may stand. -/
def readSequence (verbose first : Bool) : (fuel : Nat) → List Item → Reading (List Item)
  | 0, items => return flatten items.reverse
  | fuel + 1, items => do
    match ← Reading.peek with
    | none => return flatten items.reverse
    | some token =>
      if token.is '|' || token.is ')' then return flatten items.reverse
      let start ← Reading.position
      discard Reading.next
      let continueWith (items : List Item) : Reading (List Item) :=
        readSequence verbose first fuel items
      match token with
      | .escaped byte => continueWith ((← readEscape byte) :: items)
      | .plain byte =>
        if verbose && Category.space.holds byte then continueWith items
        else if verbose && byte == 35 then
          skipLine ((← get).rest.length + 1)
          continueWith items
        else
          match Char.ofNat byte.toNat with
          | '[' => continueWith ((← readSet) :: items)
          | '.' => continueWith (.any :: items)
          | '^' => continueWith (.anchor .start :: items)
          | '$' => continueWith (.anchor .stop :: items)
          | '*' => readRepeat verbose first fuel items start (.bounds 0 none)
          | '+' => readRepeat verbose first fuel items start (.bounds 1 none)
          | '?' => readRepeat verbose first fuel items start (.bounds 0 (some 1))
          | '\x7b' =>
            let sign ← readBounds (start + 1)
            readRepeat verbose first fuel items start sign
          | '(' => readGroup verbose first fuel items start
          | _ => continueWith (.literal byte :: items)

/-- Apply a repeat whose sign starts at `start` and has been taken. -/
def readRepeat (verbose first : Bool) (fuel : Nat) (items : List Item) (start : Nat)
    (sign : RepeatSign) : Reading (List Item) := do
  match fuel with
  | 0 => return flatten items.reverse
  | fuel + 1 =>
    match sign with
    | .literal => readSequence verbose first fuel (.literal 123 :: items)
    | .bounds min max =>
      let body ← repeated items ((← Reading.position) - start)
      let greed ← readGreed
      readSequence verbose first fuel (.loop greed min max body :: items.drop 1)

/-- Read what an opening parenthesis at `start` leads to, and go on after it. -/
def readGroup (verbose first : Bool) (fuel : Nat) (items : List Item) (start : Nat) :
    Reading (List Item) := do
  match fuel with
  | 0 => return flatten items.reverse
  | fuel + 1 =>
    match ← readOpening start with
    | .nothing => readSequence verbose first fuel items
    | .globalFlags =>
      if !first || !items.isEmpty then
        Reading.refuse .lateFlags ((← Reading.position) - start)
      let s ← get
      readSequence (s.flags.contains .verbose) first fuel items
    | .item item => readSequence verbose first fuel (item :: items)
    | .look behind negated =>
      let outside := (← get).lookbehind
      if behind && outside.isNone then
        modify fun s => { s with lookbehind := some s.widths.length }
      let body ← readChoice verbose false fuel
      if behind then modify fun s => { s with lookbehind := outside }
      closeParenthesis start
      let width := widthAll (← get).widths body
      readSequence verbose first fuel
        (.look (if behind then some width else none) negated body :: items)
    | .condition index =>
      let yes ← readSequence verbose false fuel []
      let no ←
        if ← Reading.accept '|' then
          let no ← readSequence verbose false fuel []
          if (← Reading.peek) == some (.plain 124) then Reading.refuse .conditionBranches 0
          pure no
        else pure []
      closeParenthesis start
      readSequence verbose first fuel (.condition index yes no :: items)
    | .capture name =>
      let index ← openGroup name
      let body ← readChoice verbose false fuel
      closeParenthesis start
      closeGroup index body
      readSequence verbose first fuel (.group (some index) [] [] body :: items)
    | .group on off =>
      let inner := (verbose || on.contains .verbose) && !off.contains .verbose
      let body ← readChoice inner false fuel
      closeParenthesis start
      readSequence verbose first fuel (.group none on off body :: items)
    | .atomic =>
      let body ← readChoice verbose false fuel
      closeParenthesis start
      readSequence verbose first fuel (.atomic body :: items)

end

/-- A compiled pattern: its bytes, its flags and its items. -/
structure Compiled where
  /-- The bytes that were compiled. -/
  source : Bytes
  /-- Flags of the whole pattern. -/
  flags : List Flag
  /-- The items. -/
  items : List Item

/-- Lookbehinds over longer texts are refused. -/
def lookLimit : Nat := 4294967295

mutual

/-- What is wrong with an item that was read, for which a pattern is refused in the end. -/
def Item.flaw? (flags : List Flag) : Item → Option Cause
  | .group _ on off body => flawAll? (Flag.within flags on off) body
  | .atomic body => flawAll? flags body
  | .loop greed _ _ body =>
    if flags.contains .template then some (.templateRepeat greed.operator)
    else flawAll? flags body
  | .choice alternatives => flawAny? flags alternatives
  | .look (some width) _ body =>
    if lookLimit < width.low then some .farLookbehind
    else if width.low ≠ width.high then some .variableLookbehind
    else flawAll? flags body
  | .look none _ body => flawAll? flags body
  | .condition _ yes no => (flawAll? flags yes).or (flawAll? flags no)
  | .literal _ | .notLiteral _ | .any | .set .. | .anchor _ | .backref _ => none

/-- What is wrong with the first item of a sequence that has something wrong. -/
def flawAll? (flags : List Flag) : List Item → Option Cause
  | [] => none
  | item :: rest => (item.flaw? flags).or (flawAll? flags rest)

/-- What is wrong with the first of several sequences that has something wrong. -/
def flawAny? (flags : List Flag) : List (List Item) → Option Cause
  | [] => none
  | sequence :: rest => (flawAll? flags sequence).or (flawAny? flags rest)

end

/-- Read the whole pattern. -/
def readPattern : Reading Compiled := do
  let s ← get
  Reading.moveTo s.rest
  let items ← readChoice false true (4 * s.pattern.length + 8)
  let s ← get
  if s.flags.contains .ascii && s.flags.contains .locale then
    throw ⟨.incompatibleFlags, none, s.pattern⟩
  if !s.rest.isEmpty then Reading.refuse .unbalanced 0
  match s.conditions.find? fun (index, _) => s.widths.length ≤ index with
  | some (index, place) => throw ⟨.groupReference index, some place, s.pattern⟩
  | none =>
    match flawAll? s.flags items with
    | some cause => throw ⟨cause, none, s.pattern⟩
    | none => return ⟨s.pattern, s.flags, items⟩

/-- Compile a pattern; the dot matches newlines unless the pattern turns that off. -/
def compile (pattern : Bytes) : Except Fault Compiled :=
  (readPattern.run ⟨pattern, pattern, [.dotAll], [none], [], none, []⟩).map (·.1)

end WideColumn.Pattern
