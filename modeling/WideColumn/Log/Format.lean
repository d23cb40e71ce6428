import WideColumn.Error

/-!
# Messages with arguments

A message may hold places for arguments, each a percent sign and a letter. With arguments, every
place is filled in order and every argument must have its place; a single mapping fills places by
name. Without arguments a message stands as it is.
-/
namespace WideColumn.Log

/-- The error of a place that does not fit its argument. -/
def misfit (message : Text) : Error := .plain .type (some message)

/-- The integer that an argument is shown as in a place for numbers. -/
def wholeNumber? : Value → Option Int
  | .bool b => some b.toNat
  | .number (.int n) => some n
  | .number (.float x) =>
    match Binary64.ofFloat x with
    | .finite negative significand exponent =>
      let n : Int := significand * Int.pow 2 exponent.toNat / Int.pow 2 (-exponent).toNat
      some (if negative then -n else n)
    | _ => none
  | _ => none

/-- The text of an argument in a place with a letter, which stands at a position of the message. -/
def place (letter : CodePoint) (position : Nat) (argument : Value) : Except Error Text :=
  if letter = CodePoint.ofChar 's' then .ok argument.display
  else if letter = CodePoint.ofChar 'r' then .ok argument.quoted
  else if letter = CodePoint.ofChar 'd' ∨ letter = CodePoint.ofChar 'i' ∨
      letter = CodePoint.ofChar 'u' then
    match wholeNumber? argument with
    | some n => .ok (Text.ofInt n)
    | none =>
      .error (misfit ("%" ++ [letter] ++ " format: a real number is required, not " ++
        argument.typeName))
  else
    let shown : Text := if letter.isAscii then [letter] else "?"
    .error (.plain .value (some ("unsupported format character '" ++ shown ++ "' (0x" ++
      Text.hex (Nat.toDigits 16 letter.val).length letter.val ++ ") at index " ++
      Text.ofNat position)))

/-- Fill the places of a message in order, from a position on. -/
def fillInOrder (position : Nat) (arguments : List Value) : Text → Except Error Text
  | [] =>
    if arguments.isEmpty then .ok []
    else .error (misfit "not all arguments converted during string formatting")
  | [c] =>
    if c = CodePoint.ofChar '%' then .error (.plain .value (some "incomplete format"))
    else do return c :: (← fillInOrder (position + 1) arguments [])
  | c :: d :: rest =>
    if c = CodePoint.ofChar '%' then
      if d = CodePoint.ofChar '%' then do
        return c :: (← fillInOrder (position + 2) arguments rest)
      else
        match arguments with
        | [] => .error (misfit "not enough arguments for format string")
        | argument :: arguments => do
          let text ← place d (position + 1) argument
          return text ++ (← fillInOrder (position + 2) arguments rest)
    else do return c :: (← fillInOrder (position + 1) arguments (d :: rest))

/-- A name in parentheses after a percent sign, the letter after it and the rest. -/
def namedPlace? (text : Text) : Option (Text × CodePoint × Text) :=
  match text with
  | c :: rest =>
    if c = CodePoint.ofChar '(' then
      match rest.dropWhile (· ≠ CodePoint.ofChar ')') with
      | _ :: letter :: after => some (rest.takeWhile (· ≠ CodePoint.ofChar ')'), letter, after)
      | _ => none
    else none
  | [] => none

/-- Fill the places of a message by name. -/
def fillByName (entries : List (Text × Value)) : Nat → Nat → Text → Except Error Text
  | 0, _, _ | _, _, [] => .ok []
  | fuel + 1, position, c :: rest =>
    if c ≠ CodePoint.ofChar '%' then do
      return c :: (← fillByName entries fuel (position + 1) rest)
    else
      match namedPlace? rest, rest with
      | some (name, letter, after), _ =>
        match entries.lookup name with
        | some argument => do
          let text ← place letter (position + name.length + 3) argument
          return text ++ (← fillByName entries fuel (position + name.length + 4) after)
        | none => .error (.plain .key (some name))
      | none, [] => .error (.plain .value (some "incomplete format"))
      | none, letter :: after =>
        if letter = CodePoint.ofChar '%' then do
          return letter :: (← fillByName entries fuel (position + 2) after)
        else do
          let text ← place letter (position + 1) (.mapping entries)
          return text ++ (← fillByName entries fuel (position + 2) after)

/-- Fill the places of a message. -/
def fill (message : Text) (arguments : List Value) : Except Error Text :=
  match arguments with
  | [] => .ok message
  | [.mapping (entry :: entries)] => fillByName (entry :: entries) (message.length + 1) 0 message
  | arguments => fillInOrder 0 arguments message

end WideColumn.Log
