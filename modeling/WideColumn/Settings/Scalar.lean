import WideColumn.Settings.Coercion

/-!
# Values of environment variables

A variable of the environment holds a text. If the text is written like a value of a TOML document,
it stands for that value: a number, a truth value, a quoted text, an array or an inline table. Any
other text stands for itself. Dates are not among the values, and a text that asks for a cast, such
as `@int` or `@json`, is not cast here.
-/
namespace WideColumn.Scalar

/-- Whether a character is a blank or a tab. -/
def isBlank (c : Char) : Bool := c = ' ' || c = '\t'

/-- Whether a character may not stand in a quoted text. -/
def isControl (c : Char) : Bool := (c.toNat < 32 && c ≠ '\t') || c.toNat = 127

/-- The value of a hexadecimal digit. -/
def hexDigit? (c : Char) : Option Nat :=
  if c.isDigit then some (c.toNat - 48)
  else if 'a' ≤ c ∧ c ≤ 'f' then some (c.toNat - 87)
  else if 'A' ≤ c ∧ c ≤ 'F' then some (c.toNat - 55)
  else none

/-- The number that digits of a base stand for. -/
def natural? (base : Nat) (digits : List Char) : Option Nat :=
  digits.foldlM (fun value c => do
    let digit ← hexDigit? c
    if digit < base then some (value * base + digit) else none) 0

/-- The character of a hexadecimal escape. -/
def escaped? (digits : List Char) : Option Char := do
  let n ← natural? 16 digits
  if n < 0xD800 ∨ (0xE000 ≤ n ∧ n < 0x110000) then some (Char.ofNat n) else none

/-- The escape of one letter. -/
def letterEscape? : Char → Option Char
  | 'b' => some '\x08'
  | 't' => some '\t'
  | 'n' => some '\n'
  | 'f' => some '\x0c'
  | 'r' => some '\r'
  | '"' => some '"'
  | '\\' => some '\\'
  | _ => none

/-- The rest of a quoted text with escapes, on one line. -/
def basic? : List Char → Option (List Char × List Char)
  | '"' :: rest => some ([], rest)
  | '\\' :: 'u' :: a :: b :: c :: d :: rest => do
    let char ← escaped? [a, b, c, d]
    let (text, rest) ← basic? rest
    return (char :: text, rest)
  | '\\' :: 'U' :: a :: b :: c :: d :: e :: f :: g :: h :: rest => do
    let char ← escaped? [a, b, c, d, e, f, g, h]
    let (text, rest) ← basic? rest
    return (char :: text, rest)
  | '\\' :: c :: rest => do
    let char ← letterEscape? c
    let (text, rest) ← basic? rest
    return (char :: text, rest)
  | c :: rest =>
    if isControl c then none
    else do
      let (text, rest) ← basic? rest
      return (c :: text, rest)
  | [] => none

/-- The rest of a quoted text without escapes, on one line. -/
def literal? : List Char → Option (List Char × List Char)
  | '\'' :: rest => some ([], rest)
  | c :: rest =>
    if isControl c then none
    else do
      let (text, rest) ← literal? rest
      return (c :: text, rest)
  | [] => none

/-- The text up to three marks. -/
def block? (mark : Char) : List Char → Option (List Char × List Char)
  | a :: b :: c :: rest =>
    if a = mark ∧ b = mark ∧ c = mark then some ([], rest)
    else do
      let (text, rest) ← block? mark (b :: c :: rest)
      return (a :: text, rest)
  | _ => none

/-- A quoted text at the beginning of a text. -/
def quoted? : List Char → Option (List Char × List Char)
  | '"' :: '"' :: '"' :: _ => none
  | '\'' :: '\'' :: '\'' :: '\n' :: rest => block? '\'' rest
  | '\'' :: '\'' :: '\'' :: rest => block? '\'' rest
  | '"' :: rest => basic? rest
  | '\'' :: rest => literal? rest
  | _ => none

/-- Digits in groups, as many as there are: each underscore stands between two digits. -/
def digitRun (isDigit : Char → Bool) : List Char → List Char × List Char
  | '_' :: c :: rest =>
    if isDigit c then
      let (digits, rest) := digitRun isDigit rest
      (c :: digits, rest)
    else ([], '_' :: c :: rest)
  | c :: rest =>
    if isDigit c then
      let (digits, rest) := digitRun isDigit rest
      (c :: digits, rest)
    else ([], c :: rest)
  | [] => ([], [])

/-- Digits in groups that begin with a digit. -/
def digits? (isDigit : Char → Bool) (text : List Char) : Option (List Char × List Char) :=
  match text with
  | c :: _ => if isDigit c then some (digitRun isDigit text) else none
  | [] => none

/-- Whether a character is a digit of a base. -/
def isDigitOf (base : Nat) (c : Char) : Bool := (hexDigit? c).any (· < base)

/-- An integer in a base other than ten. -/
def based? (base : Nat) (text : List Char) : Option (Value × List Char) := do
  let (digits, rest) ← digits? (isDigitOf base) text
  let n ← natural? base digits
  return (.int n, rest)

/-- The digits of a fraction with its point, if there is one. -/
def fraction (text : List Char) : List Char × List Char :=
  match text with
  | '.' :: rest =>
    match digits? Char.isDigit rest with
    | some (digits, rest) => ('.' :: digits, rest)
    | none => ([], text)
  | _ => ([], text)

/-- An exponent with its letter, if there is one. -/
def exponent (text : List Char) : List Char × List Char :=
  match text with
  | c :: rest =>
    if c = 'e' ∨ c = 'E' then
      let (mark, body) :=
        match rest with
        | '-' :: body => (['-'], body)
        | '+' :: body => ([], body)
        | body => ([], body)
      match digits? Char.isDigit body with
      | some (digits, rest) => ('e' :: mark ++ digits, rest)
      | none => ([], text)
    else ([], text)
  | [] => ([], text)

/-- A number in decimal notation; a leading zero stands alone. -/
def decimal? (text : List Char) : Option (Value × List Char) := do
  let (negative, body) := Decimal.sign text
  let (whole, rest) ←
    match body with
    | '0' :: rest => some (['0'], rest)
    | _ => digits? Char.isDigit body
  let (fraction, rest) := fraction rest
  let (exponent, rest) := exponent rest
  if fraction.isEmpty && exponent.isEmpty then
    let n : Int := Decimal.natural whole
    return (.int (if negative then -n else n), rest)
  else
    let (x, _) ← Decimal.float? negative (whole ++ fraction ++ exponent)
    return (.float x, rest)

/-- A number at the beginning of a text. -/
def number? (text : List Char) : Option (Value × List Char) :=
  let other :=
    match text with
    | '0' :: 'x' :: rest => based? 16 rest
    | '0' :: 'o' :: rest => based? 8 rest
    | '0' :: 'b' :: rest => based? 2 rest
    | _ => none
  other.or (decimal? text)

/-- An infinity or no number at the beginning of a text. -/
def special? (text : List Char) : Option (Value × List Char) :=
  let (negative, body) := Decimal.sign text
  match body with
  | 'i' :: 'n' :: 'f' :: rest => some (.float (if negative then -1.0 / 0.0 else 1.0 / 0.0), rest)
  | 'n' :: 'a' :: 'n' :: rest => some (.float (0.0 / 0.0), rest)
  | _ => none

/-- A value that holds no other at the beginning of a text. -/
def simple? (text : List Char) : Option (Value × List Char) :=
  match text with
  | '"' :: _ | '\'' :: _ => (quoted? text).map fun (content, rest) =>
    (.string (String.ofList content), rest)
  | 't' :: 'r' :: 'u' :: 'e' :: rest => some (.bool true, rest)
  | 'f' :: 'a' :: 'l' :: 's' :: 'e' :: rest => some (.bool false, rest)
  | _ => (number? text).or (special? text)

/-- Skip the rest of a line. -/
def skipLine (text : List Char) : List Char := text.dropWhile (· ≠ '\n')

/-- Skip blanks, line ends and comments. -/
def skipSpace : Nat → List Char → List Char
  | 0, text => text
  | fuel + 1, text =>
    match text.dropWhile fun c => isBlank c || c = '\n' with
    | '#' :: rest => skipSpace fuel (skipLine rest)
    | rest => rest

/-- Whether a character can stand in a bare key. -/
def isKeyPart (c : Char) : Bool := c.isAlphanum || c = '_' || c = '-'

/-- A key of an inline table. -/
def key? (text : List Char) : Option (Text × List Char) :=
  match text with
  | '"' :: _ | '\'' :: _ => (quoted? text).map fun (content, rest) =>
    (Text.ofString (String.ofList content), rest)
  | _ =>
    match text.span isKeyPart with
    | ([], _) => none
    | (key, rest) => some (Text.ofString (String.ofList key), rest)

mutual

/-- A value at the beginning of a text. -/
def value? : Nat → List Char → Option (Value × List Char)
  | 0, _ => none
  | fuel + 1, text =>
    match text with
    | '[' :: rest => do
      let (items, rest) ← items? fuel (skipSpace fuel rest)
      return (.list items, rest)
    | '{' :: rest =>
      match rest.dropWhile isBlank with
      | '}' :: rest => some (.mapping [], rest)
      | rest => do
        let (entries, rest) ← entries? fuel rest
        return (.mapping entries, rest)
    | _ => simple? text

/-- The rest of an array. -/
def items? : Nat → List Char → Option (List Value × List Char)
  | 0, _ => none
  | fuel + 1, text =>
    match text with
    | ']' :: rest => some ([], rest)
    | _ => do
      let (item, rest) ← value? fuel text
      match skipSpace fuel rest with
      | ',' :: rest =>
        let (items, rest) ← items? fuel (skipSpace fuel rest)
        return (item :: items, rest)
      | ']' :: rest => return ([item], rest)
      | _ => none

/-- The rest of an inline table that has at least one entry. -/
def entries? : Nat → List Char → Option (List (Text × Value) × List Char)
  | 0, _ => none
  | fuel + 1, text => do
    let (key, rest) ← key? text
    match rest.dropWhile isBlank with
    | '=' :: rest =>
      let (value, rest) ← value? fuel (rest.dropWhile isBlank)
      match rest.dropWhile isBlank with
      | ',' :: rest =>
        let (entries, rest) ← entries? fuel (rest.dropWhile isBlank)
        if entries.any fun (known, _) => known == key then none
        else return ((key, value) :: entries, rest)
      | '}' :: rest => return ([(key, value)], rest)
      | _ => none
    | _ => none

end

/-- The value that a whole text is written like. -/
def read? (text : List Char) : Option Value := do
  let fuel := 2 * text.length + 2
  let (value, rest) ← value? fuel (text.dropWhile isBlank)
  match rest.dropWhile isBlank with
  | [] => return value
  | c :: rest =>
    if (c = '#' ∨ c = '\n') ∧ (skipSpace fuel (c :: rest)).isEmpty then return value else none

/-- The value of a variable that holds a text. The spellings of truth values with a capital count as
well. -/
def ofVariable (text : Text) : Value :=
  match text.toString? with
  | none => .text text
  | some s =>
    let word := String.ofList (Coercion.trim s.toList)
    let spelled := if word = "True" ∨ word = "False" then s.toLower else s
    (read? spelled.toList).getD (.string spelled)

end WideColumn.Scalar
