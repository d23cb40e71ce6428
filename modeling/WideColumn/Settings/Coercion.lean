import WideColumn.Charset.Codec
import WideColumn.Number.Decimal
import WideColumn.Log.Event
import WideColumn.Settings.Issue

/-!
# Reading settings leniently

Settings come from files, from the environment and from programs, so a number may arrive as a text
and a count as a double. A value is accepted for a setting when it stands for exactly one value of
the right kind; a double with a fraction, for instance, stands for no integer.
-/
namespace WideColumn.Coercion

/-- Whether a character is white space. -/
def isWhite (c : Char) : Bool :=
  let n := c.toNat
  (9 ≤ n && n ≤ 13) || n = 32 || n = 0x85 || n = 0xA0 || n = 0x1680 || (0x2000 ≤ n && n ≤ 0x200A) ||
    n = 0x2028 || n = 0x2029 || n = 0x202F || n = 0x205F || n = 0x3000

/-- Take white space away from both ends. -/
def trim (text : List Char) : List Char :=
  ((text.dropWhile isWhite).reverse.dropWhile isWhite).reverse

/-- The characters of the text that a value holds, if it holds one. Fixed bytes hold the text that
they encode; bytes that encode none are as unreadable as a text that stands for nothing. -/
def readText (unreadable : SettingFault) (value : Value) :
    Except SettingFault (Option (List Char)) :=
  match value with
  | .text text =>
    match text.toString? with
    | some s => .ok (some s.toList)
    | none => .error .notUnicode
  | .bytes .fixed data =>
    match (Charset.utf8Reader.decode .strict data).toOption.bind Text.toString? with
    | some s => .ok (some s.toList)
    | none => .error unreadable
  | _ => .ok none

/-- Take a sign off; a plus sign is followed by no second sign. -/
def signed? : List Char → Option (Bool × List Char)
  | '-' :: rest => some (true, rest)
  | '+' :: '-' :: _ => none
  | '+' :: rest => some (false, rest)
  | text => some (false, text)

/-- Whether underscores stand between characters only, and never two of them together. -/
def isSpaced (text : List Char) : Bool :=
  text.head? ≠ some '_' && text.getLast? ≠ some '_' && !doubled text
where
  /-- Whether two underscores stand together. -/
  doubled : List Char → Bool
    | '_' :: '_' :: _ => true
    | _ :: rest => doubled rest
    | [] => false

/-- The digits that single underscores separate. -/
def digits? (text : List Char) : Option (List Char) :=
  let digits := text.filter (· ≠ '_')
  if isSpaced text && digits.all Char.isDigit && !digits.isEmpty then some digits else none

/-- The digits before a point that only zeros follow. -/
def wholePart? (text : List Char) : Option (List Char) :=
  match text.span (· ≠ '.') with
  | (whole, []) => some whole
  | (whole, _ :: zeros) => if zeros.all (· = '0') && !zeros.isEmpty then some whole else none

/-- The most digits that are read. -/
def longestInteger : Nat := 4300

/-- The integer that a text stands for. -/
def integerOfText (text : List Char) : Except SettingFault Int :=
  let parts := do
    let (negative, body) ← signed? (trim text)
    let digits ← digits? (← wholePart? body)
    return (negative, digits)
  match parts with
  | none => .error .unreadableInteger
  | some (negative, digits) =>
    if longestInteger < digits.length then .error .oversizedInteger
    else
      let n : Int := Decimal.natural digits
      .ok (if negative then -n else n)

/-- The integer that a double stands for. -/
def integerOfFloat (x : Float) : Except SettingFault Int :=
  match Binary64.ofFloat x with
  | .nan | .infinite _ => .error .notFinite
  | .finite negative significand exponent =>
    let unit := Nat.pow 2 (-exponent).toNat
    let scaled := significand * Nat.pow 2 exponent.toNat
    if scaled % unit ≠ 0 then .error .fractional
    else
      let n : Int := scaled / unit
      if n < Int.pow 2 63 then .ok (if negative then -n else n) else .error .oversizedInteger

/-- The integer that a value stands for. -/
def integer (value : Value) : Except SettingFault Int :=
  match value with
  | .number (.int n) => .ok n
  | .number (.float x) => integerOfFloat x
  | .bool b => .ok b.toNat
  | other => do
    match ← readText .unreadableInteger other with
    | some text => integerOfText text
    | none => throw .noInteger

/-- A double in words or in decimal notation. -/
def float? (text : List Char) : Option Float := do
  let (negative, body) ← signed? text
  let word := String.ofList (body.map Char.toLower)
  if word = "inf" ∨ word = "infinity" then return if negative then -1.0 / 0.0 else 1.0 / 0.0
  else if word = "nan" then return 0.0 / 0.0
  else
    match Decimal.float? negative body with
    | some (x, []) => return x
    | _ => failure

/-- The double that a text stands for. -/
def floatOfText (text : List Char) : Except SettingFault Number :=
  let text := trim text
  let spaced := if isSpaced text then text.filter (· ≠ '_') else text
  match float? spaced with
  | some x => .ok (.float x)
  | none => .error .unreadableNumber

/-- The double that a value stands for. -/
def number (value : Value) : Except SettingFault Number :=
  match value with
  | .number n =>
    match n.toFloat? with
    | some x => .ok (.float x)
    | none => .error .noNumber
  | .bool b => .ok (.float b.toNat.toFloat)
  | other => do
    match ← readText .unreadableNumber other with
    | some text => floatOfText text
    | none => throw .noNumber

/-- Words for yes. -/
def yesWords : List String := ["1", "t", "y", "on", "yes", "true"]

/-- Words for no. -/
def noWords : List String := ["0", "f", "n", "off", "no", "false"]

/-- The truth value that an integer stands for. -/
def flagOfInteger (n : Int) : Except SettingFault Bool :=
  if n = 0 then .ok false else if n = 1 then .ok true else .error .unreadableFlag

/-- The truth value that a text stands for, in any case. -/
def flagOfText (text : List Char) : Except SettingFault Bool :=
  let word := String.ofList (text.map Char.toLower)
  if yesWords.contains word then .ok true
  else if noWords.contains word then .ok false
  else .error .unreadableFlag

/-- The truth value that a value stands for. -/
def flag (value : Value) : Except SettingFault Bool :=
  match value with
  | .bool b => .ok b
  | .number (.int n) => flagOfInteger n
  | .number (.float x) =>
    match integerOfFloat x with
    | .ok n => flagOfInteger n
    | .error _ => .error .noFlag
  | other => do
    match ← readText .unreadableFlag other with
    | some text => flagOfText text
    | none => throw .noFlag

/-- The levels that settings can name. -/
def levels : List Log.Level := [.debug, .info, .warning, .error]

/-- The level that a value names, in capitals. -/
def level (value : Value) : Except SettingFault Log.Level :=
  match value with
  | .text text =>
    match levels.find? fun level => Text.ofString level.capitals == text with
    | some level => .ok level
    | none => .error .noLevel
  | _ => .error .noLevel

/-- A value whose absence is a setting of its own. -/
def optional (read : Value → Except SettingFault α) (value : Value) :
    Except SettingFault (Option α) :=
  match value with
  | .none => .ok none
  | other => (read other).map some

/-- An integer above zero. -/
def positiveInteger (value : Value) : Except SettingFault Int := do
  let n ← integer value
  if 0 < n then return n else throw (.notAbove 0)

/-- An integer not below a bound. -/
def integerFrom (bound : Int) (value : Value) : Except SettingFault Int := do
  let n ← integer value
  if bound ≤ n then return n else throw (.below bound)

/-- A number above a bound. -/
def numberAbove (bound : Int) (value : Value) : Except SettingFault Number := do
  let x ← number value
  if Number.int bound < x then return x else throw (.notAbove bound)

end WideColumn.Coercion
