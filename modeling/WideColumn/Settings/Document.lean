import WideColumn.Error
import WideColumn.Settings.Checked
import WideColumn.Settings.Scalar

/-!
# Settings files

A settings file is a document of nested mappings and lists in block or flow form, with plain and
quoted scalars and comments. A plain scalar stands for what it looks like: nothing, a truth value, a
number, or else its own text. This is a part of a larger format, the rest of which is not read here:
anchors, tags, block scalars and dates.
-/
namespace WideColumn.Document

/-! ## Plain scalars -/

/-- Spellings of nothing. -/
def nullWords : List String := ["", "~", "null", "Null", "NULL"]

/-- Spellings of truth. -/
def trueWords : List String := ["true", "True", "TRUE"]

/-- Spellings of falsehood. -/
def falseWords : List String := ["false", "False", "FALSE"]

/-- Spellings of infinity, without a sign. -/
def infinityWords : List String := [".inf", ".Inf", ".INF"]

/-- Spellings of no number. -/
def nanWords : List String := [".nan", ".NaN", ".NAN"]

/-- The number that digits of a base stand for, underscores left out. -/
def digits? (base : Nat) (text : List Char) : Option Nat :=
  match text.filter (· ≠ '_') with
  | [] => none
  | digits => Scalar.natural? base digits

/-- The natural number that a scalar without a sign stands for. -/
def natural? (text : List Char) : Option Nat :=
  match text with
  | '0' :: 'b' :: rest => digits? 2 rest
  | '0' :: 'o' :: rest => digits? 8 rest
  | '0' :: 'x' :: rest => digits? 16 rest
  | _ => digits? 10 text

/-- Whether a character can stand in a run of digits. -/
def isRunPart (c : Char) : Bool := c.isDigit || c = '_'

/-- Whether a scalar without a sign has the form of a double: a point, an exponent or both, with a
signed exponent if it begins with the point. -/
def hasFloatForm (text : List Char) : Bool :=
  let (whole, rest) := text.span isRunPart
  let (point, rest) :=
    match rest with
    | '.' :: rest => (true, rest)
    | rest => (false, rest)
  let (places, rest) := if point then rest.span isRunPart else ([], rest)
  let begins := whole.head?.any Char.isDigit || (whole.isEmpty && !places.isEmpty)
  let powerFits :=
    match rest with
    | [] => point
    | c :: rest =>
      (c = 'e' || c = 'E') &&
        match rest with
        | '-' :: digits | '+' :: digits => !digits.isEmpty && digits.all Char.isDigit
        | digits => !whole.isEmpty && !digits.isEmpty && digits.all Char.isDigit
  begins && powerFits

/-- The value that a plain scalar stands for. -/
def plainValue (text : List Char) : Value :=
  let word := String.ofList text
  if nullWords.contains word then .none
  else if trueWords.contains word then .bool true
  else if falseWords.contains word then .bool false
  else if nanWords.contains word then .float (0.0 / 0.0)
  else
    let (negative, body) := Decimal.sign text
    if infinityWords.contains (String.ofList body) then
      .float (if negative then -1.0 / 0.0 else 1.0 / 0.0)
    else if hasFloatForm body then
      match Decimal.float? negative (body.filter (· ≠ '_')) with
      | some (x, _) => .float x
      | none => .string word
    else if text.head? = some '_' then .string word
    else
      match natural? body with
      | some n => .int (if negative then -n else n)
      | none => .string word

/-! ## Quoted scalars -/

/-- The rest of a scalar in single quotes. -/
def single? : List Char → Option (List Char × List Char)
  | '\'' :: '\'' :: rest => do
    let (text, rest) ← single? rest
    return ('\'' :: text, rest)
  | '\'' :: rest => some ([], rest)
  | c :: rest => do
    let (text, rest) ← single? rest
    return ((if c = '\n' then ' ' else c) :: text, rest)
  | [] => none

/-- The escape of one letter in double quotes. -/
def letterEscape? : Char → Option Char
  | '0' => some '\x00'
  | 'a' => some '\x07'
  | 'b' => some '\x08'
  | 't' => some '\t'
  | 'n' => some '\n'
  | 'v' => some '\x0b'
  | 'f' => some '\x0c'
  | 'r' => some '\r'
  | 'e' => some '\x1b'
  | ' ' => some ' '
  | '"' => some '"'
  | '/' => some '/'
  | '\\' => some '\\'
  | 'N' => some '\u0085'
  | '_' => some '\u00a0'
  | 'L' => some '\u2028'
  | 'P' => some '\u2029'
  | _ => none

/-- The rest of a scalar in double quotes. -/
def double? : List Char → Option (List Char × List Char)
  | '"' :: rest => some ([], rest)
  | '\\' :: 'x' :: a :: b :: rest => do
    let char ← Scalar.escaped? [a, b]
    let (text, rest) ← double? rest
    return (char :: text, rest)
  | '\\' :: 'u' :: a :: b :: c :: d :: rest => do
    let char ← Scalar.escaped? [a, b, c, d]
    let (text, rest) ← double? rest
    return (char :: text, rest)
  | '\\' :: 'U' :: a :: b :: c :: d :: e :: f :: g :: h :: rest => do
    let char ← Scalar.escaped? [a, b, c, d, e, f, g, h]
    let (text, rest) ← double? rest
    return (char :: text, rest)
  | '\\' :: c :: rest => do
    let char ← letterEscape? c
    let (text, rest) ← double? rest
    return (char :: text, rest)
  | c :: rest => do
    let (text, rest) ← double? rest
    return ((if c = '\n' then ' ' else c) :: text, rest)
  | [] => none

/-- A quoted scalar at the beginning of a text. -/
def quoted? : List Char → Option (List Char × List Char)
  | '\'' :: rest => single? rest
  | '"' :: rest => double? rest
  | _ => none

/-- Whether a text begins with a quoted scalar. -/
def isQuoted (text : List Char) : Bool := text.head? = some '"' || text.head? = some '\''

/-! ## Flow form -/

/-- Whether a character is white space inside a document. -/
def isSpace (c : Char) : Bool := c = ' ' || c = '\t' || c = '\n'

/-- Take white space away from both ends. -/
def trim (text : List Char) : List Char :=
  ((text.dropWhile isSpace).reverse.dropWhile isSpace).reverse

/-- Whether a character delimits flow collections. -/
def isFlowMark (c : Char) : Bool := c = ',' || c = '[' || c = ']' || c = '{' || c = '}'

/-- Whether a text can follow the colon after a key. -/
def endsKey (text : List Char) : Bool :=
  match text with
  | [] => true
  | c :: _ => isSpace c

/-- A plain scalar in a flow collection, and the rest. -/
def flowPlain : List Char → List Char × List Char
  | [] => ([], [])
  | ':' :: rest =>
    if endsKey rest || rest.head?.any isFlowMark then ([], ':' :: rest)
    else
      let (text, rest) := flowPlain rest
      (':' :: text, rest)
  | c :: '#' :: rest =>
    if isSpace c then ([], c :: '#' :: rest)
    else if isFlowMark c then ([], c :: '#' :: rest)
    else
      let (text, rest) := flowPlain rest
      (c :: '#' :: text, rest)
  | c :: rest =>
    if isFlowMark c then ([], c :: rest)
    else
      let (text, rest) := flowPlain rest
      ((if c = '\n' then ' ' else c) :: text, rest)

/-- A mapping with one more entry in front; no name may occur twice. -/
def entryBefore (key : Value) (value : Value) (entries : Entries) : Option Entries :=
  let name := key.display
  if entries.any fun (known, _) => known == name then none else some ((name, value) :: entries)

/-- Skip white space and comments. -/
def skipSpace (fuel : Nat) (text : List Char) : List Char :=
  match fuel with
  | 0 => text
  | fuel + 1 =>
    match text.dropWhile isSpace with
    | '#' :: rest => skipSpace fuel (rest.dropWhile (· ≠ '\n'))
    | rest => rest

mutual

/-- A value in flow form at the beginning of a text. -/
def flow? : Nat → List Char → Option (Value × List Char)
  | 0, _ => none
  | fuel + 1, text =>
    match text with
    | '[' :: rest => do
      let (items, rest) ← flowItems? fuel (skipSpace fuel rest)
      return (.list items, rest)
    | '{' :: rest => do
      let (entries, rest) ← flowEntries? fuel (skipSpace fuel rest)
      return (.mapping entries, rest)
    | _ =>
      if isQuoted text then
        (quoted? text).map fun (content, rest) => (.string (String.ofList content), rest)
      else
        match flowPlain text with
        | (content, rest) =>
          match trim content with
          | [] => none
          | content => some (plainValue content, rest)

/-- The rest of a list in flow form. -/
def flowItems? : Nat → List Char → Option (List Value × List Char)
  | 0, _ => none
  | fuel + 1, text =>
    match text with
    | ']' :: rest => some ([], rest)
    | _ => do
      let (item, rest) ← flow? fuel text
      match skipSpace fuel rest with
      | ',' :: rest =>
        let (items, rest) ← flowItems? fuel (skipSpace fuel rest)
        return (item :: items, rest)
      | ']' :: rest => return ([item], rest)
      | _ => none

/-- The rest of a mapping in flow form. -/
def flowEntries? : Nat → List Char → Option (Entries × List Char)
  | 0, _ => none
  | fuel + 1, text =>
    match text with
    | '}' :: rest => some ([], rest)
    | _ => do
      let (key, rest) ← flow? fuel text
      let (value, rest) ←
        match skipSpace fuel rest with
        | ':' :: rest =>
          match skipSpace fuel rest with
          | ',' :: rest => some (Value.none, ',' :: rest)
          | '}' :: rest => some (Value.none, '}' :: rest)
          | rest => flow? fuel rest
        | rest => some (Value.none, rest)
      match skipSpace fuel rest with
      | ',' :: rest =>
        let (entries, rest) ← flowEntries? fuel (skipSpace fuel rest)
        return (← entryBefore key value entries, rest)
      | '}' :: rest => return ([(key.display, value)], rest)
      | _ => none

end

/-! ## Block form -/

/-- A line that holds something. -/
structure Line where
  /-- The number of blanks in front. -/
  indent : Nat
  /-- What follows them. -/
  body : List Char

/-- Whether a body begins an item of a list. -/
def isItem (body : List Char) : Bool :=
  match body with
  | '-' :: rest => endsKey rest
  | _ => false

/-- A text up to a comment, and whether there was one. -/
def beforeComment : List Char → List Char × Bool
  | [] => ([], false)
  | [c] => ([c], false)
  | c :: d :: rest =>
    if isSpace c && d = '#' then ([], true)
    else
      let (text, cut) := beforeComment (d :: rest)
      (c :: text, cut)

/-- A text up to the colon after a key, and what follows the colon. -/
def splitColon? : List Char → Option (List Char × List Char)
  | [] => none
  | ':' :: rest =>
    if endsKey rest then some ([], rest)
    else (splitColon? rest).map fun (key, rest) => (':' :: key, rest)
  | c :: '#' :: rest =>
    if isSpace c then none
    else (splitColon? rest).map fun (key, rest) => (c :: '#' :: key, rest)
  | c :: rest => (splitColon? rest).map fun (key, rest) => (c :: key, rest)

/-- Characters that cannot begin a plain scalar. -/
def isReserved (c : Char) : Bool := "&*!|>%@`#,]\x7d".toList.contains c

/-- The key at the beginning of a body, and what follows its colon. -/
def splitKey? (body : List Char) : Option (Value × List Char) :=
  if isQuoted body then do
    let (content, rest) ← quoted? body
    match rest.dropWhile isSpace with
    | ':' :: rest => if endsKey rest then some (.string (String.ofList content), rest) else none
    | _ => none
  else
    match body with
    | [] => none
    | c :: _ =>
      if c = '{' || c = '[' || c = '?' || isReserved c then none
      else
        match splitColon? body with
        | some (key, rest) =>
          match trim key with
          | [] => none
          | key => some (plainValue key, rest)
        | none => none

/-- Whether nothing or a comment is left. -/
def isSpent (text : List Char) : Bool :=
  match text.dropWhile isSpace with
  | [] => true
  | c :: _ => c = '#'

/-- A value in flow form or in quotes that begins with a text and may go on in further lines. -/
def spread? (text : List Char) (lines : List Line) : Option (Value × List Line) :=
  match flow? (2 * text.length + 2) text, lines with
  | some (value, rest), lines => if isSpent rest then some (value, lines) else none
  | none, [] => none
  | none, line :: lines => spread? (text ++ '\n' :: line.body) lines

/-- The lines that continue a plain scalar, joined to it by blanks. -/
def plainLines? (least : Nat) (text : List Char) : List Line → Option (List Char × List Line)
  | [] => some (text, [])
  | line :: rest =>
    if line.indent < least then some (text, line :: rest)
    else if (splitColon? line.body).isSome then none
    else
      let (more, cut) := beforeComment line.body
      let text := text ++ ' ' :: trim more
      if cut then some (text, rest) else plainLines? least text rest

/-- A value that begins on a line. -/
def inline? (least : Nat) (text : List Char) (rest : List Line) : Option (Value × List Line) :=
  match text with
  | [] => none
  | c :: _ =>
    if c = '{' || c = '[' || isQuoted text then spread? text rest
    else if isReserved c || (splitColon? text).isSome then none
    else do
      let (start, cut) := beforeComment text
      let (content, rest) ←
        if cut then some (trim start, rest) else plainLines? least (trim start) rest
      return (plainValue content, rest)

mutual

/-- A value in block form whose lines are indented by at least so many blanks. -/
def block? : Nat → Nat → List Line → Option (Value × List Line)
  | 0, _, _ => none
  | _ + 1, _, [] => some (.none, [])
  | fuel + 1, least, line :: rest =>
    if line.indent < least then some (.none, line :: rest)
    else if isItem line.body then do
      let (items, rest) ← items? fuel line.indent (line :: rest)
      return (.list items, rest)
    else
      match splitKey? line.body with
      | some _ => do
        let (entries, rest) ← entries? fuel line.indent (line :: rest)
        return (.mapping entries, rest)
      | none => inline? least line.body rest

/-- The items of a list at an indentation. -/
def items? : Nat → Nat → List Line → Option (List Value × List Line)
  | 0, _, _ => none
  | _ + 1, _, [] => some ([], [])
  | fuel + 1, indent, line :: rest =>
    if line.indent = indent ∧ isItem line.body then do
      let content := line.body.drop 1
      let inner := content.dropWhile isSpace
      let lines :=
        if isSpent content then rest
        else ⟨indent + 1 + (content.length - inner.length), inner⟩ :: rest
      let (item, rest) ← block? fuel (indent + 1) lines
      let (items, rest) ← items? fuel indent rest
      return (item :: items, rest)
    else if indent < line.indent then none
    else some ([], line :: rest)

/-- The entries of a mapping at an indentation. -/
def entries? : Nat → Nat → List Line → Option (Entries × List Line)
  | 0, _, _ => none
  | _ + 1, _, [] => some ([], [])
  | fuel + 1, indent, line :: rest =>
    if indent < line.indent then none
    else if line.indent < indent then some ([], line :: rest)
    else do
      let (key, after) ← splitKey? line.body
      let (value, rest) ←
        if isSpent after then
          match rest with
          | next :: _ =>
            if next.indent = indent ∧ isItem next.body then
              (items? fuel indent rest).map fun (items, rest) => (Value.list items, rest)
            else block? fuel (indent + 1) rest
          | [] => some (Value.none, [])
        else inline? (indent + 1) (after.dropWhile isSpace) rest
      let (entries, rest) ← entries? fuel indent rest
      return (← entryBefore key value entries, rest)

end

/-- The lines of a text. -/
def splitLines : List Char → List (List Char)
  | [] => [[]]
  | '\r' :: '\n' :: rest => [] :: splitLines rest
  | '\n' :: rest => [] :: splitLines rest
  | c :: rest =>
    match splitLines rest with
    | [] => [[c]]
    | line :: lines => (c :: line) :: lines

/-- A line that holds something, if it does. -/
def line? (raw : List Char) : Option Line :=
  let body := raw.dropWhile (· = ' ')
  if isSpent body then none else some ⟨raw.length - body.length, body⟩

/-- The lines of the document: from its marker, if it has one, to the next. -/
def documentLines (raw : List (List Char)) : List (List Char) :=
  let isMarker (line : List Char) : Bool := "---".toList.isPrefixOf line && endsKey (line.drop 3)
  let isEnd (line : List Char) : Bool := "...".toList.isPrefixOf line && endsKey (line.drop 3)
  let preamble := raw.takeWhile fun line => (line? line).isNone
  let raw :=
    match raw.drop preamble.length with
    | line :: rest => if isMarker line then line.drop 3 :: rest else line :: rest
    | [] => []
  raw.takeWhile fun line => !isMarker line && !isEnd line

/-- The value of a document. -/
def parse? (text : List Char) : Option Value :=
  let lines := (documentLines (splitLines text)).filterMap line?
  match block? (2 * text.length + 2) 0 lines with
  | some (value, []) => some value
  | _ => none

/-- The entries of a settings file. A file that holds nothing has none. -/
def read (text : Text) : Except Error Entries :=
  match text.toString?.bind fun s => parse? s.toList with
  | none => .error (.plain .value (some "settings file is malformed"))
  | some (.mapping entries) => .ok entries
  | some other =>
    if other.isTruthy then .error (.misuse (.noAttribute other.typeName "items")) else .ok []

end WideColumn.Document
