import WideColumn.Charset.Handler
import WideColumn.Charset.Punycode
import WideColumn.Charset.Table
import WideColumn.Charset.Unicode

/-!
# Codecs

A codec turns text into bytes and back under one charset. Writing goes code point by code point; a
run that cannot be written goes to the error handler. Reading takes one code point after the other
from the front and hands what forms none to the handler.
-/
namespace WideColumn.Charset

/-- The ways of converting between text and bytes. -/
inductive Codec where
  /-- UTF-8, with or without a signature in front. -/
  | utf8 (signature : Bool)
  /-- UTF-16 in a fixed byte order, or marked and in the marked order. -/
  | utf16 (order : Option ByteOrder)
  /-- UTF-32 in a fixed byte order, or marked and in the marked order. -/
  | utf32 (order : Option ByteOrder)
  /-- The first 128 code points. -/
  | ascii
  /-- The first 256 code points. -/
  | latin1
  /-- A single-byte charset by its table. -/
  | table (table : Table)
  /-- The first 256 code points, and escapes for all others. -/
  | rawEscape
  /-- Code points as insertions into ASCII. -/
  | punycode
  /-- Domain names, label by label; those beyond ASCII are converted elsewhere. -/
  | domainName
  /-- Multi-byte and stateful charsets, known by name and converted elsewhere. -/
  | external
  /-- A charset that refuses every conversion. -/
  | undefined
  /-- A transformation that is no conversion between text and bytes. -/
  | transform

end WideColumn.Charset

namespace WideColumn

/-- A charset: its canonical name and its codec. -/
structure Charset where
  /-- The canonical name. -/
  name : String
  /-- The codec. -/
  codec : Charset.Codec

end WideColumn

namespace WideColumn.Charset

/-- How one codec writes a text. -/
structure Writer where
  /-- Name of the conversion in faults. -/
  label : String
  /-- Reason in faults. -/
  reason : String
  /-- The bytes of a code point, if it has any. -/
  write : CodePoint → Option Bytes
  /-- Bytes of surrogates in a Unicode format. -/
  pass : Option (CodePoint → Bytes)
  /-- Whether neighbours that cannot be written are treated together. -/
  grouped : Bool
  /-- Whether a run that escapes only in its first part is refused from its second part on. -/
  partly : Bool
  /-- Number of bytes of a unit; finished bytes of a handler must fill whole units. -/
  unitSize : Nat

namespace Writer

/-- Write all code points, if each has bytes. -/
def writeAll (writer : Writer) (text : Text) : Option Bytes :=
  (text.mapM writer.write).map List.flatten

/-- Treat a run that starts at `start` and cannot be written. The empty run needs nothing. -/
def repairRun (writer : Writer) (handler : Handler) (whole : Text) (start : Nat) (run : Text) :
    Except Fault Bytes :=
  if run.isEmpty then .ok []
  else
    let refusal (offset : Nat) : Fault :=
      .encode writer.label whole (start + offset) (start + run.length) writer.reason
    match handler.repair writer.pass writer.partly run with
    | .error fault => .error fault
    | .ok (.refuse offset) => .error (refusal offset)
    | .ok (.text replacement) =>
      match writer.writeAll replacement with
      | some bytes => .ok bytes
      | none => .error (refusal 0)
    | .ok (.bytes replacement) =>
      if replacement.length % writer.unitSize = 0 then .ok replacement else .error (refusal 0)

/-- Write the rest of a text. `run` holds the code points before it that cannot be written and have
not been treated, the first of them at `start`. -/
def writeFrom (writer : Writer) (handler : Handler) (whole : Text) :
    (start : Nat) → (run : Text) → Text → Except Fault Bytes
  | start, run, [] => writer.repairRun handler whole start run
  | start, run, c :: rest =>
    match writer.write c with
    | some bytes => do
      let repaired ← writer.repairRun handler whole start run
      let tail ← writeFrom writer handler whole (start + run.length + 1) [] rest
      return repaired ++ bytes ++ tail
    | none =>
      if writer.grouped then writeFrom writer handler whole start (run ++ [c]) rest
      else do
        let repaired ← writer.repairRun handler whole start [c]
        let tail ← writeFrom writer handler whole (start + 1) [] rest
        return repaired ++ tail

/-- Write a text. -/
def encode (writer : Writer) (handler : Handler) (text : Text) : Except Fault Bytes :=
  writer.writeFrom handler text 0 [] text

end Writer

/-- How one codec reads bytes. -/
structure Reader where
  /-- Name of the conversion in faults. -/
  label : String
  /-- What stands at the front. -/
  read : Bytes → Reading
  /-- A surrogate at the front in a Unicode format. -/
  pass : Bytes → Option (CodePoint × Nat)

/-- Read the rest of the bytes, the first `skip` of which are already spoken for. `position` is the
place of the rest in `whole`. -/
def Reader.readFrom (reader : Reader) (handler : Handler) (whole : Bytes) :
    (position skip : Nat) → Bytes → Except Fault Text
  | _, _, [] => .ok []
  | position, skip + 1, _ :: rest => readFrom reader handler whole (position + 1) skip rest
  | position, 0, byte :: rest =>
    match reader.read (byte :: rest) with
    | .codePoint c width => do
      return c :: (← readFrom reader handler whole (position + 1) (width - 1) rest)
    | .two first second => do
      return first :: second :: (← readFrom reader handler whole (position + 1) 1 rest)
    | .malformed count reason =>
      match handler.recover reader.pass count (byte :: rest) with
      | .error fault => .error fault
      | .ok none => .error (.decode reader.label whole position (position + count) reason)
      | .ok (some (text, width)) => do
        return text ++ (← readFrom reader handler whole (position + 1) (width - 1) rest)

/-- Read a byte string. -/
def Reader.decode (reader : Reader) (handler : Handler) (data : Bytes) : Except Fault Text :=
  reader.readFrom handler data 0 0 data

/-- A code point below a limit is written as the byte of its number. -/
def writeBelow (limit : Nat) (c : CodePoint) : Option Bytes :=
  if c.val < limit then some [UInt8.ofNat c.val] else none

/-- A code point that is no surrogate, in the given form. -/
def writeScalar (form : CodePoint → Bytes) (c : CodePoint) : Option Bytes :=
  if c.isSurrogate then none else some (form c)

/-- The reason for refusing surrogates. -/
def surrogateReason : String := "surrogates not allowed"

/-- The writer of UTF-8. -/
def utf8Writer : Writer :=
  ⟨"utf-8", surrogateReason, writeScalar utf8Bytes, some utf8Bytes, true, true, 1⟩

/-- The writer of UTF-16. -/
def utf16Writer (label : String) (order : ByteOrder) : Writer :=
  ⟨label, surrogateReason, writeScalar (utf16Bytes order), some (utf16Bytes order), false, false, 2⟩

/-- The writer of UTF-32. -/
def utf32Writer (label : String) (order : ByteOrder) : Writer :=
  ⟨label, surrogateReason, writeScalar (utf32Bytes order), some (utf32Bytes order), false, false, 4⟩

/-- The writer of the code points below 128. -/
def asciiWriter : Writer :=
  ⟨"ascii", "ordinal not in range(128)", writeBelow 128, none, true, true, 1⟩

/-- The writer of the code points below 256. -/
def latin1Writer : Writer :=
  ⟨"latin-1", "ordinal not in range(256)", writeBelow 256, none, true, true, 1⟩

/-- The writer of a byte table. -/
def tableWriter (table : Table) : Writer :=
  ⟨"charmap", "character maps to <undefined>", fun c => (table.write c).map fun byte => [byte],
    none, true, false, 1⟩

/-- The bytes of a text made of ASCII. -/
def asciiBytes (text : Text) : Bytes := text.map fun c => UInt8.ofNat c.val

/-- The writer of escapes for code points from 256 on. -/
def rawEscapeWriter : Writer :=
  ⟨"rawunicodeescape", "", fun c =>
    some (if c.val < 256 then [UInt8.ofNat c.val] else asciiBytes c.escape), none, true, true, 1⟩

/-- The reader of UTF-8. -/
def utf8Reader : Reader := ⟨"utf-8", readUtf8, readUtf8Surrogate⟩

/-- Read UTF-8 with replacement characters in the place of what is malformed. -/
def readUtf8Leniently (data : Bytes) : Text :=
  match utf8Reader.decode .replace data with
  | .ok text => text
  | .error _ => []

/-- The reader of UTF-16. -/
def utf16Reader (order : ByteOrder) : Reader :=
  ⟨if order = .little then "utf-16-le" else "utf-16-be", readUtf16 order, readUtf16Surrogate order⟩

/-- The reader of UTF-32. -/
def utf32Reader (order : ByteOrder) : Reader :=
  ⟨if order = .little then "utf-32-le" else "utf-32-be", readUtf32 order, readUtf32Surrogate order⟩

/-- Read single bytes, each by itself. -/
def readByte (reason : String) (meaning : UInt8 → Option CodePoint) : Bytes → Reading
  | [] => .malformed 0 reason
  | byte :: _ =>
    match meaning byte with
    | some c => .codePoint c 1
    | none => .malformed 1 reason

/-- The reader of the bytes below 128. -/
def asciiReader : Reader :=
  ⟨"ascii", readByte "ordinal not in range(128)" fun byte =>
    if byte < 128 then some (CodePoint.ofByte byte) else none, fun _ => none⟩

/-- The reader that takes each byte for the code point of its number. -/
def latin1Reader : Reader := ⟨"latin-1", readByte "" (some ∘ CodePoint.ofByte), fun _ => none⟩

/-- The reader of a byte table. -/
def tableReader (table : Table) : Reader :=
  ⟨"charmap", readByte "character maps to <undefined>" table.read, fun _ => none⟩

/-- The value of a hexadecimal digit. -/
def hexDigit? (byte : UInt8) : Option Nat :=
  if 48 ≤ byte ∧ byte ≤ 57 then some (byte.toNat - 48)
  else if 65 ≤ byte ∧ byte ≤ 70 then some (byte.toNat - 55)
  else if 97 ≤ byte ∧ byte ≤ 102 then some (byte.toNat - 87)
  else none

/-- Read up to `count` hexadecimal digits after a value: the value and the number of digits that
are missing. -/
def readHex (value : Nat) : (count : Nat) → Bytes → Nat × Nat
  | 0, _ => (value, 0)
  | count + 1, [] => (value, count + 1)
  | count + 1, byte :: rest =>
    match hexDigit? byte with
    | some digit => readHex (value * 16 + digit) count rest
    | none => (value, count + 1)

/-- The escape with `count` digits after a backslash and a letter. -/
def readEscape (count : Nat) (reason : String) (digits : Bytes) : Reading :=
  match readHex 0 count digits with
  | (value, 0) =>
    if h : value < 0x110000 then .codePoint ⟨value, h⟩ (count + 2)
    else .malformed (count + 2) "\\Uxxxxxxxx out of range"
  | (_, missing) => .malformed (count - missing + 2) reason

/-- The next code point where a backslash and `u` or `U` start an escape. A backslash before any
other byte is read together with it, so an escaped backslash starts no escape. -/
def readRawEscape : Bytes → Reading
  | [] => .malformed 0 ""
  | 92 :: 117 :: digits => readEscape 4 "truncated \\uXXXX escape" digits
  | 92 :: 85 :: digits => readEscape 8 "truncated \\UXXXXXXXX escape" digits
  | 92 :: byte :: _ => .two (CodePoint.ofByte 92) (CodePoint.ofByte byte)
  | byte :: _ => .codePoint (CodePoint.ofByte byte) 1

/-- The reader of escapes. -/
def rawEscapeReader : Reader := ⟨"rawunicodeescape", readRawEscape, fun _ => none⟩

/-- Read Punycode: ASCII up to the last hyphen, and what is inserted behind it, which is read
strictly under each of the three handlers that will do. -/
def decodePunycode (handler : Handler) (data : Bytes) : Except Fault Text :=
  if data.isEmpty then .ok []
  else if handler = .strict ∨ handler = .ignore ∨ handler = .replace then do
    let (basic, digits) := Punycode.split data
    let basic ← asciiReader.decode handler basic
    let digits ← asciiReader.decode .strict digits
    Punycode.decode (handler = .strict) basic digits
  else .error (.refused ("Unsupported error handling " ++ handler.name))

/-- Conversions by tables that are not given: those of multi-byte and stateful charsets, by their
canonical names, and those of domain names beyond ASCII. What is proved of charsets holds of any
such conversions, or says what it takes of them. -/
class Externals where
  /-- Write a text in a charset. -/
  encode : String → Handler → Text → Except Fault Bytes
  /-- Read bytes in a charset. -/
  decode : String → Handler → Bytes → Except Fault Text
  /-- Write a domain name that is not ASCII, or give the reason for refusing it. -/
  encodeName : Text → Except Text Bytes
  /-- Read a label of a domain name that stands for one that is not ASCII. -/
  decodeLabel : Bytes → Except Fault Text

/-- The writer of a charset of which only ASCII is converted. -/
def externalWriter (name : String) : Writer :=
  ⟨name, "illegal multibyte sequence", writeBelow 128, none, false, false, 1⟩

/-- The reader of a charset of which only ASCII is converted. -/
def externalReader (name : String) : Reader :=
  ⟨name, readByte "illegal multibyte sequence" fun byte =>
    if byte < 128 then some (CodePoint.ofByte byte) else none, fun _ => none⟩

/-- Conversions of ASCII alone, to run where no other conversions are meant. -/
instance Externals.ascii : Externals where
  encode name := (externalWriter name).encode
  decode name := (externalReader name).decode
  encodeName _ := .error "label is not ASCII"
  decodeLabel _ := .error (.refused "label is not ASCII")

/-- The parts of a list between separators. -/
def parts [DecidableEq α] (separator : α) : List α → List (List α)
  | [] => [[]]
  | a :: rest =>
    match parts separator rest with
    | [] => [[a]]
    | part :: others => if a = separator then [] :: part :: others else (a :: part) :: others

/-- Write a domain name. Its labels have 1 to 63 code points; the last one may be empty. -/
def encodeDomainName [Externals] (handler : Handler) (name : Text) : Except Fault Bytes :=
  if handler ≠ .strict then .error (.refused ("unsupported error handling " ++ handler.name))
  else if !name.all CodePoint.isAscii then (Externals.encodeName name).mapError .refused
  else
    let labels := parts (CodePoint.ofChar '.') name
    if labels.dropLast.any fun label => label.isEmpty || 64 ≤ label.length then
      .error (.refused "label empty or too long")
    else if labels.getLast?.any fun label => 64 ≤ label.length then
      .error (.refused "label too long")
    else .ok (asciiBytes name)

/-- The bytes at the front of a label that is not ASCII. -/
def acePrefix : Bytes := [120, 110, 45, 45]

/-- Read a label of a domain name. -/
def decodeLabel [Externals] (label : Bytes) : Except Fault Text :=
  if acePrefix.isPrefixOf label then Externals.decodeLabel label
  else asciiReader.decode .strict label

/-- Read a domain name. Only the strict handler will do, unless there is nothing to read. -/
def decodeDomainName [Externals] (handler : Handler) (data : Bytes) : Except Fault Text :=
  if data.isEmpty then .ok []
  else if handler ≠ .strict then
    .error (.refused ("Unsupported error handling " ++ handler.name))
  else do return Text.intercalate "." (← (parts 46 data).mapM decodeLabel)

/-- Faults other than spans name the charset when its codec is not built in. -/
def Fault.inCharset (direction : Direction) (charset : String) (fault : Fault) : Fault :=
  match fault with
  | .encode .. | .decode .. => fault
  | other => .within direction charset other

/-- The built-in codecs report every fault as it is. -/
def isBuiltIn (charset : Charset) : Bool :=
  match charset.codec with
  | .utf8 signature => !signature
  | .utf16 order | .utf32 order => order.isNone
  | .ascii => true
  | .latin1 => charset.name == "iso8859-1"
  | _ => false

/-- Write a text by the codec alone. -/
def encodeBare [Externals] (charset : Charset) (handler : Handler) (text : Text) :
    Except Fault Bytes :=
  match charset.codec with
  | .utf8 false => utf8Writer.encode handler text
  | .utf8 true => do return utf8Bytes byteOrderMark ++ (← utf8Writer.encode handler text)
  | .utf16 none => do
    return utf16Bytes .little byteOrderMark ++
      (← (utf16Writer "utf-16" .little).encode handler text)
  | .utf16 (some .little) => (utf16Writer "utf-16-le" .little).encode handler text
  | .utf16 (some .big) => (utf16Writer "utf-16-be" .big).encode handler text
  | .utf32 none => do
    return utf32Bytes .little byteOrderMark ++
      (← (utf32Writer "utf-32" .little).encode handler text)
  | .utf32 (some .little) => (utf32Writer "utf-32-le" .little).encode handler text
  | .utf32 (some .big) => (utf32Writer "utf-32-be" .big).encode handler text
  | .ascii => asciiWriter.encode handler text
  | .latin1 => latin1Writer.encode handler text
  | .table table => (tableWriter table).encode handler text
  | .rawEscape => rawEscapeWriter.encode handler text
  | .punycode => .ok (Punycode.encode text)
  | .domainName => encodeDomainName handler text
  | .external => Externals.encode charset.name handler text
  | .undefined | .transform => .error .undefined

/-- Read bytes after a mark of the given width, in the order the mark tells; without a mark in
little-endian order. -/
def decodeMarked (reader : ByteOrder → Reader) (mark : ByteOrder → Bytes) (handler : Handler)
    (data : Bytes) : Except Fault Text :=
  let width := (mark .little).length
  if mark .little |>.isPrefixOf data then (reader .little).readFrom handler data 0 width data
  else if mark .big |>.isPrefixOf data then (reader .big).readFrom handler data 0 width data
  else (reader .little).decode handler data

/-- Read bytes by the codec alone. -/
def decodeBare [Externals] (charset : Charset) (handler : Handler) (data : Bytes) :
    Except Fault Text :=
  match charset.codec with
  | .utf8 false => utf8Reader.decode handler data
  | .utf8 true =>
    let signature := utf8Bytes byteOrderMark
    utf8Reader.decode handler (if signature.isPrefixOf data then data.drop 3 else data)
  | .utf16 none => decodeMarked utf16Reader (utf16Bytes · byteOrderMark) handler data
  | .utf16 (some order) => (utf16Reader order).decode handler data
  | .utf32 none => decodeMarked utf32Reader (utf32Bytes · byteOrderMark) handler data
  | .utf32 (some order) => (utf32Reader order).decode handler data
  | .ascii => asciiReader.decode handler data
  | .latin1 => latin1Reader.decode handler data
  | .table table => (tableReader table).decode handler data
  | .rawEscape => rawEscapeReader.decode handler data
  | .punycode => decodePunycode handler data
  | .domainName => decodeDomainName handler data
  | .external => Externals.decode charset.name handler data
  | .undefined | .transform => .error .undefined

/-- Write a text in a charset. -/
def encode [Externals] (charset : Charset) (handler : Handler) (text : Text) :
    Except Fault Bytes :=
  match charset.encodeBare handler text with
  | .ok data => .ok data
  | .error fault =>
    .error (if charset.isBuiltIn then fault else fault.inCharset .encoding charset.name)

/-- Read bytes in a charset. -/
def decode [Externals] (charset : Charset) (handler : Handler) (data : Bytes) :
    Except Fault Text :=
  match charset.decodeBare handler data with
  | .ok text => .ok text
  | .error fault =>
    .error (if charset.isBuiltIn then fault else fault.inCharset .decoding charset.name)

/-- What patterns use of a charset: texts are written strictly, and bytes are read with replacement
characters. -/
structure Conversion where
  /-- The canonical name. -/
  name : String
  /-- Write a text. -/
  write : Text → Except Fault Bytes
  /-- Read bytes. -/
  read : Bytes → Except Fault Text

/-- The conversion of patterns in a charset. -/
def conversion [Externals] (charset : Charset) : Conversion :=
  ⟨charset.name, charset.encode .strict, charset.decode .replace⟩

/-- All bytes in order. -/
def allBytes : Bytes := (List.range 256).map UInt8.ofNat

/-- Whether every byte reads as exactly one code point and is written back as that byte, judged by
the string of all bytes. -/
def isSingleByte [Externals] (charset : Charset) : Bool :=
  match charset.decode .strict allBytes with
  | .error _ => false
  | .ok text =>
    text.length == 256 &&
      match charset.encode .strict text with
      | .ok data => data == allBytes
      | .error _ => false

end WideColumn.Charset
