import WideColumn.Charset.Fault
import WideColumn.Text.CharacterName

/-!
# Error handlers

What a conversion does with a span it cannot convert: refuse it, leave it out, or put something in
its place. A handler may answer with text, which the codec must then be able to write itself, or
with finished bytes.
-/
namespace WideColumn.Charset

/-- How to treat what cannot be converted. -/
inductive Handler where
  /-- Refuse. -/
  | strict
  /-- Leave out. -/
  | ignore
  /-- Write a question mark, read a replacement character. -/
  | replace
  /-- Write decimal character references. -/
  | xmlcharrefreplace
  /-- Write or read backslash escapes. -/
  | backslashreplace
  /-- Write character names. -/
  | namereplace
  /-- Let the surrogates from U+DC80 to U+DCFF stand for single bytes. -/
  | surrogateescape
  /-- Let surrogates pass through the Unicode formats. -/
  | surrogatepass
  /-- A name that stands for no handler; a mistake only where a handler is needed. -/
  | unknown (name : Text)
deriving DecidableEq

namespace Handler

/-- The handlers and their names. -/
def named : List (String × Handler) := [("strict", strict), ("ignore", ignore),
  ("replace", replace), ("xmlcharrefreplace", xmlcharrefreplace),
  ("backslashreplace", backslashreplace), ("namereplace", namereplace),
  ("surrogateescape", surrogateescape), ("surrogatepass", surrogatepass)]

/-- The handler of a name. -/
def ofName (name : Text) : Handler :=
  match named.find? fun (known, _) => Text.ofString known = name with
  | some (_, handler) => handler
  | none => unknown name

/-- The name of a handler. -/
def name (handler : Handler) : Text :=
  match handler with
  | unknown name => name
  | known =>
    match named.find? fun (_, other) => other = known with
    | some (name, _) => name
    | none => []

end Handler

/-- What a handler puts in the place of a span. -/
inductive Repair where
  /-- Text that the codec writes. -/
  | text (replacement : Text)
  /-- Finished bytes. -/
  | bytes (replacement : Bytes)
  /-- A refusal whose span starts at the given offset into the span. -/
  | refuse (offset : Nat)

/-- The byte that an escaping surrogate stands for. -/
def escapedByte? (c : CodePoint) : Option UInt8 :=
  if 0xDC80 ≤ c.val ∧ c.val ≤ 0xDCFF then some (UInt8.ofNat (c.val - 0xDC00)) else none

/-- The name of a code point in braces after `\N`, or its backslash escape. -/
def nameEscape (c : CodePoint) : Text :=
  match c.name? with
  | some name => "\\N\x7b" ++ name ++ "\x7d"
  | none => c.escape

/-- The decimal character reference of a code point. -/
def characterReference (c : CodePoint) : Text := "&#" ++ Text.ofNat c.val ++ ";"

/-- Treat a run of code points that a codec cannot write. `pass` gives the bytes that surrogates
have in the codec's format, if it is a Unicode format; `partly` says whether a run that escapes only
in its first part is refused from its second part on. -/
def Handler.repair (handler : Handler) (pass : Option (CodePoint → Bytes)) (partly : Bool)
    (run : Text) : Except Fault Repair :=
  match handler with
  | .strict => .ok (.refuse 0)
  | .ignore => .ok (.text [])
  | .replace => .ok (.text (run.map fun _ => CodePoint.ofChar '?'))
  | .xmlcharrefreplace => .ok (.text (run.flatMap characterReference))
  | .backslashreplace => .ok (.text (run.flatMap CodePoint.escape))
  | .namereplace => .ok (.text (run.flatMap nameEscape))
  | .surrogateescape =>
    match run.mapM escapedByte? with
    | some bytes => .ok (.bytes bytes)
    | none =>
      .ok (.refuse (if partly then (run.takeWhile fun c => (escapedByte? c).isSome).length else 0))
  | .surrogatepass =>
    match pass with
    | some units =>
      if run.all CodePoint.isSurrogate then .ok (.bytes (run.flatMap units)) else .ok (.refuse 0)
    | none => .ok (.refuse 0)
  | .unknown name => .error (.unknownHandler name)

/-- The code point that an undecodable byte is kept as. -/
def byteEscape (byte : UInt8) : CodePoint := CodePoint.ofNat (0xDC00 + byte.toNat)

/-- Treat `count` undecodable bytes at the front of `data`: the text in their place and the number
of bytes it stands for, or `none` to refuse them. `pass` reads a surrogate at the front in the
codec's format, if it is a Unicode format. -/
def Handler.recover (handler : Handler) (pass : Bytes → Option (CodePoint × Nat)) (count : Nat)
    (data : Bytes) : Except Fault (Option (Text × Nat)) :=
  match handler with
  | .strict => .ok none
  | .ignore => .ok (some ([], count))
  | .replace => .ok (some ([CodePoint.ofNat 0xFFFD], count))
  | .xmlcharrefreplace | .namereplace => .error .encodingOnlyHandler
  | .backslashreplace =>
    .ok (some ((data.take count).flatMap fun byte => (CodePoint.ofByte byte).escape, count))
  | .surrogateescape =>
    let escaped := ((data.take count).take 4).takeWhile (128 ≤ ·)
    .ok (if escaped.isEmpty then none else some (escaped.map byteEscape, escaped.length))
  | .surrogatepass => .ok ((pass data).map fun (c, width) => ([c], width))
  | .unknown name => .error (.unknownHandler name)

end WideColumn.Charset
