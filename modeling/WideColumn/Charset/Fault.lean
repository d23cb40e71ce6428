import WideColumn.Text.Quoted

/-!
# Conversion faults

Why a text could not be written in a charset, or bytes could not be read. A fault names the codec,
the span it concerns and the reason; the codec's name here is that of the conversion, which is
shared by several charsets in places.
-/
namespace WideColumn.Charset

/-- The direction of a conversion. -/
inductive Direction where
  /-- From text to bytes. -/
  | encoding
  /-- From bytes to text. -/
  | decoding
deriving DecidableEq

/-- The name of a direction in messages. -/
def Direction.name : Direction → String
  | .encoding => "encoding"
  | .decoding => "decoding"

/-- Why a conversion failed. -/
inductive Fault where
  /-- The code points from `start` up to `stop` have no bytes. -/
  | encode (codec : String) (text : Text) (start stop : Nat) (reason : String)
  /-- The bytes from `start` up to `stop` form no code point. -/
  | decode (codec : String) (data : Bytes) (start stop : Nat) (reason : String)
  /-- There is no error handler of that name. -/
  | unknownHandler (name : Text)
  /-- The error handler works in the other direction only. -/
  | encodingOnlyHandler
  /-- The charset refuses every conversion. -/
  | undefined
  /-- The charset refuses this conversion, without naming a span. -/
  | refused (reason : Text)
  /-- A fault other than a span, inside the conversion of the named charset. -/
  | within (direction : Direction) (charset : String) (fault : Fault)
deriving DecidableEq

namespace Fault

/-- The kind of a fault. -/
inductive Family where
  /-- Code points without bytes. -/
  | encode
  /-- Bytes without code points. -/
  | decode
  /-- An unknown name. -/
  | lookup
  /-- A handler that does not apply. -/
  | type
  /-- A refusal of the charset itself. -/
  | unicode
deriving DecidableEq

/-- The kind of each fault; a wrapped fault keeps its kind. -/
def family : Fault → Family
  | encode .. => .encode
  | decode .. => .decode
  | unknownHandler _ => .lookup
  | encodingOnlyHandler => .type
  | undefined | refused _ => .unicode
  | within _ _ fault => fault.family

/-- The name of a kind. -/
def Family.name : Family → String
  | .encode => "UnicodeEncodeError"
  | .decode => "UnicodeDecodeError"
  | .lookup => "LookupError"
  | .type => "TypeError"
  | .unicode => "UnicodeError"

/-- The message of each fault. -/
def message : Fault → Text
  | encode codec text start stop reason =>
    let place : Text :=
      if stop = start + 1 then
        match text[start]? with
        | some c =>
          "character '" ++ c.escape ++ "' in position " ++ Text.ofNat start
        | none => "character in position " ++ Text.ofNat start
      else "characters in position " ++ Text.ofNat start ++ "-" ++ Text.ofNat (stop - 1)
    "'" ++ codec ++ "' codec can't encode " ++ place ++ ": " ++ reason
  | decode codec data start stop reason =>
    let place : Text :=
      if stop = start + 1 then
        match data[start]? with
        | some byte =>
          "byte 0x" ++ Text.hex 2 byte.toNat ++ " in position " ++ Text.ofNat start
        | none => "byte in position " ++ Text.ofNat start
      else "bytes in position " ++ Text.ofNat start ++ "-" ++ Text.ofNat (stop - 1)
    "'" ++ codec ++ "' codec can't decode " ++ place ++ ": " ++ reason
  | unknownHandler name => "unknown error handler name '" ++ name ++ "'"
  | encodingOnlyHandler => "don't know how to handle UnicodeDecodeError in error callback"
  | undefined => "undefined encoding"
  | refused reason => reason
  | within direction charset fault =>
    direction.name ++ " with '" ++ charset ++ "' codec failed (" ++ fault.family.name ++ ": " ++
      fault.message ++ ")"

end Fault
end WideColumn.Charset
