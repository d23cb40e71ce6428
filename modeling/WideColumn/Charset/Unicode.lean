import WideColumn.Text.Basic

/-!
# Unicode formats

How code points are written as bytes in UTF-8, UTF-16 and UTF-32, and how the next code point is
read from the front of a byte string. A reader either takes a whole code point or names the bytes
that form none, together with the reason; those are always the longest beginning of a code point
that is there, so a replacement takes the place of as few code points as possible.
-/
namespace WideColumn.Charset

/-- The order of the bytes of a unit. -/
inductive ByteOrder where
  /-- Least significant byte first. -/
  | little
  /-- Most significant byte first. -/
  | big
deriving DecidableEq

/-- What stands at the front of a byte string. -/
inductive Reading where
  /-- A code point and the number of bytes it takes. -/
  | codePoint (c : CodePoint) (width : Nat)
  /-- Two bytes that stand for themselves together. -/
  | two (first second : CodePoint)
  /-- Bytes that form no code point. -/
  | malformed (count : Nat) (reason : String)

/-- A continuation byte of UTF-8 with the given six bits. -/
def continuation (bits : Nat) : UInt8 := UInt8.ofNat (0x80 + bits % 64)

/-- The UTF-8 form of a code point, by the general rule that also covers surrogates. -/
def utf8Bytes (c : CodePoint) : Bytes :=
  if c.val < 0x80 then [UInt8.ofNat c.val]
  else if c.val < 0x800 then [UInt8.ofNat (0xC0 + c.val / 64), continuation c.val]
  else if c.val < 0x10000 then
    [UInt8.ofNat (0xE0 + c.val / 4096), continuation (c.val / 64), continuation c.val]
  else
    [UInt8.ofNat (0xF0 + c.val / 262144), continuation (c.val / 4096), continuation (c.val / 64),
      continuation c.val]

/-- Whether a byte can follow the given lead byte directly. -/
def isSecond (lead second : UInt8) : Bool :=
  let low : UInt8 := if lead = 0xE0 then 0xA0 else if lead = 0xF0 then 0x90 else 0x80
  let high : UInt8 := if lead = 0xED then 0x9F else if lead = 0xF4 then 0x8F else 0xBF
  low ≤ second && second ≤ high

/-- Whether a byte continues a sequence. -/
def isContinuation (byte : UInt8) : Bool := 0x80 ≤ byte && byte ≤ 0xBF

/-- The number of bytes a lead byte announces; zero when it leads nothing. -/
def sequenceLength (lead : UInt8) : Nat :=
  if lead < 0x80 then 1
  else if lead < 0xC2 then 0
  else if lead < 0xE0 then 2
  else if lead < 0xF0 then 3
  else if lead < 0xF5 then 4
  else 0

/-- The low six bits of a continuation byte. -/
def lowBits (byte : UInt8) : Nat := byte.toNat % 64

/-- Reason of a sequence cut off by the end. -/
def endReason : String := "unexpected end of data"

/-- Reason of a byte that continues no sequence. -/
def continuationReason : String := "invalid continuation byte"

/-- The next code point of UTF-8. -/
def readUtf8 : Bytes → Reading
  | [] => .malformed 0 endReason
  | lead :: rest =>
    match sequenceLength lead, rest with
    | 0, _ => .malformed 1 "invalid start byte"
    | 1, _ => .codePoint (CodePoint.ofByte lead) 1
    | _, [] => .malformed 1 endReason
    | 2, b :: _ =>
      if isContinuation b then
        .codePoint (CodePoint.ofNat (lead.toNat % 32 * 64 + lowBits b)) 2
      else .malformed 1 continuationReason
    | 3, b :: rest =>
      if isSecond lead b then
        match rest with
        | [] => .malformed 2 endReason
        | c :: _ =>
          if isContinuation c then
            .codePoint
              (CodePoint.ofNat (lead.toNat % 16 * 4096 + lowBits b * 64 + lowBits c)) 3
          else .malformed 2 continuationReason
      else .malformed 1 continuationReason
    | _, b :: rest =>
      if isSecond lead b then
        match rest with
        | [] => .malformed 2 endReason
        | [c] =>
          if isContinuation c then .malformed 3 endReason else .malformed 2 continuationReason
        | c :: d :: _ =>
          if isContinuation c then
            if isContinuation d then
              .codePoint (CodePoint.ofNat
                (lead.toNat % 8 * 262144 + lowBits b * 4096 + lowBits c * 64 + lowBits d)) 4
            else .malformed 3 continuationReason
          else .malformed 2 continuationReason
      else .malformed 1 continuationReason

/-- A surrogate in the general three-byte form at the front of a byte string. -/
def readUtf8Surrogate : Bytes → Option (CodePoint × Nat)
  | a :: b :: c :: _ =>
    if a = 0xED ∧ 0xA0 ≤ b ∧ b ≤ 0xBF ∧ isContinuation c then
      some (CodePoint.ofNat (0xD000 + lowBits b * 64 + lowBits c), 3)
    else none
  | _ => none

/-- A 16-bit unit as bytes. -/
def unit16Bytes (order : ByteOrder) (unit : Nat) : Bytes :=
  let low := UInt8.ofNat (unit % 256)
  let high := UInt8.ofNat (unit / 256 % 256)
  match order with
  | .little => [low, high]
  | .big => [high, low]

/-- The UTF-16 form of a code point: one unit, or a pair of surrogates from U+10000 on. -/
def utf16Bytes (order : ByteOrder) (c : CodePoint) : Bytes :=
  if c.val < 0x10000 then unit16Bytes order c.val
  else
    unit16Bytes order (0xD800 + (c.val - 0x10000) / 1024) ++
      unit16Bytes order (0xDC00 + (c.val - 0x10000) % 1024)

/-- The 16-bit unit of two bytes. -/
def unit16 (order : ByteOrder) (first second : UInt8) : Nat :=
  match order with
  | .little => second.toNat * 256 + first.toNat
  | .big => first.toNat * 256 + second.toNat

/-- The next code point of UTF-16. -/
def readUtf16 (order : ByteOrder) : Bytes → Reading
  | [] => .malformed 0 endReason
  | [_] => .malformed 1 "truncated data"
  | a :: b :: rest =>
    let unit := unit16 order a b
    if unit < 0xD800 ∨ 0xE000 ≤ unit then .codePoint (CodePoint.ofNat unit) 2
    else if 0xDC00 ≤ unit then .malformed 2 "illegal encoding"
    else
      match rest with
      | [] => .malformed 2 endReason
      | [_] => .malformed 3 endReason
      | c :: d :: _ =>
        let second := unit16 order c d
        if 0xDC00 ≤ second ∧ second < 0xE000 then
          .codePoint (CodePoint.ofNat (0x10000 + (unit - 0xD800) * 1024 + (second - 0xDC00))) 4
        else .malformed 2 "illegal UTF-16 surrogate"

/-- A lone surrogate unit at the front of a byte string. -/
def readUtf16Surrogate (order : ByteOrder) : Bytes → Option (CodePoint × Nat)
  | a :: b :: _ =>
    let unit := unit16 order a b
    if 0xD800 ≤ unit ∧ unit < 0xE000 then some (CodePoint.ofNat unit, 2) else none
  | _ => none

/-- The UTF-32 form of a code point. -/
def utf32Bytes (order : ByteOrder) (c : CodePoint) : Bytes :=
  match order with
  | .little => unit16Bytes .little c.val ++ unit16Bytes .little (c.val / 65536)
  | .big => unit16Bytes .big (c.val / 65536) ++ unit16Bytes .big c.val

/-- The 32-bit unit of four bytes. -/
def unit32 (order : ByteOrder) (a b c d : UInt8) : Nat :=
  match order with
  | .little => unit16 .little c d * 65536 + unit16 .little a b
  | .big => unit16 .big a b * 65536 + unit16 .big c d

/-- The next code point of UTF-32. -/
def readUtf32 (order : ByteOrder) : Bytes → Reading
  | a :: b :: c :: d :: _ =>
    let unit := unit32 order a b c d
    if 0xD800 ≤ unit ∧ unit < 0xE000 then
      .malformed 4 "code point in surrogate code point range(0xd800, 0xe000)"
    else if unit < 0x110000 then .codePoint (CodePoint.ofNat unit) 4
    else .malformed 4 "code point not in range(0x110000)"
  | data => .malformed data.length "truncated data"

/-- A lone surrogate unit at the front of a byte string. -/
def readUtf32Surrogate (order : ByteOrder) : Bytes → Option (CodePoint × Nat)
  | a :: b :: c :: d :: _ =>
    let unit := unit32 order a b c d
    if 0xD800 ≤ unit ∧ unit < 0xE000 then some (CodePoint.ofNat unit, 4) else none
  | _ => none

/-- The mark U+FEFF, which tells the byte order at the front of a text. -/
def byteOrderMark : CodePoint := ⟨0xFEFF, by decide⟩

end WideColumn.Charset
