import WideColumn.Proofs.Charset.Strict
import WideColumn.Proofs.Charset.Utf8

/-!
# The Unicode formats keep every text

A Unicode format writes a text as the bytes of its characters, one character after another, behind a
mark that some formats put in front. Reading takes away one mark at most, and then each character
from the front of its own bytes, whatever follows them. So every text of characters comes back, also
one that begins with the character that serves as the mark.
-/
namespace WideColumn.Charset

variable {reader : Reader} {handler : Handler} {whole : Bytes} {form : CodePoint → Bytes}
  {text : Text}

/-! ## Units -/

/-- A unit is two bytes that are read as its lowest sixteen bits. -/
theorem unit16Bytes_eq (order : ByteOrder) (unit : Nat) :
    ∃ first second, unit16Bytes order unit = [first, second] ∧
      unit16 order first second = unit % 0x10000 := by
  have low : (UInt8.ofNat (unit % 256)).toNat = unit % 256 := toNat_ofNat (by omega)
  have high : (UInt8.ofNat (unit / 256 % 256)).toNat = unit / 256 % 256 := toNat_ofNat (by omega)
  cases order with
  | little =>
    refine ⟨_, _, rfl, ?_⟩
    rw [unit16, low, high]
    omega
  | big =>
    refine ⟨_, _, rfl, ?_⟩
    rw [unit16, low, high]
    omega

/-! ## Characters -/

/-- A unit outside of the surrogates is a character of UTF-16 by itself. -/
theorem readUtf16_single {order : ByteOrder} {a b : UInt8} (rest : Bytes)
    (outside : unit16 order a b < 0xD800 ∨ 0xE000 ≤ unit16 order a b) :
    readUtf16 order (a :: b :: rest) = .codePoint (.ofNat (unit16 order a b)) 2 := by
  simp only [readUtf16, outside, ↓reduceIte]

/-- A leading and a trailing surrogate are a character of UTF-16 together. -/
theorem readUtf16_pair {order : ByteOrder} {a b c d : UInt8} (rest : Bytes)
    (leading : 0xD800 ≤ unit16 order a b ∧ unit16 order a b < 0xDC00)
    (trailing : 0xDC00 ≤ unit16 order c d ∧ unit16 order c d < 0xE000) :
    readUtf16 order (a :: b :: c :: d :: rest) =
      .codePoint (.ofNat
        (0x10000 + (unit16 order a b - 0xD800) * 1024 + (unit16 order c d - 0xDC00))) 4 := by
  have surrogate : ¬ (unit16 order a b < 0xD800 ∨ 0xE000 ≤ unit16 order a b) := by omega
  have first : ¬ 0xDC00 ≤ unit16 order a b := by omega
  simp only [readUtf16, surrogate, first, trailing, and_self, ↓reduceIte]

/-- A character is read from the front of its own UTF-16 bytes, whatever follows. -/
theorem readUtf16_utf16Bytes (order : ByteOrder) {c : CodePoint} (scalar : c.isSurrogate = false)
    (rest : Bytes) :
    readUtf16 order (utf16Bytes order c ++ rest) = .codePoint c (utf16Bytes order c).length := by
  have bound := c.isLt
  have outside := outside_of_scalar scalar
  unfold utf16Bytes
  split
  · next basic =>
    obtain ⟨a, b, bytes, unit⟩ := unit16Bytes_eq order c.val
    rw [Nat.mod_eq_of_lt basic] at unit
    rw [bytes]
    refine (readUtf16_single rest (by rwa [unit])).trans ?_
    rw [unit, ofNat_val c rfl]
    rfl
  · next beyond =>
    obtain ⟨a, b, leading, first⟩ := unit16Bytes_eq order (0xD800 + (c.val - 0x10000) / 1024)
    obtain ⟨d, e, trailing, second⟩ := unit16Bytes_eq order (0xDC00 + (c.val - 0x10000) % 1024)
    rw [Nat.mod_eq_of_lt (by omega)] at first second
    rw [leading, trailing]
    refine (readUtf16_pair rest (by omega) (by omega)).trans ?_
    rw [first, second, ofNat_val c (by omega)]
    rfl

/-- A unit of UTF-32 that is the number of a character is that character. -/
theorem readUtf32_single {order : ByteOrder} {a b d e : UInt8} {c : CodePoint} (rest : Bytes)
    (scalar : c.isSurrogate = false) (unit : unit32 order a b d e = c.val) :
    readUtf32 order (a :: b :: d :: e :: rest) = .codePoint c 4 := by
  have outside := outside_of_scalar scalar
  have no_surrogate : ¬ (0xD800 ≤ c.val ∧ c.val < 0xE000) := by omega
  simp only [readUtf32, unit, no_surrogate, c.isLt, ↓reduceIte, ofNat_val c rfl]

/-- A character is read from the front of its own UTF-32 bytes, whatever follows. -/
theorem readUtf32_utf32Bytes (order : ByteOrder) {c : CodePoint} (scalar : c.isSurrogate = false)
    (rest : Bytes) :
    readUtf32 order (utf32Bytes order c ++ rest) = .codePoint c (utf32Bytes order c).length := by
  have bound := c.isLt
  cases order with
  | little =>
    obtain ⟨a, b, low, lower⟩ := unit16Bytes_eq .little c.val
    obtain ⟨d, e, high, upper⟩ := unit16Bytes_eq .little (c.val / 65536)
    rw [utf32Bytes, low, high]
    refine readUtf32_single rest scalar ?_
    rw [unit32, lower, upper]
    omega
  | big =>
    obtain ⟨a, b, high, upper⟩ := unit16Bytes_eq .big (c.val / 65536)
    obtain ⟨d, e, low, lower⟩ := unit16Bytes_eq .big c.val
    rw [utf32Bytes, low, high]
    refine readUtf32_single rest scalar ?_
    rw [unit32, lower, upper]
    omega

/-! ## Texts -/

/-- Bytes that are spoken for are passed over. -/
theorem Reader.readFrom_skip (reader : Reader) (handler : Handler) (whole front rest : Bytes)
    (position : Nat) :
    reader.readFrom handler whole position front.length (front ++ rest) =
      reader.readFrom handler whole (position + front.length) 0 rest := by
  induction front generalizing position with
  | nil => rfl
  | cons byte front ih =>
    rw [List.cons_append, List.length_cons, readFrom, ih]
    congr 1
    omega

/-- Whether a reader takes each character from the front of its own bytes, of which there are some.
-/
structure Reader.Reads (reader : Reader) (form : CodePoint → Bytes) : Prop where
  /-- A character is read, whatever follows. -/
  front : ∀ c, c.isSurrogate = false → ∀ rest,
    reader.read (form c ++ rest) = .codePoint c (form c).length
  /-- There is something to read. -/
  fills : ∀ c, form c ≠ []

/-- A text is read from the bytes of its characters. -/
theorem Reader.Reads.readFrom_flatMap (reads : reader.Reads form) (characters : text.IsOfCharacters)
    (position : Nat) :
    reader.readFrom handler whole position 0 (text.flatMap form) = .ok text := by
  induction text generalizing position with
  | nil => rfl
  | cons c rest ih =>
    obtain ⟨scalar, later⟩ := List.forall_mem_cons.1 characters
    obtain ⟨first, others, bytes⟩ := List.exists_cons_of_ne_nil (reads.fills c)
    have front := reads.front c scalar (rest.flatMap form)
    rw [bytes, List.cons_append, List.length_cons] at front
    rw [List.flatMap_cons, bytes, List.cons_append, readFrom_codePoint front,
      Nat.add_sub_cancel, readFrom_skip, ih later]
    rfl

/-- A text of characters is written in a Unicode format as the bytes of its characters. -/
theorem Writer.encode_characters {writer : Writer} (scalars : writer.write = writeScalar form)
    (characters : text.IsOfCharacters) : writer.encode .strict text = .ok (text.flatMap form) := by
  refine encode_strict.2 ?_
  induction text with
  | nil => rfl
  | cons c rest ih =>
    obtain ⟨scalar, later⟩ := List.forall_mem_cons.1 characters
    refine writeAll_cons.2 ⟨form c, rest.flatMap form, ?_, ih later, rfl⟩
    rw [scalars, writeScalar, if_neg (Bool.eq_false_iff.1 scalar)]

/-! ## Formats -/

/-- How a Unicode format writes. -/
structure Format where
  /-- What stands in front of every text. -/
  mark : Bytes
  /-- The bytes of a code point. -/
  form : CodePoint → Bytes

/-- The bytes of a text in a format. -/
def Format.bytes (format : Format) (text : Text) : Bytes := format.mark ++ text.flatMap format.form

/-- How a codec writes if it is one of the Unicode formats. One without an order of its own writes
the little end first, behind a mark. -/
def Codec.format? : Codec → Option Format
  | utf8 false => some ⟨[], utf8Bytes⟩
  | utf8 true => some ⟨utf8Bytes byteOrderMark, utf8Bytes⟩
  | utf16 none => some ⟨utf16Bytes .little byteOrderMark, utf16Bytes .little⟩
  | utf16 (some order) => some ⟨[], utf16Bytes order⟩
  | utf32 none => some ⟨utf32Bytes .little byteOrderMark, utf32Bytes .little⟩
  | utf32 (some order) => some ⟨[], utf32Bytes order⟩
  | _ => none

/-- UTF-8 is read as it is written. -/
theorem reads_utf8 : utf8Reader.Reads utf8Bytes :=
  ⟨fun _ scalar rest => readUtf8_utf8Bytes scalar rest, utf8Bytes_ne_nil⟩

/-- UTF-16 is read as it is written. -/
theorem reads_utf16 (order : ByteOrder) : (utf16Reader order).Reads (utf16Bytes order) :=
  ⟨fun _ scalar rest => readUtf16_utf16Bytes order scalar rest, utf16Bytes_ne_nil order⟩

/-- UTF-32 is read as it is written. -/
theorem reads_utf32 (order : ByteOrder) : (utf32Reader order).Reads (utf32Bytes order) :=
  ⟨fun _ scalar rest => readUtf32_utf32Bytes order scalar rest, utf32Bytes_ne_nil order⟩

/-- What is written behind a mark. -/
theorem marked_ok {mark data : Bytes} {behind : Except Fault Bytes} (written : behind = .ok data) :
    (do return mark ++ (← behind)) = .ok (mark ++ data) := by
  rw [written]
  rfl

/-- A text of characters is written in a Unicode format, behind the mark of the format. -/
theorem encode_format [Externals] {charset : Charset} {format : Format}
    (unicode : charset.codec.format? = some format) (characters : text.IsOfCharacters) :
    charset.encode .strict text = .ok (format.bytes text) := by
  refine encode_ok.2 ?_
  obtain ⟨name, codec⟩ := charset
  cases codec with
  | utf8 signature =>
    cases signature with
    | false => cases unicode; exact Writer.encode_characters rfl characters
    | true => cases unicode; exact marked_ok (Writer.encode_characters rfl characters)
  | utf16 order | utf32 order =>
    rcases order with _ | _ | _
    · cases unicode; exact marked_ok (Writer.encode_characters rfl characters)
    · cases unicode; exact Writer.encode_characters rfl characters
    · cases unicode; exact Writer.encode_characters rfl characters
  | _ => cases unicode

/-- Bytes behind the mark of the little end are read with the little end first, and the mark is
passed over once. -/
theorem decodeMarked_little {reader : ByteOrder → Reader} (mark : ByteOrder → Bytes)
    (reads : (reader .little).Reads form) (characters : text.IsOfCharacters) :
    decodeMarked reader mark .strict (mark .little ++ text.flatMap form) = .ok text := by
  have marked : (mark .little).isPrefixOf (mark .little ++ text.flatMap form) = true :=
    List.isPrefixOf_iff_prefix.2 (List.prefix_append _ _)
  unfold decodeMarked
  dsimp only
  rw [if_pos marked, Reader.readFrom_skip, reads.readFrom_flatMap characters]

/-- A text of characters is read back from its bytes in a Unicode format. -/
theorem decode_format [Externals] {charset : Charset} {format : Format}
    (unicode : charset.codec.format? = some format) (characters : text.IsOfCharacters) :
    charset.decode .strict (format.bytes text) = .ok text := by
  refine decode_ok.2 ?_
  obtain ⟨name, codec⟩ := charset
  cases codec with
  | utf8 signature =>
    cases signature with
    | false => cases unicode; exact reads_utf8.readFrom_flatMap characters 0
    | true =>
      -- The signature is found in front and dropped, so only the text is read.
      cases unicode
      exact reads_utf8.readFrom_flatMap characters 0
  | utf16 order =>
    cases order with
    | none =>
      cases unicode
      exact decodeMarked_little (utf16Bytes · byteOrderMark) (reads_utf16 .little) characters
    | some order => cases unicode; exact (reads_utf16 order).readFrom_flatMap characters 0
  | utf32 order =>
    cases order with
    | none =>
      cases unicode
      exact decodeMarked_little (utf32Bytes · byteOrderMark) (reads_utf32 .little) characters
    | some order => cases unicode; exact (reads_utf32 order).readFrom_flatMap characters 0
  | _ => cases unicode

/-! ## Names -/

/-- The canonical names of the Unicode formats. -/
def unicodeNames : List String :=
  ["utf-8", "utf-8-sig", "utf-16", "utf-16-le", "utf-16-be", "utf-32", "utf-32-le", "utf-32-be"]

set_option maxRecDepth 4000 in
/-- What is registered under the name of a Unicode format is one. -/
theorem format_of_name :
    ∀ entry ∈ registry, entry.2.name ∈ unicodeNames → entry.2.codec.format?.isSome = true := by
  decide

/-- Under every name that stands for a Unicode format, every text of characters is written, as the
bytes of its characters behind the mark of the format if it has one, and read back from them. -/
theorem unicode_roundTrip [Externals] {name : Text} {charset : Charset}
    (spelled : name.IsOfCharacters) (clean : ∀ c ∈ name, c.val ≠ 0)
    (registered : ofNormalName? (normalName name) = some charset)
    (unicode : charset.name ∈ unicodeNames) {text : Text} (characters : text.IsOfCharacters) :
    lookup (.text name) = .ok charset ∧
      ∃ format, charset.codec.format? = some format ∧
        encodeAs (.text name) .strict text = .ok (format.bytes text) ∧
        decodeAs (.text name) .strict (.raw (format.bytes text)) = .ok text := by
  have listed : (keyOf (normalName name), charset) ∈ registry :=
    mem_of_lookup ((ofNormalName?_eq _).symm.trans registered)
  obtain ⟨format, writes⟩ := Option.isSome_iff_exists.1 (format_of_name _ listed unicode)
  have converts : charset.codec.isConversion = true := by
    cases codec : charset.codec with
    | undefined | transform => rw [codec] at writes; cases writes
    | _ => rfl
  have found : lookup (.text name) = .ok charset :=
    lookup_of_registered (Writer.encode_characters rfl spelled) clean registered converts
  exact ⟨found, format, writes, (encodeAs_ok found).2 (encode_format writes characters),
    (decodeAs_ok found).2 (decode_format writes characters)⟩

set_option maxRecDepth 4000 in
/-- Under an alias of UTF-16 a text that begins with the mark gets a second one, and comes back with
its own and with a character from beyond the first plane. -/
theorem unicode_roundTrip_ofMark :
    encodeAs (.string "U16") .strict [byteOrderMark, .ofNat 0x1F600] =
        .ok [0xFF, 0xFE, 0xFF, 0xFE, 0x3D, 0xD8, 0x00, 0xDE] ∧
      decodeAs (.string "U16") .strict
          (.raw [0xFF, 0xFE, 0xFF, 0xFE, 0x3D, 0xD8, 0x00, 0xDE]) =
        .ok [byteOrderMark, .ofNat 0x1F600] := by
  have registered : ofNormalName? (normalName "U16") = some ⟨"utf-16", .utf16 none⟩ := by rfl
  have characters : Text.IsOfCharacters [byteOrderMark, .ofNat 0x1F600] := by
    unfold Text.IsOfCharacters
    decide
  obtain ⟨-, format, writes, encodes, decodes⟩ :=
    unicode_roundTrip (Text.characters_ofString "U16") (by decide) registered (by decide) characters
  cases writes
  exact ⟨encodes, decodes⟩

end WideColumn.Charset
