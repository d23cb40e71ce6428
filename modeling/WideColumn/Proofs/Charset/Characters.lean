import WideColumn.Proofs.Charset.RoundTrip

/-!
# Texts of characters

A lone surrogate is a code point but no character, and no Unicode format has bytes for it. The
Unicode formats, ASCII, Latin-1 and the byte tables neither write a surrogate nor read one, whatever
the bytes are; what they cannot read becomes a replacement character. Raw escapes do both.
-/
namespace WideColumn

/-- Whether a text holds no surrogate. -/
def Text.IsOfCharacters (text : Text) : Prop := ∀ c ∈ text, c.isSurrogate = false

/-- The text of a string is one of characters. -/
theorem Text.characters_ofString (s : String) : (Text.ofString s).IsOfCharacters := by
  intro c among
  obtain ⟨char, -, rfl⟩ := List.mem_map.1 among
  exact Charset.isSurrogate_ofChar char

namespace Charset

/-- Whether a codec converts between bytes and characters only. -/
def Codec.isOfCharacters : Codec → Bool
  | utf8 _ | utf16 _ | utf32 _ | ascii | latin1 | table _ => true
  | rawEscape | punycode | domainName | external | undefined | transform => false

/-! ## Numbers -/

/-- The code point of a number outside of the surrogates is none. -/
theorem isSurrogate_ofNat {n : Nat} (outside : n < 0xD800 ∨ 0xE000 ≤ n) :
    (CodePoint.ofNat n).isSurrogate = false := by
  unfold CodePoint.ofNat CodePoint.isSurrogate
  split
  · simp only [Bool.and_eq_false_iff, decide_eq_false_iff_not]
    omega
  · rfl

/-- The code point of a byte is no surrogate. -/
theorem isSurrogate_ofByte (byte : UInt8) : (CodePoint.ofByte byte).isSurrogate = false := by
  have bound : byte.toNat < 0xD800 := Nat.lt_trans byte.toNat_lt (by decide)
  exact Bool.and_eq_false_imp.2 fun above => absurd bound (Nat.not_lt.2 (of_decide_eq_true above))

/-! ## Writing -/

namespace Writer

/-- Whether a writer has no bytes for surrogates. -/
def IsOfCharacters (writer : Writer) : Prop :=
  ∀ c bytes, writer.write c = some bytes → c.isSurrogate = false

variable {writer : Writer} {text : Text} {data : Bytes}

/-- What has bytes in a writer of characters is a text of characters. -/
theorem characters_of_writeAll (only : writer.IsOfCharacters)
    (written : writer.writeAll text = some data) : text.IsOfCharacters := by
  induction text generalizing data with
  | nil => nofun
  | cons c rest ih =>
    obtain ⟨first, others, one, remaining, -⟩ := writeAll_cons.1 written
    exact List.forall_mem_cons.2 ⟨only c first one, ih remaining⟩

/-- What a writer of characters writes is a text of characters. -/
theorem characters_of_encode (only : writer.IsOfCharacters)
    (written : writer.encode .strict text = .ok data) : text.IsOfCharacters :=
  characters_of_writeAll only (encode_strict.1 written)

/-- A Unicode format is written for characters only. -/
theorem isOfCharacters_scalars {form : CodePoint → Bytes}
    (scalars : writer.write = writeScalar form) : writer.IsOfCharacters := by
  intro c bytes written
  rw [scalars, writeScalar] at written
  exact Bool.eq_false_iff.2 (Option.ite_none_left_eq_some.1 written).1

/-- The code points below a limit are characters, if the limit does not exceed the surrogates. -/
theorem isOfCharacters_below {limit : Nat} (low : limit ≤ 0xD800)
    (below : writer.write = writeBelow limit) : writer.IsOfCharacters := by
  intro c bytes written
  rw [below, writeBelow] at written
  have bound := (Option.ite_none_right_eq_some.1 written).1
  simp only [CodePoint.isSurrogate, Bool.and_eq_false_iff, decide_eq_false_iff_not]
  omega

end Writer

/-- What is found in a table is a character of it. -/
theorem Table.isSurrogate_of_lastIndex {c : CodePoint} {index found : Nat}
    {entries : List (Option Char)} (stands : lastIndex c index entries = some found) :
    c.isSurrogate = false := by
  induction entries generalizing index found with
  | nil => cases stands
  | cons entry rest ih =>
    rw [lastIndex] at stands
    split at stands
    · next _ later => exact ih later
    · obtain ⟨here, -⟩ := Option.ite_none_right_eq_some.1 stands
      obtain ⟨char, -, rfl⟩ := Option.map_eq_some_iff.1 here
      exact isSurrogate_ofChar char

/-- A byte table is written for its characters only. -/
theorem isOfCharacters_tableWriter (table : Table) : (tableWriter table).IsOfCharacters := by
  intro c bytes written
  obtain ⟨byte, written, -⟩ := Option.map_eq_some_iff.1 written
  obtain ⟨index, stands, -⟩ := Option.map_eq_some_iff.1 written
  exact Table.isSurrogate_of_lastIndex stands

/-- What is written in a charset of characters is a text of characters. -/
theorem characters_of_encode [Externals] {charset : Charset}
    (only : charset.codec.isOfCharacters = true) {text : Text} {data : Bytes}
    (written : charset.encode .strict text = .ok data) : text.IsOfCharacters := by
  have written := encode_ok.1 written
  obtain ⟨name, codec⟩ := charset
  cases codec with
  | utf8 signature =>
    cases signature with
    | false => exact Writer.characters_of_encode (Writer.isOfCharacters_scalars rfl) written
    | true =>
      obtain ⟨others, written, -⟩ := Except.bind_eq_ok.1 written
      exact Writer.characters_of_encode (Writer.isOfCharacters_scalars rfl) written
  | utf16 order | utf32 order =>
    rcases order with _ | _ | _
    · obtain ⟨others, written, -⟩ := Except.bind_eq_ok.1 written
      exact Writer.characters_of_encode (Writer.isOfCharacters_scalars rfl) written
    · exact Writer.characters_of_encode (Writer.isOfCharacters_scalars rfl) written
    · exact Writer.characters_of_encode (Writer.isOfCharacters_scalars rfl) written
  | ascii | latin1 =>
    exact Writer.characters_of_encode (Writer.isOfCharacters_below (by decide) rfl) written
  | table table => exact Writer.characters_of_encode (isOfCharacters_tableWriter table) written
  | _ => cases only

/-! ## Reading -/

/-- Whether nothing but a character stands at the front, if anything does. -/
def Reading.IsOfCharacters : Reading → Prop
  | codePoint c _ => c.isSurrogate = false
  | two .. => False
  | malformed .. => True

namespace Reader

/-- Whether a reader takes one character after another. -/
def IsOfCharacters (reader : Reader) : Prop := ∀ data, (reader.read data).IsOfCharacters

/-- Bytes that form no code point are read as a replacement character. -/
theorem readFrom_replaced {reader : Reader} {whole rest : Bytes} {byte : UInt8} {position count : Nat}
    {reason : String} (front : reader.read (byte :: rest) = .malformed count reason) :
    reader.readFrom .replace whole position 0 (byte :: rest) =
      (reader.readFrom .replace whole (position + 1) (count - 1) rest).map
        (CodePoint.ofNat 0xFFFD :: ·) := by
  rw [readFrom, front]
  show (do return [CodePoint.ofNat 0xFFFD] ++
    (← reader.readFrom .replace whole (position + 1) (count - 1) rest)) = _
  cases reader.readFrom .replace whole (position + 1) (count - 1) rest <;> rfl

/-- What a reader of characters reads with replacements is a text of characters. -/
theorem characters_of_readFrom {reader : Reader} {whole data : Bytes} {position skip : Nat}
    {text : Text} (read : reader.readFrom .replace whole position skip data = .ok text)
    (only : reader.IsOfCharacters) : text.IsOfCharacters := by
  induction data generalizing position skip text with
  | nil =>
    rw [readFrom] at read
    cases read
    exact List.forall_mem_nil _
  | cons byte rest ih =>
    cases skip with
    | succ skip => rw [readFrom] at read; exact ih read
    | zero =>
      have here := only (byte :: rest)
      cases front : reader.read (byte :: rest) with
      | codePoint c width =>
        rw [front] at here
        rw [readFrom_codePoint front] at read
        obtain ⟨others, remaining, rfl⟩ := Except.map_eq_ok.1 read
        exact List.forall_mem_cons.2 ⟨here, ih remaining⟩
      | two first second =>
        rw [front] at here
        exact here.elim
      | malformed count reason =>
        rw [readFrom_replaced front] at read
        obtain ⟨others, remaining, rfl⟩ := Except.map_eq_ok.1 read
        exact List.forall_mem_cons.2 ⟨rfl, ih remaining⟩

end Reader

/-- Single bytes are read as characters if each stands for a character or nothing. -/
theorem readByte_characters {reason : String} {meaning : UInt8 → Option CodePoint}
    (characters : ∀ byte c, meaning byte = some c → c.isSurrogate = false) (data : Bytes) :
    (readByte reason meaning data).IsOfCharacters := by
  fun_cases readByte reason meaning data with
  | case2 byte _ c known => exact characters byte c known
  | _ => trivial

/-- The bytes of a table stand for its characters. -/
theorem isSurrogate_of_read {table : Table} {byte : UInt8} {c : CodePoint}
    (known : table.read byte = some c) : c.isSurrogate = false := by
  obtain ⟨char, -, rfl⟩ := Option.map_eq_some_iff.1 known
  exact isSurrogate_ofChar char

/-! ## Unicode formats -/

/-- The bytes that announce three. -/
theorem range_of_three {lead : UInt8} (three : sequenceLength lead = 3) :
    0xE0 ≤ lead ∧ lead < 0xF0 := by
  unfold sequenceLength at three
  grind

/-- The bytes that announce more than three. -/
theorem range_of_four {lead : UInt8} (some_bytes : sequenceLength lead ≠ 0)
    (not_one : sequenceLength lead ≠ 1) (not_two : sequenceLength lead ≠ 2)
    (not_three : sequenceLength lead ≠ 3) : 0xF0 ≤ lead ∧ lead < 0xF5 := by
  unfold sequenceLength at some_bytes not_one not_two not_three
  grind

/-- The bytes that can follow the given one directly. -/
theorem range_of_second {lead second : UInt8} (fits : isSecond lead second = true) :
    0x80 ≤ second ∧ second ≤ 0xBF ∧ (lead = 0xED → second ≤ 0x9F) ∧
      (lead = 0xF0 → 0x90 ≤ second) := by
  unfold isSecond at fits
  grind

/-- The low bits of a byte are a number below 64. -/
theorem lowBits_lt (byte : UInt8) : lowBits byte < 64 := Nat.mod_lt _ (by decide)

/-- Three bytes of UTF-8 lie below the surrogates or above, as their first two tell. -/
theorem outside_of_three {lead second : UInt8} (three : sequenceLength lead = 3)
    (fits : isSecond lead second = true) :
    lead.toNat % 16 * 4096 + lowBits second * 64 + 64 ≤ 0xD800 ∨
      0xE000 ≤ lead.toNat % 16 * 4096 + lowBits second * 64 := by
  obtain ⟨low, high⟩ := range_of_three three
  obtain ⟨first, last, surrogates, -⟩ := range_of_second fits
  simp only [UInt8.le_iff_toNat_le, UInt8.lt_iff_toNat_lt, ← UInt8.toNat_inj, UInt8.reduceToNat]
    at low high first last surrogates
  unfold lowBits
  omega

/-- Four bytes of UTF-8 lie above the surrogates, as their first two tell. -/
theorem above_of_four {lead second : UInt8} (range : 0xF0 ≤ lead ∧ lead < 0xF5)
    (fits : isSecond lead second = true) :
    0x10000 ≤ lead.toNat % 8 * 262144 + lowBits second * 4096 := by
  obtain ⟨low, high⟩ := range
  obtain ⟨first, last, -, overlong⟩ := range_of_second fits
  simp only [UInt8.le_iff_toNat_le, UInt8.lt_iff_toNat_lt, ← UInt8.toNat_inj, UInt8.reduceToNat]
    at low high first last overlong
  unfold lowBits
  omega

/-- UTF-8 is read as characters. -/
theorem readUtf8_characters (data : Bytes) : (readUtf8 data).IsOfCharacters := by
  fun_cases readUtf8 data with
  | case3 lead => exact isSurrogate_ofByte lead
  | case5 lead b =>
    have low := lowBits_lt b
    exact isSurrogate_ofNat (.inl (by omega))
  | case8 lead b three fits c =>
    have low := lowBits_lt c
    have outside := outside_of_three three fits
    exact isSurrogate_ofNat (by omega)
  | case14 lead b fits _ _ _ _ _ some_bytes not_one not_two not_three =>
    have above := above_of_four (range_of_four some_bytes not_one not_two not_three) fits
    exact isSurrogate_ofNat (.inr (by omega))
  | _ => trivial

/-- UTF-16 is read as characters, a pair of surrogates together as one. -/
theorem readUtf16_characters (order : ByteOrder) (data : Bytes) :
    (readUtf16 order data).IsOfCharacters := by
  fun_cases readUtf16 order data with
  | case3 a b rest unit outside => exact isSurrogate_ofNat outside
  | case7 => exact isSurrogate_ofNat (.inr (by omega))
  | _ => exact trivial

/-- UTF-32 is read as characters. -/
theorem readUtf32_characters (order : ByteOrder) (data : Bytes) :
    (readUtf32 order data).IsOfCharacters := by
  fun_cases readUtf32 order data with
  | case2 a b c d rest unit outside => exact isSurrogate_ofNat (by omega)
  | _ => exact trivial

/-! ## Charsets -/

/-- Bytes that may be marked are read as characters if they are so in either order. -/
theorem characters_of_decodeMarked {reader : ByteOrder → Reader} {mark : ByteOrder → Bytes}
    {text : Text} {data : Bytes} (read : decodeMarked reader mark .replace data = .ok text)
    (only : ∀ order, (reader order).IsOfCharacters) : text.IsOfCharacters := by
  unfold decodeMarked at read
  dsimp only at read
  split at read
  · exact Reader.characters_of_readFrom read (only .little)
  · split at read
    · exact Reader.characters_of_readFrom read (only .big)
    · exact Reader.characters_of_readFrom read (only .little)

/-- What is read in a charset of characters, with replacements, is a text of characters. -/
theorem characters_of_decode [Externals] {charset : Charset}
    (only : charset.codec.isOfCharacters = true) {text : Text} {data : Bytes}
    (read : charset.decode .replace data = .ok text) : text.IsOfCharacters := by
  have read := decode_ok.1 read
  obtain ⟨name, codec⟩ := charset
  cases codec with
  | utf8 signature =>
    cases signature with
    | false => exact Reader.characters_of_readFrom read readUtf8_characters
    | true => exact Reader.characters_of_readFrom read readUtf8_characters
  | utf16 order =>
    cases order with
    | some order => exact Reader.characters_of_readFrom read (readUtf16_characters order)
    | none =>
      have marked :
          decodeMarked utf16Reader (utf16Bytes · byteOrderMark) .replace data = .ok text := read
      exact characters_of_decodeMarked marked readUtf16_characters
  | utf32 order =>
    cases order with
    | some order => exact Reader.characters_of_readFrom read (readUtf32_characters order)
    | none =>
      have marked :
          decodeMarked utf32Reader (utf32Bytes · byteOrderMark) .replace data = .ok text := read
      exact characters_of_decodeMarked marked readUtf32_characters
  | ascii =>
    refine Reader.characters_of_readFrom read fun data => readByte_characters ?_ data
    intro byte c known
    obtain ⟨-, same⟩ := Option.ite_none_right_eq_some.1 known
    exact Option.some.inj same ▸ isSurrogate_ofByte byte
  | latin1 =>
    have bytewise : latin1Reader.read = readByte "" (some ∘ CodePoint.ofByte) := rfl
    refine Reader.characters_of_readFrom read fun data => ?_
    rw [bytewise]
    refine readByte_characters (fun byte c known => ?_) data
    exact Option.some.inj known ▸ isSurrogate_ofByte byte
  | table table =>
    exact Reader.characters_of_readFrom read (readByte_characters fun _ _ => isSurrogate_of_read)
  | _ => cases only

end Charset
end WideColumn
