import Mathlib.Data.List.Basic
import WideColumn.Charset.Lookup
import WideColumn.Proofs.Charset.Canonical
import WideColumn.Proofs.Charset.Reading
import WideColumn.Proofs.Charset.Writing

/-!
# Charsets of single bytes

Whether a charset reads and writes single bytes is judged by one string, that of all bytes. For a
charset that reads byte by byte this says something about every byte string: each byte was read and
written back by itself. Raw escapes pass the same test although they do not read byte by byte, since
no escape occurs in the string of all bytes; they keep exactly the byte strings without an escape.
-/
namespace WideColumn.Charset

variable {writer : Writer} {meaning : UInt8 → Option CodePoint}
  {whole data : Bytes} {text : Text} {position : Nat}

/-! ## Byte by byte -/

/-- A byte that stands for a code point which is written as that byte. -/
def Kept (writer : Writer) (meaning : UInt8 → Option CodePoint) (byte : UInt8) : Prop :=
  ∃ c, meaning byte = some c ∧ writer.write c = some [byte]

/-- Bytes that are read and written back as a whole are so each by itself, if no code point is
written as several bytes. -/
theorem kept_of_roundTrip
    (single : ∀ c bytes, writer.write c = some bytes → bytes.length = 1)
    (read : data.mapM meaning = some text) (written : writer.writeAll text = some data) :
    ∀ byte ∈ data, Kept writer meaning byte := by
  induction data generalizing text with
  | nil => nofun
  | cons byte rest ih =>
    rw [List.mapM_cons, Option.bind_eq_bind, Option.bind_eq_some_iff] at read
    obtain ⟨c, known, read⟩ := read
    obtain ⟨others, remaining, same⟩ := Option.bind_eq_some_iff.1 read
    obtain rfl := Option.some.inj same
    obtain ⟨first, back, one, more, parts⟩ := Writer.writeAll_cons.1 written
    obtain ⟨_, rfl⟩ := List.length_eq_one_iff.1 (single c first one)
    obtain ⟨rfl, rfl⟩ := List.cons.inj parts
    exact List.forall_mem_cons.2 ⟨⟨c, known, one⟩, ih remaining more⟩

/-- Bytes each of which is kept are read as as many code points and written back. -/
theorem roundTrip_of_kept (kept : ∀ byte ∈ data, Kept writer meaning byte) :
    ∃ text, data.mapM meaning = some text ∧ text.length = data.length ∧
      writer.writeAll text = some data := by
  induction data with
  | nil => exact ⟨[], rfl, rfl, rfl⟩
  | cons byte rest ih =>
    obtain ⟨⟨c, known, one⟩, others⟩ := List.forall_mem_cons.1 kept
    obtain ⟨text, read, length, written⟩ := ih others
    refine ⟨c :: text, ?_, congrArg Nat.succ length, Writer.writeAll_cons.2
      ⟨[byte], rest, one, written, rfl⟩⟩
    rw [List.mapM_cons, known, read]
    rfl

/-- Every byte is among all bytes. -/
theorem mem_allBytes (byte : UInt8) : byte ∈ allBytes :=
  List.mem_map.2 ⟨byte.toNat, List.mem_range.2 byte.toNat_lt, UInt8.ofNat_toNat⟩

/-! ## Charsets -/

section Charsets

variable [Externals]

/-- A charset reads a byte string as one code point for each byte and writes them back. -/
def RoundTrips (charset : Charset) (data : Bytes) : Prop :=
  ∃ text, charset.decode .strict data = .ok text ∧ text.length = data.length ∧
    charset.encode .strict text = .ok data

/-- What a charset reads is what its codec reads. -/
theorem decode_ok {charset : Charset} {handler : Handler} :
    charset.decode handler data = .ok text ↔ charset.decodeBare handler data = .ok text := by
  unfold decode
  cases charset.decodeBare handler data with
  | ok other => rfl
  | error fault => exact ⟨nofun, nofun⟩

/-- What a charset writes is what its codec writes. -/
theorem encode_ok {charset : Charset} {handler : Handler} :
    charset.encode handler text = .ok data ↔ charset.encodeBare handler text = .ok data := by
  unfold encode
  cases charset.encodeBare handler text with
  | ok other => rfl
  | error fault => exact ⟨nofun, nofun⟩

/-- A charset is judged by whether the string of all bytes makes the round trip. -/
theorem isSingleByte_iff {charset : Charset} :
    charset.isSingleByte = true ↔ charset.RoundTrips allBytes := by
  unfold isSingleByte RoundTrips
  cases charset.decode .strict allBytes with
  | error fault => exact ⟨nofun, nofun⟩
  | ok text =>
    have length : allBytes.length = 256 := by simp [allBytes]
    simp only [length, Except.ok.injEq, exists_eq_left']
    cases charset.encode .strict text with
    | error fault => simp
    | ok data => simp

/-- In a charset that reads byte by byte and never writes one code point as several bytes, every
byte string makes the round trip if that of all bytes does. -/
theorem roundTrips_of_bytewise {charset : Charset} {reader : Reader} {reason : String}
    (reads : charset.decodeBare .strict = reader.decode .strict)
    (bytewise : reader.read = readByte reason meaning)
    (writes : charset.encodeBare .strict = writer.encode .strict)
    (single : ∀ c bytes, writer.write c = some bytes → bytes.length = 1)
    (all : charset.RoundTrips allBytes) (data : Bytes) : charset.RoundTrips data := by
  simp only [RoundTrips, decode_ok, encode_ok, reads, writes, Reader.decode,
    Reader.readFrom_bytes bytewise, Writer.encode_strict] at all ⊢
  obtain ⟨text, read, -, written⟩ := all
  have kept := kept_of_roundTrip single read written
  exact roundTrip_of_kept fun byte _ => kept byte (mem_allBytes byte)

/-- No charset that is not given is one of single bytes: the string of all bytes does not make the
round trip. -/
def Externals.MultiByte : Prop := ∀ name, ¬ (Charset.mk name .external).RoundTrips allBytes

end Charsets

/-! ## Raw escapes -/

/-- Whether an escape starts somewhere: a backslash before `u` or `U`, unless the byte before it
is a backslash that takes it away. -/
def hasEscape : Bytes → Bool
  | 92 :: 117 :: _ | 92 :: 85 :: _ => true
  | 92 :: _ :: rest => hasEscape rest
  | _ :: rest => hasEscape rest
  | [] => false

/-- A backslash is read together with a byte after it that starts no escape. -/
theorem readRawEscape_pair {byte : UInt8} {rest : Bytes} (noLower : byte ≠ 117)
    (noUpper : byte ≠ 85) :
    readRawEscape (92 :: byte :: rest) = .two (.ofByte 92) (.ofByte byte) :=
  readRawEscape.eq_4 byte rest noLower noUpper

/-- A byte that is no backslash, or the last one, is read by itself. -/
theorem readRawEscape_single {byte : UInt8} {rest : Bytes}
    (alone : ∀ next others, byte = 92 → rest = next :: others → False) :
    readRawEscape (byte :: rest) = .codePoint (.ofByte byte) 1 :=
  readRawEscape.eq_5 byte rest (alone 117) (alone 85) alone

/-- The beginning of an escape is read as one code point for all its bytes, or not at all. -/
theorem readRawEscape_escape {letter : UInt8} (digits : Bytes)
    (escape : letter = 117 ∨ letter = 85) :
    (∃ c width, 2 ≤ width ∧ readRawEscape (92 :: letter :: digits) = .codePoint c width) ∨
      ∃ count reason, readRawEscape (92 :: letter :: digits) = .malformed count reason := by
  have reads (count : Nat) (reason : String) :
      (∃ c width, 2 ≤ width ∧ readEscape count reason digits = .codePoint c width) ∨
        ∃ count' reason', readEscape count reason digits = .malformed count' reason' := by
    unfold readEscape
    split
    · split
      · exact .inl ⟨_, _, Nat.le_add_left 2 count, rfl⟩
      · exact .inr ⟨_, _, rfl⟩
    · exact .inr ⟨_, _, rfl⟩
  rcases escape with rfl | rfl
  · exact reads 4 _
  · exact reads 8 _

/-- Without an escape each byte is read as the code point of its number. -/
theorem readFrom_plain (plain : hasEscape data = false) :
    rawEscapeReader.readFrom .strict whole position 0 data =
      .ok (data.map CodePoint.ofByte) := by
  fun_induction hasEscape data generalizing position with
  | case1 rest => cases plain
  | case2 rest => cases plain
  | case3 byte rest noLower noUpper ih =>
    rw [Reader.readFrom_two (readRawEscape_pair noLower noUpper), Reader.readFrom, ih plain]
    rfl
  | case4 byte rest _ _ alone ih =>
    rw [Reader.readFrom_codePoint (readRawEscape_single alone), ih plain]
    rfl
  | case5 => rfl

/-- At the beginning of an escape at least two bytes become one code point. -/
theorem length_readFrom_escape {letter : UInt8} {digits : Bytes}
    (escape : letter = 117 ∨ letter = 85)
    (done : rawEscapeReader.readFrom .strict whole position 0 (92 :: letter :: digits) =
      .ok text) :
    text.length < (92 :: letter :: digits).length := by
  have pairs : ∀ {byte rest first second},
      rawEscapeReader.read (byte :: rest) = .two first second → rest ≠ [] := by
    rintro byte _ _ _ front rfl
    cases front.symm.trans (readRawEscape_single nofun)
  rcases readRawEscape_escape digits escape with ⟨c, width, wide, front⟩ | ⟨_, _, front⟩
  · rw [Reader.readFrom_codePoint front] at done
    obtain ⟨others, read, rfl⟩ := Except.map_eq_ok.1 done
    have bound := Reader.length_readFrom pairs read
    simp only [List.length_cons] at bound ⊢
    omega
  · cases (Reader.readFrom_malformed front).symm.trans done

/-- With an escape there are fewer code points than bytes. -/
theorem length_readFrom_escaped (escaped : hasEscape data = true)
    (done : rawEscapeReader.readFrom .strict whole position 0 data = .ok text) :
    text.length < data.length := by
  fun_induction hasEscape data generalizing position text with
  | case1 digits => exact length_readFrom_escape (.inl rfl) done
  | case2 digits => exact length_readFrom_escape (.inr rfl) done
  | case3 byte rest noLower noUpper ih =>
    rw [Reader.readFrom_two (readRawEscape_pair noLower noUpper), Reader.readFrom] at done
    obtain ⟨others, read, rfl⟩ := Except.map_eq_ok.1 done
    have shorter := ih escaped read
    simp only [List.length_cons]
    omega
  | case4 byte rest _ _ alone ih =>
    rw [Reader.readFrom_codePoint (readRawEscape_single alone)] at done
    obtain ⟨others, read, rfl⟩ := Except.map_eq_ok.1 done
    have shorter := ih escaped read
    simp only [List.length_cons]
    omega
  | case5 => cases escaped

/-- The code point of a byte is written as that byte, with escapes for others or without. -/
theorem writeRawEscape_ofByte (byte : UInt8) :
    rawEscapeWriter.write (.ofByte byte) = some [byte] := by
  have below : (CodePoint.ofByte byte).val < 256 := byte.toNat_lt
  simp only [rawEscapeWriter, if_pos below]
  exact congrArg (fun byte => some [byte]) UInt8.ofNat_toNat

/-- Raw escapes keep exactly the byte strings without an escape. -/
theorem roundTrips_rawEscape [Externals] {name : String} :
    (Charset.mk name .rawEscape).RoundTrips data ↔ hasEscape data = false := by
  have reads : (Charset.mk name .rawEscape).decodeBare .strict data =
      rawEscapeReader.readFrom .strict data 0 0 data := rfl
  have writes (text : Text) : (Charset.mk name .rawEscape).encodeBare .strict text =
      rawEscapeWriter.encode .strict text := rfl
  simp only [RoundTrips, decode_ok, encode_ok, reads, writes, Writer.encode_strict]
  constructor
  · rintro ⟨text, read, length, -⟩
    by_contra escaped
    have shorter := length_readFrom_escaped (by simpa using escaped) read
    omega
  · intro plain
    have kept : ∀ byte ∈ data,
        Kept rawEscapeWriter (fun byte => pure (CodePoint.ofByte byte)) byte :=
      fun byte _ => ⟨.ofByte byte, rfl, writeRawEscape_ofByte byte⟩
    obtain ⟨text, read, length, written⟩ := roundTrip_of_kept kept
    obtain rfl := Option.some.inj (List.mapM_pure.symm.trans read)
    exact ⟨_, readFrom_plain plain, length, written⟩

/-! ## The judgement -/

section Judgement

variable [Externals]

set_option maxRecDepth 10000 in
/-- All other charsets fail on the string of all bytes, which is checked by computing where the
charset is given. -/
theorem codec_of_isSingleByte (multiByte : Externals.MultiByte) {name : String} {codec : Codec}
    (single : (Charset.mk name codec).isSingleByte = true) :
    codec = .latin1 ∨ (∃ table, codec = .table table) ∨ codec = .rawEscape := by
  cases codec with
  | latin1 => exact .inl rfl
  | table table => exact .inr (.inl ⟨table, rfl⟩)
  | rawEscape => exact .inr (.inr rfl)
  | utf16 order | utf32 order => rcases order with _ | _ | _ <;> cases single
  | utf8 signature => cases signature <;> cases single
  | external => exact absurd (isSingleByte_iff.1 single) (multiByte name)
  | _ => cases single

/-- A charset that is judged to be one of single bytes is one, but for raw escapes: every byte
string makes the round trip, except that raw escapes keep only those without an escape. -/
theorem roundTrips_of_isSingleByte (multiByte : Externals.MultiByte) {charset : Charset}
    (single : charset.isSingleByte = true) (data : Bytes) :
    charset.RoundTrips data ↔ (charset.codec = .rawEscape → hasEscape data = false) := by
  have all := isSingleByte_iff.1 single
  obtain ⟨name, codec⟩ := charset
  rcases codec_of_isSingleByte multiByte single with rfl | ⟨table, rfl⟩ | rfl
  · have reads : (Charset.mk name .latin1).decodeBare .strict = latin1Reader.decode .strict := rfl
    have bytewise : latin1Reader.read = readByte "" (some ∘ CodePoint.ofByte) := rfl
    have writes : (Charset.mk name .latin1).encodeBare .strict = latin1Writer.encode .strict := rfl
    refine iff_of_true (roundTrips_of_bytewise reads bytewise writes (fun c bytes written => ?_)
      all data) nofun
    obtain ⟨-, same⟩ := Option.ite_none_right_eq_some.1 written
    rw [← Option.some.inj same]
    rfl
  · have reads : (Charset.mk name (.table table)).decodeBare .strict =
        (tableReader table).decode .strict := rfl
    have writes : (Charset.mk name (.table table)).encodeBare .strict =
        (tableWriter table).encode .strict := rfl
    refine iff_of_true (roundTrips_of_bytewise reads rfl writes (fun c bytes written => ?_)
      all data) nofun
    obtain ⟨byte, -, rfl⟩ := Option.map_eq_some_iff.1 written
    rfl
  · exact roundTrips_rawEscape.trans ⟨fun plain _ => plain, fun plain => plain rfl⟩

/-- Reading in a charset that was found by its name. -/
theorem decodeAs_ok {encoding : Value} {charset : Charset} (found : lookup encoding = .ok charset) :
    decodeAs encoding .strict (.raw data) = .ok text ↔ charset.decode .strict data = .ok text := by
  simp only [decodeAs, found, Value.toBytes, bind, Except.bind]
  cases charset.decode .strict data <;>
    simp [pure, Except.pure, throw, throwThe, MonadExceptOf.throw]

/-- Writing in a charset that was found by its name. -/
theorem encodeAs_ok {encoding : Value} {charset : Charset} (found : lookup encoding = .ok charset) :
    encodeAs encoding .strict text = .ok data ↔ charset.encode .strict text = .ok data := by
  simp only [encodeAs, found, bind, Except.bind]
  cases charset.encode .strict text <;>
    simp [pure, Except.pure, throw, throwThe, MonadExceptOf.throw]

end Judgement

/-- A name of characters other than NUL is found if its normal form is registered for a charset that
converts. -/
theorem lookup_of_registered {name : Text} {charset : Charset} {written : Bytes}
    (encoded : utf8Writer.encode .strict name = .ok written) (clean : ∀ c ∈ name, c.val ≠ 0)
    (registered : ofNormalName? (normalName name) = some charset)
    (converts : charset.codec.isConversion = true) : lookup (.text name) = .ok charset := by
  have noNul : name.any (·.val == 0) = false := by simpa using clean
  have known : ofName name = .ok charset := by
    simp only [ofName, encoded, noNul, registered]
    cases codec : charset.codec with
    | undefined | transform => rw [codec] at converts; cases converts
    | _ => rfl
  simp only [lookup, unhashable?, known]

/-- A name is found by the key that is its normal form. -/
theorem lookup_of_key {name : Text} (key : String) {charset : Charset} {written : Bytes}
    (encoded : utf8Writer.encode .strict name = .ok written)
    (clean : name.any (·.val == 0) = false) (normal : normalName name = key)
    (noAlias : alias? key = none) (registered : registry.lookup key = some charset)
    (text : charset.codec ≠ .transform) (usable : charset.codec ≠ .undefined) :
    lookup (.text name) = .ok charset := by
  have direct : ofNormalName? (normalName name) = some charset := by
    simp only [normal, ofNormalName?, noAlias, registered]
  exact lookup_of_registered encoded (by simpa using clean) direct
    (Codec.isConversion_iff.2 ⟨usable, text⟩)

/-- Under a name whose charset is judged to be one of single bytes, a byte string is read as as many
code points as it has bytes and written back as it was, always except under a name of raw escapes,
and there exactly if no escape starts in it. This takes of the charsets that are not given only that
none of them is one of single bytes. -/
theorem singleByte_roundTrip [Externals] (multiByte : Externals.MultiByte) {encoding : Value}
    {charset : Charset} (found : lookup encoding = .ok charset)
    (single : charset.isSingleByte = true) (data : Bytes) :
    (∃ text, decodeAs encoding .strict (.raw data) = .ok text ∧ text.length = data.length ∧
        encodeAs encoding .strict text = .ok data) ↔
      (charset.codec = .rawEscape → hasEscape data = false) := by
  simp only [decodeAs_ok found, encodeAs_ok found]
  exact roundTrips_of_isSingleByte multiByte single data

set_option maxRecDepth 4000 in
/-- The charset of raw escapes by its name. -/
theorem lookup_rawEscape :
    lookup (.string "raw_unicode_escape") = .ok ⟨"raw-unicode-escape", .rawEscape⟩ :=
  lookup_of_key "raw_unicode_escape" rfl rfl (by decide)
    (alias?_eq_none (by decide) (by decide)) rfl nofun nofun

set_option maxRecDepth 10000 in
/-- ASCII alone is not enough for the string of all bytes. -/
theorem multiByte_ascii : Externals.MultiByte := by
  intro name all
  have judged : (Charset.mk name .external).isSingleByte = true := isSingleByte_iff.2 all
  cases judged

/-- Raw escapes keep an escaped backslash. -/
theorem singleByte_roundTrip_of_backslashes :
    ∃ text, decodeAs (.string "raw_unicode_escape") .strict (.raw [92, 92, 117]) = .ok text ∧
      text.length = 3 ∧
      encodeAs (.string "raw_unicode_escape") .strict text = .ok [92, 92, 117] :=
  (singleByte_roundTrip multiByte_ascii lookup_rawEscape (by decide +kernel) _).2 fun _ => rfl

/-- Raw escapes are judged to be a charset of single bytes, and yet six bytes are read as the one
letter `A`, which is written as one byte. -/
theorem singleByte_misjudged :
    (lookup (.string "raw_unicode_escape")).map isSingleByte = .ok true ∧
      decodeAs (.string "raw_unicode_escape") .strict (.raw [92, 117, 48, 48, 52, 49]) =
        .ok [.ofNat 65] ∧
      encodeAs (.string "raw_unicode_escape") .strict [.ofNat 65] = .ok [65] := by
  refine ⟨?_, (decodeAs_ok lookup_rawEscape).2 rfl, (encodeAs_ok lookup_rawEscape).2 rfl⟩
  have judged : (Charset.mk "raw-unicode-escape" .rawEscape).isSingleByte = true := by
    decide +kernel
  rw [lookup_rawEscape, Except.map, judged]

end WideColumn.Charset
