import WideColumn.Proofs.Charset.Canonical
import WideColumn.Proofs.Charset.Punycode
import WideColumn.Proofs.Charset.RoundTrip

/-!
# Reading with replacements

With replacement characters for what forms no code point, all charsets that are given here but two
read all bytes. Punycode replaces nothing in the digits it inserts by, and the charset of domain
names refuses to replace at all.
-/
namespace WideColumn.Charset

namespace Reader

/-- With replacements every reader reads all bytes. -/
theorem readFrom_replaces (reader : Reader) (whole : Bytes) (position skip : Nat) (data : Bytes) :
    ∃ text, reader.readFrom .replace whole position skip data = .ok text := by
  induction data generalizing position skip with
  | nil => exact ⟨[], rfl⟩
  | cons byte rest ih =>
    cases skip with
    | succ skip => exact ih _ _
    | zero =>
      cases front : reader.read (byte :: rest) with
      | codePoint c width =>
        obtain ⟨others, read⟩ := ih (position + 1) (width - 1)
        rw [readFrom_codePoint front, read]
        exact ⟨_, rfl⟩
      | two first second =>
        obtain ⟨others, read⟩ := ih (position + 1) 1
        rw [readFrom_two front, read]
        exact ⟨_, rfl⟩
      | malformed count reason =>
        obtain ⟨others, read⟩ := ih (position + 1) (count - 1)
        rw [readFrom, front]
        dsimp only [Handler.recover]
        rw [read]
        exact ⟨_, rfl⟩

end Reader

/-- With replacements all bytes are read, marked or not. -/
theorem decodeMarked_replaces (reader : ByteOrder → Reader) (mark : ByteOrder → Bytes)
    (data : Bytes) : ∃ text, decodeMarked reader mark .replace data = .ok text := by
  unfold decodeMarked
  dsimp only
  split
  · exact Reader.readFrom_replaces ..
  split
  · exact Reader.readFrom_replaces ..
  · exact Reader.readFrom_replaces ..

/-- Which bytes are read with replacements. -/
def Replaces (charset : Charset) (data : Bytes) : Prop :=
  match charset.codec with
  | .domainName => data = []
  | .punycode => ∀ byte ∈ (Punycode.split data).2, byte < 128
  | .undefined | .transform => False
  | _ => True

/-- Bytes of ASCII, and no others, are read strictly as ASCII. -/
theorem asciiReader_strict (whole : Bytes) (position : Nat) (data : Bytes) :
    (∀ byte ∈ data, byte < 128) ∧
        (∃ text, asciiReader.readFrom .strict whole position 0 data = .ok text) ∨
      (¬ ∀ byte ∈ data, byte < 128) ∧ ∃ first,
        asciiReader.readFrom .strict whole position 0 data =
          .error (.decode "ascii" whole first (first + 1) "ordinal not in range(128)") := by
  induction data generalizing position with
  | nil => exact .inl ⟨List.forall_mem_nil _, [], rfl⟩
  | cons byte rest ih =>
    by_cases low : byte < 128
    · have front : asciiReader.read (byte :: rest) = .codePoint (.ofByte byte) 1 := by
        simp only [asciiReader, readByte, low, ↓reduceIte]
      rw [Reader.readFrom_codePoint front]
      rcases ih (position + 1) with ⟨ascii, others, read⟩ | ⟨beyond, first, refused⟩
      · rw [read]
        exact .inl ⟨List.forall_mem_cons.2 ⟨low, ascii⟩, _, rfl⟩
      · rw [refused]
        exact .inr ⟨fun ascii => beyond (List.forall_mem_cons.1 ascii).2, first, rfl⟩
    · have front : asciiReader.read (byte :: rest) =
          .malformed 1 "ordinal not in range(128)" := by
        simp only [asciiReader, readByte, low, ↓reduceIte]
      rw [Reader.readFrom_malformed front]
      exact .inr ⟨fun ascii => low (List.forall_mem_cons.1 ascii).1, position, rfl⟩

/-- Punycode is read with replacements exactly if what it inserts by is ASCII. -/
theorem decodePunycode_replaces (data : Bytes) :
    (∀ byte ∈ (Punycode.split data).2, byte < 128) ∧
        (∃ text, decodePunycode .replace data = .ok text) ∨
      (¬ ∀ byte ∈ (Punycode.split data).2, byte < 128) ∧ ∃ first,
        decodePunycode .replace data = .error (.decode "ascii" (Punycode.split data).2 first
          (first + 1) "ordinal not in range(128)") := by
  cases data with
  | nil => exact .inl ⟨List.forall_mem_nil _, [], rfl⟩
  | cons byte rest =>
    obtain ⟨basic, read_basic⟩ := asciiReader.readFrom_replaces
      (Punycode.split (byte :: rest)).1 0 0 (Punycode.split (byte :: rest)).1
    have unfolded : decodePunycode .replace (byte :: rest) =
        (asciiReader.decode .strict (Punycode.split (byte :: rest)).2 >>= fun digits =>
          Punycode.decode false basic digits) := by
      rw [decodePunycode, if_neg nofun, if_pos (.inr (.inr rfl))]
      dsimp only
      rw [show asciiReader.decode .replace _ = .ok basic from read_basic]
      rfl
    rw [unfolded]
    rcases asciiReader_strict (Punycode.split (byte :: rest)).2 0 (Punycode.split (byte :: rest)).2
      with ⟨ascii, digits, read⟩ | ⟨beyond, first, refused⟩
    · rw [show asciiReader.decode .strict _ = .ok digits from read]
      exact .inl ⟨ascii, Punycode.insertAll_lenient ..⟩
    · rw [show asciiReader.decode .strict _ = .error _ from refused]
      exact .inr ⟨beyond, first, rfl⟩

variable {charset : Charset}

/-- The fault of a charset that does not read some bytes with replacements. -/
def ReadFault (charset : Charset) (data : Bytes) (fault : Fault) : Prop :=
  charset.codec = .domainName ∧
      fault = .within .decoding charset.name (.refused "Unsupported error handling replace") ∨
    charset.codec = .punycode ∧ ∃ first,
      fault = .decode "ascii" (Punycode.split data).2 first (first + 1)
        "ordinal not in range(128)"

/-- A charset that is given here reads with replacements what it can, and refuses all else. -/
theorem decode_cases [Externals] (usable : charset.codec.isConversion = true)
    (given : charset.codec ≠ .external) (data : Bytes) :
    charset.Replaces data ∧ (∃ text, charset.decode .replace data = .ok text) ∨
      ¬ charset.Replaces data ∧
        ∃ fault, charset.ReadFault data fault ∧ charset.decode .replace data = .error fault := by
  obtain ⟨name, codec⟩ := charset
  have replaced {charset : Charset} (read : ∃ text, charset.decodeBare .replace data = .ok text) :
      ∃ text, charset.decode .replace data = .ok text :=
    read.imp fun _ => decode_ok.2
  cases codec with
  | utf8 signature =>
    cases signature <;> exact .inl ⟨trivial, replaced (Reader.readFrom_replaces ..)⟩
  | utf16 order =>
    cases order with
    | none =>
      have marked := decodeMarked_replaces utf16Reader (utf16Bytes · byteOrderMark) data
      exact .inl ⟨trivial, replaced marked⟩
    | some order => exact .inl ⟨trivial, replaced (Reader.readFrom_replaces ..)⟩
  | utf32 order =>
    cases order with
    | none =>
      have marked := decodeMarked_replaces utf32Reader (utf32Bytes · byteOrderMark) data
      exact .inl ⟨trivial, replaced marked⟩
    | some order => exact .inl ⟨trivial, replaced (Reader.readFrom_replaces ..)⟩
  | ascii | latin1 | table table | rawEscape =>
    exact .inl ⟨trivial, replaced (Reader.readFrom_replaces ..)⟩
  | punycode =>
    rcases decodePunycode_replaces data with ⟨ascii, read⟩ | ⟨beyond, first, refused⟩
    · exact .inl ⟨ascii, replaced read⟩
    · refine .inr ⟨beyond, _, .inr ⟨rfl, first, rfl⟩, ?_⟩
      have bare : decodeBare ⟨name, .punycode⟩ .replace data = _ := refused
      show decode _ _ _ = _
      rw [decode, bare]
      rfl
  | domainName =>
    cases data with
    | nil => exact .inl ⟨rfl, [], rfl⟩
    | cons byte rest => exact .inr ⟨nofun, _, .inl ⟨rfl, rfl⟩, rfl⟩
  | external => exact absurd rfl given
  | undefined | transform => cases usable

end WideColumn.Charset
