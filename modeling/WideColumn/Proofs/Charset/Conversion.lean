import WideColumn.Proofs.Charset.Strict
import WideColumn.Proofs.Charset.Replacing

/-!
# Conversions of patterns

Patterns are written strictly and read with replacements. Multi-byte and stateful charsets are
converted by tables that are not given here, and so are the domain names beyond ASCII: any tables
will do, as long as they keep what is written. What holds of the charsets that are given in full
holds of those as well.
-/
namespace WideColumn.Charset

/-! ## What is not given -/

/-- How a charset is converted whose steps depend on the steps before them. -/
structure Stepwise where
  /-- What a step leaves to the next one. -/
  State : Type
  /-- What there is before the first step. -/
  start : State
  /-- The bytes of a code point; or how many code points are refused, and the reason. -/
  write : State → CodePoint → Except (Nat × String) (Bytes × State)
  /-- The bytes that close a text. -/
  finish : State → Bytes
  /-- The text at the front of some bytes, if they form any, and the number of bytes it takes. -/
  read : State → Bytes → Option Text × Nat × State
  /-- Whether bytes are missing at the end. -/
  broken : State → Bool

namespace Stepwise

variable (steps : Stepwise)

/-- Write the rest of a text, which stands at `position` in the whole. -/
def writeFrom (label : String) (whole : Text) :
    (position : Nat) → steps.State → Text → Except Fault Bytes
  | _, state, [] => .ok (steps.finish state)
  | position, state, c :: rest =>
    match steps.write state c with
    | .error (count, reason) =>
      .error (.encode label whole position (position + count) reason)
    | .ok (bytes, next) => do return bytes ++ (← writeFrom label whole (position + 1) next rest)

/-- A replacement character. -/
def replacement : Text := [CodePoint.ofNat 0xFFFD]

/-- Read the rest of the bytes, the first `skip` of which are already spoken for. -/
def readFrom : steps.State → (skip : Nat) → Bytes → Text
  | state, _, [] => if steps.broken state then replacement else []
  | state, skip + 1, _ :: rest => readFrom state skip rest
  | state, 0, byte :: rest =>
    let (text, width, next) := steps.read state (byte :: rest)
    text.getD replacement ++ readFrom next (width - 1) rest

variable {steps}

/-- A code point that a step writes is written before the rest. -/
theorem writeFrom_ok {label : String} {whole rest : Text} {position : Nat} {c : CodePoint}
    {bytes : Bytes} {state next : steps.State} (step : steps.write state c = .ok (bytes, next)) :
    steps.writeFrom label whole position state (c :: rest) =
      (steps.writeFrom label whole (position + 1) next rest).map (bytes ++ ·) := by
  rw [writeFrom, step]
  dsimp only
  cases steps.writeFrom label whole (position + 1) next rest <;> rfl

/-- A code point that a step refuses ends the text. -/
theorem writeFrom_error {label : String} {whole rest : Text} {position count : Nat}
    {c : CodePoint} {reason : String} {state : steps.State}
    (step : steps.write state c = .error (count, reason)) :
    steps.writeFrom label whole position state (c :: rest) =
      .error (.encode label whole position (position + count) reason) := by
  rw [writeFrom, step]

/-- What a step reads stands before the rest. -/
theorem readFrom_cons {byte : UInt8} {rest : Bytes} {text : Option Text} {width : Nat}
    {state next : steps.State} (step : steps.read state (byte :: rest) = (text, width, next)) :
    steps.readFrom state 0 (byte :: rest) =
      text.getD replacement ++ steps.readFrom next (width - 1) rest := by
  rw [readFrom, step]

variable (steps)

/-- What is written step by step is refused for a span. -/
theorem writeFrom_fails (label : String) (whole : Text)
    (position : Nat) (state : steps.State) (text : Text) :
    Except.FailsAs Fault.IsTextSpan (steps.writeFrom label whole position state text) := by
  induction text generalizing position state with
  | nil => exact Except.failsAs_ok _
  | cons c rest ih =>
    rw [writeFrom]
    split
    · exact Except.failsAs_error trivial
    · exact (ih _ _).bind fun _ _ => Except.failsAs_ok _

/-- The conversion by steps. -/
def conversion (name : String) : Conversion :=
  ⟨name, fun text => steps.writeFrom name text 0 steps.start text,
    fun data => .ok (steps.readFrom steps.start 0 data)⟩

/-- Whether no text but the empty one is written as nothing. -/
def KeepsTexts : Prop :=
  ∀ {name : String} {text : Text} {data : Bytes}, text ≠ [] →
    (steps.conversion name).write text = .ok data → data ≠ []

end Stepwise

section Conversions

variable [Externals]

/-- The conversion of domain names, those beyond ASCII as given. -/
def domainNames (charset : Charset) (beyond : Text → Except Text Bytes) : Conversion :=
  ⟨charset.name, fun name =>
    if name.all CodePoint.isAscii then charset.encode .strict name
    else
      match beyond name with
      | .ok data => .ok data
      | .error reason => .error (.within .encoding charset.name (.refused reason)),
    charset.decode .replace⟩

/-- Whether a charset is converted in a way. -/
def Converts (charset : Charset) (conversion : Conversion) : Prop :=
  match charset.codec with
  | .external =>
    ∃ steps : Stepwise, steps.KeepsTexts ∧ conversion = steps.conversion charset.name
  | .domainName => ∃ beyond, conversion = charset.domainNames beyond
  | _ => conversion = charset.conversion

variable {charset : Charset} {conversion : Conversion} {text : Text} {data : Bytes}

/-! ## Converting -/

/-- What is given in full is converted in one way. -/
theorem Converts.eq_conversion (converts : charset.Converts conversion)
    (given : charset.codec ≠ .external) (others : charset.codec ≠ .domainName) :
    conversion = charset.conversion := by
  obtain ⟨name, codec⟩ := charset
  cases codec with
  | external => exact absurd rfl given
  | domainName => exact absurd rfl others
  | _ => exact converts

/-- What is read is not up to the domain names that are given. -/
theorem Converts.read_eq (converts : charset.Converts conversion)
    (given : charset.codec ≠ .external) : conversion.read = charset.decode .replace := by
  obtain ⟨name, codec⟩ := charset
  cases codec with
  | external => exact absurd rfl given
  | domainName =>
    obtain ⟨beyond, rfl⟩ := converts
    rfl
  | _ =>
    cases converts
    rfl

/-- A conversion has the canonical name of its charset. -/
theorem Converts.name_eq (converts : charset.Converts conversion) :
    conversion.name = charset.name := by
  obtain ⟨name, codec⟩ := charset
  cases codec with
  | external =>
    obtain ⟨steps, -, rfl⟩ := converts
    rfl
  | domainName =>
    obtain ⟨beyond, rfl⟩ := converts
    rfl
  | _ =>
    cases converts
    rfl

/-- What is converted reads with replacements what its charset does, and refuses all else. -/
theorem Converts.read_cases (converts : charset.Converts conversion)
    (usable : charset.codec.isConversion = true) (data : Bytes) :
    charset.Replaces data ∧ (∃ text, conversion.read data = .ok text) ∨
      ¬ charset.Replaces data ∧
        ∃ fault, charset.ReadFault data fault ∧ conversion.read data = .error fault := by
  by_cases given : charset.codec = .external
  · obtain ⟨name, codec⟩ := charset
    cases given
    obtain ⟨steps, -, rfl⟩ := converts
    exact .inl ⟨trivial, _, rfl⟩
  · rw [converts.read_eq given]
    exact decode_cases usable given data

/-- What is written is as its charset needs it to read it with replacements, and it is something
unless the text is empty. -/
theorem Converts.written (converts : charset.Converts conversion)
    (others : charset.codec ≠ .domainName) (some_text : text ≠ [])
    (written : conversion.write text = .ok data) : data ≠ [] ∧ charset.Replaces data := by
  by_cases given : charset.codec = .external
  · obtain ⟨name, codec⟩ := charset
    cases given
    obtain ⟨steps, keeps, rfl⟩ := converts
    exact ⟨keeps some_text written, trivial⟩
  rw [converts.eq_conversion given others] at written
  refine ⟨encode_ne_nil given others some_text written, ?_⟩
  obtain ⟨name, codec⟩ := charset
  cases codec with
  | punycode =>
    intro byte listed
    have full : encode ⟨name, .punycode⟩ .strict text = .ok data := written
    cases encode_ok.1 full
    exact Punycode.encode_ascii text byte (Punycode.mem_of_mem_split listed)
  | domainName => exact absurd rfl others
  | undefined | transform => cases written
  | _ => trivial

/-- Under every charset but that of domain names, a text is refused for a span of it. -/
theorem Converts.write_fails (converts : charset.Converts conversion)
    (usable : charset.codec.isConversion = true) (others : charset.codec ≠ .domainName)
    (text : Text) : Except.FailsAs Fault.IsTextSpan (conversion.write text) := by
  by_cases given : charset.codec = .external
  · obtain ⟨name, codec⟩ := charset
    cases given
    obtain ⟨steps, -, rfl⟩ := converts
    exact steps.writeFrom_fails _ _ _ _ _
  · rw [converts.eq_conversion given others]
    exact encode_fails usable given others text

/-- A domain name is refused without a span. -/
theorem Converts.write_fails_domainName (converts : charset.Converts conversion)
    (names : charset.codec = .domainName) (text : Text) :
    Except.FailsAs (fun fault => ∃ reason,
      fault = .within .encoding charset.name (.refused reason)) (conversion.write text) := by
  obtain ⟨name, codec⟩ := charset
  cases names
  obtain ⟨beyond, rfl⟩ := converts
  dsimp only [domainNames]
  split
  · have bare := encodeDomainName_fails text
    unfold encode
    cases outcome : encodeBare ⟨name, .domainName⟩ .strict text with
    | ok data => exact Except.failsAs_ok _
    | error fault =>
      obtain ⟨reason, rfl⟩ := bare fault outcome
      exact Except.failsAs_error ⟨reason, rfl⟩
  · split
    · exact Except.failsAs_ok _
    · exact Except.failsAs_error ⟨_, rfl⟩

/-! ## The conversions of a charset -/

/-- The charsets that are not given are converted step by step. -/
def Externals.InSteps : Prop :=
  ∀ name, ∃ steps : Stepwise, steps.KeepsTexts ∧
    Charset.conversion ⟨name, .external⟩ = steps.conversion name

/-- Domain names beyond ASCII are converted as they are given. -/
theorem conversion_domainName (name : String) :
    Charset.conversion ⟨name, .domainName⟩ =
      domainNames ⟨name, .domainName⟩ Externals.encodeName := by
  have write (text : Text) : encode ⟨name, .domainName⟩ .strict text =
      if text.all CodePoint.isAscii then encode ⟨name, .domainName⟩ .strict text
      else
        match Externals.encodeName text with
        | .ok data => .ok data
        | .error reason => .error (.within .encoding name (.refused reason)) := by
    split
    · rfl
    · next beyond =>
      have bare : encodeBare ⟨name, .domainName⟩ .strict text =
          (Externals.encodeName text).mapError .refused := by
        show encodeDomainName .strict text = _
        rw [encodeDomainName, if_neg (not_not_intro rfl), if_pos]
        rw [Bool.not_eq_true', Bool.eq_false_iff]
        exact beyond
      rw [encode, bare]
      cases Externals.encodeName text <;> rfl
  rw [Charset.conversion, domainNames]
  congr 1
  exact funext write

/-- Each charset is converted as it should be. -/
theorem converts_conversion (inSteps : Externals.InSteps) (charset : Charset) :
    charset.Converts charset.conversion := by
  obtain ⟨name, codec⟩ := charset
  cases codec with
  | external => exact inSteps name
  | domainName => exact ⟨_, conversion_domainName name⟩
  | _ => rfl

end Conversions

/-! ## Converting ASCII -/

/-- ASCII is converted by steps that leave nothing to each other. -/
def Stepwise.ascii : Stepwise where
  State := Unit
  start := ()
  write _ c :=
    if c.val < 128 then .ok ([UInt8.ofNat c.val], ()) else .error (1, "illegal multibyte sequence")
  finish _ := []
  read _
    | byte :: _ => (if byte < 128 then some [CodePoint.ofByte byte] else none, 1, ())
    | [] => (none, 1, ())
  broken _ := false

/-- ASCII is written step by step. -/
theorem externalWriter_strict (name : String) (whole : Text) (position : Nat) (text : Text) :
    (externalWriter name).writeFrom .strict whole position [] text =
      Stepwise.ascii.writeFrom name whole position () text := by
  induction text generalizing position with
  | nil => rfl
  | cons c rest ih =>
    rw [Writer.writeFrom]
    by_cases low : c.val < 128
    · have bytes : (externalWriter name).write c = some [UInt8.ofNat c.val] := if_pos low
      have step : Stepwise.ascii.write () c = .ok ([UInt8.ofNat c.val], ()) := if_pos low
      rw [Stepwise.writeFrom_ok step, ← ih, bytes]
      dsimp only
      rw [show Writer.repairRun _ .strict whole position [] = .ok [] from rfl]
      cases (externalWriter name).writeFrom .strict whole (position + 1) [] rest <;> rfl
    · have bytes : (externalWriter name).write c = none := if_neg low
      have step : Stepwise.ascii.write () c = .error (1, "illegal multibyte sequence") :=
        if_neg low
      rw [Stepwise.writeFrom_error step, bytes]
      rfl

/-- ASCII is read step by step. -/
theorem externalReader_replaces (name : String) (whole : Bytes) (position skip : Nat)
    (data : Bytes) :
    (externalReader name).readFrom .replace whole position skip data =
      .ok (Stepwise.ascii.readFrom () skip data) := by
  induction data generalizing position skip with
  | nil => rfl
  | cons byte rest ih =>
    cases skip with
    | succ skip => exact ih _ _
    | zero =>
      by_cases low : byte < 128
      · have front : (externalReader name).read (byte :: rest) =
            .codePoint (.ofByte byte) 1 := by
          simp only [externalReader, readByte, low, ↓reduceIte]
        have step : Stepwise.ascii.read () (byte :: rest) =
            (some [CodePoint.ofByte byte], 1, ()) := by
          simp only [Stepwise.ascii, low, ↓reduceIte]
        rw [Reader.readFrom_codePoint front, ih, Stepwise.readFrom_cons step]
        rfl
      · have front : (externalReader name).read (byte :: rest) =
            .malformed 1 "illegal multibyte sequence" := by
          simp only [externalReader, readByte, low, ↓reduceIte]
        have step : Stepwise.ascii.read () (byte :: rest) = (none, 1, ()) := by
          simp only [Stepwise.ascii, low, ↓reduceIte]
        rw [Reader.readFrom_replaced front, ih, Stepwise.readFrom_cons step]
        rfl

/-- The charsets of which only ASCII is given convert it step by step. -/
theorem conversion_external (name : String) :
    Charset.conversion ⟨name, .external⟩ = Stepwise.ascii.conversion name := by
  have write : encode ⟨name, .external⟩ .strict = (Stepwise.ascii.conversion name).write := by
    funext text
    have bare : encodeBare ⟨name, .external⟩ .strict text =
        (Stepwise.ascii.conversion name).write text := externalWriter_strict name text 0 text
    rw [encode, bare]
    cases outcome : (Stepwise.ascii.conversion name).write text with
    | ok data => rfl
    | error fault =>
      have span := Stepwise.ascii.writeFrom_fails name text 0 () text fault outcome
      dsimp only
      rw [Fault.inCharset_span span]
      rfl
  have read : decode ⟨name, .external⟩ .replace = (Stepwise.ascii.conversion name).read := by
    funext data
    have bare : decodeBare ⟨name, .external⟩ .replace data =
        .ok (Stepwise.ascii.readFrom () 0 data) := externalReader_replaces name data 0 0 data
    rw [decode, bare]
    rfl
  rw [Charset.conversion, write, read]
  rfl

/-- What is written in ASCII is something unless the text is empty. -/
theorem Stepwise.keepsTexts_ascii : Stepwise.ascii.KeepsTexts := by
  intro name text data some_text written
  rw [← conversion_external] at written
  have bare : (externalWriter name).encode .strict text = .ok data := encode_ok.1 written
  exact Writer.encode_ne_nil (Writer.fills_below rfl) some_text bare

/-- The charsets of which only ASCII is converted are converted step by step. -/
theorem inSteps_ascii : Externals.InSteps := fun name =>
  ⟨Stepwise.ascii, Stepwise.keepsTexts_ascii, conversion_external name⟩

end WideColumn.Charset
