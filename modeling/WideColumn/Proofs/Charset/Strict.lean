import WideColumn.Proofs.Charset.Canonical
import WideColumn.Proofs.Charset.Punycode
import WideColumn.Proofs.Charset.RoundTrip

/-!
# What strict writing makes of texts

Under every charset that is given here but that of domain names, a text that cannot be written is
refused for a span of it, and no text but the empty one is written as nothing. Domain names are
refused without a span.
-/
namespace WideColumn.Charset

variable {charset : Charset} {text : Text} {data : Bytes}

/-! ## Refusals -/

/-- Whether a fault is a span of a text. -/
def Fault.IsTextSpan : Fault → Prop
  | encode .. => True
  | _ => False

/-- The span of a text is reported as it is. -/
theorem Fault.inCharset_span {fault : Fault} (span : fault.IsTextSpan) (direction : Direction)
    (charset : String) : fault.inCharset direction charset = fault := by
  cases fault with
  | encode => rfl
  | _ => exact span.elim

namespace Writer

variable {writer : Writer}

/-- What is written strictly is refused for a span. -/
theorem encode_fails (writer : Writer) (text : Text) :
    Except.FailsAs Fault.IsTextSpan (writer.encode .strict text) := by
  intro fault refused
  obtain ⟨first, last, rfl⟩ := writeFrom_refused refused
  exact trivial

/-- A writer that gives each code point some bytes writes no text but the empty one as nothing. -/
theorem encode_ne_nil (fills : ∀ c bytes, writer.write c = some bytes → bytes ≠ [])
    (some_text : text ≠ []) (written : writer.encode .strict text = .ok data) : data ≠ [] := by
  cases text with
  | nil => exact absurd rfl some_text
  | cons c rest =>
    obtain ⟨first, others, here, -, rfl⟩ := writeAll_cons.1 (encode_strict.1 written)
    exact List.append_ne_nil_of_left_ne_nil (fills c first here) others

/-- A form gives each character some bytes. -/
theorem fills_scalars {form : CodePoint → Bytes} (fills : ∀ c, form c ≠ [])
    (scalars : writer.write = writeScalar form) (c : CodePoint) (bytes : Bytes)
    (written : writer.write c = some bytes) : bytes ≠ [] := by
  rw [scalars, writeScalar] at written
  obtain ⟨-, same⟩ := Option.ite_none_left_eq_some.1 written
  exact Option.some.inj same ▸ fills c

/-- A single byte is some bytes. -/
theorem fills_below {limit : Nat} (below : writer.write = writeBelow limit) (c : CodePoint)
    (bytes : Bytes) (written : writer.write c = some bytes) : bytes ≠ [] := by
  rw [below, writeBelow] at written
  obtain ⟨-, same⟩ := Option.ite_none_right_eq_some.1 written
  exact Option.some.inj same ▸ List.cons_ne_nil _ _

end Writer

/-- UTF-8 gives each code point some bytes. -/
theorem utf8Bytes_ne_nil (c : CodePoint) : utf8Bytes c ≠ [] := by
  obtain ⟨lead, others, bytes, -⟩ := utf8Bytes_eq_cons c
  exact bytes ▸ List.cons_ne_nil _ _

/-- UTF-16 gives each code point some bytes. -/
theorem utf16Bytes_ne_nil (order : ByteOrder) (c : CodePoint) : utf16Bytes order c ≠ [] := by
  unfold utf16Bytes unit16Bytes
  cases order <;> split <;> exact nofun

/-- UTF-32 gives each code point some bytes. -/
theorem utf32Bytes_ne_nil (order : ByteOrder) (c : CodePoint) : utf32Bytes order c ≠ [] := by
  cases order <;> exact nofun

/-- An escape is some text. -/
theorem escape_ne_nil (c : CodePoint) : c.escape ≠ [] := by
  unfold CodePoint.escape
  split
  · exact List.append_ne_nil_of_left_ne_nil (by decide) _
  split
  · exact List.append_ne_nil_of_left_ne_nil (by decide) _
  · exact List.append_ne_nil_of_left_ne_nil (by decide) _

/-- What stands behind a mark is something with it. -/
theorem marked_ne_nil {mark : Bytes} {behind : Except Fault Bytes} (some_mark : mark ≠ [])
    (written : (do return mark ++ (← behind)) = .ok data) : data ≠ [] := by
  obtain ⟨_, -, same⟩ := Except.bind_eq_ok.1 written
  exact Except.ok.inj same ▸ List.append_ne_nil_of_left_ne_nil some_mark _

/-- Under a charset that is given here, no text but the empty one is written as nothing. -/
theorem encode_ne_nil [Externals] (given : charset.codec ≠ .external)
    (others : charset.codec ≠ .domainName) (some_text : text ≠ [])
    (written : charset.encode .strict text = .ok data) : data ≠ [] := by
  have bare := encode_ok.1 written
  obtain ⟨name, codec⟩ := charset
  cases codec with
  | utf8 signature =>
    cases signature with
    | false =>
      exact Writer.encode_ne_nil (Writer.fills_scalars utf8Bytes_ne_nil rfl) some_text bare
    | true => exact marked_ne_nil (utf8Bytes_ne_nil byteOrderMark) bare
  | utf16 order =>
    rcases order with _ | _ | _
    · exact marked_ne_nil (utf16Bytes_ne_nil .little byteOrderMark) bare
    · exact Writer.encode_ne_nil (Writer.fills_scalars (utf16Bytes_ne_nil _) rfl) some_text bare
    · exact Writer.encode_ne_nil (Writer.fills_scalars (utf16Bytes_ne_nil _) rfl) some_text bare
  | utf32 order =>
    rcases order with _ | _ | _
    · exact marked_ne_nil (utf32Bytes_ne_nil .little byteOrderMark) bare
    · exact Writer.encode_ne_nil (Writer.fills_scalars (utf32Bytes_ne_nil _) rfl) some_text bare
    · exact Writer.encode_ne_nil (Writer.fills_scalars (utf32Bytes_ne_nil _) rfl) some_text bare
  | ascii | latin1 => exact Writer.encode_ne_nil (Writer.fills_below rfl) some_text bare
  | table table =>
    refine Writer.encode_ne_nil (fun c bytes single => ?_) some_text bare
    obtain ⟨byte, -, rfl⟩ := Option.map_eq_some_iff.1 single
    exact List.cons_ne_nil _ _
  | rawEscape =>
    refine Writer.encode_ne_nil ?_ some_text bare
    rintro c _ ⟨⟩
    split
    · exact List.cons_ne_nil _ _
    · exact fun nothing => escape_ne_nil c (List.map_eq_nil_iff.1 nothing)
  | punycode =>
    cases bare
    exact Punycode.encode_ne_nil some_text
  | external => exact absurd rfl given
  | domainName => exact absurd rfl others
  | undefined | transform => cases bare

/-- Under every charset that is given here but that of domain names, a text is refused for a span of
it. -/
theorem encode_fails [Externals] (usable : charset.codec.isConversion = true)
    (given : charset.codec ≠ .external) (others : charset.codec ≠ .domainName) (text : Text) :
    Except.FailsAs Fault.IsTextSpan (charset.encode .strict text) := by
  have bare : Except.FailsAs Fault.IsTextSpan (charset.encodeBare .strict text) := by
    obtain ⟨name, codec⟩ := charset
    cases codec with
    | utf8 signature =>
      cases signature with
      | false => exact Writer.encode_fails _ _
      | true => exact (Writer.encode_fails _ _).bind fun _ _ => Except.failsAs_ok _
    | utf16 order | utf32 order =>
      rcases order with _ | _ | _
      · exact (Writer.encode_fails _ _).bind fun _ _ => Except.failsAs_ok _
      · exact Writer.encode_fails _ _
      · exact Writer.encode_fails _ _
    | punycode => exact Except.failsAs_ok _
    | external => exact absurd rfl given
    | domainName => exact absurd rfl others
    | undefined | transform => cases usable
    | _ => exact Writer.encode_fails _ _
  unfold encode
  cases outcome : charset.encodeBare .strict text with
  | ok data => exact Except.failsAs_ok _
  | error fault =>
    have span := bare fault outcome
    dsimp only
    rw [Fault.inCharset_span span, ite_self]
    exact Except.failsAs_error span

/-- A domain name is refused without a span. -/
theorem encodeDomainName_fails [Externals] (name : Text) :
    Except.FailsAs (fun fault => ∃ reason, fault = .refused reason)
      (encodeDomainName .strict name) := by
  unfold encodeDomainName
  rw [if_neg (not_not_intro rfl)]
  dsimp only
  split
  · cases Externals.encodeName name with
    | ok data => exact Except.failsAs_ok _
    | error reason => exact Except.failsAs_error ⟨reason, rfl⟩
  split
  · exact Except.failsAs_error ⟨_, rfl⟩
  split
  · exact Except.failsAs_error ⟨_, rfl⟩
  · exact Except.failsAs_ok _

end WideColumn.Charset
