import WideColumn.Proofs.Charset.Conversion
import WideColumn.Proofs.Filter.Patterns

/-!
# Which patterns can be built

A pattern of bytes is built if its charset reads it with replacements, which all charsets do but
two: that of domain names replaces nothing, and Punycode nothing in the digits it inserts by. A
pattern of text is built exactly if it can be written. A text and its bytes make equal filters,
whatever names of one charset they are given with.
-/
namespace WideColumn

open Charset (Conversion lookup)

/-! ## Forms -/

namespace PatternForms

variable {conversion : Conversion} {text : Text} {data : Bytes} {form : ByteForm}
  {fault : Charset.Fault}

/-- A text that is written is a pattern with the bytes it is written as. -/
theorem ofPattern_text (some_text : text ≠ []) (written : conversion.write text = .ok data) :
    ofPattern conversion (.text text) = .ok ⟨data, text, conversion.name⟩ := by
  rw [ofPattern, written]
  · rfl
  · exact some_text

/-- A text that is refused for a span of it is not representable. -/
theorem ofPattern_span (some_text : text ≠ []) (refused : conversion.write text = .error fault)
    (span : fault.IsTextSpan) :
    ofPattern conversion (.text text) =
      .error (.filter (.notRepresentable text conversion.name fault)) := by
  cases fault with
  | encode =>
    rw [ofPattern, refused]
    · rfl
    · exact some_text
  | _ => exact span.elim

/-- A text that is refused otherwise fails as its conversion does. -/
theorem ofPattern_within {direction : Charset.Direction} {charset : String} (some_text : text ≠ [])
    (refused : conversion.write text = .error (.within direction charset fault)) :
    ofPattern conversion (.text text) =
      .error (.codecFailure (.within direction charset fault)) := by
  rw [ofPattern, refused]
  · rfl
  · exact some_text

/-- Bytes are a pattern if they are read. -/
theorem ofPattern_bytes (copied : form ≠ .view) (some_data : data ≠ []) :
    ofPattern conversion (.bytes form data) =
      match conversion.read data with
      | .ok text => .ok ⟨data, text, conversion.name⟩
      | .error fault => .error fault.toError := by
  obtain ⟨byte, rest, rfl⟩ := List.exists_cons_of_ne_nil some_data
  cases form with
  | view => exact absurd rfl copied
  | _ =>
    rw [ofPattern]
    · rfl
    · exact some_data

end PatternForms

/-! ## Filters -/

namespace Filter

/-- A filter of row keys by a regular expression, each charset being converted as given. -/
def ofKeyRegexpBy (conversions : Charset → Conversion) (pattern name : Value) :
    Except Error Filter := do
  let charset ← lookup name
  (PatternForms.ofPattern (conversions charset) pattern).map keyRegexp

/-- Filters are built with the conversions of their charsets. -/
theorem ofKeyRegexp_eq [Charset.Externals] : ofKeyRegexp = ofKeyRegexpBy Charset.conversion := by
  funext pattern name
  unfold ofKeyRegexp ofKeyRegexpBy PatternForms.ofValue
  cases lookup name <;> rfl

section Building

variable {conversions : Charset → Conversion} {name : Value} {charset : Charset} {text : Text}
  {data : Bytes} {form : ByteForm} {fault : Charset.Fault}

/-- Once the charset is found, the forms of the pattern decide. -/
theorem ofKeyRegexpBy_eq (found : lookup name = .ok charset) (pattern : Value) :
    ofKeyRegexpBy conversions pattern name =
      (PatternForms.ofPattern (conversions charset) pattern).map keyRegexp := by
  rw [ofKeyRegexpBy, found]
  rfl

variable [Charset.Externals]

/-- A text that is written makes a filter. -/
theorem ofKeyRegexpBy_text (converts : charset.Converts (conversions charset))
    (found : lookup name = .ok charset) (some_text : text ≠ [])
    (written : (conversions charset).write text = .ok data) :
    ofKeyRegexpBy conversions (.text text) name =
      .ok (.keyRegexp ⟨data, text, charset.name⟩) := by
  rw [ofKeyRegexpBy_eq found, PatternForms.ofPattern_text some_text written, converts.name_eq]
  rfl

/-- Bytes that are read with replacements make a filter. -/
theorem ofKeyRegexpBy_bytes (converts : charset.Converts (conversions charset))
    (found : lookup name = .ok charset) (copied : form ≠ .view) (some_data : data ≠ [])
    (replaces : charset.Replaces data) :
    ∃ text, ofKeyRegexpBy conversions (.bytes form data) name =
      .ok (.keyRegexp ⟨data, text, charset.name⟩) := by
  rw [ofKeyRegexpBy_eq found, PatternForms.ofPattern_bytes copied some_data, converts.name_eq]
  rcases converts.read_cases (Charset.stands_of_lookup found).1 data with
    ⟨-, text, read⟩ | ⟨keeps, -⟩
  · rw [read]
    exact ⟨text, rfl⟩
  · exact absurd replaces keeps

/-- Other bytes fail as they do when they are read. -/
theorem ofKeyRegexpBy_unread (converts : charset.Converts (conversions charset))
    (found : lookup name = .ok charset) (copied : form ≠ .view) (some_data : data ≠ [])
    (keeps : ¬ charset.Replaces data) :
    ∃ fault, charset.ReadFault data fault ∧
      ofKeyRegexpBy conversions (.bytes form data) name = .error fault.toError := by
  rw [ofKeyRegexpBy_eq found, PatternForms.ofPattern_bytes copied some_data]
  rcases converts.read_cases (Charset.stands_of_lookup found).1 data with
    ⟨replaces, -⟩ | ⟨-, fault, known, refused⟩
  · exact absurd replaces keeps
  · rw [refused]
    exact ⟨fault, known, rfl⟩

/-- A text that is not written is not representable. -/
theorem ofKeyRegexpBy_unwritten (converts : charset.Converts (conversions charset))
    (found : lookup name = .ok charset) (some_text : text ≠ [])
    (refused : (conversions charset).write text = .error fault)
    (others : charset.codec ≠ .domainName) :
    ofKeyRegexpBy conversions (.text text) name =
      .error (.filter (.notRepresentable text charset.name fault)) := by
  have span := converts.write_fails (Charset.stands_of_lookup found).1 others text fault refused
  rw [ofKeyRegexpBy_eq found, PatternForms.ofPattern_span some_text refused span,
    converts.name_eq]
  rfl

/-- A domain name that is not written fails as it does when it is written. -/
theorem ofKeyRegexpBy_domainName (converts : charset.Converts (conversions charset))
    (found : lookup name = .ok charset) (some_text : text ≠ [])
    (refused : (conversions charset).write text = .error fault)
    (names : charset.codec = .domainName) :
    ofKeyRegexpBy conversions (.text text) name = .error (.codecFailure fault) := by
  obtain ⟨reason, rfl⟩ := converts.write_fails_domainName names text fault refused
  rw [ofKeyRegexpBy_eq found, PatternForms.ofPattern_within some_text refused]
  rfl

end Building

/-- Filters whose patterns have the same bytes and charset are converted to the same. -/
theorem toStore_inj {forms others : PatternForms} {one two : Store.Filter}
    (same_raw : forms.raw = others.raw) (same_charset : forms.charset = others.charset)
    (converted : (keyRegexp forms).toStore = .ok one)
    (converted_too : (keyRegexp others).toStore = .ok two) : one = two := by
  rw [toStore_keyRegexp] at converted converted_too
  obtain ⟨_, -, rfl⟩ := Except.map_eq_ok.1 converted
  obtain ⟨_, -, rfl⟩ := Except.map_eq_ok.1 converted_too
  rw [PatternForms.stored, PatternForms.stored, same_raw, same_charset]

/-- A filter of row keys is built from bytes exactly if its charset reads them with replacements,
and from a text exactly if its charset writes it, the raw bytes being those given or those written.
The filters of a text and of its bytes under any names of one charset are equal, have one hash and
are converted to the same. -/
theorem pattern_construction [Charset.Externals] {conversions : Charset → Conversion}
    (converts : ∀ charset : Charset, charset.Converts (conversions charset)) {name : Value}
    {charset : Charset} (found : lookup name = .ok charset) :
    (∀ form data, form ≠ .view → data ≠ [] →
      (charset.Replaces data → ∃ text, ofKeyRegexpBy conversions (.bytes form data) name =
        .ok (.keyRegexp ⟨data, text, charset.name⟩)) ∧
      (¬ charset.Replaces data → ∃ fault, charset.ReadFault data fault ∧
        ofKeyRegexpBy conversions (.bytes form data) name = .error fault.toError)) ∧
    (∀ text, text ≠ [] →
      (∀ data, (conversions charset).write text = .ok data →
        ofKeyRegexpBy conversions (.text text) name =
          .ok (.keyRegexp ⟨data, text, charset.name⟩)) ∧
      (∀ fault, (conversions charset).write text = .error fault →
        (charset.codec ≠ .domainName → ofKeyRegexpBy conversions (.text text) name =
          .error (.filter (.notRepresentable text charset.name fault))) ∧
        (charset.codec = .domainName → ofKeyRegexpBy conversions (.text text) name =
          .error (.codecFailure fault)))) ∧
    (∀ other another, lookup other = .ok another → another.name = charset.name →
      charset.codec ≠ .domainName → ∀ form text data, form ≠ .view → text ≠ [] →
        (conversions charset).write text = .ok data →
        ∃ written raw, ofKeyRegexpBy conversions (.text text) name = .ok written ∧
          ofKeyRegexpBy conversions (.bytes form data) other = .ok raw ∧
          written.equals raw = true ∧ raw.equals written = true ∧
          written.hashKey? = some (data, charset.name) ∧
          raw.hashKey? = some (data, charset.name) ∧
          ∀ one two, written.toStore = .ok one → raw.toStore = .ok two → one = two) := by
  refine ⟨fun form data copied some_data => ⟨fun replaces => ?_, fun keeps => ?_⟩,
    fun text some_text => ⟨fun data written => ?_, fun fault refused =>
      ⟨fun others => ?_, fun names => ?_⟩⟩,
    fun other another found_too same others form text data copied some_text written => ?_⟩
  · exact ofKeyRegexpBy_bytes (converts charset) found copied some_data replaces
  · exact ofKeyRegexpBy_unread (converts charset) found copied some_data keeps
  · exact ofKeyRegexpBy_text (converts charset) found some_text written
  · exact ofKeyRegexpBy_unwritten (converts charset) found some_text refused others
  · exact ofKeyRegexpBy_domainName (converts charset) found some_text refused names
  · cases Charset.lookup_inj found_too found same
    obtain ⟨some_data, replaces⟩ := (converts charset).written others some_text written
    obtain ⟨read, built⟩ :=
      ofKeyRegexpBy_bytes (converts charset) found_too copied some_data replaces
    exact ⟨_, _, ofKeyRegexpBy_text (converts charset) found some_text written, built,
      by simp [equals], by simp [equals], rfl, rfl, fun one two => toStore_inj rfl rfl⟩

/-- The letter e with an acute accent and its byte make equal filters under raw escapes. -/
theorem pattern_construction_ofAccent :
    (∀ charset : Charset, charset.Converts charset.conversion) ∧
      lookup (.string "raw_unicode_escape") = .ok ⟨"raw-unicode-escape", .rawEscape⟩ ∧
      ∃ written raw,
        ofKeyRegexpBy Charset.conversion (.text [⟨0xE9, by decide⟩])
          (.string "raw_unicode_escape") = .ok written ∧
        ofKeyRegexpBy Charset.conversion (.raw [0xE9])
          (.string "raw_unicode_escape") = .ok raw ∧
        written.equals raw = true := by
  have converts := Charset.converts_conversion Charset.inSteps_ascii
  have found := Charset.lookup_rawEscape
  obtain ⟨-, -, agree⟩ := pattern_construction converts found
  obtain ⟨written, raw, from_text, from_bytes, equal, -⟩ :=
    agree _ _ found rfl nofun .fixed [⟨0xE9, by decide⟩] [0xE9] nofun nofun rfl
  exact ⟨converts, found, written, raw, from_text, from_bytes, equal⟩

set_option maxRecDepth 4000 in
/-- The charset of domain names by its name. -/
theorem lookup_domainName : lookup (.string "idna") = .ok ⟨"idna", .domainName⟩ :=
  Charset.lookup_of_key "idna" rfl rfl (by decide)
    (Charset.alias?_eq_none (by decide) (by decide)) rfl nofun nofun

/-- Letters are no pattern under the charset of domain names. -/
theorem pattern_refused_ofDomainName :
    lookup (.string "idna") = .ok ⟨"idna", .domainName⟩ ∧
      ofKeyRegexp (.raw [97, 98, 99]) (.string "idna") =
        .error (.codecFailure (.within .decoding "idna"
          (.refused "Unsupported error handling replace"))) := by
  refine ⟨lookup_domainName, ?_⟩
  rw [ofKeyRegexp_eq, ofKeyRegexpBy_eq lookup_domainName]
  rfl

end Filter
end WideColumn
