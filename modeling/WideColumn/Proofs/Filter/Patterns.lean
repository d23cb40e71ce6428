import WideColumn.Proofs.Charset.Characters
import WideColumn.Proofs.Filter.Agreement

/-!
# What becomes of patterns

The raw bytes of a pattern reach the store as they are, with the canonical name of its charset on
record. Before that the text of the pattern goes through the store's text constructor, which has no
bytes for a surrogate, so a pattern is converted exactly if its text is one of characters. Charsets
of characters give no other texts. Under raw escapes a pattern can have a surrogate in its text; such
a pattern is accepted when it is built and refused when it is converted.
-/
namespace WideColumn

/-! ## Texts -/

namespace Store.Comparator

/-- The store's text constructor writes a text of characters in UTF-8. -/
theorem encodeText_eq {text : Text} (characters : text.IsOfCharacters) :
    encodeText text = .ok (text.flatMap Charset.utf8Bytes) := by
  have written : Charset.utf8Writer.writeAll text = some (text.flatMap Charset.utf8Bytes) := by
    induction text with
    | nil => rfl
    | cons c rest ih =>
      obtain ⟨scalar, others⟩ := List.forall_mem_cons.1 characters
      refine Charset.Writer.writeAll_cons.2 ⟨Charset.utf8Bytes c, _, ?_, ih others, rfl⟩
      show Charset.writeScalar Charset.utf8Bytes c = _
      rw [Charset.writeScalar, scalar]
      rfl
  rw [encodeText, Charset.Writer.encode_strict.2 written]

/-- The store's text constructor takes a text of characters. -/
theorem encodeText_characters {text : Text} (characters : text.IsOfCharacters) :
    ∃ data, encodeText text = .ok data :=
  ⟨_, encodeText_eq characters⟩

/-- The store's text constructor refuses a text with a surrogate, as what cannot be written in
UTF-8. -/
theorem encodeText_surrogate {text : Text} (surrogate : ¬ text.IsOfCharacters) :
    ∃ first last, encodeText text =
      .error (.conversion (.encode "utf-8" text first last Charset.surrogateReason)) := by
  unfold encodeText
  cases outcome : Charset.utf8Writer.encode .strict text with
  | ok data =>
    have only : Charset.utf8Writer.IsOfCharacters := Charset.Writer.isOfCharacters_scalars rfl
    exact absurd (Charset.Writer.characters_of_encode only outcome) surrogate
  | error fault =>
    obtain ⟨first, last, rfl⟩ := Charset.Writer.writeFrom_refused outcome
    exact ⟨first, last, rfl⟩

/-- The store's text constructor encodes a text in UTF-8. -/
theorem ofRegex_text (text : Text) :
    ofRegex (.text text) =
      (encodeText text).map fun data => .regex data (.string "utf-8") .empty := rfl

end Store.Comparator

/-! ## Patterns -/

namespace PatternForms

/-- The store comparator that matches the raw bytes of a pattern and has its charset on record. -/
def stored (forms : PatternForms) : Store.Comparator :=
  .regex forms.raw (.string forms.charset) .empty

/-- How the forms of a pattern are related: its text is written as its raw bytes, or its raw bytes
are read as its text, with replacements for what cannot be read. -/
theorem forms_of_ofValue [Charset.Externals] {pattern charset : Value} {forms : PatternForms}
    (built : ofValue pattern charset = .ok forms) :
    ∃ found, Charset.lookup charset = .ok found ∧ forms.charset = found.name ∧
      (found.encode .strict forms.text = .ok forms.raw ∨
        found.decode .replace forms.raw = .ok forms.text) := by
  obtain ⟨found, named, built⟩ := Except.bind_eq_ok.1 built
  refine ⟨found, named, ?_⟩
  unfold ofPattern at built
  split at built
  · cases built
  · split at built
    · next written => cases built; exact ⟨rfl, .inl written⟩
    · cases built
    · cases built
  · cases built
  · cases built
  · split at built
    · next read => cases built; exact ⟨rfl, .inr read⟩
    · cases built
  · split at built
    · next read => cases built; exact ⟨rfl, .inr read⟩
    · cases built
  · cases built

end PatternForms

/-- A pattern is converted if the store's text constructor takes its text, and then to the comparator
of its raw bytes. -/
theorem Comparator.convertRegex_standard (kind : Bytes) (forms : PatternForms) :
    convertRegex .standard kind forms =
      (Store.Comparator.encodeText forms.text).map fun _ => forms.stored := by
  rw [convertRegex, Store.Comparator.ofRegex_text]
  cases Store.Comparator.encodeText forms.text <;> rfl

namespace Filter

/-- What a filter of row keys is converted to. -/
theorem toStore_keyRegexp (forms : PatternForms) :
    (keyRegexp forms).toStore =
      (Store.Comparator.encodeText forms.text).map fun _ =>
        .compare .row .equal forms.stored := by
  rw [toStore, convert, Comparator.convertRegex_standard]
  cases Store.Comparator.encodeText forms.text <;> rfl

/-- What a compare filter over a regular expression is converted to. -/
theorem toStore_compareRegex (component : Store.Component) (op : CompareOp)
    (forms : PatternForms) :
    (compare component op (.regex forms)).toStore =
      (Store.Comparator.encodeText forms.text).map fun _ =>
        .compare component op forms.stored := by
  rw [toStore, convert, Comparator.convert, Comparator.convertRegex_standard]
  cases Store.Comparator.encodeText forms.text <;> rfl

/-- A pattern that is accepted has the canonical name of its charset, and in a charset of characters
a text of characters. With such a text it is converted to the comparator of its raw bytes, as a
filter of row keys and in any compare filter. With any other text it is refused, because that has no
UTF-8 form. -/
theorem pattern_converted [Charset.Externals] {pattern charset : Value} {forms : PatternForms}
    (built : ofKeyRegexp pattern charset = .ok (.keyRegexp forms) ∨
      Comparator.ofRegex pattern charset = .ok (.regex forms)) :
    (∃ found, Charset.lookup charset = .ok found ∧ forms.charset = found.name ∧
        (found.codec.isOfCharacters = true → forms.text.IsOfCharacters)) ∧
      (forms.text.IsOfCharacters →
        (keyRegexp forms).toStore = .ok (.compare .row .equal forms.stored) ∧
          ∀ component op, (compare component op (.regex forms)).toStore =
            .ok (.compare component op forms.stored)) ∧
      (¬ forms.text.IsOfCharacters → ∃ fault : Charset.Fault,
        (∃ first last, fault = .encode "utf-8" forms.text first last Charset.surrogateReason) ∧
          (keyRegexp forms).toStore = .error (.conversion fault) ∧
          ∀ component op, (compare component op (.regex forms)).toStore =
            .error (.conversion fault)) := by
  have accepted : PatternForms.ofValue pattern charset = .ok forms := by
    rcases built with built | built
    · obtain ⟨_, accepted, same⟩ := Except.map_eq_ok.1 built
      exact accepted.trans (congrArg Except.ok (keyRegexp.inj same))
    · obtain ⟨_, accepted, same⟩ := Except.map_eq_ok.1 built
      exact accepted.trans (congrArg Except.ok (Comparator.regex.inj same))
  simp only [toStore_keyRegexp, toStore_compareRegex]
  refine ⟨?_, fun characters => ?_, fun surrogate => ?_⟩
  · obtain ⟨found, named, canonical, related⟩ := PatternForms.forms_of_ofValue accepted
    refine ⟨found, named, canonical, fun only => ?_⟩
    rcases related with written | read
    · exact Charset.characters_of_encode only written
    · exact Charset.characters_of_decode only read
  · obtain ⟨data, taken⟩ := Store.Comparator.encodeText_characters characters
    rw [taken]
    exact ⟨rfl, fun _ _ => rfl⟩
  · obtain ⟨first, last, refused⟩ := Store.Comparator.encodeText_surrogate surrogate
    rw [refused]
    exact ⟨_, ⟨first, last, rfl⟩, rfl, fun _ _ => rfl⟩

/-- A byte that UTF-8 cannot read, next to a letter. -/
def brokenPattern : PatternForms := ⟨[255, 97], [.ofNat 0xFFFD, .ofNat 97], "utf-8"⟩

/-- The byte becomes a replacement character in the text and reaches the store as it is. -/
theorem pattern_converted_ofBroken :
    ofKeyRegexp (.raw [255, 97]) (.string "utf-8") = .ok (.keyRegexp brokenPattern) ∧
      (keyRegexp brokenPattern).toStore =
        .ok (.compare .row .equal (.regex [255, 97] (.string "utf-8") .empty)) := by
  have found : Charset.lookup (.string "utf-8") = .ok ⟨"utf-8", .utf8 false⟩ :=
    Charset.lookup_of_key "utf_8" rfl rfl (by decide +kernel) (by decide +kernel) rfl nofun nofun
  have accepted : PatternForms.ofValue (.raw [255, 97]) (.string "utf-8") = .ok brokenPattern := by
    rw [PatternForms.ofValue, found]
    rfl
  have built : ofKeyRegexp (.raw [255, 97]) (.string "utf-8") = .ok (.keyRegexp brokenPattern) :=
    congrArg (Except.map keyRegexp) accepted
  have characters : brokenPattern.text.IsOfCharacters := by
    simp [brokenPattern, Text.IsOfCharacters, CodePoint.isSurrogate, CodePoint.ofNat]
  exact ⟨built, ((pattern_converted (.inl built)).2.1 characters).1⟩

/-- The escape of the first surrogate. -/
def surrogatePattern : PatternForms :=
  ⟨[92, 117, 100, 56, 48, 48], [.ofNat 0xD800], "raw-unicode-escape"⟩

/-- Under raw escapes the pattern is accepted, and it cannot be converted. -/
theorem pattern_refused_ofSurrogate :
    ofKeyRegexp (.raw [92, 117, 100, 56, 48, 48]) (.string "raw_unicode_escape") =
        .ok (.keyRegexp surrogatePattern) ∧
      (keyRegexp surrogatePattern).toStore =
        .error (.conversion
          (.encode "utf-8" [.ofNat 0xD800] 0 1 "surrogates not allowed")) := by
  have accepted : PatternForms.ofValue (.raw [92, 117, 100, 56, 48, 48])
      (.string "raw_unicode_escape") = .ok surrogatePattern := by
    rw [PatternForms.ofValue, Charset.lookup_rawEscape]
    rfl
  exact ⟨congrArg (Except.map keyRegexp) accepted, rfl⟩

end Filter

end WideColumn
