import WideColumn.Proofs.Bytes
import WideColumn.Proofs.Filter.Patterns
import WideColumn.Proofs.Lower

/-!
# What substring comparators find

The reference of a substring comparator is lower-cased as a text, before it is encoded, and the
data as bytes. So a text with the lower-case form of the reference is found wherever it stands
exactly if it has no capitals beyond ASCII. With such capitals it is not even found on its own: its
bytes are as many characters as before once they are lower-cased, and the reference is no shorter
and another text.
-/
namespace WideColumn.Store.Comparator

/-! ## Bytes of texts -/

variable {text other : Text}

/-- Lower-casing the bytes of a text without capitals beyond ASCII lower-cases the text. -/
theorem lower_bytes (lowers : other.LowersInAscii) :
    Bytes.lower (other.flatMap Charset.utf8Bytes) = other.lower.flatMap Charset.utf8Bytes := by
  rw [Charset.lower_flatMap]
  exact congrArg _ ((Text.lowerAfter_eq_map [] other).2 lowers).symm

/-- In the lower-cased bytes of a text with capitals beyond ASCII, the lower-case form of the text
does not occur. -/
theorem not_infix_lower (characters : other.IsOfCharacters) (capitals : ¬ other.LowersInAscii) :
    ¬ other.lower.flatMap Charset.utf8Bytes <:+:
      Bytes.lower (other.flatMap Charset.utf8Bytes) := by
  rw [Charset.lower_flatMap]
  intro occurs
  have lengths : (other.map Charset.asciiLower).length ≤ other.lower.length := by
    rw [List.length_map]
    exact Text.length_le_lowerAfter [] other
  have same := Charset.eq_of_infix ((Text.characters_lowerAfter [] other).2 characters)
    (Text.characters_map_asciiLower characters) lengths occurs
  exact capitals ((Text.lowerAfter_eq_map [] other).1 same)

/-! ## Comparing -/

/-- A comparator finds a text that has the lower-case form of its own, wherever the text stands, if
the text has no capitals beyond ASCII; with such capitals, it does not find the text on its own. -/
theorem substring_finds (characters : text.IsOfCharacters) (lowered : other.lower = text.lower) :
    ∃ reference data, ofSubstring (.text text) = .ok (.substring reference) ∧
      encodeText other = .ok data ∧
      (other.LowersInAscii → ∀ before after,
        (substring reference).compareTo (before ++ data ++ after) = .ok .eq) ∧
      (¬ other.LowersInAscii → (substring reference).compareTo data = .ok .gt) := by
  have lower_characters : text.lower.IsOfCharacters :=
    (Text.characters_lowerAfter [] text).2 characters
  have other_characters : other.IsOfCharacters := by
    rw [← lowered] at lower_characters
    exact (Text.characters_lowerAfter [] other).1 lower_characters
  refine ⟨text.lower.flatMap Charset.utf8Bytes, other.flatMap Charset.utf8Bytes, ?_,
    encodeText_eq other_characters, ?_, ?_⟩
  · rw [ofSubstring, encodeText_eq lower_characters]
    rfl
  · intro lowers before after
    have found : Bytes.contains (text.lower.flatMap Charset.utf8Bytes)
        (before ++ other.flatMap Charset.utf8Bytes ++ after).lower = true := by
      rw [Bytes.contains_iff, Bytes.lower_append, Bytes.lower_append, lower_bytes lowers, lowered]
      exact ⟨before.lower, after.lower, rfl⟩
    rw [compareTo, found]
    rfl
  · intro capitals
    have missed : Bytes.contains (text.lower.flatMap Charset.utf8Bytes)
        (Bytes.lower (other.flatMap Charset.utf8Bytes)) = false := by
      rw [Bool.eq_false_iff, ne_eq, Bytes.contains_iff, ← lowered]
      exact not_infix_lower other_characters capitals
    rw [compareTo, missed]
    rfl

/-- The capital E with an acute accent finds the small one. -/
theorem substring_finds_ofSmall :
    Text.IsOfCharacters [⟨0xC9, by decide⟩] ∧
      Text.lower [⟨0xE9, by decide⟩] = Text.lower [⟨0xC9, by decide⟩] ∧
      Text.LowersInAscii [⟨0xE9, by decide⟩] ∧
      ∃ reference data, ofSubstring (.text [⟨0xC9, by decide⟩]) = .ok (.substring reference) ∧
        encodeText [⟨0xE9, by decide⟩] = .ok data ∧
        ∀ before after, (substring reference).compareTo (before ++ data ++ after) = .ok .eq := by
  have characters : Text.IsOfCharacters [⟨0xC9, by decide⟩] := List.forall_mem_singleton.2 rfl
  have lowered : Text.lower [⟨0xE9, by decide⟩] = Text.lower [⟨0xC9, by decide⟩] := by decide
  have lowers : Text.LowersInAscii [⟨0xE9, by decide⟩] := by decide
  obtain ⟨reference, data, built, encoded, found, -⟩ := substring_finds characters lowered
  exact ⟨characters, lowered, lowers, reference, data, built, encoded, found lowers⟩

/-- The capital E with an acute accent is not found in its own bytes. -/
theorem substring_misses_itself :
    ofSubstring (.text [⟨0xC9, by decide⟩]) = .ok (.substring [0xC3, 0xA9]) ∧
      encodeText [⟨0xC9, by decide⟩] = .ok [0xC3, 0x89] ∧
      (substring [0xC3, 0xA9]).compareTo [0xC3, 0x89] ≠ .ok .eq := by
  exact ⟨by rfl, by rfl, nofun⟩

end WideColumn.Store.Comparator
