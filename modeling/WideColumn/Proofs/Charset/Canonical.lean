import WideColumn.Charset.Lookup

/-!
# Canonical names

The canonical name of a charset in its normal form is its key, but for Latin-1 and the
transformations. So charsets of one canonical name are one charset, however they were named.
-/
namespace WideColumn.Charset

/-! ## Keys -/

/-- The key that a normal form leads to. -/
def keyOf (normal : String) : String := (alias? normal).getD normal

/-- A normal form stands for the charset of its key. -/
theorem ofNormalName?_eq (normal : String) :
    ofNormalName? normal = registry.lookup (keyOf normal) := by
  unfold ofNormalName? keyOf
  cases alias? normal <;> rfl

/-- A key that is an alias of another, so that no name leads to it. -/
def shadowed : String := "iso8859_1"

set_option maxRecDepth 4000 in
/-- The shadowed key is an alias. -/
theorem shadowed_mem_aliases : (shadowed, "latin_1") ∈ aliases := by decide

/-- What is not in the list is no alias, unless it has points that count as underscores. -/
theorem alias?_eq_none {normal : String} (plain : '.' ∉ normal.toList)
    (apart : ∀ entry ∈ aliases, normal ≠ entry.1) : alias? normal = none := by
  have same : normal.map (fun c => if c = '.' then '_' else c) = normal := by
    rw [← String.toList_inj, String.toList_map]
    calc normal.toList.map (fun c => if c = '.' then '_' else c)
      _ = normal.toList.map id :=
        List.map_congr_left fun c listed => if_neg (ne_of_mem_of_not_mem listed plain)
      _ = normal.toList := List.map_id _
  have absent : aliases.lookup normal = none :=
    List.lookup_eq_none_iff.2 fun entry listed => bne_iff_ne.2 (apart entry listed)
  unfold alias?
  rw [same, absent]

/-- What is no alias is not in the list. -/
theorem ne_of_alias?_eq_none {normal : String} (noAlias : alias? normal = none) :
    ∀ entry ∈ aliases, normal ≠ entry.1 := by
  unfold alias? at noAlias
  split at noAlias
  · cases noAlias
  · next absent =>
    intro entry listed
    exact bne_iff_ne.1 (List.lookup_eq_none_iff.1 absent entry listed)

set_option maxRecDepth 4000 in
/-- No alias stands for the shadowed key. -/
theorem aliases_ne_shadowed : ∀ entry ∈ aliases, entry.2 ≠ shadowed := by decide

/-- What is looked up is in the list. -/
theorem mem_of_lookup {entries : List (String × α)} {key : String} {found : α}
    (stands : entries.lookup key = some found) : (key, found) ∈ entries := by
  obtain ⟨before, after, rfl, -⟩ := List.lookup_eq_some_iff.1 stands
  exact List.mem_append_right _ List.mem_cons_self

/-- No normal form leads to the shadowed key. -/
theorem keyOf_ne_shadowed (normal : String) : keyOf normal ≠ shadowed := by
  unfold keyOf
  cases renamed : alias? normal with
  | none =>
    rw [Option.getD_none]
    rintro rfl
    exact ne_of_alias?_eq_none renamed _ shadowed_mem_aliases rfl
  | some key =>
    have listed : ∃ name, (name, key) ∈ aliases := by
      unfold alias? at renamed
      split at renamed
      · next direct => cases renamed; exact ⟨_, mem_of_lookup direct⟩
      · exact ⟨_, mem_of_lookup renamed⟩
    obtain ⟨name, listed⟩ := listed
    exact aliases_ne_shadowed _ listed

/-! ## Names -/

/-- Whether a codec converts between text and bytes at all. -/
def Codec.isConversion : Codec → Bool
  | undefined | transform => false
  | _ => true

/-- A codec converts unless it is one of two that do not. -/
theorem Codec.isConversion_iff {codec : Codec} :
    codec.isConversion = true ↔ codec ≠ .undefined ∧ codec ≠ .transform := by
  cases codec <;> simp [isConversion]

/-- The key under the canonical name whose normal form is given. -/
def canonicalKey (normal : String) : String := if normal = shadowed then "latin_1" else normal

set_option maxRecDepth 4000 in
/-- The canonical name of a charset tells its key. -/
theorem canonicalKey_name : ∀ entry ∈ registry,
    entry.1 ≠ shadowed → entry.2.codec.isConversion = true →
      canonicalKey (normalName (Text.ofString entry.2.name)) = entry.1 := by
  decide

/-- A charset that was found stands for a normal form, and it converts. -/
theorem stands_of_lookup {name : Value} {charset : Charset} (found : lookup name = .ok charset) :
    charset.codec.isConversion = true ∧ ∃ normal, ofNormalName? normal = some charset := by
  unfold lookup at found
  split at found
  · cases found
  · next name _ =>
    have known : ofName name = .ok charset := by
      split at found <;> cases found
      assumption
    unfold ofName at known
    split at known
    · cases known
    split at known
    · cases known
    split at known
    · cases known
    · next stands =>
      split at known
      · cases known
      · cases known
      · next not_transform not_undefined =>
        cases known
        exact ⟨Codec.isConversion_iff.2 ⟨not_undefined, not_transform⟩, _, stands⟩
  · cases found

/-- A charset that was found stands under the key its canonical name tells. -/
theorem registered_of_lookup {name : Value} {charset : Charset}
    (found : lookup name = .ok charset) :
    registry.lookup (canonicalKey (normalName (Text.ofString charset.name))) = some charset := by
  obtain ⟨converts, normal, stands⟩ := stands_of_lookup found
  rw [ofNormalName?_eq] at stands
  rw [canonicalKey_name _ (mem_of_lookup stands) (keyOf_ne_shadowed normal) converts]
  exact stands

/-- Charsets that were found and have the same canonical name are the same. -/
theorem lookup_inj {name other : Value} {charset another : Charset}
    (found : lookup name = .ok charset) (found_too : lookup other = .ok another)
    (same : charset.name = another.name) : charset = another := by
  have one := registered_of_lookup found
  rw [same, registered_of_lookup found_too] at one
  exact (Option.some.inj one).symm

end WideColumn.Charset
