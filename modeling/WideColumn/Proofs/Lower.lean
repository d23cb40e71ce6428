import WideColumn.Proofs.Charset.Utf8
import WideColumn.Text.Capital

/-!
# Lower-case texts

Lower-casing makes of each code point one code point or more, of characters only characters and of
surrogates themselves. It does no more than ASCII asks for exactly if a text has no capitals beyond
ASCII. In ASCII, a text without regard to case is its lower-case form.
-/
namespace WideColumn

open Charset

namespace CodePoint

/-! ## Code points -/

set_option maxRecDepth 2000 in
/-- All runs but the first are beyond ASCII. -/
theorem lowerRuns_beyond : ∀ run ∈ lowerRuns.tail, 128 ≤ run.first := by decide

/-- In ASCII, lower case is that of ASCII. -/
theorem lower_ascii {c : CodePoint} (ascii : c.val < 128) : c.lower = [asciiLower c] := by
  unfold lower asciiLower
  rw [if_neg (by omega), show lowerRuns = ⟨65, 90, 1, 32⟩ :: lowerRuns.tail from rfl,
    List.find?_cons]
  by_cases capital : 65 ≤ c.val ∧ c.val ≤ 90
  · have first : (65 ≤ c.val && c.val ≤ 90 && (c.val - 65) % 1 == 0) = true := by
      simp [capital, Nat.mod_one]
    rw [first, if_pos capital]
    rfl
  · have first : (65 ≤ c.val && c.val ≤ 90 && (c.val - 65) % 1 == 0) = false := by
      simp only [Bool.and_eq_false_iff, decide_eq_false_iff_not]
      omega
    rw [first, if_neg capital, List.find?_eq_none.2]
    intro run later
    have beyond := lowerRuns_beyond run later
    simp only [Bool.and_eq_true, decide_eq_true_eq]
    omega

/-- Whether a run of capitals and their lower-case forms keep clear of the surrogates. -/
def LowerRun.KeepsClear (run : LowerRun) : Prop :=
  run.first ≤ run.last ∧ (run.last < 0xD800 ∨ 0xE000 ≤ run.first) ∧
    (run.last + run.distance < 0xD800 ∨ 0xE000 ≤ run.first + run.distance)

instance (run : LowerRun) : Decidable run.KeepsClear := inferInstanceAs (Decidable (_ ∧ _))

set_option maxRecDepth 2000 in
/-- No run touches the surrogates. -/
theorem lowerRuns_keepClear : ∀ run ∈ lowerRuns, run.KeepsClear := by decide

/-- A code point has one lower-case form, a character or itself, except for the dotted capital I. -/
theorem lower_cases (c : CodePoint) :
    c.val = 0x130 ∧ c.lower = [⟨0x69, by decide⟩, ⟨0x307, by decide⟩] ∨
      c.lower = [c] ∨ c.isSurrogate = false ∧ ∃ d, c.lower = [d] ∧ d.isSurrogate = false := by
  unfold lower
  split
  · next dotted => exact .inl ⟨dotted, rfl⟩
  split
  · next run found =>
    refine .inr (.inr ?_)
    have clear := lowerRuns_keepClear run (List.mem_of_find?_eq_some found)
    have inside := List.find?_some found
    simp only [Bool.and_eq_true, decide_eq_true_eq] at inside
    obtain ⟨ordered, capitals, forms⟩ := clear
    refine ⟨?_, _, rfl, isSurrogate_ofNat ?_⟩
    · simp only [isSurrogate, Bool.and_eq_false_iff, decide_eq_false_iff_not]
      omega
    · omega
  · exact .inr (.inl rfl)

/-- Whether lower-casing a code point does no more than ASCII asks for. -/
def LowersInAscii (c : CodePoint) : Prop := c.isAscii = true ∨ c.lower = [c]

instance (c : CodePoint) : Decidable c.LowersInAscii := inferInstanceAs (Decidable (_ ∨ _))

/-- Capital sigma is a capital beyond ASCII. -/
theorem not_lowersInAscii_sigma {c : CodePoint} (sigma : c.val = 0x3A3) : ¬ c.LowersInAscii := by
  have same : c = ⟨0x3A3, by decide⟩ := by
    cases c
    cases sigma
    rfl
  rw [same]
  decide

/-- What is lower-cased as in ASCII becomes its lower-case form there. -/
theorem lower_of_lowersInAscii {c : CodePoint} (lowers : c.LowersInAscii) :
    c.lower = [asciiLower c] := by
  by_cases ascii : c.val < 128
  · exact lower_ascii ascii
  · rcases lowers with low | same
    · exact absurd (of_decide_eq_true low) ascii
    · rw [same, asciiLower, if_neg (by omega)]

end CodePoint

namespace Text

/-! ## Texts -/

/-- Whether lower-casing a text does no more than ASCII asks for: it has no capitals beyond. -/
def LowersInAscii (text : Text) : Prop := ∀ c ∈ text, c.LowersInAscii

instance (text : Text) : Decidable text.LowersInAscii :=
  inferInstanceAs (Decidable (∀ c ∈ text, c.LowersInAscii))

variable {before after : Text} {c : CodePoint}

/-- Wherever it stands, a code point has one lower-case form, a surrogate only if it is one and
itself only if that is so anywhere, unless it is the dotted capital I. -/
theorem lowerBetween_cases (before : Text) (c : CodePoint) (after : Text) :
    c.val = 0x130 ∧ lowerBetween before c after = [⟨0x69, by decide⟩, ⟨0x307, by decide⟩] ∨
      ∃ d, lowerBetween before c after = [d] ∧ d.isSurrogate = c.isSurrogate ∧
        (d = c → c.lower = [c]) := by
  unfold lowerBetween
  split
  · next sigma =>
    have scalar : c.isSurrogate = false := by
      simp only [CodePoint.isSurrogate, sigma]
      decide
    rw [scalar]
    split
    · exact .inr ⟨_, rfl, by decide, fun same => absurd (same ▸ sigma) (by decide)⟩
    · exact .inr ⟨_, rfl, by decide, fun same => absurd (same ▸ sigma) (by decide)⟩
  · rcases c.lower_cases with dotted | same | ⟨scalar, d, lowered, lower_scalar⟩
    · exact .inl dotted
    · exact .inr ⟨c, same, rfl, fun _ => same⟩
    · exact .inr ⟨d, lowered, lower_scalar.trans scalar.symm, fun same => same ▸ lowered⟩

/-- Lower-casing takes nothing out. -/
theorem length_le_lowerAfter (before text : Text) :
    text.length ≤ (lowerAfter before text).length := by
  induction text generalizing before with
  | nil => exact Nat.le_refl _
  | cons c after ih =>
    have later := ih (c :: before)
    rw [lowerAfter, List.length_append, List.length_cons]
    rcases lowerBetween_cases before c after with ⟨-, two⟩ | ⟨d, one, -⟩
    · rw [two, List.length_cons, List.length_singleton]
      omega
    · rw [one, List.length_singleton]
      omega

/-- Lower-casing keeps surrogates and makes none. -/
theorem characters_lowerAfter (before text : Text) :
    (lowerAfter before text).IsOfCharacters ↔ text.IsOfCharacters := by
  induction text generalizing before with
  | nil => exact Iff.rfl
  | cons c after ih =>
    have here : (lowerBetween before c after).IsOfCharacters ↔ c.isSurrogate = false := by
      rcases lowerBetween_cases before c after with ⟨dotted, two⟩ | ⟨d, one, kept, -⟩
      · have scalar : c.isSurrogate = false := by
          simp only [CodePoint.isSurrogate, dotted]
          decide
        rw [two, scalar]
        exact iff_of_true (List.forall_mem_cons.2 ⟨rfl, List.forall_mem_singleton.2 rfl⟩) rfl
      · rw [one, ← kept]
        exact List.forall_mem_singleton
    unfold IsOfCharacters at here ih ⊢
    rw [lowerAfter, List.forall_mem_append, List.forall_mem_cons, here, ih (c :: before)]

/-- Lower-casing does no more than ASCII asks for exactly if there are no capitals beyond. -/
theorem lowerAfter_eq_map (before text : Text) :
    lowerAfter before text = text.map asciiLower ↔ text.LowersInAscii := by
  induction text generalizing before with
  | nil => exact iff_of_true rfl nofun
  | cons c after ih =>
    rw [lowerAfter, List.map_cons]
    constructor
    · intro same
      have here : c.LowersInAscii ∧ lowerBetween before c after = [asciiLower c] := by
        rcases lowerBetween_cases before c after with ⟨dotted, two⟩ | ⟨d, one, -, fixed⟩
        · -- The dotted capital is no capital of ASCII and stays a capital there.
          rw [two, asciiLower, if_neg (by omega)] at same
          have head := congrArg CodePoint.val (List.cons.inj same).1
          rw [dotted] at head
          cases head
        · rw [one] at same
          obtain ⟨rfl, -⟩ := List.cons.inj same
          refine ⟨?_, one⟩
          by_cases ascii : c.val < 128
          · exact .inl (decide_eq_true ascii)
          · exact .inr (fixed (if_neg (by omega)))
      rw [here.2] at same
      exact List.forall_mem_cons.2 ⟨here.1, (ih (c :: before)).1 (List.cons.inj same).2⟩
    · intro lowers
      obtain ⟨here, later⟩ := List.forall_mem_cons.1 lowers
      have form : lowerBetween before c after = [asciiLower c] := by
        unfold lowerBetween
        rw [if_neg fun sigma => CodePoint.not_lowersInAscii_sigma sigma here]
        exact CodePoint.lower_of_lowersInAscii here
      rw [form, (ih (c :: before)).2 later]
      rfl

/-- Lower-casing as in ASCII keeps characters characters. -/
theorem characters_map_asciiLower {text : Text} (characters : text.IsOfCharacters) :
    IsOfCharacters (text.map asciiLower) := by
  refine List.forall_mem_map.2 fun c listed => ?_
  unfold asciiLower
  split
  · exact Charset.isSurrogate_ofNat (.inl (by omega))
  · exact characters c listed

/-! ## ASCII -/

/-- The lower-case form of a text of ASCII. -/
theorem lower_of_ascii {text : Text} (ascii : ∀ c ∈ text, c.val < 128) :
    text.lower = text.map asciiLower :=
  (lowerAfter_eq_map [] text).2 fun c listed => .inl (decide_eq_true (ascii c listed))

end Text

/-- In ASCII, a capital is one of ASCII and has the same lower-case form. -/
theorem CodePoint.capital_of_ascii {c : CodePoint} (ascii : c.val < 128) :
    ∃ d, c.capital = [d] ∧ d.val < 128 ∧ asciiLower d = asciiLower c := by
  let capital (n : Nat) : CodePoint := ofNat (if 97 ≤ n ∧ n ≤ 122 then n - 32 else n)
  have table : ∀ n < 128, (ofNat n).capital = [capital n] := by decide +kernel
  have letters : ∀ n < 128, (capital n).val < 128 ∧
      asciiLower (capital n) = asciiLower (ofNat n) := by decide +kernel
  rw [← ofNat_val c rfl]
  exact ⟨capital c.val, table c.val ascii, letters c.val ascii⟩

namespace Text

/-- In ASCII, capitals have the same lower-case form. -/
theorem lower_upper_of_ascii {text : Text} (ascii : ∀ c ∈ text, c.val < 128) :
    text.upper.lower = text.lower := by
  have capitals : ∀ d ∈ text.upper, d.val < 128 := by
    refine List.forall_mem_flatMap.2 fun c listed => ?_
    obtain ⟨d, capital, small, -⟩ := CodePoint.capital_of_ascii (ascii c listed)
    exact capital ▸ List.forall_mem_singleton.2 small
  rw [lower_of_ascii capitals, lower_of_ascii ascii, upper, List.map_flatMap, List.map_eq_flatMap]
  refine List.flatMap_congr fun c listed => ?_
  obtain ⟨d, capital, -, same⟩ := CodePoint.capital_of_ascii (ascii c listed)
  rw [capital, List.map_singleton, same]

end Text
end WideColumn
