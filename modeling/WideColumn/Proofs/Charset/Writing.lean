import Mathlib.Data.List.Basic
import WideColumn.Charset.Codec
import WideColumn.Proofs.Except

/-!
# Strict writing

A text is written strictly exactly if each of its code points has bytes, and then the result is the
bytes of all code points one after another: nothing is repaired and nothing is left out. Which code
points have bytes is up to the codec; in UTF-8 it is those of characters.
-/
namespace WideColumn.Charset

namespace Writer

variable {writer : Writer} {whole text rest run : Text} {start : Nat} {data : Bytes}

/-- A run that cannot be written is refused, so only the empty run gets through. -/
theorem repairRun_strict :
    writer.repairRun .strict whole start run = .ok data ↔ run = [] ∧ data = [] := by
  cases run with
  | nil => exact ⟨fun done => ⟨rfl, by cases done; rfl⟩, fun ⟨_, empty⟩ => by rw [empty]; rfl⟩
  | cons c run => exact ⟨nofun, nofun⟩

@[simp] theorem writeAll_nil : writer.writeAll [] = some [] := rfl

/-- The bytes of a text are those of its first code point and then those of the rest. -/
theorem writeAll_cons {c : CodePoint} :
    writer.writeAll (c :: rest) = some data ↔
      ∃ first others, writer.write c = some first ∧ writer.writeAll rest = some others ∧
        data = first ++ others := by
  simp only [writeAll, List.mapM_cons, Option.pure_def, Option.bind_eq_bind, Option.map_eq_some_iff,
    Option.bind_eq_some_iff, Option.some.injEq]
  constructor
  · rintro ⟨_, ⟨first, written, others, remaining, rfl⟩, rfl⟩
    exact ⟨first, others.flatten, written, ⟨others, remaining, rfl⟩, rfl⟩
  · rintro ⟨first, _, written, ⟨others, remaining, rfl⟩, rfl⟩
    exact ⟨first :: others, ⟨first, written, others, remaining, rfl⟩, rfl⟩

/-- Strict writing goes on from a point exactly if nothing before it is left over and all that
follows has bytes. -/
theorem writeFrom_strict :
    writer.writeFrom .strict whole start run text = .ok data ↔
      run = [] ∧ writer.writeAll text = some data := by
  induction text generalizing start run data with
  | nil => rw [writeFrom, repairRun_strict, writeAll_nil, Option.some.injEq, eq_comm (a := data)]
  | cons c rest ih =>
    rw [writeFrom, writeAll_cons]
    cases written : writer.write c with
    | some first =>
      simp only [Except.bind_eq_ok, repairRun_strict, ih, pure, Except.pure, Except.ok.injEq,
        Option.some.injEq]
      constructor
      · rintro ⟨_, ⟨empty, rfl⟩, others, ⟨-, remaining⟩, rfl⟩
        exact ⟨empty, first, others, rfl, remaining, rfl⟩
      · rintro ⟨empty, _, others, rfl, remaining, rfl⟩
        exact ⟨[], ⟨empty, rfl⟩, others, ⟨trivial, remaining⟩, rfl⟩
    | none =>
      -- The code point starts or extends a run, and no run gets through.
      refine ⟨fun done => ?_, nofun⟩
      dsimp only at done
      split at done
      · exact absurd (ih.1 done).1 (by simp)
      · obtain ⟨_, repaired, -⟩ := Except.bind_eq_ok.1 done
        exact absurd (repairRun_strict.1 repaired).1 (by simp)

/-- A text is written strictly exactly if all its code points have bytes. -/
theorem encode_strict : writer.encode .strict text = .ok data ↔ writer.writeAll text = some data :=
  writeFrom_strict.trans (and_iff_right rfl)

/-- Where a code point that has bytes has those of a Unicode format, so has a whole text. -/
theorem writeAll_scalars {form : CodePoint → Bytes} (scalars : writer.write = writeScalar form)
    (written : writer.writeAll text = some data) : data = text.flatMap form := by
  induction text generalizing data with
  | nil => cases written; rfl
  | cons c rest ih =>
    obtain ⟨first, others, one, remaining, rfl⟩ := writeAll_cons.1 written
    rw [scalars, writeScalar] at one
    split at one
    · cases one
    · rw [List.flatMap_cons, ih remaining, ← Option.some.inj one]

/-! ## Refusals -/

variable {fault : Fault}

/-- What cannot be repaired is a span of the whole text. -/
theorem repairRun_refused (refused : writer.repairRun .strict whole start run = .error fault) :
    ∃ first last, fault = .encode writer.label whole first last writer.reason := by
  cases run with
  | nil => cases refused
  | cons c run => cases refused; exact ⟨_, _, rfl⟩

/-- A text that cannot be written strictly is refused for a span of it. -/
theorem writeFrom_refused (refused : writer.writeFrom .strict whole start run text = .error fault) :
    ∃ first last, fault = .encode writer.label whole first last writer.reason := by
  induction text generalizing start run with
  | nil => exact repairRun_refused refused
  | cons c rest ih =>
    -- A span of faults is repaired before the rest is written, whether a character ends the span or
    -- every fault is a span of its own.
    have step {start : Nat} {run : Text} {next : Nat} {join : Bytes → Bytes → Bytes}
        (refused : (do
          let repaired ← writer.repairRun .strict whole start run
          let tail ← writer.writeFrom .strict whole next [] rest
          return join repaired tail) = .error fault) :
        ∃ first last, fault = .encode writer.label whole first last writer.reason := by
      rcases Except.bind_eq_error.1 refused with here | ⟨_, -, refused⟩
      · exact repairRun_refused here
      · rcases Except.bind_eq_error.1 refused with later | ⟨_, -, done⟩
        · exact ih later
        · cases done
    rw [writeFrom] at refused
    split at refused
    · exact step refused
    · split at refused
      · exact ih refused
      · exact step refused

end Writer

/-! ## UTF-8 -/

/-- The UTF-8 form of a character is the standard one. -/
theorem utf8Bytes_ofChar (char : Char) :
    utf8Bytes (CodePoint.ofChar char) = String.utf8EncodeChar char := by
  obtain ⟨c, is_char⟩ : ∃ c, c = CodePoint.ofChar char := ⟨_, rfl⟩
  have number : char.val.toNat = c.val := by
    rw [is_char]
    rfl
  have bound := c.isLt
  rw [← is_char]
  unfold utf8Bytes String.utf8EncodeChar continuation
  simp only [number]
  by_cases one : c.val < 0x80
  · simp only [one, show c.val ≤ 127 by omega, ↓reduceIte]
  by_cases two : c.val < 0x800
  · have lead : c.val / 64 % 32 = c.val / 64 := Nat.mod_eq_of_lt (by omega)
    simp only [one, two, show ¬ c.val ≤ 127 by omega, show c.val ≤ 2047 by omega, ↓reduceIte, lead,
      Nat.add_comm]
  by_cases three : c.val < 0x10000
  · have lead : c.val / 4096 % 16 = c.val / 4096 := Nat.mod_eq_of_lt (by omega)
    simp only [one, two, three, show ¬ c.val ≤ 127 by omega, show ¬ c.val ≤ 2047 by omega,
      show c.val ≤ 65535 by omega, ↓reduceIte, lead, Nat.add_comm]
  · have lead : c.val / 262144 % 8 = c.val / 262144 := Nat.mod_eq_of_lt (by omega)
    simp only [one, two, three, show ¬ c.val ≤ 127 by omega, show ¬ c.val ≤ 2047 by omega,
      show ¬ c.val ≤ 65535 by omega, ↓reduceIte, lead, Nat.add_comm]

/-- A character is no surrogate. -/
theorem isSurrogate_ofChar (c : Char) : (CodePoint.ofChar c).isSurrogate = false := by
  have valid := c.valid
  simp only [UInt32.isValidChar, Nat.isValidChar] at valid
  simp only [CodePoint.isSurrogate, CodePoint.ofChar, Char.toNat]
  grind

/-- A code point that is no surrogate lies outside of them. -/
theorem outside_of_scalar {c : CodePoint} (scalar : c.isSurrogate = false) :
    c.val < 0xD800 ∨ 0xE000 ≤ c.val := by
  simp only [CodePoint.isSurrogate, Bool.and_eq_false_iff, decide_eq_false_iff_not] at scalar
  omega

/-- A code point that is no surrogate is a character. -/
theorem exists_char {c : CodePoint} (scalar : c.isSurrogate = false) :
    ∃ char, c = CodePoint.ofChar char := by
  have range := c.isLt
  have outside := outside_of_scalar scalar
  have valid : c.val.isValidChar := by
    unfold Nat.isValidChar
    omega
  exact ⟨Char.ofNatAux c.val valid, rfl⟩

/-- The bytes of a string are those of its characters. -/
theorem data_toUTF8 (s : String) :
    s.toUTF8.data.toList = s.toList.flatMap String.utf8EncodeChar := by
  rw [String.toUTF8, ← String.utf8Encode_toList, List.utf8Encode, List.data_toByteArray]

/-- A text has a UTF-8 form exactly if it is one of a string, and then the form is that of the
string. -/
theorem writeAll_utf8 {text : Text} {data : Bytes} :
    utf8Writer.writeAll text = some data ↔
      ∃ s : String, text = Text.ofString s ∧ data = s.toUTF8.data.toList := by
  have characters : utf8Writer.writeAll text = some data ↔
      ∃ chars : List Char, text = chars.map CodePoint.ofChar ∧
        data = chars.flatMap String.utf8EncodeChar := by
    induction text generalizing data with
    | nil =>
      rw [Writer.writeAll_nil, Option.some.injEq]
      constructor
      · rintro rfl
        exact ⟨[], rfl, rfl⟩
      · rintro ⟨chars, none, rfl⟩
        rw [List.map_eq_nil_iff.1 none.symm]
        rfl
    | cons c rest ih =>
      simp only [Writer.writeAll_cons, ih]
      constructor
      · rintro ⟨first, _, one, ⟨others, rfl, rfl⟩, rfl⟩
        rw [show utf8Writer.write c = writeScalar utf8Bytes c from rfl, writeScalar] at one
        cases surrogate : c.isSurrogate with
        | true => rw [surrogate] at one; cases one
        | false =>
          obtain ⟨char, rfl⟩ := exists_char surrogate
          rw [surrogate] at one
          cases one
          exact ⟨char :: others, rfl, by rw [utf8Bytes_ofChar]; rfl⟩
      · rintro ⟨_ | ⟨char, others⟩, parts, rfl⟩
        · cases parts
        · obtain ⟨rfl, rfl⟩ := List.cons.inj parts
          refine ⟨_, _, ?_, ⟨others, rfl, rfl⟩, rfl⟩
          rw [show utf8Writer.write _ = writeScalar utf8Bytes _ from rfl, writeScalar,
            isSurrogate_ofChar, utf8Bytes_ofChar]
          rfl
  rw [characters]
  constructor
  · rintro ⟨chars, rfl, rfl⟩
    exact ⟨String.ofList chars, by rw [Text.ofString, String.toList_ofList],
      by rw [data_toUTF8, String.toList_ofList]⟩
  · rintro ⟨s, rfl, rfl⟩
    exact ⟨s.toList, rfl, data_toUTF8 s⟩

end WideColumn.Charset
