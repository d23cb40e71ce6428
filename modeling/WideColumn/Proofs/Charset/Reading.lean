import Mathlib.Data.List.Basic
import WideColumn.Charset.Codec
import WideColumn.Proofs.Except

/-!
# Strict reading

What stands at the front decides how reading goes on: with the next byte, with the byte after those
that belong together, or not at all. A reader of single bytes reads a byte string exactly if each of
its bytes stands for something, and no reader gives more code points than there are bytes.
-/
namespace WideColumn.Charset

variable {reader : Reader} {handler : Handler} {whole rest data : Bytes} {text : Text}
  {byte : UInt8} {position : Nat}

namespace Reader

/-- A code point at the front is read, and reading goes on after its bytes. -/
theorem readFrom_codePoint {c : CodePoint} {width : Nat}
    (front : reader.read (byte :: rest) = .codePoint c width) :
    reader.readFrom handler whole position 0 (byte :: rest) =
      (reader.readFrom handler whole (position + 1) (width - 1) rest).map (c :: ·) := by
  rw [readFrom, front]
  dsimp only
  cases reader.readFrom handler whole (position + 1) (width - 1) rest <;> rfl

/-- Two bytes that stand for themselves together are read, and reading goes on after them. -/
theorem readFrom_two {first second : CodePoint}
    (front : reader.read (byte :: rest) = .two first second) :
    reader.readFrom handler whole position 0 (byte :: rest) =
      (reader.readFrom handler whole (position + 1) 1 rest).map (first :: second :: ·) := by
  rw [readFrom, front]
  cases reader.readFrom handler whole (position + 1) 1 rest <;> rfl

/-- Bytes that form no code point end strict reading. -/
theorem readFrom_malformed {count : Nat} {reason : String}
    (front : reader.read (byte :: rest) = .malformed count reason) :
    reader.readFrom .strict whole position 0 (byte :: rest) =
      .error (.decode reader.label whole position (position + count) reason) := by
  rw [readFrom, front]
  rfl

/-- A reader that takes two bytes together only where there are two gives at most one code point
for each byte that is not spoken for. -/
theorem length_readFrom
    (pairs : ∀ {byte rest first second},
      reader.read (byte :: rest) = .two first second → rest ≠ [])
    {skip : Nat} (done : reader.readFrom .strict whole position skip data = .ok text) :
    text.length ≤ data.length - skip := by
  induction data generalizing position skip text with
  | nil => rw [readFrom] at done; cases done; exact Nat.zero_le _
  | cons byte rest ih =>
    cases skip with
    | succ skip =>
      rw [readFrom] at done
      have bound := ih done
      rw [List.length_cons]
      omega
    | zero =>
      cases front : reader.read (byte :: rest) with
      | codePoint c width =>
        rw [readFrom_codePoint front] at done
        obtain ⟨others, read, rfl⟩ := Except.map_eq_ok.1 done
        have bound := ih read
        simp only [List.length_cons]
        omega
      | two first second =>
        rw [readFrom_two front] at done
        obtain ⟨others, read, rfl⟩ := Except.map_eq_ok.1 done
        have bound := ih read
        have more := List.length_pos_iff.2 (pairs front)
        simp only [List.length_cons]
        omega
      | malformed count reason =>
        rw [readFrom_malformed front] at done
        cases done

/-- A reader of single bytes reads a byte string exactly if each byte stands for something. -/
theorem readFrom_bytes {meaning : UInt8 → Option CodePoint} {reason : String}
    (bytewise : reader.read = readByte reason meaning) :
    reader.readFrom .strict whole position 0 data = .ok text ↔ data.mapM meaning = some text := by
  induction data generalizing position text with
  | nil => simp [readFrom]
  | cons byte rest ih =>
    rw [readFrom, bytewise, readByte, List.mapM_cons]
    cases meaning byte with
    | none => exact ⟨nofun, nofun⟩
    | some c =>
      simp only [Except.bind_eq_ok, ih, pure, Except.pure, Except.ok.injEq, Option.bind_eq_bind,
        Option.bind_some, Option.bind_eq_some_iff, Option.some.injEq]

end Reader
end WideColumn.Charset
