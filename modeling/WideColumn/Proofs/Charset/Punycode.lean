import Mathlib.Data.List.Basic
import WideColumn.Charset.Punycode
import WideColumn.Proofs.Charset.Utf8

/-!
# Punycode is lossless ASCII

Every text is written in ASCII, and none but the empty one as nothing. Leniently read, any digits
make a text: those that make no number end it.
-/
namespace WideColumn.Charset.Punycode

/-! ## Writing -/

/-- The byte of a number below 128 is ASCII. -/
theorem ofNat_ascii {n : Nat} (low : n < 128) : UInt8.ofNat n < 128 := by
  rw [UInt8.lt_iff_toNat_lt, toNat_ofNat (Nat.lt_trans low (by decide))]
  exact low

/-- A digit is ASCII. -/
theorem digit_ascii {worth : Nat} (below : worth < 36) : digit worth < 128 := by
  refine ofNat_ascii ?_
  split <;> omega

/-- A number has at least one digit, and its digits are ASCII. -/
theorem writeNumber_ascii (bias place number : Nat) :
    writeNumber bias place number ≠ [] ∧ ∀ byte ∈ writeNumber bias place number, byte < 128 := by
  fun_induction writeNumber bias place number with
  | case1 place number limit small =>
    have bounds := threshold_bounds bias place
    exact ⟨nofun, List.forall_mem_singleton.2 (digit_ascii (by omega))⟩
  | case2 place number limit large ih =>
    have bounds := threshold_bounds bias place
    have worth : limit + (number - limit) % (36 - limit) < 36 := by
      have rest := Nat.mod_lt (number - limit) (show 36 - limit > 0 by omega)
      omega
    exact ⟨nofun, List.forall_mem_cons.2 ⟨digit_ascii worth, ih.2⟩⟩

/-- Deltas are written in ASCII. -/
theorem writeDeltas_ascii (bias : Nat) (first : Bool) (length : Nat) (deltas : List Nat) :
    ∀ byte ∈ writeDeltas bias first length deltas, byte < 128 := by
  induction deltas generalizing bias first length with
  | nil => exact List.forall_mem_nil _
  | cons delta rest ih =>
    exact List.forall_mem_append.2 ⟨(writeNumber_ascii bias 0 delta).2, ih _ _ _⟩

/-- Texts are written in ASCII. -/
theorem encode_ascii (text : Text) : ∀ byte ∈ encode text, byte < 128 := by
  have digits := writeDeltas_ascii 72 true
  have basic : ∀ byte ∈ (text.filter CodePoint.isAscii).map fun c => UInt8.ofNat c.val,
      byte < 128 := by
    refine List.forall_mem_map.2 fun c kept => ofNat_ascii ?_
    exact of_decide_eq_true (List.mem_filter.1 kept).2
  unfold encode
  dsimp only
  split
  · exact digits _ _
  · exact List.forall_mem_append.2 ⟨basic, List.forall_mem_cons.2 ⟨by decide, digits _ _⟩⟩

/-- A code point that occurs has a delta. -/
theorem occurrences_ne_nil {text : Text} {c : CodePoint} (listed : c ∈ text)
    (owed slot index : Nat) : (occurrences c.val owed slot index text).1 ≠ [] := by
  induction text generalizing owed slot index with
  | nil => cases listed
  | cons d rest ih =>
    rw [occurrences]
    split
    · exact nofun
    · next other =>
      cases listed with
      | head => exact absurd rfl other
      | tail _ later => exact ih later _ _ _

/-- Some deltas are some digits. -/
theorem writeDeltas_ne_nil {deltas : List Nat} (some_delta : deltas ≠ []) (bias : Nat)
    (first : Bool) (length : Nat) : writeDeltas bias first length deltas ≠ [] := by
  cases deltas with
  | nil => exact absurd rfl some_delta
  | cons delta rest =>
    exact List.append_ne_nil_of_left_ne_nil (writeNumber_ascii bias 0 delta).1 _

/-- No text but the empty one is written as nothing. -/
theorem encode_ne_nil {text : Text} (some_text : text ≠ []) : encode text ≠ [] := by
  unfold encode
  dsimp only
  split
  · next no_basic =>
    -- All code points are inserted, so there is a first delta.
    refine writeDeltas_ne_nil ?_ _ _ _
    have inserted (c : CodePoint) :
        c ∈ (text.filter fun c => !c.isAscii).eraseDups.mergeSort (fun a b => a.val ≤ b.val) ↔
          c ∈ text := by
      rw [List.mem_mergeSort, List.mem_eraseDups, List.mem_filter]
      refine and_iff_left_of_imp fun listed => ?_
      have beyond := List.filter_eq_nil_iff.1 (List.isEmpty_iff.1 no_basic) c listed
      simpa using beyond
    obtain ⟨c, rest, rfl⟩ := List.exists_cons_of_ne_nil some_text
    generalize (((c :: rest).filter fun c => !c.isAscii).eraseDups.mergeSort
      fun a b => a.val ≤ b.val) = others at inserted
    cases others with
    | nil => cases (inserted c).2 List.mem_cons_self
    | cons d others =>
      have listed := (inserted d).1 List.mem_cons_self
      exact List.append_ne_nil_of_left_ne_nil (occurrences_ne_nil listed _ _ _) _
  · exact List.append_ne_nil_of_right_ne_nil _ nofun

/-! ## Reading -/

/-- What follows the last hyphen is part of the whole. -/
theorem mem_of_mem_split {data : Bytes} {byte : UInt8} (listed : byte ∈ (split data).2) :
    byte ∈ data :=
  List.mem_reverse.1 ((List.takeWhile_sublist _).subset (List.mem_reverse.1 listed))

/-- Leniently, any code point is inserted. -/
theorem next_lenient (state : Insertion) (delta : Nat) :
    ∃ after, state.next false delta = .ok after := by
  unfold Insertion.next
  dsimp only
  split
  · exact ⟨_, rfl⟩
  · exact ⟨_, rfl⟩

/-- Leniently, any digits are read. -/
theorem insertAll_lenient (state : Insertion) (place weight number : Nat) (digits : Text) :
    ∃ text, insertAll false state place weight number digits = .ok text := by
  induction digits generalizing state place weight number with
  | nil => exact ⟨_, rfl⟩
  | cons c rest ih =>
    rw [insertAll]
    split
    · exact ⟨_, rfl⟩
    · dsimp only
      split
      · obtain ⟨after, inserted⟩ := next_lenient state (number + _ * weight)
        rw [inserted]
        exact ih ..
      · exact ih ..

end WideColumn.Charset.Punycode
