import Mathlib.Data.List.Infix
import WideColumn.Proofs.Charset.Characters

/-!
# The bytes of UTF-8

A character is read from the front of its own UTF-8 bytes, whatever follows them, so no character's
bytes begin another's. The first byte of a character is none that continues, and all the others are;
a text has therefore as many bytes that continue none as it has characters.
-/
namespace WideColumn.Charset

/-! ## Single bytes -/

/-- The number of a byte that is made from a number. -/
theorem toNat_ofNat {n : Nat} (byte : n < 256) : (UInt8.ofNat n).toNat = n :=
  UInt8.toNat_ofNat_of_lt byte

/-- The number of a byte that continues. -/
theorem toNat_continuation (bits : Nat) : (continuation bits).toNat = 0x80 + bits % 64 :=
  toNat_ofNat (by omega)

/-- The bits of a byte that continues. -/
theorem lowBits_continuation (bits : Nat) : lowBits (continuation bits) = bits % 64 := by
  rw [lowBits, toNat_continuation]
  omega

/-- Which bytes continue, by number. -/
theorem isContinuation_iff {byte : UInt8} :
    isContinuation byte = true ↔ 0x80 ≤ byte.toNat ∧ byte.toNat ≤ 0xBF := by
  rw [isContinuation, Bool.and_eq_true, decide_eq_true_iff, decide_eq_true_iff,
    UInt8.le_iff_toNat_le, UInt8.le_iff_toNat_le]
  rfl

/-- A byte that is made to continue does. -/
theorem isContinuation_continuation (bits : Nat) : isContinuation (continuation bits) = true := by
  rw [isContinuation_iff, toNat_continuation]
  omega

/-- How many bytes a lead byte announces, by number. -/
theorem sequenceLength_eq (lead : UInt8) :
    sequenceLength lead =
      if lead.toNat < 0x80 then 1 else if lead.toNat < 0xC2 then 0
      else if lead.toNat < 0xE0 then 2 else if lead.toNat < 0xF0 then 3
      else if lead.toNat < 0xF5 then 4 else 0 := by
  unfold sequenceLength
  simp only [UInt8.lt_iff_toNat_lt, UInt8.reduceToNat]

/-- Which bytes can follow a lead byte directly, by number. -/
theorem isSecond_iff {lead second : UInt8} :
    isSecond lead second = true ↔ (0x80 ≤ second.toNat ∧ second.toNat ≤ 0xBF) ∧
      (lead.toNat = 0xE0 → 0xA0 ≤ second.toNat) ∧ (lead.toNat = 0xF0 → 0x90 ≤ second.toNat) ∧
      (lead.toNat = 0xED → second.toNat ≤ 0x9F) ∧ (lead.toNat = 0xF4 → second.toNat ≤ 0x8F) := by
  unfold isSecond
  simp only [Bool.and_eq_true, decide_eq_true_iff, UInt8.le_iff_toNat_le, ← UInt8.toNat_inj,
    UInt8.reduceToNat, apply_ite UInt8.toNat]
  split_ifs <;> omega

/-! ## Characters -/

/-- The code point of a number that is one's own. -/
theorem ofNat_val (c : CodePoint) {n : Nat} (same : n = c.val) : CodePoint.ofNat n = c := by
  subst same
  unfold CodePoint.ofNat
  rw [dif_pos c.isLt]

/-- A lead byte of two, and a byte that continues it. -/
theorem readUtf8_two {lead b : UInt8} (rest : Bytes) (announced : sequenceLength lead = 2)
    (second : isContinuation b = true) :
    readUtf8 (lead :: b :: rest) =
      .codePoint (.ofNat (lead.toNat % 32 * 64 + lowBits b)) 2 := by
  simp only [readUtf8, announced, second, ↓reduceIte]

/-- A lead byte of three, and bytes that continue it. -/
theorem readUtf8_three {lead b c : UInt8} (rest : Bytes) (announced : sequenceLength lead = 3)
    (second : isSecond lead b = true) (third : isContinuation c = true) :
    readUtf8 (lead :: b :: c :: rest) =
      .codePoint (.ofNat (lead.toNat % 16 * 4096 + lowBits b * 64 + lowBits c)) 3 := by
  simp only [readUtf8, announced, second, third, ↓reduceIte]

/-- A lead byte of four, and bytes that continue it. -/
theorem readUtf8_four {lead b c d : UInt8} (rest : Bytes) (announced : sequenceLength lead = 4)
    (second : isSecond lead b = true) (third : isContinuation c = true)
    (fourth : isContinuation d = true) :
    readUtf8 (lead :: b :: c :: d :: rest) =
      .codePoint (.ofNat (lead.toNat % 8 * 262144 + lowBits b * 4096 + lowBits c * 64 +
        lowBits d)) 4 := by
  simp only [readUtf8, announced, second, third, fourth, ↓reduceIte]

/-- A character is read from the front of its own bytes, whatever follows. -/
theorem readUtf8_utf8Bytes {c : CodePoint} (scalar : c.isSurrogate = false) (rest : Bytes) :
    readUtf8 (utf8Bytes c ++ rest) = .codePoint c (utf8Bytes c).length := by
  have bound := c.isLt
  have outside := outside_of_scalar scalar
  unfold utf8Bytes
  split
  · next one =>
    have lead : (UInt8.ofNat c.val).toNat = c.val := toNat_ofNat (by omega)
    have announced : sequenceLength (UInt8.ofNat c.val) = 1 := by
      rw [sequenceLength_eq, lead, if_pos one]
    have read : CodePoint.ofByte (UInt8.ofNat c.val) = c := by
      unfold CodePoint.ofByte
      simp only [lead]
    simp only [List.cons_append, readUtf8, announced, read]
    rfl
  split
  · next below two =>
    have lead : (UInt8.ofNat (0xC0 + c.val / 64)).toNat = 0xC0 + c.val / 64 :=
      toNat_ofNat (by omega)
    have announced : sequenceLength (UInt8.ofNat (0xC0 + c.val / 64)) = 2 := by
      rw [sequenceLength_eq, lead, if_neg (by omega), if_neg (by omega), if_pos (by omega)]
    refine (readUtf8_two rest announced (isContinuation_continuation _)).trans ?_
    rw [lead, lowBits_continuation, ofNat_val c (by omega)]
    rfl
  split
  · next two three =>
    have lead : (UInt8.ofNat (0xE0 + c.val / 4096)).toNat = 0xE0 + c.val / 4096 :=
      toNat_ofNat (by omega)
    have announced : sequenceLength (UInt8.ofNat (0xE0 + c.val / 4096)) = 3 := by
      rw [sequenceLength_eq, lead, if_neg (by omega), if_neg (by omega), if_neg (by omega),
        if_pos (by omega)]
    have second : isSecond (UInt8.ofNat (0xE0 + c.val / 4096)) (continuation (c.val / 64)) =
        true := by
      rw [isSecond_iff, lead, toNat_continuation]
      omega
    refine (readUtf8_three rest announced second (isContinuation_continuation _)).trans ?_
    rw [lead, lowBits_continuation, lowBits_continuation, ofNat_val c (by omega)]
    rfl
  · next three =>
    have lead : (UInt8.ofNat (0xF0 + c.val / 262144)).toNat = 0xF0 + c.val / 262144 :=
      toNat_ofNat (by omega)
    have announced : sequenceLength (UInt8.ofNat (0xF0 + c.val / 262144)) = 4 := by
      rw [sequenceLength_eq, lead, if_neg (by omega), if_neg (by omega), if_neg (by omega),
        if_neg (by omega), if_pos (by omega)]
    have second : isSecond (UInt8.ofNat (0xF0 + c.val / 262144)) (continuation (c.val / 4096)) =
        true := by
      rw [isSecond_iff, lead, toNat_continuation]
      omega
    refine (readUtf8_four rest announced second (isContinuation_continuation _)
      (isContinuation_continuation _)).trans ?_
    rw [lead, lowBits_continuation, lowBits_continuation, lowBits_continuation,
      ofNat_val c (by omega)]
    rfl

/-- No character's bytes begin another's. -/
theorem utf8Bytes_append_inj {c d : CodePoint} (scalar : c.isSurrogate = false)
    (other_scalar : d.isSurrogate = false) {rest others : Bytes}
    (same : utf8Bytes c ++ rest = utf8Bytes d ++ others) : c = d ∧ rest = others := by
  have read := readUtf8_utf8Bytes scalar rest
  rw [same, readUtf8_utf8Bytes other_scalar others] at read
  obtain ⟨rfl, -⟩ := Reading.codePoint.inj read
  exact ⟨rfl, List.append_cancel_left same⟩

/-- The first byte of a code point continues none, and all the others do. -/
theorem utf8Bytes_eq_cons (c : CodePoint) :
    ∃ lead others, utf8Bytes c = lead :: others ∧ isContinuation lead = false ∧
      ∀ byte ∈ others, isContinuation byte = true := by
  have bound := c.isLt
  have leads {n : Nat} (byte : n < 256) (first : n < 0x80 ∨ 0xC0 ≤ n) :
      isContinuation (UInt8.ofNat n) = false := by
    rw [Bool.eq_false_iff, ne_eq, isContinuation_iff, toNat_ofNat byte]
    omega
  unfold utf8Bytes
  split
  · exact ⟨_, _, rfl, leads (by omega) (by omega), nofun⟩
  split
  · exact ⟨_, _, rfl, leads (by omega) (by omega), by simp [isContinuation_continuation]⟩
  split
  · exact ⟨_, _, rfl, leads (by omega) (by omega), by simp [isContinuation_continuation]⟩
  · exact ⟨_, _, rfl, leads (by omega) (by omega), by simp [isContinuation_continuation]⟩

/-! ## Texts -/

/-- How many bytes continue none. -/
def leads (data : Bytes) : Nat := data.countP fun byte => !isContinuation byte

/-- As many bytes of a text continue none as it has code points. -/
theorem leads_flatMap (text : Text) : leads (text.flatMap utf8Bytes) = text.length := by
  induction text with
  | nil => rfl
  | cons c rest ih =>
    obtain ⟨lead, others, bytes, first, continued⟩ := utf8Bytes_eq_cons c
    have none_leads : others.countP (fun byte => !isContinuation byte) = 0 :=
      List.countP_eq_zero.2 fun byte listed => by rw [continued byte listed]; decide
    unfold leads at ih ⊢
    rw [List.flatMap_cons, List.countP_append, ih, bytes, List.countP_cons, none_leads, first,
      List.length_cons, Nat.add_comm]
    rfl

/-- Of two texts with as many characters, neither begins with the bytes of the other unless they are
the same. -/
theorem eq_of_flatMap_append {text other : Text} (characters : text.IsOfCharacters)
    (other_characters : other.IsOfCharacters) (lengths : text.length = other.length)
    {rest : Bytes} (begins : text.flatMap utf8Bytes ++ rest = other.flatMap utf8Bytes) :
    text = other := by
  induction text generalizing other with
  | nil => exact (List.length_eq_zero_iff.1 lengths.symm).symm
  | cons c remaining ih =>
    cases other with
    | nil => cases lengths
    | cons d others =>
      obtain ⟨scalar, later⟩ := List.forall_mem_cons.1 characters
      obtain ⟨other_scalar, other_later⟩ := List.forall_mem_cons.1 other_characters
      rw [List.flatMap_cons, List.flatMap_cons, List.append_assoc] at begins
      obtain ⟨rfl, begins_later⟩ := utf8Bytes_append_inj scalar other_scalar begins
      rw [ih later other_later (Nat.add_right_cancel lengths) begins_later]

/-- A text whose bytes occur among those of a text that is no longer is that text. -/
theorem eq_of_infix {text other : Text} (characters : text.IsOfCharacters)
    (other_characters : other.IsOfCharacters) (lengths : other.length ≤ text.length)
    (occurs : text.flatMap utf8Bytes <:+: other.flatMap utf8Bytes) : text = other := by
  obtain ⟨before, after, occurs⟩ := occurs
  -- Nothing that starts a character is left for what stands before and after.
  have counted : leads before + text.length + leads after = other.length := by
    rw [← leads_flatMap text, ← leads_flatMap other, ← occurs]
    unfold leads
    rw [List.countP_append, List.countP_append]
  have nothing_before : before = [] := by
    cases before with
    | nil => rfl
    | cons byte rest =>
      have continues : isContinuation byte = true := by
        have none_leads : leads (byte :: rest) = 0 := by omega
        have passes := List.countP_eq_zero.1 none_leads byte List.mem_cons_self
        simpa using passes
      cases other with
      | nil => cases occurs
      | cons d others =>
        obtain ⟨lead, continued, bytes, first, -⟩ := utf8Bytes_eq_cons d
        rw [List.flatMap_cons, bytes] at occurs
        obtain ⟨rfl, -⟩ := List.cons.inj occurs
        rw [first] at continues
        cases continues
  subst nothing_before
  exact eq_of_flatMap_append characters other_characters (by omega) occurs

/-! ## Capitals of ASCII -/

/-- The lower-case form of a capital of ASCII; any other code point stands for itself. -/
def asciiLower (c : CodePoint) : CodePoint :=
  if 65 ≤ c.val ∧ c.val ≤ 90 then .ofNat (c.val + 32) else c

/-- Bytes from 128 on are no capitals. -/
theorem lowerByte_high {byte : UInt8} (high : 0x80 ≤ byte.toNat) : Bytes.lowerByte byte = byte := by
  unfold Bytes.lowerByte
  rw [if_neg]
  rw [UInt8.le_iff_toNat_le, UInt8.le_iff_toNat_le]
  simp only [UInt8.reduceToNat]
  omega

/-- Code points beyond ASCII have no byte below 128. -/
theorem utf8Bytes_high {c : CodePoint} (high : 0x80 ≤ c.val) :
    ∀ byte ∈ utf8Bytes c, 0x80 ≤ byte.toNat := by
  have bound := c.isLt
  have continued (bits : Nat) : 0x80 ≤ (continuation bits).toNat := by
    rw [toNat_continuation]
    omega
  have leads {n : Nat} (byte : n < 256) (first : 0xC0 ≤ n) : 0x80 ≤ (UInt8.ofNat n).toNat := by
    rw [toNat_ofNat byte]
    omega
  unfold utf8Bytes
  rw [if_neg (by omega)]
  split
  · simpa only [List.forall_mem_cons] using
      ⟨leads (by omega) (by omega), continued _, nofun⟩
  split
  · simpa only [List.forall_mem_cons] using
      ⟨leads (by omega) (by omega), continued _, continued _, nofun⟩
  · simpa only [List.forall_mem_cons] using
      ⟨leads (by omega) (by omega), continued _, continued _, continued _, nofun⟩

/-- A code point of ASCII. -/
def asciiPoint (n : Fin 128) : CodePoint := ⟨n, Nat.lt_trans n.isLt (by decide)⟩

set_option maxRecDepth 2000 in
/-- Lower-casing the byte of a code point of ASCII lower-cases the code point. -/
theorem lower_asciiPoint :
    ∀ n, (utf8Bytes (asciiPoint n)).lower = utf8Bytes (asciiLower (asciiPoint n)) := by
  decide

/-- Lower-casing the bytes of a code point lower-cases it as far as ASCII goes. -/
theorem lower_utf8Bytes (c : CodePoint) : (utf8Bytes c).lower = utf8Bytes (asciiLower c) := by
  by_cases ascii : c.val < 0x80
  · exact lower_asciiPoint ⟨c.val, ascii⟩
  · have same : asciiLower c = c := if_neg (by omega)
    rw [same]
    exact (List.map_congr_left fun byte listed =>
      lowerByte_high (utf8Bytes_high (by omega) byte listed)).trans (List.map_id _)

/-- Lower-casing the bytes of a text lower-cases it as far as ASCII goes. -/
theorem lower_flatMap (text : Text) :
    Bytes.lower (text.flatMap utf8Bytes) = (text.map asciiLower).flatMap utf8Bytes := by
  induction text with
  | nil => rfl
  | cons c rest ih =>
    rw [List.flatMap_cons, Bytes.lower_append, lower_utf8Bytes, ih, List.map_cons,
      List.flatMap_cons]

end WideColumn.Charset
