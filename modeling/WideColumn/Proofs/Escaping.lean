import Mathlib.Data.List.Forall2
import WideColumn.Log.Render

/-!
# Control characters in rendered fields

Before an event is printed, its byte strings become text byte by byte: a byte of ASCII is shown as
the character that it is, a control character too, and every other byte as an escape of printable
ASCII. So a text made from bytes has a control character exactly if the bytes have one.
-/
namespace WideColumn

/-! ## Printable ASCII -/

/-- Whether a code point is a printable one of ASCII. -/
def CodePoint.IsPlain (c : CodePoint) : Prop := 0x20 ≤ c.val ∧ c.val < 0x7F

instance : DecidablePred CodePoint.IsPlain := fun _ => inferInstanceAs (Decidable (_ ∧ _))

namespace Text

/-- Whether a text is printable ASCII. -/
def IsPlain (text : Text) : Prop := ∀ c ∈ text, c.IsPlain

instance : DecidablePred IsPlain := fun text => inferInstanceAs (Decidable (∀ c ∈ text, c.IsPlain))

/-- By induction on the width: hexadecimal digits are printable. -/
theorem plain_hex (width n : Nat) : (hex width n).IsPlain := by
  have digit : ∀ d < 16, IsPlain (ofString (String.singleton (Nat.digitChar d))) := by decide
  induction width generalizing n with
  | zero => exact List.forall_mem_nil _
  | succ width ih =>
    exact List.forall_mem_append.2 ⟨ih (n / 16), digit _ (Nat.mod_lt n (by decide))⟩

end Text

/-! ## Control characters -/

/-- Whether a code point is a control character. -/
def CodePoint.IsControl (c : CodePoint) : Prop := c.val < 0x20 ∨ (0x7F ≤ c.val ∧ c.val < 0xA0)

instance : DecidablePred CodePoint.IsControl := fun _ => inferInstanceAs (Decidable (_ ∨ _))

/-- What is printable in ASCII is no control character. -/
theorem CodePoint.IsPlain.not_control {c : CodePoint} (plain : c.IsPlain) : ¬c.IsControl := by
  unfold IsPlain at plain
  unfold IsControl
  omega

namespace Text

/-- Whether a text has a control character. -/
def HasControl (text : Text) : Prop := ∃ c ∈ text, c.IsControl

instance : DecidablePred HasControl := fun text =>
  inferInstanceAs (Decidable (∃ c ∈ text, c.IsControl))

@[simp] theorem hasControl_singleton {c : CodePoint} : HasControl [c] ↔ c.IsControl := by
  simp [HasControl]

@[simp] theorem hasControl_flatMap {α : Type} {items : List α} {form : α → Text} :
    HasControl (items.flatMap form) ↔ ∃ item ∈ items, (form item).HasControl := by
  simp only [HasControl, List.mem_flatMap]
  constructor
  · rintro ⟨c, ⟨item, listed, here⟩, control⟩
    exact ⟨item, listed, c, here, control⟩
  · rintro ⟨item, listed, c, here, control⟩
    exact ⟨c, ⟨item, listed, here⟩, control⟩

/-- Printable ASCII has no control character. -/
theorem IsPlain.not_hasControl {text : Text} (plain : text.IsPlain) : ¬text.HasControl :=
  fun ⟨c, listed, control⟩ => (plain c listed).not_control control

end Text

/-! ## Fields -/

namespace Log

/-- Whether a byte is a control character of ASCII. -/
def IsControlByte (byte : UInt8) : Prop := byte < 0x20 ∨ byte = 0x7F

instance : DecidablePred IsControlByte := fun _ => inferInstanceAs (Decidable (_ ∨ _))

/-- How a byte is shown: a byte of ASCII as its character, whether that can be printed or not, and
any other as an escape of printable ASCII, with its two hexadecimal digits. -/
inductive Shows (byte : UInt8) : Text → Prop
  /-- A byte of ASCII. -/
  | ascii (below : byte < 0x80) : Shows byte [CodePoint.ofByte byte]
  /-- A byte beyond ASCII. -/
  | escape (beyond : 0x80 ≤ byte) (plain : Text.IsPlain ("\\x" ++ Text.hex 2 byte.toNat)) :
      Shows byte ("\\x" ++ Text.hex 2 byte.toNat)

/-- What a field's value becomes: a byte string that is no view is shown byte by byte, and all else
is kept. -/
inductive ShowsField : Value → Value → Prop
  /-- A byte string. -/
  | bytes {form : ByteForm} {data : Bytes} (owned : form ≠ .view)
      (shown : ∃ texts, List.Forall₂ Shows data texts ∧ escapedBytes data = texts.flatten) :
      ShowsField (.bytes form data) (.text (escapedBytes data))
  /-- Any other value, or a view. -/
  | other {value : Value} (kept : ∀ form data, value = .bytes form data → form = .view) :
      ShowsField value value

/-- The escape of a byte. -/
theorem plain_byteEscape (byte : UInt8) : Text.IsPlain ("\\x" ++ Text.hex 2 byte.toNat) :=
  List.forall_mem_append.2 ⟨by decide, Text.plain_hex _ _⟩

/-- The form of one byte. -/
theorem shows_byte (byte : UInt8) :
    Shows byte (if byte < 0x80 then [CodePoint.ofByte byte]
      else "\\x" ++ Text.hex 2 byte.toNat) := by
  split
  · next below => exact .ascii below
  · next beyond =>
    exact .escape (UInt8.not_lt.1 beyond) (plain_byteEscape byte)

/-- A byte string is shown byte by byte. -/
theorem shows_escapedBytes (data : Bytes) :
    ∃ texts, List.Forall₂ Shows data texts ∧ escapedBytes data = texts.flatten :=
  ⟨data.map _, List.forall₂_map_right_iff.2 (List.forall₂_same.2 fun byte _ => shows_byte byte),
    List.flatMap_def⟩

/-- The value of one field. -/
theorem shows_renderedField (value : Value) : ShowsField value (renderedField value) := by
  cases value with
  | bytes form data =>
    cases form with
    | fixed => exact .bytes (by decide) (shows_escapedBytes data)
    | buffer => exact .bytes (by decide) (shows_escapedBytes data)
    | view => exact .other fun _ _ same => (Value.bytes.inj same).1.symm
  | none | bool | number | text | list | tuple | mapping => exact .other nofun

/-- No byte string but a view is left. -/
theorem ShowsField.view {value shown : Value} (h : ShowsField value shown) {form : ByteForm}
    {data : Bytes} (isBytes : shown = .bytes form data) : form = .view := by
  cases h with
  | bytes owned texts => nomatch isBytes
  | other kept => exact kept form data isBytes

/-! ## Bytes -/

/-- A byte of ASCII is a control character exactly if its character is. -/
theorem isControl_ofByte {byte : UInt8} (below : byte < 0x80) :
    (CodePoint.ofByte byte).IsControl ↔ IsControlByte byte := by
  simp only [UInt8.lt_iff_toNat_lt] at below
  simp only [CodePoint.IsControl, CodePoint.ofByte, IsControlByte, UInt8.lt_iff_toNat_lt,
    ← UInt8.toNat_inj]
  change byte.toNat < 128 at below
  change _ ↔ byte.toNat < 32 ∨ byte.toNat = 127
  omega

/-- A byte of ASCII is a control character unless it is printable. -/
theorem isPlain_ofByte {byte : UInt8} (below : byte < 0x80) :
    (CodePoint.ofByte byte).IsPlain ↔ ¬IsControlByte byte := by
  simp only [UInt8.lt_iff_toNat_lt] at below
  simp only [CodePoint.IsPlain, CodePoint.ofByte, IsControlByte, UInt8.lt_iff_toNat_lt,
    ← UInt8.toNat_inj]
  change byte.toNat < 128 at below
  change _ ↔ ¬(byte.toNat < 32 ∨ byte.toNat = 127)
  omega

/-- Every control character of ASCII is below the bytes that are escaped. -/
theorem IsControlByte.below {byte : UInt8} (control : IsControlByte byte) : byte < 0x80 := by
  rcases control with low | rfl
  · exact UInt8.lt_trans low (by decide)
  · decide

/-- A byte string has a control character in print exactly if it has one itself: none is escaped. -/
theorem hasControl_escapedBytes {data : Bytes} :
    (escapedBytes data).HasControl ↔ ∃ byte ∈ data, IsControlByte byte := by
  have one (byte : UInt8) : Text.HasControl (if byte < 0x80 then [CodePoint.ofByte byte]
      else "\\x" ++ Text.hex 2 byte.toNat) ↔ IsControlByte byte := by
    split
    · next below => simp [isControl_ofByte below]
    · next beyond =>
      exact iff_of_false (plain_byteEscape byte).not_hasControl fun control => beyond control.below
  simp only [escapedBytes, Text.hasControl_flatMap, one]

/-- A byte string is printable ASCII in print exactly if it has no control character itself. -/
theorem plain_escapedBytes {data : Bytes} :
    (escapedBytes data).IsPlain ↔ ∀ byte ∈ data, ¬IsControlByte byte := by
  have one (byte : UInt8) : Text.IsPlain (if byte < 0x80 then [CodePoint.ofByte byte]
      else "\\x" ++ Text.hex 2 byte.toNat) ↔ ¬IsControlByte byte := by
    split
    · next below => exact List.forall_mem_singleton.trans (isPlain_ofByte below)
    · next beyond => exact iff_of_true (plain_byteEscape byte) fun control => beyond control.below
  exact List.forall_mem_flatMap.trans (forall₂_congr fun byte _ => one byte)

/-- Byte strings on their way to a line, whatever the fields of an event. In order, each field keeps
its name; a byte string that is no view becomes text byte by byte, ASCII as it is and the rest in
escapes of printable ASCII, every other value stays, and no byte string but views is left. The text
has a control character exactly if the byte string has one, and is printable ASCII otherwise. -/
theorem controls_pass_rendering (fields : List (Text × Value)) :
    List.Forall₂ (fun field shown => shown.1 = field.1 ∧ ShowsField field.2 shown.2)
        fields (renderBytes fields) ∧
      (∀ field ∈ renderBytes fields, ∀ form data,
        field.2 = .bytes form data → form = .view) ∧
      (∀ data, (escapedBytes data).HasControl ↔ ∃ byte ∈ data, IsControlByte byte) ∧
      ∀ data, (escapedBytes data).IsPlain ↔ ∀ byte ∈ data, ¬IsControlByte byte := by
  have shown : List.Forall₂ (fun field shown => shown.1 = field.1 ∧ ShowsField field.2 shown.2)
      fields (renderBytes fields) :=
    List.forall₂_map_right_iff.2
      (List.forall₂_same.2 fun field _ => ⟨rfl, shows_renderedField field.2⟩)
  have views : ∀ field ∈ renderBytes fields, ∀ form data,
      field.2 = .bytes form data → form = .view := by
    intro shown listed form data isBytes
    obtain ⟨field, -, rfl⟩ := List.mem_map.1 listed
    exact (shows_renderedField field.2).view isBytes
  exact ⟨shown, views, fun _ => hasControl_escapedBytes, fun _ => plain_escapedBytes⟩

/-- The fields of a warning about a row: the escape character that starts the row key, which is no
printable one, becomes text as itself. -/
theorem controls_pass_rendering_ofKey :
    renderBytes [("key", .bytes .fixed [0x1B, 0x5B, 0x33, 0x31, 0x6D]),
        ("table", .bytes .fixed [0x74])] =
      ([("key", .text (CodePoint.ofByte 0x1B :: Text.ofString "[31m")), ("table", .text "t")] :
        List (Text × Value)) ∧
      ¬(CodePoint.ofByte 0x1B).IsPlain ∧ (CodePoint.ofByte 0x1B).IsControl :=
  ⟨rfl, by decide, by decide⟩

end Log
end WideColumn
