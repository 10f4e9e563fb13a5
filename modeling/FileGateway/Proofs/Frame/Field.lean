import FileGateway.Bytes.BigEndian.Lemmas
import FileGateway.Frame.Field

/-! A field is read as a value exactly when it is the writing of that value. Numbers are refused
for their width alone, and texts for their first fault. -/
namespace FileGateway.Field
open BigEndian

/-! ## Numbers -/

theorem checkWidth_of_size {width : Nat} {field : ByteArray} (size : field.size = width) :
    checkWidth width field = .ok () := if_pos size

theorem checkWidth_of_ne {width : Nat} {field : ByteArray} (size : field.size ≠ width) :
    checkWidth width field = .error (.fieldWidth width field.size) := if_neg size

theorem toHandle_of_size {field : ByteArray} (size : field.size = 8) :
    toHandle field = .ok (toWord64 field) := by
  rw [toHandle, checkWidth_of_size size]
  rfl

theorem toHandle_of_ne {field : ByteArray} (size : field.size ≠ 8) :
    toHandle field = .error (.fieldWidth 8 field.size) := by
  rw [toHandle, checkWidth_of_ne size]
  rfl

theorem toHandle_eq_ok_iff {field : ByteArray} {handle : UInt64} :
    toHandle field = .ok handle ↔ field = ofHandle handle := by
  constructor
  · intro read
    by_cases size : field.size = 8
    · rw [toHandle_of_size size, Except.ok.injEq] at read
      rw [ofHandle, ← read, ofWord64_toWord64 size]
    · rw [toHandle_of_ne size] at read
      contradiction
  · rintro rfl
    rw [ofHandle, toHandle_of_size (size_ofWord64 handle), toWord64_ofWord64]

theorem toOffset_ofOffset (offset : Int64) : toOffset (ofOffset offset) = .ok offset := by
  rw [ofOffset, toOffset, checkWidth_of_size (size_ofWord64 _), toWord64_ofWord64]
  rfl

theorem toLength_ofLength (length : UInt32) : toLength (ofLength length) = .ok length := by
  rw [ofLength, toLength, checkWidth_of_size (size_ofWord32 _), toWord32_ofWord32]
  rfl

/-! ## Text -/

theorem toText_of_not_valid {field : ByteArray} (broken : ¬ field.IsValidUTF8) :
    toText field = .error (.invalidField (.notText (Utf8.faultFrom field 0))) := by
  rw [toText, Utf8.decode, dif_neg broken]
  rfl

theorem toText_eq_ok_iff {field : ByteArray} {text : String} :
    toText field = .ok text ↔ field = ofText text := by
  constructor
  · intro read
    by_cases valid : field.IsValidUTF8
    · rw [toText, Utf8.decode, dif_pos valid] at read
      cases read
      rfl
    · rw [toText_of_not_valid valid] at read
      contradiction
  · rintro rfl
    rw [toText, Utf8.decode, dif_pos (show (ofText text).IsValidUTF8 from text.isValidUTF8)]
    rfl

theorem exists_ofText_iff {field : ByteArray} :
    (∃ text, field = ofText text) ↔ field.IsValidUTF8 := by
  constructor
  · rintro ⟨text, rfl⟩
    exact text.isValidUTF8
  · intro valid
    exact ⟨String.ofByteArray field valid, rfl⟩

end FileGateway.Field
