import Mathlib.Data.List.Basic

/-! # Valid UTF-8

A byte string is valid when it encodes a list of characters.  The encodings of characters
are a prefix code, so behind a valid string the rest decides alone.
-/

namespace Scd.Foundation

/-- The bytes are valid UTF-8. -/
def Utf8 (bytes : List UInt8) : Prop := ByteArray.IsValidUTF8 ⟨bytes.toArray⟩

instance (bytes : List UInt8) : Decidable (Utf8 bytes) :=
  inferInstanceAs (Decidable (ByteArray.IsValidUTF8 ⟨bytes.toArray⟩))

theorem utf8_nil : Utf8 [] := ByteArray.isValidUTF8_empty

theorem utf8_toUTF8 (text : String) : Utf8 text.toUTF8.data.toList := by
  simpa [Utf8] using text.isValidUTF8

theorem isValidUTF8_utf8Encode_append (chars : List Char) (rest : ByteArray) :
    (chars.utf8Encode ++ rest).IsValidUTF8 ↔ rest.IsValidUTF8 := by
  induction chars with
  | nil => rw [List.utf8Encode_nil, ByteArray.empty_append]
  | cons char chars inductionHypothesis =>
    rw [← List.singleton_append, List.utf8Encode_append, ByteArray.append_assoc,
      ByteArray.isValidUTF8_utf8Encode_singleton_append_iff, inductionHypothesis]

/-- Behind a valid string, the rest decides. -/
theorem utf8_append_iff {front : List UInt8} (valid : Utf8 front) (rest : List UInt8) :
    Utf8 (front ++ rest) ↔ Utf8 rest := by
  obtain ⟨chars, encoded⟩ := valid
  have joined : (⟨(front ++ rest).toArray⟩ : ByteArray) = chars.utf8Encode ++ ⟨rest.toArray⟩ := by
    rw [← encoded]
    apply ByteArray.ext
    simp
  unfold Utf8
  rw [joined, isValidUTF8_utf8Encode_append]

end Scd.Foundation
