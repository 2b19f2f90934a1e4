import Mathlib.Data.List.GetD

/-! # Words in byte strings

The four big-endian bytes of a 32-bit word, and the word that is read at an offset of a
byte string.  What was written at an offset is read there, whatever stands around it.
-/

namespace Scd.Foundation

/-- `u32::to_be_bytes`. -/
def beBytes (value : UInt32) : List UInt8 :=
  [(value >>> 24).toUInt8, (value >>> 16).toUInt8, (value >>> 8).toUInt8, value.toUInt8]

/-- `u32::from_be_bytes` of the four bytes at an offset; a missing byte reads as zero. -/
def beWord (bytes : List UInt8) (offset : Nat) : UInt32 :=
  let digit := fun index => (bytes.getD (offset + index) 0).toNat
  .ofNat (((digit 0 * 256 + digit 1) * 256 + digit 2) * 256 + digit 3)

@[simp] theorem length_beBytes (value : UInt32) : (beBytes value).length = 4 := rfl

theorem beWord_beBytes (value : UInt32) : beWord (beBytes value) 0 = value := by
  have small : value.toNat < 4294967296 := value.toNat_lt
  apply UInt32.toNat_inj.mp
  simp only [beWord, beBytes, Nat.zero_add, List.getD_cons_zero, List.getD_cons_succ,
    UInt32.toNat_ofNat', UInt32.toNat_toUInt8, UInt32.toNat_shiftRight,
    Nat.shiftRight_eq_div_pow, UInt32.reduceToNat, Nat.reduceMod, Nat.reducePow]
  omega

/-- A word is read from the four bytes at its offset. -/
theorem beWord_append_left {front : List UInt8} {offset : Nat} (within : offset + 4 ≤ front.length)
    (rest : List UInt8) : beWord (front ++ rest) offset = beWord front offset := by
  simp only [beWord]
  rw [List.getD_append _ _ _ _ (by omega), List.getD_append _ _ _ _ (by omega),
    List.getD_append _ _ _ _ (by omega), List.getD_append _ _ _ _ (by omega)]

theorem beWord_append_right (front rest : List UInt8) (offset : Nat) :
    beWord (front ++ rest) (front.length + offset) = beWord rest offset := by
  simp only [beWord, Nat.add_assoc]
  rw [List.getD_append_right _ _ _ _ (by omega), List.getD_append_right _ _ _ _ (by omega),
    List.getD_append_right _ _ _ _ (by omega), List.getD_append_right _ _ _ _ (by omega)]
  simp only [Nat.add_sub_cancel_left]

/-- Words written one after the other. -/
def beWords (values : List UInt32) : List UInt8 := values.flatMap beBytes

@[simp] theorem length_beWords (values : List UInt32) :
    (beWords values).length = 4 * values.length := by
  induction values with
  | nil => rfl
  | cons value values inductionHypothesis =>
    rw [beWords] at inductionHypothesis
    rw [beWords, List.flatMap_cons, List.length_append, length_beBytes, inductionHypothesis,
      List.length_cons]
    omega

/-- The word at an index of the words at the beginning of a string. -/
theorem beWord_beWords {values : List UInt32} (index : Nat) {value : UInt32}
    (found : values[index]? = some value) (rest : List UInt8) :
    beWord (beWords values ++ rest) (4 * index) = value := by
  induction values generalizing index with
  | nil => simp at found
  | cons first values inductionHypothesis =>
    rw [beWords, List.flatMap_cons, List.append_assoc]
    cases index with
    | zero =>
      rw [List.getElem?_cons_zero, Option.some.injEq] at found
      rw [Nat.mul_zero, beWord_append_left (by simp), beWord_beBytes, found]
    | succ index =>
      rw [List.getElem?_cons_succ] at found
      have shift : 4 * (index + 1) = (beBytes first).length + 4 * index := by
        rw [length_beBytes]
        omega
      rw [shift, beWord_append_right]
      exact inductionHypothesis index found

end Scd.Foundation
