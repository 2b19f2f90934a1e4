import Mathlib.Algebra.GroupWithZero.Nat
import Mathlib.Data.List.Basic

/-! # Slices of a text by bytes

A text is a list of characters, of which each takes one to four bytes in UTF-8.  A slice from
one byte offset to another exists where both are boundaries of characters.
-/

namespace Scd.Foundation

/-- The length of a text in bytes. -/
def byteLength (text : List Char) : ℕ := (text.map Char.utf8Size).sum

/-- The text from a byte offset on. -/
def dropBytes : ℕ → List Char → Option (List Char)
  | 0, text => some text
  | _ + 1, [] => none
  | offset + 1, character :: text =>
    if character.utf8Size ≤ offset + 1 then dropBytes (offset + 1 - character.utf8Size) text else none

/-- The text up to a byte offset. -/
def takeBytes : ℕ → List Char → Option (List Char)
  | 0, _ => some []
  | _ + 1, [] => none
  | offset + 1, character :: text =>
    if character.utf8Size ≤ offset + 1 then
      (takeBytes (offset + 1 - character.utf8Size) text).map (character :: ·)
    else none

/-- `&text[start..stop]`, which exists between boundaries of characters. -/
def slice (text : List Char) (start stop : ℕ) : Option (List Char) :=
  (dropBytes start text).bind (takeBytes (stop - start))

theorem utf8Size_cases (character : Char) :
    character.utf8Size = 1 ∨ character.utf8Size = 2 ∨ 3 ≤ character.utf8Size := by
  have positive := character.utf8Size_pos
  omega

@[simp] theorem byteLength_nil : byteLength [] = 0 := rfl

@[simp] theorem byteLength_cons (character : Char) (text : List Char) :
    byteLength (character :: text) = character.utf8Size + byteLength text := rfl

theorem byteLength_eq_zero {text : List Char} (empty : byteLength text = 0) : text = [] := by
  cases text with
  | nil => rfl
  | cons character text =>
    have positive := character.utf8Size_pos
    rw [byteLength_cons] at empty
    omega

/-- A text of characters of one byte has as many bytes as characters. -/
theorem byteLength_ascii {text : List Char} (ascii : ∀ character ∈ text, character.utf8Size = 1) :
    byteLength text = text.length := by
  induction text with
  | nil => rfl
  | cons character text inductionHypothesis =>
    obtain ⟨first, rest⟩ := List.forall_mem_cons.mp ascii
    rw [byteLength_cons, first, inductionHypothesis rest, List.length_cons, Nat.add_comm]

/-- Characters of one byte are dropped one by one. -/
theorem dropBytes_ascii {early : List Char} (ascii : ∀ character ∈ early, character.utf8Size = 1)
    (late : List Char) : dropBytes early.length (early ++ late) = some late := by
  induction early with
  | nil => cases late <;> rfl
  | cons character early inductionHypothesis =>
    obtain ⟨first, rest⟩ := List.forall_mem_cons.mp ascii
    rw [List.length_cons, List.cons_append, dropBytes, if_pos (by omega), first, Nat.add_sub_cancel]
    exact inductionHypothesis rest

theorem slice_ascii {early : List Char} (ascii : ∀ character ∈ early, character.utf8Size = 1)
    (late : List Char) (length : ℕ) :
    slice (early ++ late) early.length (early.length + length) = takeBytes length late := by
  rw [slice, dropBytes_ascii ascii, Option.bind_some, Nat.add_sub_cancel_left]

/-! ## Two bytes -/

theorem takeBytes_two_wide {character : Char} (wide : character.utf8Size = 2) (text : List Char) :
    takeBytes 2 (character :: text) = some [character] := by
  rw [takeBytes, if_pos (by omega), wide]
  cases text <;> rfl

theorem takeBytes_two_narrow {first second : Char} (narrow : first.utf8Size = 1)
    (narrow' : second.utf8Size = 1) (text : List Char) :
    takeBytes 2 (first :: second :: text) = some [first, second] := by
  rw [takeBytes, if_pos (by omega), narrow, takeBytes, if_pos (by omega), narrow']
  cases text <;> rfl

/-- A character of three or four bytes is cut. -/
theorem takeBytes_two_large {character : Char} (large : 3 ≤ character.utf8Size) (text : List Char) :
    takeBytes 2 (character :: text) = none := by
  rw [takeBytes, if_neg (by omega)]

/-- A character of several bytes behind one of one byte is cut. -/
theorem takeBytes_two_cut {first second : Char} (narrow : first.utf8Size = 1)
    (several : second.utf8Size ≠ 1) (text : List Char) :
    takeBytes 2 (first :: second :: text) = none := by
  have positive := second.utf8Size_pos
  rw [takeBytes, if_pos (by omega), narrow, takeBytes, if_neg (by omega), Option.map_none]

end Scd.Foundation
