import Mathlib.Data.Vector.Basic

/-! # Positions in small arrays

The program has arrays of a few entries: two transfers, two triggers, four directions, sixteen
effects of a gamepad.  Their positions are `Fin 2`, `Fin 4` and `Fin 16`.
-/

namespace Scd.Foundation

universe u

instance neZeroTwo : @NeZero Nat Zero.ofOfNat0 2 := ⟨Nat.succ_ne_zero 1⟩
instance neZeroFour : @NeZero Nat Zero.ofOfNat0 4 := ⟨Nat.succ_ne_zero 3⟩

theorem zero_or_one (position : Fin 2) : position = 0 ∨ position = 1 := by
  revert position
  decide

variable {α : Type u} {size : Nat}

/-- `entries[position] = entry`. -/
def put (entries : Vector α size) (position : Fin size) (entry : α) : Vector α size :=
  entries.set position entry

theorem get_eq_getElem (entries : Vector α size) (position : Fin size) :
    entries.get position = entries[position.val] := rfl

theorem get_put (entries : Vector α size) (position other : Fin size) (entry : α) :
    (put entries position entry).get other =
      if other = position then entry else entries.get other := by
  rw [put, get_eq_getElem, get_eq_getElem, Vector.getElem_set]
  simp only [Fin.ext_iff, eq_comm]

end Scd.Foundation
