import Mathlib.Data.Vector.Basic

/-! # Logs in a ring

A ring of fixed capacity keeps the last entries of an unbounded log: entry `i` is written
at `i % capacity`.  `Holds ring log` says that the entries that were not overwritten are
where they belong.  The positions may be counted by a wrapping 64-bit word; `wrap_mod`
says that this makes no difference when the capacity divides `2 ^ 64`.
-/

namespace Scd.Foundation.RingLog

universe u

variable {α : Type u} {capacity : Nat}

/-- Every entry among the last `capacity` ones is in its place. -/
def Holds (ring : Vector α capacity) (log : List α) : Prop :=
  ∀ position (inLog : position < log.length) (inRing : position % capacity < capacity),
    log.length ≤ position + capacity → ring.get ⟨position % capacity, inRing⟩ = log[position]

theorem holds_nil (ring : Vector α capacity) : Holds ring [] := by
  intro position inLog
  cases inLog

/-- Positions that are less than one turn apart do not meet. -/
theorem eq_of_mod_eq {older newer : Nat} (le : older ≤ newer) (near : newer < older + capacity)
    (same : newer % capacity = older % capacity) : newer = older := by
  have zero : (newer - older) % capacity = 0 := Nat.sub_mod_eq_zero_of_mod_eq same
  rw [Nat.mod_eq_of_lt (by omega)] at zero
  omega

theorem Holds.push {ring : Vector α capacity} {log : List α} (holds : Holds ring log) (entry : α)
    (inRing : log.length % capacity < capacity) :
    Holds (ring.set (log.length % capacity) entry inRing) (log ++ [entry]) := by
  intro position inLog placed recent
  rw [List.length_append, List.length_singleton] at inLog recent
  show (ring.set _ entry inRing)[position % capacity] = _
  rw [Vector.getElem_set]
  split
  · next same =>
    have last := eq_of_mod_eq (by omega) (by omega) same
    simp [← last]
  · next differs =>
    have older : position < log.length := by
      have : position ≠ log.length := by
        rintro rfl
        exact differs rfl
      omega
    rw [List.getElem_append_left older]
    exact holds position older placed (by omega)

/-! ## Wrapping counters -/

theorem wrap_succ (count : Nat) : UInt64.ofNat count + 1 = UInt64.ofNat (count + 1) :=
  (UInt64.ofNat_add count 1).symm

/-- The distance of two wrapping counters is the true one when that is less than a turn. -/
theorem wrap_sub_toNat {older newer : Nat} (le : older ≤ newer) (near : newer - older < 2 ^ 64) :
    (UInt64.ofNat newer - UInt64.ofNat older).toNat = newer - older := by
  rw [← UInt64.ofNat_sub le, UInt64.toNat_ofNat']
  exact Nat.mod_eq_of_lt near

theorem wrap_mod (divides : capacity ∣ 2 ^ 64) (count : Nat) :
    (UInt64.ofNat count).toNat % capacity = count % capacity := by
  rw [UInt64.toNat_ofNat']
  exact Nat.mod_mod_of_dvd count divides

end Scd.Foundation.RingLog
