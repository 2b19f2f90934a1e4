import Mathlib.Data.Nat.ModEq

/-! # Clocks that roll over

A clock counts ticks and starts again from zero after a number of them.  A reading is the time
of the last tick, modulo the period.  The time between two readings less than a period apart is
known again, and a fraction of a reading runs on across the rollover where the fraction of the
period is a multiple of the modulus.
-/

namespace Scd.Foundation

structure RolloverClock where
  tick : ℕ
  count : ℕ
  tick_pos : 0 < tick
  count_pos : 0 < count

namespace RolloverClock

variable (clock : RolloverClock)

def period : ℕ := clock.tick * clock.count

/-- What the clock shows, in units of time. -/
def reading (time : ℕ) : ℕ := time / clock.tick % clock.count * clock.tick

/-- The time from one reading to another, at most one rollover between them. -/
def elapsed (current previous : ℕ) : ℕ :=
  (current / clock.tick + (clock.count - previous / clock.tick % clock.count)) % clock.count *
    clock.tick

/-- The time of the last tick. -/
def quantized (time : ℕ) : ℕ := time / clock.tick * clock.tick

theorem reading_modEq (time : ℕ) : clock.reading time ≡ clock.quantized time [MOD clock.period] := by
  unfold reading quantized period
  rw [Nat.mul_comm clock.tick]
  exact (Nat.mod_modEq _ _).mul_right' _

theorem quantized_add (time : ℕ) {duration : ℕ} (whole : clock.tick ∣ duration) :
    clock.quantized (time + duration) = clock.quantized time + duration := by
  unfold quantized
  rw [Nat.add_div_of_dvd_left whole, Nat.add_mul, Nat.div_mul_cancel whole]

/-- Ticks that differ by less than the count are told apart. -/
theorem ticks_between {count earlier ticks : ℕ} (positive : 0 < count) (near : ticks < count) :
    ((earlier + ticks) % count + (count - earlier % count)) % count = ticks := by
  have small : earlier % count < count := Nat.mod_lt _ positive
  rw [Nat.mod_add_mod]
  have split : earlier + ticks + (count - earlier % count) = ticks + count * (earlier / count + 1) := by
    have parts := Nat.mod_add_div earlier count
    rw [Nat.mul_succ]
    omega
  rw [split, Nat.add_mul_mod_self_left, Nat.mod_eq_of_lt near]

theorem elapsed_reading (time : ℕ) {duration : ℕ} (whole : clock.tick ∣ duration)
    (near : duration < clock.period) :
    clock.elapsed (clock.reading (time + duration)) (clock.reading time) = duration := by
  obtain ⟨ticks, rfl⟩ := whole
  have near : ticks < clock.count := Nat.lt_of_mul_lt_mul_left near
  unfold elapsed reading
  rw [Nat.mul_div_cancel _ clock.tick_pos, Nat.mul_div_cancel _ clock.tick_pos,
    Nat.add_mul_div_left _ _ clock.tick_pos, Nat.mod_mod,
    ticks_between clock.count_pos near, Nat.mul_comm]

/-! ## Fractions of a reading -/

/-- Equal modulo the period, equal fractions modulo the modulus. -/
theorem fraction_modEq {numerator denominator period modulus left right : ℕ}
    (fits : modulus * denominator ∣ numerator * period) (same : left ≡ right [MOD period]) :
    left * numerator / denominator ≡ right * numerator / denominator [MOD modulus] := by
  have scaled : left * numerator ≡ right * numerator [MOD modulus * denominator] := by
    have product := same.mul_right' numerator
    rw [Nat.mul_comm period] at product
    exact product.of_dvd fits
  unfold Nat.ModEq at scaled ⊢
  rw [Nat.mul_comm modulus] at scaled
  rw [← Nat.mod_mul_right_div_self, ← Nat.mod_mul_right_div_self, scaled]

/-- The fraction of a sum is the sum of the fractions, or one more. -/
theorem fraction_add (numerator denominator time duration : ℕ) (positive : 0 < denominator) :
    ∃ carry ≤ 1, (time + duration) * numerator / denominator =
      time * numerator / denominator + (duration * numerator / denominator + carry) := by
  rw [Nat.add_mul, Nat.add_div positive]
  refine ⟨_, ?_, Nat.add_assoc _ _ _⟩
  split <;> omega

/-- The fractions of two readings differ by the fraction of the time between them, or by one
    more. -/
theorem fraction_reading {numerator denominator modulus : ℕ} (time : ℕ) {duration : ℕ}
    (positive : 0 < denominator) (fits : modulus * denominator ∣ numerator * clock.period)
    (whole : clock.tick ∣ duration) :
    ∃ carry ≤ 1, clock.reading (time + duration) * numerator / denominator ≡
      clock.reading time * numerator / denominator +
        (duration * numerator / denominator + carry) [MOD modulus] := by
  obtain ⟨carry, small, sum⟩ :=
    fraction_add numerator denominator (clock.quantized time) duration positive
  have later := fraction_modEq fits (clock.reading_modEq (time + duration))
  have earlier := fraction_modEq fits (clock.reading_modEq time)
  rw [clock.quantized_add time whole, sum] at later
  exact ⟨carry, small, later.trans (earlier.symm.add_right _)⟩

end RolloverClock

end Scd.Foundation
