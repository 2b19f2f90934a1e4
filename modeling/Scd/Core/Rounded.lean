import Scd.Core.Exact

/-! # Rounded arithmetic

What results about the program as it runs assume of single precision: a finite scalar
stands for a number, and the result of an operation stands for the exact one, rounded.
Rounding keeps the order, small integers and their halves stay as they are, and the others
move by at most half of the distance of two neighbours.  Exact arithmetic rounds nothing.
-/

namespace Scd.Core

/-- The contract of `PartialEq`: equal scalars are equal to the same ones.  (A NaN is not
    equal to itself.) -/
class ScalarEq (F : Type) [Scalar F] : Prop where
  beq_congr : ∀ left right other : F, (left == right) = true → (left == other) = (right == other)

/-- The contract of `PartialOrd`: the comparisons are transitive.  (A NaN compares with nothing.) -/
class ScalarOrder (F : Type) [Scalar F] : Prop where
  lt_of_lt_of_le : ∀ low mid high : F, low < mid → mid ≤ high → low < high

/-- An upper bound of the integers that single precision counts exactly. -/
def exactBound : ℕ := 2 ^ 24

/-- Half of the distance of two neighbours between one and two. -/
noncomputable def precision : ℝ := 1 / 2 ^ 24

/-- A bound within the range of single precision. -/
noncomputable def largest : ℝ := 2 ^ 100

class RoundedScalar (F : Type) [Scalar F] extends LawfulScalar F where
  /-- A finite scalar, and the number it stands for. -/
  Denotes : F → ℝ → Prop
  rounded : ℝ → ℝ
  rounded_mono : Monotone rounded
  rounded_dyadic : ∀ (count : ℤ) (exponent : ℕ), count.natAbs ≤ exactBound → exponent ≤ 64 →
    rounded (count / 2 ^ exponent) = count / 2 ^ exponent
  rounded_near : ∀ value : ℝ, |value| ≤ 2 → |rounded value - value| ≤ precision
  exists_denotes : ∀ scalar : F, Scalar.isFinite scalar = true → ∃ value, Denotes scalar value
  isFinite_of_denotes : ∀ {scalar : F} {value : ℝ}, Denotes scalar value →
    Scalar.isFinite scalar = true
  lt_iff : ∀ {left right : F} {first second : ℝ}, Denotes left first → Denotes right second →
    (left < right ↔ first < second)
  le_iff : ∀ {left right : F} {first second : ℝ}, Denotes left first → Denotes right second →
    (left ≤ right ↔ first ≤ second)
  denotes_neg : ∀ {scalar : F} {value : ℝ}, Denotes scalar value → Denotes (-scalar) (-value)
  denotes_add : ∀ {left right : F} {first second : ℝ}, Denotes left first →
    Denotes right second → |first + second| ≤ largest →
    Denotes (left + right) (rounded (first + second))
  denotes_sub : ∀ {left right : F} {first second : ℝ}, Denotes left first →
    Denotes right second → |first - second| ≤ largest →
    Denotes (left - right) (rounded (first - second))
  denotes_mul : ∀ {left right : F} {first second : ℝ}, Denotes left first →
    Denotes right second → |first * second| ≤ largest →
    Denotes (left * right) (rounded (first * second))
  denotes_div : ∀ {left right : F} {first second : ℝ}, Denotes left first →
    Denotes right second → second ≠ 0 → |first / second| ≤ largest →
    Denotes (left / right) (rounded (first / second))
  denotes_literal : ∀ mantissa exponent : ℕ, (mantissa / 10 ^ exponent : ℝ) ≤ largest →
    Denotes (OfScientific.ofScientific mantissa true exponent) (rounded (mantissa / 10 ^ exponent))
  denotes_ofInt : ∀ value : ℤ, value.natAbs ≤ exactBound → Denotes (Scalar.ofInt value) value
  /-- Halves above zero are rounded up. -/
  denotes_round : ∀ {scalar : F} {value : ℝ}, Denotes scalar value → 0 ≤ value →
    Denotes (Scalar.round scalar) (round value)
  toInt_eq : ∀ {scalar : F} {value : ℝ}, Denotes scalar value →
    Scalar.toInt scalar = truncate value

section

variable {F : Type} [Scalar F] [ExactScalar F]

open ExactScalar

instance (priority := low) : ScalarEq F where
  beq_congr := fun left right other equal => by rw [beq_iff.mp equal]

instance (priority := low) : ScalarOrder F where
  lt_of_lt_of_le := by
    intro low mid high below upTo
    rw [val_lt] at below ⊢
    rw [val_le] at upTo
    exact lt_of_lt_of_le below upTo

noncomputable instance (priority := low) : RoundedScalar F where
  Denotes := fun scalar value => val scalar = value
  rounded := id
  rounded_mono := monotone_id
  rounded_dyadic := fun _ _ _ _ => rfl
  rounded_near := fun value _ => by
    rw [id, sub_self, abs_zero, precision]
    positivity
  exists_denotes := fun scalar _ => ⟨val scalar, rfl⟩
  isFinite_of_denotes := fun _ => isFinite _
  lt_iff := fun first second => by rw [val_lt, first, second]
  le_iff := fun first second => by rw [val_le, first, second]
  denotes_neg := fun denotes => by rw [val_neg, denotes]
  denotes_add := fun first second _ => by rw [val_add, first, second, id]
  denotes_sub := fun first second _ => by rw [val_sub, first, second, id]
  denotes_mul := fun first second _ => by rw [val_mul, first, second, id]
  denotes_div := fun first second _ _ => by rw [val_div, first, second, id]
  denotes_literal := fun mantissa exponent _ => val_literal_true mantissa exponent
  denotes_ofInt := fun value _ => val_ofInt value
  denotes_round := fun denotes nonneg => by
    subst denotes
    exact val_round _ nonneg
  toInt_eq := fun denotes => by rw [ExactScalar.toInt_eq, denotes]

end

namespace RoundedScalar

variable {F : Type} [Scalar F] [RoundedScalar F]

/-! ## Rounding -/

theorem rounded_int (count : ℤ) (small : count.natAbs ≤ exactBound) :
    rounded F count = count := by
  have exact := rounded_dyadic (F := F) count 0 small (by decide)
  simpa using exact

@[simp] theorem rounded_zero : rounded F 0 = 0 := by
  simpa using rounded_int (F := F) 0 (by decide)

@[simp] theorem rounded_one : rounded F 1 = 1 := by
  simpa using rounded_int (F := F) 1 (by decide)

/-- What lies between two integers still does after rounding. -/
theorem rounded_between (low high : ℤ) (value : ℝ) (lower : low ≤ value) (upper : value ≤ high)
    (lowSmall : low.natAbs ≤ exactBound) (highSmall : high.natAbs ≤ exactBound) :
    low ≤ rounded F value ∧ rounded F value ≤ high := by
  have below := rounded_mono (F := F) lower
  have above := rounded_mono (F := F) upper
  rw [rounded_int low lowSmall] at below
  rw [rounded_int high highSmall] at above
  exact ⟨below, above⟩

/-! ## Literals and clamped values -/

theorem denotes_zero : Denotes (0.0 : F) 0 := by
  have denotes := denotes_literal (F := F) 0 1 (by simp [largest])
  simpa using denotes

theorem denotes_one : Denotes (1.0 : F) 1 := by
  have denotes := denotes_literal (F := F) 10 1 (by norm_num [largest])
  have exact : ((10 : ℕ) : ℝ) / 10 ^ 1 = 1 := by norm_num
  rwa [exact, rounded_one] at denotes

theorem denotes_half : Denotes (0.5 : F) (1 / 2) := by
  have denotes := denotes_literal (F := F) 5 1 (by norm_num [largest])
  have exact : ((5 : ℕ) : ℝ) / 10 ^ 1 = ((1 : ℤ) : ℝ) / 2 ^ 1 := by norm_num
  rw [exact, rounded_dyadic 1 1 (by decide) (by decide)] at denotes
  simpa using denotes

/-- A literal that is a small integer. -/
theorem denotes_integer (value : ℕ) (small : value ≤ exactBound) :
    Denotes (OfScientific.ofScientific (value * 10) true 1 : F) value := by
  have bounded : (value : ℝ) ≤ largest := by
    have cast : (value : ℝ) ≤ 2 ^ 24 := by exact_mod_cast small
    exact cast.trans (by norm_num [largest])
  have exact : ((value * 10 : ℕ) : ℝ) / 10 ^ 1 = ((value : ℤ) : ℝ) := by
    push_cast
    ring
  have denotes := denotes_literal (F := F) (value * 10) 1 (by rw [exact]; simpa using bounded)
  rw [exact, rounded_int value (by simpa using small)] at denotes
  simpa using denotes

theorem denotes_clamp {value low high : F} {first second third : ℝ} (denotes : Denotes value first)
    (lower : Denotes low second) (upper : Denotes high third) :
    Denotes (clamp value low high) (min (max first second) third) := by
  have raised : Denotes (if value < low then low else value) (max first second) := by
    split
    · next below =>
      rw [max_eq_right ((lt_iff denotes lower).mp below).le]
      exact lower
    · next above =>
      rw [max_eq_left (not_lt.mp (mt (lt_iff denotes lower).mpr above))]
      exact denotes
  unfold clamp
  generalize (if value < low then low else value) = scalar at raised
  dsimp only
  split
  · next above =>
    rw [min_eq_right ((lt_iff upper raised).mp above).le]
    exact upper
  · next below =>
    rw [min_eq_left (not_lt.mp (mt (lt_iff upper raised).mpr below))]
    exact raised

end RoundedScalar

end Scd.Core
