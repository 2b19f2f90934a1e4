import Mathlib.Algebra.Order.Round
import Mathlib.Data.Rat.Floor

/-! # The arithmetic of the program

The source computes on `f32`.  The model is generic in the scalar type: `Scalar F` lists
the operations the source uses, under its names, and two facts are assumed of them:
`0.0 == 0.0`, and a value capped at `n - 1` is cast to an index below `n` (for the `n` that
single precision counts exactly).  So a theorem about every `Scalar F` holds of IEEE single
precision (where `==` is not reflexive and addition is not associative) as well as of exact
arithmetic.
-/

namespace Scd.Core

class Scalar (F : Type) extends Add F, Sub F, Mul F, Div F, Neg F, BEq F, LT F, LE F,
    OfScientific F where
  decidableLT : DecidableLT F
  decidableLE : DecidableLE F
  /-- `as f32` and `f32::from` of an integer. -/
  ofInt : Int → F
  pi : F
  abs : F → F
  floor : F → F
  round : F → F
  /-- The `%` operator. -/
  rem : F → F → F
  /-- The truncating, saturating casts `as i32`, `as u16` and `as usize`. -/
  toInt : F → Int
  isFinite : F → Bool
  hypot : F → F → F
  powf : F → F → F
  exp : F → F
  atan2 : F → F → F
  min : F → F → F
  zero_beq_zero : ((0.0 : F) == 0.0) = true
  toInt_min_lt : ∀ (value : F) (count : Nat), 0 < count → count ≤ 2 ^ 24 →
    (toInt (min value (ofInt count - 1.0))).toNat < count

section

variable {F : Type} [Scalar F]

instance decidableLT : DecidableLT F := Scalar.decidableLT
instance decidableLE : DecidableLE F := Scalar.decidableLE

/-- `f32::clamp`, whose two comparisons are both false on a NaN. -/
def clamp (value low high : F) : F :=
  let value := if value < low then low else value
  if value > high then high else value

/-- Laws of the comparisons and of the scaling to a byte, of single precision too: there a
    comparison with a NaN is false, and a NaN is cast to zero. -/
class LawfulScalar (F : Type) [Scalar F] : Prop where
  lt_irrefl : ∀ value : F, ¬ value < value
  lt_asymm : ∀ left right : F, left < right → ¬ right < left
  le_of_not_lt : ∀ left right : F, Scalar.isFinite left = true → Scalar.isFinite right = true →
    ¬ left < right → right ≤ left
  lt_of_not_le : ∀ left right : F, Scalar.isFinite left = true → Scalar.isFinite right = true →
    ¬ left ≤ right → right < left
  isFinite_zero : Scalar.isFinite (0.0 : F) = true
  isFinite_one : Scalar.isFinite (1.0 : F) = true
  zero_lt_one : (0.0 : F) < 1.0
  scaled_byte : ∀ value : F, ¬ value < 0.0 → ¬ value > 1.0 →
    0 ≤ Scalar.toInt (Scalar.round (value * 255.0)) ∧
      Scalar.toInt (Scalar.round (value * 255.0)) ≤ 255

/-- A clamped value is not outside of the bounds. -/
theorem clamp_within [LawfulScalar F] {low high : F} (ordered : low < high) (value : F) :
    ¬ clamp value low high < low ∧ ¬ clamp value low high > high := by
  have reverse : ¬ high < low := LawfulScalar.lt_asymm low high ordered
  simp only [clamp]
  by_cases below : value < low
  · rw [if_pos below, if_neg reverse]
    exact ⟨LawfulScalar.lt_irrefl low, reverse⟩
  rw [if_neg below]
  by_cases above : value > high
  · rw [if_pos above]
    exact ⟨reverse, LawfulScalar.lt_irrefl high⟩
  · rw [if_neg above]
    exact ⟨below, above⟩

end

theorem tdiv_den_le {value : ℚ} {bound : ℤ} (le : value ≤ bound) :
    value.num.tdiv value.den ≤ bound := by
  have den_pos : (0 : ℤ) < value.den := by exact_mod_cast value.den_pos
  have num_le : value.num ≤ bound * value.den := by
    have scaled := mul_le_mul_of_nonneg_right le (by exact_mod_cast den_pos.le : (0 : ℚ) ≤ value.den)
    rw [Rat.mul_den_eq_num] at scaled
    exact_mod_cast scaled
  have mono := Int.tdiv_le_tdiv den_pos num_le
  rwa [Int.mul_tdiv_cancel _ den_pos.ne'] at mono

/-- Rational arithmetic.  The operations with irrational values agree with the real ones
    where those are rational and simple: `hypot` along an axis, `powf` to the first power,
    `exp` and `atan2` at zero. -/
instance : Scalar ℚ where
  decidableLT := inferInstance
  decidableLE := inferInstance
  ofInt := fun value => value
  pi := 3.14159274
  abs := fun value => |value|
  floor := fun value => ⌊value⌋
  round := fun value => (round value : ℤ)
  rem := fun left right => left - right * (left / right).num.tdiv (left / right).den
  toInt := fun value => value.num.tdiv value.den
  isFinite := fun _ => true
  hypot := fun x y => if y = 0 then |x| else if x = 0 then |y| else |x| + |y|
  powf := fun value _ => value
  exp := fun value => 1 + value
  atan2 := fun y _ => y
  min := fun left right => min left right
  zero_beq_zero := by norm_num
  toInt_min_lt := by
    intro value count positive _
    have le : min value ((count : ℤ) - 1.0) ≤ ((count - 1 : ℤ) : ℚ) := by
      refine (min_le_right _ _).trans (le_of_eq ?_)
      push_cast
      norm_num
    have := tdiv_den_le le
    omega

instance : LawfulScalar ℚ where
  lt_irrefl := lt_irrefl
  lt_asymm := fun _ _ less => lt_asymm less
  le_of_not_lt := fun _ _ _ _ other => not_lt.mp other
  lt_of_not_le := fun _ _ _ _ other => not_le.mp other
  isFinite_zero := rfl
  isFinite_one := rfl
  zero_lt_one := by norm_num
  scaled_byte := by
    intro value nonnegative small
    have cast : Scalar.toInt (Scalar.round (value * 255.0) : ℚ) = round (value * 255.0) := by
      change ((round (value * 255.0) : ℤ) : ℚ).num.tdiv ((round (value * 255.0) : ℤ) : ℚ).den = _
      simp
    have low : (0 : ℚ) ≤ value := by
      have := not_lt.mp nonnegative
      norm_num at this
      exact this
    have high : value ≤ 1 := by
      have := not_lt.mp small
      norm_num at this
      exact this
    rw [cast, round_eq]
    constructor
    · apply Int.floor_nonneg.mpr
      norm_num
      linarith
    · apply Int.lt_add_one_iff.mp
      apply Int.floor_lt.mpr
      push_cast
      norm_num
      linarith

end Scd.Core
