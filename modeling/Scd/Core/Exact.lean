import Mathlib.Analysis.SpecialFunctions.Complex.Arg
import Mathlib.Analysis.SpecialFunctions.Pow.Real
import Mathlib.Tactic.Linarith
import Scd.Core.Scalar

/-! # Exact arithmetic

What a result over exact arithmetic assumes of the scalar type: every scalar stands for a
real number, and the operations of the source are those of the real numbers.  The real
numbers are such scalars, and so are the rational ones, on which a model can be run.
-/

namespace Scd.Core

instance atLeastTwoTwo : Nat.AtLeastTwo 2 := ⟨Nat.le_refl 2⟩

/-- Rounding towards zero. -/
noncomputable def truncate (value : ℝ) : ℤ := if 0 ≤ value then ⌊value⌋ else ⌈value⌉

class ExactScalar (F : Type) [Scalar F] where
  val : F → ℝ
  val_injective : Function.Injective val
  val_add : ∀ left right : F, val (left + right) = val left + val right
  val_sub : ∀ left right : F, val (left - right) = val left - val right
  val_mul : ∀ left right : F, val (left * right) = val left * val right
  val_div : ∀ left right : F, val (left / right) = val left / val right
  val_neg : ∀ value : F, val (-value) = -val value
  val_lt : ∀ left right : F, left < right ↔ val left < val right
  val_le : ∀ left right : F, left ≤ right ↔ val left ≤ val right
  val_beq : ∀ left right : F, (left == right) = true ↔ val left = val right
  val_literal : ∀ mantissa sign exponent,
    val (OfScientific.ofScientific mantissa sign exponent : F) =
      OfScientific.ofScientific mantissa sign exponent
  val_ofInt : ∀ value : ℤ, val (Scalar.ofInt value : F) = value
  val_abs : ∀ value : F, val (Scalar.abs value) = |val value|
  /-- Halves above zero are rounded up. -/
  val_round : ∀ value : F, 0 ≤ val value → val (Scalar.round value) = round (val value)
  round_mono : ∀ left right : F, val left ≤ val right →
    val (Scalar.round left) ≤ val (Scalar.round right)
  toInt_eq : ∀ value : F, Scalar.toInt value = truncate (val value)
  isFinite : ∀ value : F, Scalar.isFinite value = true
  hypot_nonneg : ∀ x y : F, 0 ≤ val (Scalar.hypot x y)
  hypot_eq_zero : ∀ x y : F, val (Scalar.hypot x y) = 0 ↔ val x = 0 ∧ val y = 0
  powf_one : ∀ value : F, Scalar.powf value 1.0 = value

section

theorem truncate_intCast (value : ℤ) : truncate value = value := by
  unfold truncate
  split <;> simp

/-- What truncation leaves over is less than one. -/
theorem abs_sub_truncate_lt (value : ℝ) : |value - truncate value| < 1 := by
  unfold truncate
  split
  · have below := Int.floor_le value
    have above := Int.lt_floor_add_one value
    rw [abs_lt]
    constructor <;> linarith
  · have below := Int.le_ceil value
    have above := Int.ceil_lt_add_one value
    rw [abs_lt]
    constructor <;> linarith

theorem truncate_mono {left right : ℝ} (le : left ≤ right) : truncate left ≤ truncate right := by
  unfold truncate
  split_ifs with nonneg nonneg' nonneg'
  · exact Int.floor_mono le
  · exact absurd (nonneg.trans le) nonneg'
  · have below : ⌈left⌉ ≤ 0 := Int.ceil_le.mpr (by push_cast; linarith)
    exact below.trans (Int.floor_nonneg.mpr nonneg')
  · exact Int.ceil_mono le

end

/-! ## Real and rational numbers -/

noncomputable instance : Scalar ℝ where
  decidableLT := Classical.decRel _
  decidableLE := Classical.decRel _
  ofInt := fun value => value
  pi := Real.pi
  abs := fun value => |value|
  floor := fun value => ⌊value⌋
  round := fun value => ((if 0 ≤ value then ⌊value + 1 / 2⌋ else ⌈value - 1 / 2⌉ : ℤ) : ℝ)
  rem := fun left right => left - right * truncate (left / right)
  toInt := truncate
  isFinite := fun _ => true
  hypot := fun x y => √(x ^ 2 + y ^ 2)
  powf := fun value exponent => value ^ exponent
  exp := Real.exp
  atan2 := fun y x => Complex.arg ⟨x, y⟩
  min := fun left right => min left right
  zero_beq_zero := by simp
  toInt_min_lt := by
    intro value count positive _
    have le : min value ((count : ℤ) - 1.0) ≤ ((count - 1 : ℤ) : ℝ) := by
      refine (min_le_right _ _).trans (le_of_eq ?_)
      push_cast
      norm_num
    have below := truncate_mono le
    rw [truncate_intCast] at below
    omega

noncomputable instance : ExactScalar ℝ where
  val := id
  val_injective := Function.injective_id
  val_add := fun _ _ => rfl
  val_sub := fun _ _ => rfl
  val_mul := fun _ _ => rfl
  val_div := fun _ _ => rfl
  val_neg := fun _ => rfl
  val_lt := fun _ _ => Iff.rfl
  val_le := fun _ _ => Iff.rfl
  val_beq := fun _ _ => by simp
  val_literal := fun _ _ _ => rfl
  val_ofInt := fun _ => rfl
  val_abs := fun _ => rfl
  val_round := by
    intro value nonneg
    have nonneg : 0 ≤ value := nonneg
    change ((if 0 ≤ value then ⌊value + 1 / 2⌋ else ⌈value - 1 / 2⌉ : ℤ) : ℝ) = round value
    rw [if_pos nonneg, round_eq]
  round_mono := by
    intro left right le
    have le : left ≤ right := le
    change ((if 0 ≤ left then ⌊left + 1 / 2⌋ else ⌈left - 1 / 2⌉ : ℤ) : ℝ) ≤
      (if 0 ≤ right then ⌊right + 1 / 2⌋ else ⌈right - 1 / 2⌉ : ℤ)
    apply Int.cast_le.mpr
    split_ifs with nonneg nonneg' nonneg'
    · exact Int.floor_mono (by linarith)
    · exact absurd (nonneg.trans le) nonneg'
    · have below : ⌈left - 1 / 2⌉ ≤ 0 := Int.ceil_le.mpr (by push_cast; linarith)
      exact below.trans (Int.floor_nonneg.mpr (by linarith))
    · exact Int.ceil_mono (by linarith)
  toInt_eq := fun _ => rfl
  isFinite := fun _ => rfl
  hypot_nonneg := fun _ _ => Real.sqrt_nonneg _
  hypot_eq_zero := by
    intro x y
    change √(x ^ 2 + y ^ 2) = 0 ↔ x = 0 ∧ y = 0
    rw [Real.sqrt_eq_zero (by positivity)]
    constructor
    · intro sum
      constructor <;> nlinarith [sq_nonneg x, sq_nonneg y]
    · rintro ⟨rfl, rfl⟩
      norm_num
  powf_one := by
    intro value
    change value ^ (1.0 : ℝ) = value
    norm_num

theorem truncate_ratCast (value : ℚ) : truncate value = value.num.tdiv value.den := by
  have den_pos : (0 : ℤ) < value.den := by exact_mod_cast value.den_pos
  unfold truncate
  by_cases nonneg : 0 ≤ value
  · rw [if_pos (by exact_mod_cast nonneg), Rat.floor_cast, Rat.floor_def',
      Int.tdiv_eq_ediv_of_nonneg (Rat.num_nonneg.mpr nonneg)]
  · have negative : 0 ≤ -value := by linarith
    -- below zero both round up, so that they agree on the value without its sign
    have swap : value.num.tdiv value.den = -((-value.num).tdiv value.den) := by
      rw [Int.neg_tdiv, neg_neg]
    have numerator : 0 ≤ -value.num := by
      have := Rat.num_nonneg.mpr negative
      rwa [Rat.num_neg_eq_neg_num] at this
    rw [if_neg (by exact_mod_cast nonneg), Rat.ceil_cast, Rat.ceil_def', swap,
      Int.tdiv_eq_ediv_of_nonneg numerator]

noncomputable instance : ExactScalar ℚ where
  val := fun value => value
  val_injective := Rat.cast_injective
  val_add := Rat.cast_add
  val_sub := Rat.cast_sub
  val_mul := Rat.cast_mul
  val_div := Rat.cast_div
  val_neg := Rat.cast_neg
  val_lt := fun _ _ => Rat.cast_lt.symm
  val_le := fun _ _ => Rat.cast_le.symm
  val_beq := fun _ _ => by simp
  val_literal := by
    intro mantissa sign exponent
    change ((OfScientific.ofScientific mantissa sign exponent : ℚ) : ℝ) = _
    norm_cast
  val_ofInt := Rat.cast_intCast
  val_abs := Rat.cast_abs
  val_round := by
    intro value _
    change (((round value : ℤ) : ℚ) : ℝ) = round (value : ℝ)
    rw [Rat.round_cast]
    norm_cast
  round_mono := by
    intro left right le
    change (((round left : ℤ) : ℚ) : ℝ) ≤ (((round right : ℤ) : ℚ) : ℝ)
    have le : left ≤ right := Rat.cast_le.mp le
    have rounded : round left ≤ round right := by
      rw [round_eq, round_eq]
      exact Int.floor_mono (by linarith)
    exact_mod_cast rounded
  toInt_eq := fun value => (truncate_ratCast value).symm
  isFinite := fun _ => rfl
  hypot_nonneg := by
    intro x y
    change (0 : ℝ) ≤ ((if y = 0 then |x| else if x = 0 then |y| else |x| + |y| : ℚ) : ℝ)
    split_ifs <;> positivity
  hypot_eq_zero := by
    intro x y
    change ((if y = 0 then |x| else if x = 0 then |y| else |x| + |y| : ℚ) : ℝ) = 0 ↔
      (x : ℝ) = 0 ∧ (y : ℝ) = 0
    norm_cast
    split_ifs with flat steep
    · simp [flat]
    · simp [flat, steep]
    · have positive : 0 < |x| + |y| := by positivity
      simp [positive.ne', flat]
  powf_one := fun _ => rfl

/-! ## Reading scalars -/

namespace ExactScalar

attribute [simp] val_add val_sub val_mul val_div val_neg val_ofInt val_abs toInt_eq isFinite

variable {F : Type} [Scalar F] [ExactScalar F]

@[simp] theorem val_zero : val (0.0 : F) = 0 := by
  rw [val_literal]
  norm_num

@[simp] theorem val_one : val (1.0 : F) = 1 := by
  rw [val_literal]
  norm_num

theorem val_literal_true (mantissa exponent : ℕ) :
    val (OfScientific.ofScientific mantissa true exponent : F) = mantissa / 10 ^ exponent := by
  rw [val_literal, NNRatCast.ofScientific_eq_ite, if_pos rfl]
  simp [NNRat.divNat_eq_div]

theorem beq_iff {left right : F} : (left == right) = true ↔ left = right :=
  (val_beq left right).trans val_injective.eq_iff

theorem val_clamp (value low high : F) :
    val (clamp value low high) = min (max (val value) (val low)) (val high) := by
  have lower : val (if value < low then low else value) = max (val value) (val low) := by
    split
    · next below => exact (max_eq_right ((val_lt _ _).mp below).le).symm
    · next above => exact (max_eq_left (not_lt.mp (mt (val_lt _ _).mpr above))).symm
  rw [← lower]
  unfold clamp
  generalize (if value < low then low else value) = raised
  dsimp only
  split
  · next above => exact (min_eq_right ((val_lt _ _).mp above).le).symm
  · next below => exact (min_eq_left (not_lt.mp (mt (val_lt _ _).mpr below))).symm

/-- A level between zero and one is scaled to a byte. -/
theorem scaled_byte {value : F} (low : 0 ≤ val value) (high : val value ≤ 1) :
    0 ≤ Scalar.toInt (Scalar.round (value * 255.0)) ∧
      Scalar.toInt (Scalar.round (value * 255.0)) ≤ 255 := by
  have scale : val (value * 255.0) = val value * 255 := by
    rw [val_mul, val_literal]
    norm_num
  have nonneg : 0 ≤ val (value * 255.0) := by
    rw [scale]
    positivity
  rw [toInt_eq, val_round _ nonneg, truncate_intCast, scale, round_eq]
  constructor
  · apply Int.floor_nonneg.mpr
    linarith
  · apply Int.lt_add_one_iff.mp
    apply Int.floor_lt.mpr
    push_cast
    linarith

instance (priority := low) : LawfulScalar F where
  lt_irrefl := fun value => by
    rw [val_lt]
    exact lt_irrefl _
  lt_asymm := fun left right less => by
    rw [val_lt] at less ⊢
    exact less.le.not_gt
  le_of_not_lt := fun left right _ _ other => by
    rw [val_lt] at other
    rw [val_le]
    exact not_lt.mp other
  lt_of_not_le := fun left right _ _ other => by
    rw [val_le] at other
    rw [val_lt]
    exact not_le.mp other
  isFinite_zero := isFinite _
  isFinite_one := isFinite _
  zero_lt_one := by
    rw [val_lt, val_zero, val_one]
    exact zero_lt_one
  scaled_byte := fun value low high => by
    rw [val_lt, val_zero] at low
    have high : ¬ val (1.0 : F) < val value := fun above => high ((val_lt _ _).mpr above)
    rw [val_one] at high
    exact ExactScalar.scaled_byte (not_lt.mp low) (not_lt.mp high)

end ExactScalar

/-! ## Functions -/

/-- Laws of the remainder, of the roundings and of the distance. -/
class ExactFunctions (F : Type) [Scalar F] [ExactScalar F] : Prop where
  val_floor : ∀ value : F, ExactScalar.val (Scalar.floor value) = ⌊ExactScalar.val value⌋
  val_min : ∀ left right : F,
    ExactScalar.val (Scalar.min left right) = min (ExactScalar.val left) (ExactScalar.val right)
  val_rem : ∀ left right : F, ExactScalar.val (Scalar.rem left right) =
    ExactScalar.val left - ExactScalar.val right *
      truncate (ExactScalar.val left / ExactScalar.val right)
  hypot_add_le : ∀ x y x' y' : F, ExactScalar.val (Scalar.hypot (x + x') (y + y')) ≤
    ExactScalar.val (Scalar.hypot x y) + ExactScalar.val (Scalar.hypot x' y')
  hypot_scaled : ∀ factor x y : F, 0 ≤ ExactScalar.val factor →
    ExactScalar.val (Scalar.hypot (factor * x) (factor * y)) =
      ExactScalar.val factor * ExactScalar.val (Scalar.hypot x y)

instance : ExactFunctions ℝ where
  val_floor := fun _ => rfl
  val_min := fun _ _ => rfl
  val_rem := fun _ _ => rfl
  hypot_add_le := by
    intro x y x' y'
    have triangle := norm_add_le (⟨x, y⟩ : ℂ) ⟨x', y'⟩
    simp only [Complex.norm_eq_sqrt_sq_add_sq, Complex.add_re, Complex.add_im] at triangle
    exact triangle
  hypot_scaled := by
    intro factor x y nonneg
    have nonneg : 0 ≤ factor := nonneg
    change √((factor * x) ^ 2 + (factor * y) ^ 2) = factor * √(x ^ 2 + y ^ 2)
    rw [mul_pow, mul_pow, ← mul_add, Real.sqrt_mul (sq_nonneg factor), Real.sqrt_sq nonneg]

theorem hypot_rat (x y : ℚ) : Scalar.hypot x y = |x| + |y| := by
  change (if y = 0 then |x| else if x = 0 then |y| else |x| + |y|) = |x| + |y|
  split_ifs with flat steep
  · rw [flat, abs_zero, add_zero]
  · rw [steep, abs_zero, zero_add]
  · rfl

instance : ExactFunctions ℚ where
  val_floor := by
    intro value
    change (((⌊value⌋ : ℤ) : ℚ) : ℝ) = ⌊(value : ℝ)⌋
    rw [Rat.floor_cast]
    norm_cast
  val_min := Rat.cast_min
  val_rem := by
    intro left right
    change ((left - right * (left / right).num.tdiv (left / right).den : ℚ) : ℝ) =
      left - right * truncate ((left : ℝ) / right)
    rw [← Rat.cast_div, truncate_ratCast]
    push_cast
    rfl
  hypot_add_le := by
    intro x y x' y'
    rw [hypot_rat, hypot_rat, hypot_rat]
    change ((|x + x'| + |y + y'| : ℚ) : ℝ) ≤ ((|x| + |y| : ℚ) : ℝ) + ((|x'| + |y'| : ℚ) : ℝ)
    have across := abs_add_le x x'
    have along := abs_add_le y y'
    exact_mod_cast (by linarith : |x + x'| + |y + y'| ≤ |x| + |y| + (|x'| + |y'|))
  hypot_scaled := by
    intro factor x y nonneg
    have nonneg : 0 ≤ factor := Rat.cast_nonneg.mp nonneg
    rw [hypot_rat, hypot_rat, abs_mul, abs_mul, abs_of_nonneg nonneg, ← mul_add]
    exact Rat.cast_mul _ _

end Scd.Core
