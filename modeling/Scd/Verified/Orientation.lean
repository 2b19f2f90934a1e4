import Scd.Daemon.Process
import Scd.Osk.Keyboard
import Scd.Verified.InputReport

/-! # The orientation of a pad

A pad position goes to the on-screen keyboard and to the touch of the DualShock 4.  Between
the edges of the keyboard a position further to the right is further to the right for both:
rounding does not blur two raw positions, which are far apart compared with its precision.
Beyond the edges the keyboard tells no positions apart, and the touch does.
-/

namespace Scd.Daemon.DualShock

open Scd.Core
open Scd.Osk (Half)

section

variable {F : Type} [Scalar F] [RoundedScalar F]

open RoundedScalar

/-! ## Raw positions -/

/-- The number that `signed_unit` rounds. -/
noncomputable def unit (value : Int16) : ℝ :=
  if value < 0 then value.toInt / 32768 else value.toInt / 32767

theorem toInt_bounds (value : Int16) : -32768 ≤ value.toInt ∧ value.toInt ≤ 32767 :=
  ⟨Int16.le_toInt value, Int16.toInt_le value⟩

theorem unit_bounds (value : Int16) : -1 ≤ unit value ∧ unit value ≤ 1 := by
  obtain ⟨low, high⟩ := toInt_bounds value
  have low : (-32768 : ℝ) ≤ value.toInt := by exact_mod_cast low
  have high : (value.toInt : ℝ) ≤ 32767 := by exact_mod_cast high
  unfold unit
  split
  · constructor <;> linarith
  · next nonnegative =>
    have above := mt Int16.lt_iff_toInt_lt.mpr nonnegative
    have above : (0 : ℝ) ≤ value.toInt := by exact_mod_cast not_lt.mp above
    constructor <;> linarith

/-- Two raw positions are apart by one step of the coarser side. -/
theorem unit_gap {low high : Int16} (less : low.toInt < high.toInt) :
    unit low + 1 / 32768 ≤ unit high := by
  have step : (low.toInt : ℝ) + 1 ≤ high.toInt := by exact_mod_cast less
  have sign (value : Int16) : value < 0 ↔ value.toInt < 0 := Int16.lt_iff_toInt_lt
  unfold unit
  split_ifs with lowNegative highNegative highNegative
  · linarith
  · -- across zero
    have below : (low.toInt : ℝ) ≤ -1 := by
      have := (sign low).mp lowNegative
      exact_mod_cast (by omega : low.toInt ≤ -1)
    have above : (0 : ℝ) ≤ high.toInt := by
      have := mt (sign high).mpr highNegative
      exact_mod_cast (by omega : 0 ≤ high.toInt)
    have positive : (0 : ℝ) ≤ high.toInt / 32767 := by positivity
    linarith
  · have := (sign high).mp highNegative
    have := mt (sign low).mpr lowNegative
    omega
  · linarith

theorem unit_mono {low high : Int16} (le : low.toInt ≤ high.toInt) : unit low ≤ unit high := by
  cases le.eq_or_lt with
  | inl equal => rw [Int16.toInt_inj.mp equal]
  | inr less => linarith [unit_gap less]

theorem denotes_signedUnit (value : Int16) :
    Denotes (signedUnit value : F) (rounded F (unit value)) := by
  obtain ⟨low, high⟩ := toInt_bounds value
  have bounds := unit_bounds value
  have numerator := denotes_ofInt (F := F) value.toInt (by
    unfold exactBound
    omega)
  have small (quotient : ℝ) (lower : -1 ≤ quotient) (upper : quotient ≤ 1) :
      |quotient| ≤ largest := by
    have bounded := abs_le.mpr ⟨lower, upper⟩
    exact bounded.trans (by norm_num [largest])
  unfold signedUnit unit at *
  split
  · next negative =>
    rw [if_pos negative] at bounds
    exact denotes_div numerator (denotes_integer 32768 (by decide)) (by norm_num)
      (small _ bounds.1 bounds.2)
  · next nonnegative =>
    rw [if_neg nonnegative] at bounds
    exact denotes_div numerator (denotes_integer 32767 (by decide)) (by norm_num)
      (small _ bounds.1 bounds.2)

/-! ## Rounding errors -/

theorem precision_eq : precision = 1 / 16777216 := by
  norm_num [precision]

theorem rounded_close (value : ℝ) (low : -2 ≤ value) (high : value ≤ 2) :
    value - precision ≤ rounded F value ∧ rounded F value ≤ value + precision := by
  have near := abs_le.mp (rounded_near (F := F) value (abs_le.mpr ⟨low, high⟩))
  constructor <;> linarith [near.1, near.2]

/-- What is left of a gap when both ends are rounded. -/
theorem rounded_gap {left right gap : ℝ} (apart : left + gap ≤ right) (nonneg : 0 ≤ gap)
    (low : -2 ≤ left) (high : right ≤ 2) :
    rounded F left + (gap - 2 * precision) ≤ rounded F right := by
  have leftClose := rounded_close (F := F) left low (by linarith)
  have rightClose := rounded_close (F := F) right (by linarith) high
  linarith [leftClose.2, rightClose.1]

/-! ## The place on the keyboard -/

/-- The number of the left or right middle of the keyboard, before it is rounded. -/
noncomputable def center : Half → ℝ
  | .left => 275 / 1000
  | .right => 725 / 1000

variable (F) in
noncomputable def limit : ℝ := rounded F (5 / 6)

variable (F) in
/-- The distance from the middle of a half. -/
noncomputable def distance (value : ℝ) : ℝ :=
  rounded F (rounded F (value / limit F) * rounded F (275 / 1000))

variable (F) in
/-- The horizontal place, before it is clamped to the keyboard. -/
noncomputable def place (half : Half) (value : ℝ) : ℝ :=
  rounded F (rounded F (center half) + distance F value)

theorem limit_bounds : 5 / 6 - precision ≤ limit F ∧ limit F ≤ 5 / 6 + precision :=
  rounded_close (5 / 6) (by norm_num) (by norm_num)

theorem center_bounds (half : Half) :
    275 / 1000 - precision ≤ rounded F (center half) ∧
      rounded F (center half) ≤ 725 / 1000 + precision := by
  have middle : 275 / 1000 ≤ center half ∧ center half ≤ 725 / 1000 := by
    cases half <;> norm_num [center]
  have close := rounded_close (F := F) (center half) (by linarith) (by linarith)
  constructor <;> linarith [close.1, close.2]

theorem limit_pos : 0 < limit F := by
  have bounds := limit_bounds (F := F)
  rw [precision_eq] at bounds
  linarith [bounds.1]

theorem quotient_bounds {value : ℝ} (low : -limit F ≤ value) (high : value ≤ limit F) :
    (-1 ≤ value / limit F ∧ value / limit F ≤ 1) ∧
      -1 ≤ rounded F (value / limit F) ∧ rounded F (value / limit F) ≤ 1 := by
  have lower : -1 ≤ value / limit F := (le_div_iff₀ limit_pos).mpr (by linarith)
  have upper : value / limit F ≤ 1 := (div_le_one limit_pos).mpr high
  have bounds := rounded_between (F := F) (-1) 1 (value / limit F) (by simpa using lower)
    (by simpa using upper) (by decide) (by decide)
  push_cast at bounds
  exact ⟨⟨lower, upper⟩, bounds⟩

/-- The quarter of the keyboard that the factor stands for, at least. -/
theorem factor_bounds : 1 / 4 ≤ rounded F (275 / 1000) ∧
    rounded F (275 / 1000) ≤ 275 / 1000 + precision := by
  have close := rounded_close (F := F) (275 / 1000) (by norm_num) (by norm_num)
  rw [precision_eq] at close ⊢
  constructor <;> linarith [close.1, close.2]

theorem product_bounds {value : ℝ} (low : -limit F ≤ value) (high : value ≤ limit F) :
    -rounded F (275 / 1000) ≤ rounded F (value / limit F) * rounded F (275 / 1000) ∧
      rounded F (value / limit F) * rounded F (275 / 1000) ≤ rounded F (275 / 1000) := by
  obtain ⟨_, lower, upper⟩ := quotient_bounds low high
  have positive := factor_bounds (F := F)
  constructor <;> nlinarith

theorem distance_bounds {value : ℝ} (low : -limit F ≤ value) (high : value ≤ limit F) :
    -(275 / 1000 + 2 * precision) ≤ distance F value ∧
      distance F value ≤ 275 / 1000 + 2 * precision := by
  obtain ⟨lower, upper⟩ := product_bounds low high
  obtain ⟨_, factor⟩ := factor_bounds (F := F)
  have small : precision ≤ 1 := by norm_num [precision]
  have close := rounded_close (F := F) (rounded F (value / limit F) *
    rounded F (275 / 1000)) (by linarith) (by linarith)
  unfold distance
  constructor <;> linarith [close.1, close.2]

theorem place_bounds (half : Half) {value : ℝ} (low : -limit F ≤ value) (high : value ≤ limit F) :
    -(4 * precision) ≤ place F half value ∧ place F half value ≤ 1 + 4 * precision := by
  obtain ⟨lower, upper⟩ := distance_bounds low high
  have middle := center_bounds (F := F) half
  have small : precision ≤ 1 / 100 := by norm_num [precision]
  have close := rounded_close (F := F) (rounded F (center half) + distance F value)
    (by linarith) (by linarith)
  unfold place
  constructor <;> linarith [close.1, close.2]

/-- Two raw positions that are apart have places that are apart. -/
theorem place_gap (half : Half) {left right : ℝ} (low : -limit F ≤ left) (high : right ≤ limit F)
    (apart : left + (1 / 32768 - 2 * precision) ≤ right) :
    place F half left + 8 * precision ≤ place F half right := by
  have ordered : left ≤ right := by
    rw [precision_eq] at apart
    linarith
  obtain ⟨⟨leftLow, leftHigh⟩, _⟩ := quotient_bounds low (ordered.trans high)
  obtain ⟨⟨rightLow, rightHigh⟩, _⟩ := quotient_bounds (low.trans ordered) high
  have small := limit_bounds (F := F)
  have factor := factor_bounds (F := F)
  have leftProduct := product_bounds low (ordered.trans high)
  have rightProduct := product_bounds (low.trans ordered) high
  have leftDistance := distance_bounds low (ordered.trans high)
  have rightDistance := distance_bounds (low.trans ordered) high
  have middle := center_bounds (F := F) half
  simp only [precision_eq] at *
  -- the limit is less than one, so that the division does not narrow the gap
  have quotients : left / limit F + (1 / 32768 - 2 * (1 / 16777216)) ≤ right / limit F := by
    have wider : right - left ≤ (right - left) / limit F :=
      le_div_self (by linarith) limit_pos (by linarith)
    rw [sub_div] at wider
    linarith
  have roundedQuotients := rounded_gap (F := F) quotients (by norm_num) (by linarith) (by linarith)
  have products : rounded F (left / limit F) * rounded F (275 / 1000) + 1 / 16777216 * 127 ≤
      rounded F (right / limit F) * rounded F (275 / 1000) := by
    rw [precision_eq] at roundedQuotients
    nlinarith
  have distances : distance F left + (1 / 16777216 * 127 - 2 * precision) ≤ distance F right :=
    rounded_gap products (by norm_num) (by linarith) (by linarith)
  rw [precision_eq] at distances
  have sums : rounded F (center half) + distance F left + 1 / 16777216 * 125 ≤
      rounded F (center half) + distance F right := by linarith
  have places := rounded_gap (F := F) sums (by norm_num) (by linarith) (by linarith)
  rw [precision_eq] at places
  unfold place
  linarith

/-! ## Projection -/

theorem small_le_largest {value : ℝ} (low : -2 ≤ value) (high : value ≤ 2) :
    |value| ≤ largest :=
  (abs_le.mpr ⟨low, high⟩).trans (by norm_num [largest])

theorem denotes_limit : Denotes (oskPadLimit : F) (limit F) :=
  denotes_div (denotes_integer 5 (by decide)) (denotes_integer 6 (by decide)) (by norm_num)
    (small_le_largest (by norm_num) (by norm_num))

theorem denotes_thousandths (count : ℕ) (small : count ≤ 1000) :
    Denotes (OfScientific.ofScientific count true 3 : F) (rounded F (count / 1000)) := by
  have cast : (count : ℝ) ≤ 1000 := by exact_mod_cast small
  have exact : (count : ℝ) / 10 ^ 3 = count / 1000 := by norm_num
  have bounded : (count : ℝ) / 10 ^ 3 ≤ largest := by
    rw [exact, largest]
    linarith
  have denotes := denotes_literal (F := F) count 3 bounded
  rwa [exact] at denotes

theorem denotes_center (half : Half) :
    Denotes (if half = .left then 0.275 else 0.725 : F) (rounded F (center half)) := by
  cases half with
  | left => exact denotes_thousandths 275 (by decide)
  | right => exact denotes_thousandths 725 (by decide)

/-- The horizontal place of a projected position. -/
theorem denotes_project {half : Half} {position projected : F × F} {value : ℝ}
    (denotes : Denotes position.1 value) (low : -limit F ≤ value) (high : value ≤ limit F)
    (found : half.project position = some projected) :
    Denotes projected.1 (min (max (place F half value) 0) 1) := by
  have clamped := denotes_clamp denotes (denotes_neg denotes_limit) denotes_limit
  rw [max_eq_left low, min_eq_left high] at clamped
  obtain ⟨⟨quotientLow, quotientHigh⟩, _⟩ := quotient_bounds low high
  obtain ⟨productLow, productHigh⟩ := product_bounds low high
  obtain ⟨distanceLow, distanceHigh⟩ := distance_bounds low high
  obtain ⟨_, factor⟩ := factor_bounds (F := F)
  have middle := center_bounds (F := F) half
  have small : precision ≤ 1 / 100 := by norm_num [precision]
  have quotient := denotes_div clamped denotes_limit limit_pos.ne'
    (small_le_largest (by linarith) (by linarith))
  have product := denotes_mul quotient (denotes_thousandths 275 (by decide))
    (small_le_largest (by linarith) (by linarith))
  have sum := denotes_add (denotes_center half) product
    (small_le_largest (by unfold distance at *; linarith) (by unfold distance at *; linarith))
  unfold Half.project at found
  split at found
  · cases found
  cases found
  exact denotes_clamp sum denotes_zero denotes_one

/-- Between the edges, the projection keeps the order of two positions that are apart. -/
theorem project_not_le {half : Half} {left right first second : F × F} {leftValue rightValue : ℝ}
    (leftDenotes : Denotes left.1 leftValue) (rightDenotes : Denotes right.1 rightValue)
    (low : -limit F ≤ leftValue) (high : rightValue ≤ limit F)
    (apart : leftValue + (1 / 32768 - 2 * precision) ≤ rightValue)
    (leftFound : half.project left = some first) (rightFound : half.project right = some second) :
    ¬ second.1 ≤ first.1 := by
  have ordered : leftValue ≤ rightValue := by
    rw [precision_eq] at apart
    linarith
  have leftPlace := denotes_project leftDenotes low (ordered.trans high) leftFound
  have rightPlace := denotes_project rightDenotes (low.trans ordered) high rightFound
  have gap := place_gap half low high apart
  have leftBounds := place_bounds half low (ordered.trans high)
  have rightBounds := place_bounds half (low.trans ordered) high
  rw [le_iff rightPlace leftPlace, not_le]
  rw [precision_eq] at *
  have lower : max (place F half leftValue) 0 < place F half rightValue :=
    max_lt (by linarith) (by linarith)
  rw [max_eq_left (by linarith : 0 ≤ place F half rightValue)]
  exact lt_min ((min_le_left _ _).trans_lt lower) ((min_le_left _ _).trans_lt (by
    apply max_lt
    · linarith
    · norm_num))

end

/-! ## Reports whose pad is touched -/

/-- A report of the controller whose selected pad is touched, and the calls that the gamepad
    has seen before. -/
structure PadReport (F : Type) [Scalar F] (side : Trackpad) where
  report : List UInt8
  state : ControllerState F
  parsed : parseReport report = some (.state state)
  touched : (touchpad side state).touched = true
  changes : List (Change F)
  fits : ∀ change ∈ changes, change.Fits

namespace PadReport

section

variable {F : Type} [Scalar F] {side : Trackpad}

def position (pad : PadReport F side) : F × F := (touchpad side pad.state).position

/-- The touch that the host decodes from the report after `update_source`. -/
def touch (pad : PadReport F side) : TouchReading :=
  (readReport ((DualShock4.changed pad.changes).updateSource pad.state (some side)).report).touch 0

/-- Every parsed position comes from two raw words. -/
theorem exists_raw {report : List UInt8} {state : ControllerState F}
    (parsed : parseReport report = some (.state state)) (side : Trackpad) :
    ∃ x y : Int16, (touchpad side state).position = (signedUnit x, -signedUnit y) := by
  have read := parseState_of_parseReport parsed
  generalize state.format = format at read
  unfold parseState at read
  split at read
  · cases read
  cases read
  cases side with
  | left => exact ⟨_, _, rfl⟩
  | right => exact ⟨_, _, rfl⟩

end

section

variable {F : Type} [Scalar F] [RoundedScalar F] {side : Trackpad}

open RoundedScalar

theorem source_fits (pad : PadReport F side) :
    Change.Fits (.source pad.state (some side) : Change F) := by
  have finite (side : Trackpad) :
      Scalar.isFinite (touchpad side pad.state).position.1 = true ∧
        Scalar.isFinite (touchpad side pad.state).position.2 = true := by
    obtain ⟨x, y, position⟩ := exists_raw pad.parsed side
    rw [position]
    exact ⟨isFinite_of_denotes (denotes_signedUnit x),
      isFinite_of_denotes (denotes_neg (denotes_signedUnit y))⟩
  exact ⟨finite .left, finite .right⟩

/-- The touch that `update_source` sets is decoded as it is. -/
theorem touch_eq (pad : PadReport F side) :
    ∃ touch : Touch, pad.touch =
      let next := DualShock4.nextTouch touch (touchpad side pad.state)
      ⟨next.active, next.id.toNat, next.x.toNat, next.y.toNat⟩ := by
  have sound := sound_updateSource (sound_changed pad.fits) pad.source_fits
  have set : ((DualShock4.changed pad.changes).updateSource pad.state
      (some side)).state.touches.get 0 =
      DualShock4.nextTouch (DualShock4.changed pad.changes).state.touches[0]
        (touchpad side pad.state) := by
    cases side with
    | left => exact Vector.getElem_set_self (by decide)
    | right => exact Vector.getElem_set_self (by decide)
  have read := readTouch_bytes (sound.fits.touches 0)
  refine ⟨(DualShock4.changed pad.changes).state.touches[0], ?_⟩
  rw [← set]
  unfold touch
  rw [sound.report]
  exact read

theorem touch_active (pad : PadReport F side) : pad.touch.active = true := by
  obtain ⟨touch, equal⟩ := pad.touch_eq
  rw [equal]
  exact pad.touched

/-- The horizontal coordinate of the touch, from the raw position. -/
theorem touch_x (pad : PadReport F side) :
    ∃ raw : Int16, Denotes pad.position.1 (rounded F (unit raw)) ∧
      (pad.touch.x : ℤ) =
        round (scaled F 1919 (rounded F (rounded F (unit raw) + 1))) := by
  obtain ⟨x, y, position⟩ := exists_raw pad.parsed side
  have denotes : Denotes pad.position.1 (rounded F (unit x)) := by
    rw [PadReport.position, position]
    exact denotes_signedUnit x
  obtain ⟨low, high⟩ := unit_bounds x
  have bounds := rounded_between (F := F) (-1) 1 (unit x) (by simpa using low)
    (by simpa using high) (by decide) (by decide)
  push_cast at bounds
  obtain ⟨sum, _, sumBounds, _⟩ := denotes_sums denotes
  rw [max_eq_left bounds.1, min_eq_left bounds.2] at sum sumBounds
  obtain ⟨stored, _⟩ := toU16_scaled 1919 (by decide) sum sumBounds.1 sumBounds.2
  obtain ⟨touch, equal⟩ := pad.touch_eq
  refine ⟨x, denotes, ?_⟩
  rw [equal]
  exact stored

/-- Over any rounded arithmetic. -/
theorem touch_mono (first second : PadReport F side) {half : Half} {left right : F × F}
    (firstFound : half.project first.position = some left)
    (secondFound : half.project second.position = some right)
    (firstInside : first.position.1 ≤ oskPadLimit)
    (secondInside : -oskPadLimit ≤ second.position.1) (le : left.1 ≤ right.1) :
    first.touch.x ≤ second.touch.x := by
  obtain ⟨firstRaw, firstDenotes, firstX⟩ := first.touch_x
  obtain ⟨secondRaw, secondDenotes, secondX⟩ := second.touch_x
  by_contra greater
  -- then the first raw position is to the right of the second one
  have apart : secondRaw.toInt < firstRaw.toInt := by
    by_contra other
    have ordered : rounded F (unit firstRaw) ≤ rounded F (unit secondRaw) :=
      rounded_mono (unit_mono (not_lt.mp other))
    have scaled := scaled_mono (F := F) 1919 (rounded_mono (F := F) (add_le_add_left ordered 1))
    have rounds := Int.floor_mono (add_le_add_left scaled (1 / 2))
    rw [← round_eq, ← round_eq, ← firstX, ← secondX] at rounds
    exact greater (by exact_mod_cast rounds)
  have gap := rounded_gap (F := F) (unit_gap apart) (by norm_num)
    (by linarith [(unit_bounds secondRaw).1]) (by linarith [(unit_bounds firstRaw).2])
  rw [le_iff firstDenotes denotes_limit] at firstInside
  rw [le_iff (denotes_neg denotes_limit) secondDenotes] at secondInside
  exact project_not_le secondDenotes firstDenotes secondInside firstInside gap secondFound
    firstFound le

end

section

variable {E : Type} [Scalar E] [ExactScalar E] {side : Trackpad}

/-- Over exact arithmetic the touch is the nearest to the scaled position. -/
theorem touch_near (pad : PadReport E side) :
    |(pad.touch.x : ℝ) - (ExactScalar.val pad.position.1 + 1) / 2 * 1919| ≤ 1 / 2 := by
  obtain ⟨raw, denotes, stored⟩ := pad.touch_x
  have value : ExactScalar.val pad.position.1 = unit raw := denotes
  have cast : (pad.touch.x : ℝ) = round ((unit raw + 1) * (1 / 2) * 1919) := by
    exact_mod_cast stored
  have near := abs_sub_round ((unit raw + 1) * (1 / 2) * 1919)
  rw [cast, value, abs_sub_comm, div_eq_mul_one_div]
  exact near

end

end PadReport

/-! ## The result -/

/-- Two reports of a pad between the edges of the keyboard. -/
theorem touch_follows_keyboard {F E : Type} [Scalar F] [RoundedScalar F] [Scalar E]
    [ExactScalar E] (side : Trackpad) (half : Half) :
    (∀ (first second : PadReport F side) (left right : F × F),
      half.project first.position = some left → half.project second.position = some right →
      first.position.1 ≤ oskPadLimit → -oskPadLimit ≤ second.position.1 →
      left.1 ≤ right.1 → first.touch.x ≤ second.touch.x) ∧
    ∀ pad : PadReport E side, pad.touch.active = true ∧
      |(pad.touch.x : ℝ) - (ExactScalar.val pad.position.1 + 1) / 2 * 1919| ≤ 1 / 2 := by
  constructor
  · intro first second left right firstFound secondFound firstInside secondInside le
    exact first.touch_mono second firstFound secondFound firstInside secondInside le
  · intro pad
    exact ⟨pad.touch_active, pad.touch_near⟩

/-- A report with the left pad touched at a raw position on its horizontal middle line. -/
def padBytes (low high : UInt8) : List UInt8 :=
  [0x42, 0, 0, 0, 0, 2] ++ List.replicate 12 0 ++ [low, high] ++ List.replicate 26 0

def padReport (low high : UInt8) : PadReport ℚ .left where
  report := padBytes low high
  state := (parseState (padBytes low high) .standard).get rfl
  parsed := rfl
  touched := by
    show Buttons.contains ⟨(leU32 (padBytes low high) 2).toBitVec⟩ .leftPadTouch = true
    -- the four bytes of the buttons do not depend on the position
    show Buttons.contains ⟨((0 : UInt8).toUInt32 ||| (0 : UInt8).toUInt32 <<< 8 |||
      (0 : UInt8).toUInt32 <<< 16 ||| (2 : UInt8).toUInt32 <<< 24).toBitVec⟩ .leftPadTouch = true
    decide
  changes := []
  fits := fun _ member => nomatch member

theorem touch_follows_keyboard_inside :
    (padReport 0 0x10).touch.x ≤ (padReport 0 0x20).touch.x ∧
      |((padReport 0 0x10).touch.x : ℝ) -
        (ExactScalar.val (padReport 0 0x10).position.1 + 1) / 2 * 1919| ≤ 1 / 2 :=
  have results := touch_follows_keyboard (F := ℚ) (E := ℚ) .left .left
  ⟨results.1 (padReport 0 0x10) (padReport 0 0x20) _ _ rfl rfl (by decide +kernel)
    (by decide +kernel) (by decide +kernel), (results.2 (padReport 0 0x10)).2⟩

/-- Beyond the right edge the keyboard tells no positions apart. -/
theorem keyboard_edge_hides :
    ¬ ∀ (first second : PadReport ℚ .left) (left right : ℚ × ℚ),
      first.state.format = second.state.format →
      Half.left.project first.position = some left →
      Half.left.project second.position = some right →
      (left.2 ≤ right.2 → first.touch.y ≤ second.touch.y) ∧
        (left.1 ≤ right.1 → first.touch.x ≤ second.touch.x) := by
  intro follows
  have le := (follows (padReport 0xff 0x7f) (padReport 0x30 0x75) (11 / 20, 1 / 2) (11 / 20, 1 / 2)
    rfl (by decide +kernel) (by decide +kernel)).2 le_rfl
  revert le
  decide +kernel

end Scd.Daemon.DualShock
