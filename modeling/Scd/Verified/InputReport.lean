import Mathlib.Tactic.IntervalCases
import Scd.Core.Rounded
import Scd.Verified.Gamepads
import Scd.Verified.UsbipReplies

/-! # The input report of the DualShock 4

The host reads the fields of an input report at the offsets of the wired DualShock 4.  In
every state that the gamepad can come to, the report that `serve` sends reads as the state
that it was made of: the buttons leave the bits of the triggers free, the coordinates of a
touch fit the bits they share, and the counter of the transport only uses bits that no
field has.
-/

namespace Scd.Daemon.DualShock

open Scd.Core Scd.Foundation

/-! ## Changes of the state -/

/-- The calls that change the report. -/
inductive Change (F : Type) where
  | button (button : GamepadButton) (pressed : Bool)
  | axis (axis : GamepadAxis) (value : F)
  | source (state : ControllerState F) (touchpad : Option Trackpad)
  | battery (percent : UInt8)

section

variable {F : Type} [Scalar F]

namespace Change

def apply (gamepad : DualShock4) : Change F → DualShock4
  | .button pushed pressed => gamepad.emitButton pushed pressed
  | .axis moved value => gamepad.emitAxis moved value
  | .source state touchpad => gamepad.updateSource state touchpad
  | .battery percent => gamepad.setBattery percent

/-- The positions of both pads are finite. -/
def Fits : Change F → Prop
  | .source state _ =>
    (Scalar.isFinite state.leftPad.position.1 = true ∧
      Scalar.isFinite state.leftPad.position.2 = true) ∧
    Scalar.isFinite state.rightPad.position.1 = true ∧
      Scalar.isFinite state.rightPad.position.2 = true
  | _ => True

end Change

/-- The gamepad after some changes. -/
def DualShock4.changed (changes : List (Change F)) : DualShock4 := changes.foldl Change.apply .new

end

/-! ## Reading a report -/

/-- A bit of a byte. -/
def bit (byte : UInt8) (position : Nat) : Bool := byte.toBitVec.getLsbD position

/-- A word, from its two bytes. -/
def word (low high : UInt8) : UInt16 := low.toUInt16 ||| high.toUInt16 <<< 8

structure TouchReading where
  active : Bool
  id : Nat
  x : Nat
  y : Nat
  deriving DecidableEq

/-- The four bytes of a touch: the identifier, the two low coordinate bytes around the byte
    that both coordinates share. -/
def readTouch (first second third fourth : UInt8) : TouchReading where
  active := !bit first 7
  id := (first &&& 0x7f).toNat
  x := second.toNat + 256 * (third &&& 0x0f).toNat
  y := (third >>> 4).toNat + 16 * fourth.toNat

/-- What the host learns from a report. -/
@[ext]
structure Reading where
  sticks : Fin 4 → UInt8
  button : GamepadButton → Bool
  direction : Int × Int
  triggerDown : Fin 2 → Bool
  triggerLevel : Fin 2 → UInt8
  sensorTimestamp : UInt16
  gyro : Int16 × Int16 × Int16
  accel : Int16 × Int16 × Int16
  clicked : Bool
  touch : Fin 2 → TouchReading

/-- The byte and the bit of a button in the report.  The triggers and the D-pad have fields
    of their own. -/
def reportBit : GamepadButton → Option (Fin 64 × Nat)
  | .west => some (5, 4)
  | .south => some (5, 5)
  | .east => some (5, 6)
  | .north => some (5, 7)
  | .leftBumper => some (6, 0)
  | .rightBumper => some (6, 1)
  | .select => some (6, 4)
  | .start => some (6, 5)
  | .leftStick => some (6, 6)
  | .rightStick => some (6, 7)
  | .guide => some (7, 0)
  | _ => none

def sensorOf (report : Vector UInt8 64) (offset : Fin 58) : Int16 × Int16 × Int16 :=
  let word := fun position : Fin 6 => word report[offset.val + position.val]
    report[offset.val + position.val + 1]
  ((word 0).toInt16, (word 2).toInt16, (word 4).toInt16)

def readReport (report : Vector UInt8 64) : Reading where
  sticks := fun coordinate => report[1 + coordinate.val]
  button := fun button => (reportBit button).any fun place => bit report[place.1] place.2
  direction := directionOf report
  triggerDown := fun side => bit report[6] (2 + side)
  triggerLevel := triggerByteOf report
  sensorTimestamp := word report[10] report[11]
  gyro := sensorOf report 13
  accel := sensorOf report 19
  clicked := bit (report.get 7) 1
  touch := fun slot => readTouch report[35 + 4 * slot.val] report[36 + 4 * slot.val]
    report[37 + 4 * slot.val] report[38 + 4 * slot.val]

/-- The counter of the transport. -/
def counterOf (report : Vector UInt8 64) : Nat := (report.get 7 >>> 2).toNat

/-! ## What the state holds -/

/-- The bit of a button in the button word. -/
def wordBit : GamepadButton → Option Nat
  | .west => some 0
  | .south => some 1
  | .east => some 2
  | .north => some 3
  | .leftBumper => some 4
  | .rightBumper => some 5
  | .select => some 8
  | .start => some 9
  | .leftStick => some 10
  | .rightStick => some 11
  | .guide => some 12
  | _ => none

namespace State

def reading (state : State) : Reading where
  sticks := state.sticks.get
  button := fun button => (wordBit button).any state.buttons.toBitVec.getLsbD
  direction := (difference (state.dpad.get 3) (state.dpad.get 2),
    difference (state.dpad.get 1) (state.dpad.get 0))
  triggerDown := fun side => state.triggerButtons.get side || state.triggers.get side != 0
  triggerLevel := fun side =>
    if state.triggerButtons.get side then 255 else state.triggers.get side
  sensorTimestamp := state.sensorTimestamp
  gyro := state.gyro
  accel := state.accel
  clicked := state.touchpadClicked
  touch := fun slot =>
    let touch := state.touches.get slot
    ⟨touch.active, touch.id.toNat, touch.x.toNat, touch.y.toNat⟩

/-- A touch fits its four bytes. -/
structure Touch.Fits (touch : Touch) : Prop where
  id : touch.id.toNat < 128
  x : touch.x.toNat < 4096
  y : touch.y.toNat < 4096

/-- No field of the state is wider than its place in the report. -/
structure Fits (state : State) : Prop where
  sixth : state.buttons.toBitVec.getLsbD 6 = false
  seventh : state.buttons.toBitVec.getLsbD 7 = false
  touches : ∀ slot, Touch.Fits (state.touches.get slot)

end State

/-! ## Bits and words -/

theorem word_low_high (value : UInt16) : word (State.low value) (State.high value) = value :=
  leU16_leBytes value

theorem bit_or (left right : UInt8) (position : Nat) :
    bit (left ||| right) position = (bit left position || bit right position) := by
  simp [bit]

theorem bit_toUInt8 (value : UInt16) {position : Nat} (lt : position < 8) :
    bit value.toUInt8 position = value.toBitVec.getLsbD position := by
  simp [bit, lt]

theorem bit_byte (value : UInt16) {position : Nat} (lt : position < 8) :
    bit (value >>> 4).toUInt8 position = value.toBitVec.getLsbD (4 + position) := by
  simp [bit, lt]

/-- The low half of a byte, shifted up. -/
theorem bit_upper (value : UInt8) {position : Nat} (lt : position < 4) :
    bit ((value &&& 0x0f) <<< 4) (4 + position) = bit value position := by
  interval_cases position <;> simp [bit]

/-- The low half of a byte under the low half of another, shifted up. -/
theorem halves (low high : UInt8) :
    ((low &&& (0x0f : UInt8)) ||| ((high &&& (0x0f : UInt8)) <<< (4 : UInt8))) &&& (0x0f : UInt8) =
        low &&& (0x0f : UInt8) ∧
      ((low &&& (0x0f : UInt8)) ||| ((high &&& (0x0f : UInt8)) <<< (4 : UInt8))) >>> (4 : UInt8) =
        high &&& (0x0f : UInt8) := by
  constructor
  · apply UInt8.toBitVec_inj.mp
    ext position lt
    interval_cases position <;> simp
  · apply UInt8.toBitVec_inj.mp
    ext position lt
    interval_cases position <;> simp

/-- The counter above two bits of a byte. -/
theorem counter_bits (byte counter : UInt8) :
    ((byte &&& (0x03 : UInt8)) ||| ((counter &&& 0x3f) <<< (2 : UInt8))) >>> (2 : UInt8) =
      counter &&& 0x3f := by
  apply UInt8.toBitVec_inj.mp
  ext position lt
  interval_cases position <;> simp

theorem toNat_lower (byte : UInt8) : (byte &&& (0x0f : UInt8)).toNat = byte.toNat % 16 := by
  rw [UInt8.toNat_and]
  exact Nat.and_two_pow_sub_one_eq_mod byte.toNat 4

/-- The highest bit of an identifier is free for the flag. -/
theorem touchByte_bits {touch : Touch} (small : touch.id.toNat < 128) :
    bit (State.touchByte touch) 7 = !touch.active ∧
      (State.touchByte touch &&& (0x7f : UInt8)).toNat = touch.id.toNat := by
  have top : touch.id.toBitVec.getLsbD 7 = false := by
    rw [BitVec.getLsbD, UInt8.toNat_toBitVec]
    exact Nat.testBit_lt_two_pow small
  have below : touch.id &&& (0x7f : UInt8) = touch.id := by
    apply UInt8.toNat_inj.mp
    rw [UInt8.toNat_and]
    exact (Nat.and_two_pow_sub_one_eq_mod touch.id.toNat 7).trans (Nat.mod_eq_of_lt small)
  have flags : ∀ flag : UInt8, flag &&& (0x7f : UInt8) = 0 →
      (touch.id ||| flag) &&& (0x7f : UInt8) = touch.id := by
    intro flag free
    have distributes : (touch.id ||| flag) &&& (0x7f : UInt8) =
        touch.id &&& (0x7f : UInt8) ||| flag &&& (0x7f : UInt8) :=
      UInt8.toBitVec_inj.mp BitVec.and_or_distrib_right
    rw [distributes, below, free, UInt8.or_zero]
  unfold State.touchByte
  cases touch.active with
  | true =>
    constructor
    · simpa [bit] using top
    · rw [if_pos rfl, flags 0 (by decide)]
  | false =>
    constructor
    · simp [bit]
    · rw [if_neg (by decide), flags 0x80 (by decide)]

theorem readTouch_bytes {touch : Touch} (fits : State.Touch.Fits touch) :
    readTouch (State.touchByte touch) (State.low touch.x) (State.touchMiddle touch)
        (touch.y >>> 4).toUInt8 =
      ⟨touch.active, touch.id.toNat, touch.x.toNat, touch.y.toNat⟩ := by
  obtain ⟨flag, id⟩ := touchByte_bits fits.id
  have x_lt := fits.x
  have y_lt := fits.y
  have lower : State.touchMiddle touch &&& (0x0f : UInt8) = State.high touch.x &&& (0x0f : UInt8) :=
    (halves _ _).1
  have upper : State.touchMiddle touch >>> (4 : UInt8) = touch.y.toUInt8 &&& (0x0f : UInt8) :=
    (halves _ _).2
  have xLow : (State.low touch.x).toNat = touch.x.toNat % 256 := UInt16.toNat_toUInt8 _
  have xHigh : (State.high touch.x).toNat = touch.x.toNat / 256 % 256 := by
    rw [State.high, UInt16.toNat_toUInt8, UInt16.toNat_shiftRight]
    exact congrArg (· % 256) (Nat.shiftRight_eq_div_pow _ 8)
  have yLow : touch.y.toUInt8.toNat = touch.y.toNat % 256 := UInt16.toNat_toUInt8 _
  have yHigh : (touch.y >>> 4).toUInt8.toNat = touch.y.toNat / 16 % 256 := by
    rw [UInt16.toNat_toUInt8, UInt16.toNat_shiftRight]
    exact congrArg (· % 256) (Nat.shiftRight_eq_div_pow _ 4)
  simp only [readTouch, flag, id, lower, upper, toNat_lower, xLow, xHigh, yLow, yHigh,
    Bool.not_not, TouchReading.mk.injEq, true_and]
  omega

/-! ## The bits of the fields that share a byte -/

section

variable (state : State)

theorem bit_hat {position : Nat} (upper : 4 ≤ position) : bit state.hat position = false := by
  have small : state.hat.toNat < 2 ^ 4 := by
    unfold State.hat
    split <;> decide
  rw [bit, BitVec.getLsbD, UInt8.toNat_toBitVec]
  exact Nat.testBit_lt_two_pow (small.trans_le (Nat.pow_le_pow_right (by decide) upper))

theorem bit_triggerBit (side : Fin 2) (position : Nat) :
    bit (state.triggerBit side) position = (decide (position = 2 + side.val) &&
      (state.triggerButtons.get side || state.triggers.get side != 0)) := by
  have down : (state.triggerButtons[side] || state.triggers[side] != 0) =
      (state.triggerButtons.get side || state.triggers.get side != 0) := rfl
  rw [← down]
  unfold State.triggerBit
  cases (state.triggerButtons[side] || state.triggers[side] != 0) with
  | true =>
    obtain rfl | rfl := zero_or_one side
    · simp [bit, show (4#8) = BitVec.twoPow 8 2 from rfl, BitVec.getLsbD_twoPow, eq_comm]
    · simp [bit, show (8#8) = BitVec.twoPow 8 3 from rfl, BitVec.getLsbD_twoPow, eq_comm]
  | false => simp [bit]

theorem bit_clickedBit (position : Nat) :
    bit state.clickedBit position = (decide (position = 0) && state.touchpadClicked) := by
  unfold State.clickedBit
  cases state.touchpadClicked with
  | true =>
    simp [bit]
  | false => simp [bit]

end

section

variable (state : State) (touchTimestamp counter : UInt8)

/-- The report as `serve` sends it. -/
def sent : Vector UInt8 64 := Usbip.stampInput (state.usbReport touchTimestamp) counter

theorem face_sent (position : Nat) (lt : position < 4) :
    bit (sent state touchTimestamp counter)[5] (4 + position) =
      state.buttons.toBitVec.getLsbD position := by
  have byte : (sent state touchTimestamp counter)[5] =
      state.hat ||| ((state.buttons.toUInt8 &&& 0x0f) <<< 4) := rfl
  rw [byte, bit_or, bit_hat state (by omega), Bool.false_or, bit_upper _ lt,
    bit_toUInt8 _ (by omega)]

theorem shoulder_sent (position : Nat) (lt : position < 8) (below : position ≠ 2)
    (above : position ≠ 3) :
    bit (sent state touchTimestamp counter)[6] position =
      state.buttons.toBitVec.getLsbD (4 + position) := by
  have byte : (sent state touchTimestamp counter)[6] =
      (state.buttons >>> 4).toUInt8 ||| state.triggerBit 0 ||| state.triggerBit 1 := rfl
  rw [byte, bit_or, bit_or, bit_byte _ lt, bit_triggerBit, bit_triggerBit]
  simp [below, above]

theorem trigger_sent (fits : state.Fits) (side : Fin 2) :
    bit (sent state touchTimestamp counter)[6] (2 + side) =
      (state.triggerButtons.get side || state.triggers.get side != 0) := by
  have byte : (sent state touchTimestamp counter)[6] =
      (state.buttons >>> 4).toUInt8 ||| state.triggerBit 0 ||| state.triggerBit 1 := rfl
  rw [byte, bit_or, bit_or, bit_byte _ (by omega), bit_triggerBit, bit_triggerBit]
  match side with
  | 0 =>
    have free : state.buttons.toBitVec.getLsbD (4 + (2 + (0 : Fin 2).val)) = false := fits.sixth
    rw [free]
    simp
  | 1 =>
    have free : state.buttons.toBitVec.getLsbD (4 + (2 + (1 : Fin 2).val)) = false := fits.seventh
    rw [free]
    simp

/-- The two bits of the last button byte, below the counter. -/
theorem guide_sent (position : Nat) (lt : position < 2) :
    bit (sent state touchTimestamp counter)[7] position =
      if position = 0 then state.buttons.toBitVec.getLsbD 12 else state.touchpadClicked := by
  have byte : (sent state touchTimestamp counter)[7] =
      ((((state.buttons >>> 12) &&& 1).toUInt8 ||| (state.clickedBit <<< 1)) &&& (0x03 : UInt8)) |||
        ((counter &&& 0x3f) <<< (2 : UInt8)) := rfl
  have clicked := bit_clickedBit state 0
  rw [byte]
  unfold bit at clicked ⊢
  interval_cases position <;> simp at clicked <;> simp [clicked]

theorem counter_sent : counterOf (sent state touchTimestamp counter) = counter.toNat % 64 := by
  have byte : counterOf (sent state touchTimestamp counter) =
      (((((state.buttons >>> 12) &&& 1).toUInt8 ||| (state.clickedBit <<< 1)) &&& (0x03 : UInt8) |||
        ((counter &&& 0x3f) <<< (2 : UInt8))) >>> (2 : UInt8)).toNat := rfl
  rw [byte, counter_bits, UInt8.toNat_and]
  exact Nat.and_two_pow_sub_one_eq_mod counter.toNat 6

theorem direction_sent :
    directionOf (sent state touchTimestamp counter) = state.reading.direction :=
  directionOf_usbReport state touchTimestamp

theorem sensor_sent :
    sensorOf (sent state touchTimestamp counter) 13 = state.gyro ∧
      sensorOf (sent state touchTimestamp counter) 19 = state.accel := by
  have word (value : Int16) :
      (word (State.low value.toUInt16) (State.high value.toUInt16)).toInt16 = value := by
    rw [word_low_high]
    rfl
  constructor
  · exact Prod.ext (word _) (Prod.ext (word _) (word _))
  · exact Prod.ext (word _) (Prod.ext (word _) (word _))

theorem touch_sent (fits : state.Fits) (slot : Fin 2) :
    (readReport (sent state touchTimestamp counter)).touch slot = state.reading.touch slot := by
  match slot with
  | 0 => exact readTouch_bytes (fits.touches 0)
  | 1 => exact readTouch_bytes (fits.touches 1)

theorem button_sent (button : GamepadButton) :
    (readReport (sent state touchTimestamp counter)).button button =
      state.reading.button button := by
  have face := face_sent state touchTimestamp counter
  have shoulder := shoulder_sent state touchTimestamp counter
  cases button with
  | west => exact face 0 (by omega)
  | south => exact face 1 (by omega)
  | east => exact face 2 (by omega)
  | north => exact face 3 (by omega)
  | leftBumper => exact shoulder 0 (by omega) (by omega) (by omega)
  | rightBumper => exact shoulder 1 (by omega) (by omega) (by omega)
  | select => exact shoulder 4 (by omega) (by omega) (by omega)
  | start => exact shoulder 5 (by omega) (by omega) (by omega)
  | leftStick => exact shoulder 6 (by omega) (by omega) (by omega)
  | rightStick => exact shoulder 7 (by omega) (by omega) (by omega)
  | guide => exact guide_sent state touchTimestamp counter 0 (by omega)
  | _ => rfl

theorem sticks_sent (coordinate : Fin 4) :
    (readReport (sent state touchTimestamp counter)).sticks coordinate =
      state.sticks.get coordinate := by
  match coordinate with
  | 0 => rfl
  | 1 => rfl
  | 2 => rfl
  | 3 => rfl

theorem triggerLevel_sent (side : Fin 2) :
    triggerByteOf (sent state touchTimestamp counter) side = state.reading.triggerLevel side := by
  match side with
  | 0 => rfl
  | 1 => rfl

/-- A report that is sent reads as the state it was made of. -/
theorem readReport_sent (fits : state.Fits) :
    readReport (sent state touchTimestamp counter) = state.reading := by
  obtain ⟨gyro, accel⟩ := sensor_sent state touchTimestamp counter
  ext1
  · funext coordinate
    exact sticks_sent state touchTimestamp counter coordinate
  · funext button
    exact button_sent state touchTimestamp counter button
  · exact direction_sent state touchTimestamp counter
  · funext side
    exact trigger_sent state touchTimestamp counter fits side
  · funext side
    exact triggerLevel_sent state touchTimestamp counter side
  · exact word_low_high state.sensorTimestamp
  · exact gyro
  · exact accel
  · exact guide_sent state touchTimestamp counter 1 (by omega)
  · funext slot
    exact touch_sent state touchTimestamp counter fits slot

end

/-! ## Every state fits -/

theorem State.default_fits : State.default.Fits where
  sixth := rfl
  seventh := rfl
  touches := fun slot => by
    match slot with
    | 0 => exact ⟨by decide, by decide, by decide⟩
    | 1 => exact ⟨by decide, by decide, by decide⟩

/-- What every change keeps: the report is that of the state, and the state fits it. -/
structure DualShock4.Sound (gamepad : DualShock4) : Prop where
  report : gamepad.report = gamepad.state.usbReport gamepad.touchTimestamp
  fits : gamepad.state.Fits

theorem sound_new : DualShock4.Sound .new := ⟨rfl, State.default_fits⟩

theorem sound_update (gamepad : DualShock4) {change : State → State}
    (fits : (change gamepad.state).Fits) : (gamepad.update change).Sound := ⟨rfl, fits⟩

/-- A button of the word is none of the two bits that the triggers take. -/
theorem sound_setBit {gamepad : DualShock4} (sound : gamepad.Sound) {place : UInt16}
    (sixth : (1 <<< place : UInt16).toBitVec.getLsbD 6 = false)
    (seventh : (1 <<< place : UInt16).toBitVec.getLsbD 7 = false) (pressed : Bool) :
    (gamepad.setBit place pressed).Sound := by
  apply sound_update
  obtain ⟨sixthBefore, seventhBefore, touches⟩ := sound.fits
  cases pressed with
  | true =>
    constructor
    · simp only [if_pos, UInt16.toBitVec_or, BitVec.getLsbD_or, sixthBefore, sixth, Bool.or_self]
    · simp only [if_pos, UInt16.toBitVec_or, BitVec.getLsbD_or, seventhBefore, seventh,
        Bool.or_self]
    · exact touches
  | false =>
    constructor
    · simp only [Bool.false_eq_true, if_false, UInt16.toBitVec_and, BitVec.getLsbD_and,
        sixthBefore, Bool.false_and]
    · simp only [Bool.false_eq_true, if_false, UInt16.toBitVec_and, BitVec.getLsbD_and,
        seventhBefore, Bool.false_and]
    · exact touches

/-- A change of other fields. -/
theorem sound_same {gamepad : DualShock4} (sound : gamepad.Sound) {change : State → State}
    (buttons : (change gamepad.state).buttons = gamepad.state.buttons)
    (touches : (change gamepad.state).touches = gamepad.state.touches) :
    (gamepad.update change).Sound := by
  apply sound_update
  constructor
  · rw [buttons]
    exact sound.fits.sixth
  · rw [buttons]
    exact sound.fits.seventh
  · rw [touches]
    exact sound.fits.touches

theorem sound_emitButton {gamepad : DualShock4} (sound : gamepad.Sound) (button : GamepadButton)
    (pressed : Bool) : (gamepad.emitButton button pressed).Sound := by
  cases button with
  | leftTrigger | rightTrigger | dpadUp | dpadDown | dpadLeft | dpadRight =>
    unfold DualShock4.emitButton
    apply sound_same sound <;> rfl
  | paddleLeftUpper | paddleLeftLower | paddleRightUpper | paddleRightLower => exact sound
  | _ => exact sound_setBit sound rfl rfl pressed

section

variable {F : Type} [Scalar F] [RoundedScalar F]

open RoundedScalar

variable (F) in
/-- A coordinate between zero and two, scaled to an extent and rounded after each step. -/
noncomputable def scaled (extent : ℕ) (value : ℝ) : ℝ := rounded F (rounded F (value * (1 / 2)) * extent)

theorem scaled_mono (extent : ℕ) : Monotone (scaled F extent) := by
  intro left right le
  have halved : rounded F (left * (1 / 2)) ≤ rounded F (right * (1 / 2)) :=
    rounded_mono (by linarith)
  exact rounded_mono (mul_le_mul_of_nonneg_right halved (Nat.cast_nonneg extent))

/-- A scaled coordinate does not exceed the extent. -/
theorem denotes_scaled (extent : ℕ) (small : extent ≤ 4095) {sum : F} {value : ℝ}
    (denotes : Denotes sum value) (nonneg : 0 ≤ value) (le : value ≤ 2) :
    Denotes (sum * 0.5 * OfScientific.ofScientific (extent * 10) true 1) (scaled F extent value) ∧
      0 ≤ scaled F extent value ∧ scaled F extent value ≤ extent := by
  have cast : (extent : ℝ) ≤ 4095 := by exact_mod_cast small
  have bounded : extent ≤ exactBound := small.trans (by decide)
  have halvedBounds := rounded_between (F := F) 0 1 (value * (1 / 2))
    (by push_cast; linarith) (by push_cast; linarith) (by decide) (by decide)
  push_cast at halvedBounds
  obtain ⟨halvedNonneg, halvedLe⟩ := halvedBounds
  have product : rounded F (value * (1 / 2)) * extent ≤ extent :=
    mul_le_of_le_one_left (Nat.cast_nonneg extent) halvedLe
  have productNonneg : 0 ≤ rounded F (value * (1 / 2)) * extent :=
    mul_nonneg halvedNonneg (Nat.cast_nonneg extent)
  have halved := denotes_mul denotes denotes_half (by
    rw [abs_of_nonneg (by linarith)]
    norm_num [largest]
    linarith)
  have whole := denotes_mul halved (denotes_integer extent bounded) (by
    rw [abs_of_nonneg productNonneg]
    norm_num [largest]
    linarith)
  have bounds := rounded_between (F := F) 0 extent _ (by push_cast; exact productNonneg)
    (by push_cast; exact product) (by decide) (by simpa using bounded)
  push_cast at bounds
  exact ⟨whole, bounds⟩

/-- The word that a scaled coordinate is stored in. -/
theorem toU16_scaled (extent : ℕ) (small : extent ≤ 4095) {sum : F} {value : ℝ}
    (denotes : Denotes sum value) (nonneg : 0 ≤ value) (le : value ≤ 2) :
    ((DualShock4.toU16 (Scalar.round (sum * 0.5 *
        OfScientific.ofScientific (extent * 10) true 1))).toNat : ℤ) =
        round (scaled F extent value) ∧
      0 ≤ round (scaled F extent value) ∧ round (scaled F extent value) ≤ extent := by
  obtain ⟨scaledDenotes, scaledNonneg, scaledLe⟩ := denotes_scaled extent small denotes nonneg le
  have low : 0 ≤ round (scaled F extent value) := by
    rw [round_eq]
    exact Int.floor_nonneg.mpr (by linarith)
  have high : round (scaled F extent value) ≤ extent := by
    rw [round_eq]
    apply Int.lt_add_one_iff.mp
    apply Int.floor_lt.mpr
    push_cast
    linarith
  have cast := toInt_eq (denotes_round scaledDenotes scaledNonneg)
  rw [truncate_intCast] at cast
  refine ⟨?_, low, high⟩
  rw [DualShock4.toU16, cast, UInt16.toNat_ofNat']
  omega

/-- Both sums that a coordinate is scaled from lie between zero and two. -/
theorem denotes_sums {coordinate : F} {value : ℝ} (denotes : Denotes coordinate value) :
    let clamped := min (max value (-1)) 1
    Denotes (clamp coordinate (-1.0) 1.0 + 1.0) (rounded F (clamped + 1)) ∧
      Denotes (1.0 - clamp coordinate (-1.0) 1.0) (rounded F (1 - clamped)) ∧
      (0 ≤ rounded F (clamped + 1) ∧ rounded F (clamped + 1) ≤ 2) ∧
      0 ≤ rounded F (1 - clamped) ∧ rounded F (1 - clamped) ≤ 2 := by
  intro clamped
  have low : -1 ≤ clamped := le_min (le_max_right _ _) (by norm_num)
  have high : clamped ≤ 1 := min_le_right _ _
  have inside := denotes_clamp denotes (denotes_neg denotes_one) denotes_one
  have upper := rounded_between (F := F) 0 2 (clamped + 1)
    (by push_cast; linarith) (by push_cast; linarith) (by decide) (by decide)
  have lower := rounded_between (F := F) 0 2 (1 - clamped)
    (by push_cast; linarith) (by push_cast; linarith) (by decide) (by decide)
  push_cast at upper lower
  refine ⟨denotes_add inside denotes_one ?_, denotes_sub denotes_one inside ?_, upper, lower⟩
  · rw [abs_of_nonneg (by linarith)]
    norm_num [largest]
    linarith
  · rw [abs_of_nonneg (by linarith)]
    norm_num [largest]
    linarith

theorem nextTouch_fits {touch : Touch} (fits : State.Touch.Fits touch) {pad : TouchpadState F}
    (xFinite : Scalar.isFinite pad.position.1 = true)
    (yFinite : Scalar.isFinite pad.position.2 = true) :
    State.Touch.Fits (DualShock4.nextTouch touch pad) := by
  obtain ⟨x, xDenotes⟩ := exists_denotes _ xFinite
  obtain ⟨y, yDenotes⟩ := exists_denotes _ yFinite
  obtain ⟨right, _, rightBounds, _⟩ := denotes_sums xDenotes
  obtain ⟨_, lower, _, lowerBounds⟩ := denotes_sums yDenotes
  constructor
  · show UInt8.toNat (if _ then _ else _) < 128
    split
    · rw [UInt8.toNat_and]
      exact Nat.and_lt_two_pow _ (n := 7) (by decide)
    · exact fits.id
  · obtain ⟨stored, _, small⟩ :=
      toU16_scaled 1919 (by decide) right rightBounds.1 rightBounds.2
    have equal : ((DualShock4.nextTouch touch pad).x.toNat : ℤ) = _ := stored
    omega
  · obtain ⟨stored, _, small⟩ :=
      toU16_scaled 941 (by decide) lower lowerBounds.1 lowerBounds.2
    have equal : ((DualShock4.nextTouch touch pad).y.toNat : ℤ) = _ := stored
    omega

theorem sound_updateSource {gamepad : DualShock4} (sound : gamepad.Sound)
    {state : ControllerState F} {touchpad : Option Trackpad}
    (finite : Change.Fits (.source state touchpad)) :
    (gamepad.updateSource state touchpad).Sound := by
  obtain ⟨⟨leftX, leftY⟩, rightX, rightY⟩ := finite
  have touches {pad : TouchpadState F} (xFinite : Scalar.isFinite pad.position.1 = true)
      (yFinite : Scalar.isFinite pad.position.2 = true) (slot : Fin 2) :
      State.Touch.Fits ((gamepad.state.touches.set 0
        (DualShock4.nextTouch gamepad.state.touches[0] pad)).get slot) := by
    obtain rfl | rfl := zero_or_one slot
    · have read : (gamepad.state.touches.set 0
          (DualShock4.nextTouch gamepad.state.touches[0] pad)).get 0 =
          DualShock4.nextTouch gamepad.state.touches[0] pad := Vector.getElem_set_self (by decide)
      rw [read]
      exact nextTouch_fits (sound.fits.touches 0) xFinite yFinite
    · have read : (gamepad.state.touches.set 0
          (DualShock4.nextTouch gamepad.state.touches[0] pad)).get 1 =
          gamepad.state.touches.get 1 := Vector.getElem_set_ne (by decide) (by decide) (by decide)
      rw [read]
      exact sound.fits.touches 1
  unfold DualShock4.updateSource
  apply sound_update
  cases touchpad with
  | some touchpad =>
    cases touchpad with
    | left => exact ⟨sound.fits.sixth, sound.fits.seventh, touches leftX leftY⟩
    | right => exact ⟨sound.fits.sixth, sound.fits.seventh, touches rightX rightY⟩
  -- the pad that is nowhere touched
  | none => exact ⟨sound.fits.sixth, sound.fits.seventh,
      touches LawfulScalar.isFinite_zero LawfulScalar.isFinite_zero⟩

theorem sound_apply {gamepad : DualShock4} (sound : gamepad.Sound) {change : Change F}
    (fits : change.Fits) : (change.apply gamepad).Sound := by
  cases change with
  | button button pressed => exact sound_emitButton sound button pressed
  | axis axis value =>
    unfold Change.apply DualShock4.emitAxis
    cases axis <;> apply sound_same sound <;> rfl
  | source state touchpad => exact sound_updateSource sound fits
  | battery percent =>
    unfold Change.apply DualShock4.setBattery
    apply sound_same sound <;> rfl

/-- The report and the state agree after any changes. -/
theorem sound_changed {changes : List (Change F)} (fits : ∀ change ∈ changes, change.Fits) :
    (DualShock4.changed changes).Sound := by
  have kept (gamepad : DualShock4) (sound : gamepad.Sound) :
      (changes.foldl Change.apply gamepad).Sound := by
    induction changes generalizing gamepad with
    | nil => exact sound
    | cons change changes inductionHypothesis =>
      obtain ⟨first, others⟩ := List.forall_mem_cons.mp fits
      exact inductionHypothesis others _ (sound_apply sound first)
  exact kept _ sound_new

end

end Scd.Daemon.DualShock

/-! ## The counter -/

namespace Scd.Daemon.Usbip

open Scd.Core Scd.Foundation
open DualShock (bit counterOf readReport sent DualShock4 Change)

/-- What a connection begins with. -/
def Session.start : Session := ⟨0, (0, 0), 0⟩

/-- A request that is answered with an input report. -/
def Request.IsInput (request : Request) : Prop :=
  beWord request.header 0 = cmdSubmit ∧ beWord request.header 8 = devId ∧
    (beWord request.header 32 = 0 ∨ beWord request.header 32 = 0xffffffff) ∧
    request.endpoint = 4 ∧ request.direction = 1

instance : DecidablePred Request.IsInput := fun _ =>
  inferInstanceAs (Decidable (_ ∧ _ ∧ (_ ∨ _) ∧ _ ∧ _))

/-- What a request for an input report is answered with. -/
def inputReply (request : Request) (report : Vector UInt8 64) : List UInt8 :=
  let data := report.toList.take request.length
  writeReply retSubmit (readHeader request.header) data.length data

theorem respond_input (report : Vector UInt8 64) (session : Session) {request : Request}
    (input : request.IsInput) :
    respond report session request =
      ({ session with counter := (session.counter + 1) &&& 0x3f, inputs := session.inputs + 1 },
        inputReply request (stampInput report session.counter)) := by
  obtain ⟨command, devid, packets, endpoint, direction⟩ := input
  have submitted : ¬ beWord request.header 0 = cmdUnlink := by
    rw [command]
    decide
  have accepted : ¬ ((readHeader request.header).devid ≠ devId ∨
      ¬ (beWord request.header 32 = 0 ∨ beWord request.header 32 = 0xffffffff)) := by
    intro refused
    cases refused with
    | inl other => exact other devid
    | inr other => exact other packets
  have interrupt : (readHeader request.header).endpoint = 4 ∧
      (readHeader request.header).direction = 1 := ⟨endpoint, direction⟩
  have uncontrolled : ¬ (readHeader request.header).endpoint = 0 := by
    rw [interrupt.1]
    decide
  simp only [respond, if_neg submitted, submit, if_neg accepted, if_neg uncontrolled,
    if_pos interrupt, inputReply]

/-- No other request changes the counter. -/
theorem respond_other (report : Vector UInt8 64) (session : Session) {request : Request}
    (other : ¬ request.IsInput) :
    (respond report session request).1.counter = session.counter := by
  unfold respond submit
  by_cases unlink : beWord request.header 0 = cmdUnlink
  · rw [if_pos unlink]
  rw [if_neg unlink]
  dsimp only
  by_cases refused : (readHeader request.header).devid ≠ devId ∨
      ¬ (beWord request.header 32 = 0 ∨ beWord request.header 32 = 0xffffffff)
  · rw [if_pos refused]
  rw [if_neg refused]
  by_cases controlled : (readHeader request.header).endpoint = 0
  · rw [if_pos controlled]
    split <;> rfl
  rw [if_neg controlled]
  by_cases interrupt : (readHeader request.header).endpoint = 4 ∧
      (readHeader request.header).direction = 1
  · obtain ⟨devid, packets⟩ := not_or.mp refused
    have input : request.IsInput :=
      ⟨request.command.resolve_right unlink, not_not.mp devid, not_not.mp packets, interrupt⟩
    exact absurd input other
  rw [if_neg interrupt]
  split <;> rfl

section

variable (reports : Nat → Vector UInt8 64)

/-- The session after some requests. -/
def served (session : Session) (requests : List Request) : Session :=
  requests.foldl (fun session request => (respond (reports session.inputs) session request).1)
    session

/-- The counter counts the input reports. -/
theorem counter_served (session : Session) (requests : List Request) :
    (served reports session requests).counter.toNat % 64 =
      (session.counter.toNat + requests.countP (·.IsInput)) % 64 := by
  induction requests generalizing session with
  | nil => simp [served]
  | cons request requests inductionHypothesis =>
    have step := inductionHypothesis (respond (reports session.inputs) session request).1
    have later : served reports session (request :: requests) =
        served reports (respond (reports session.inputs) session request).1 requests := rfl
    rw [later, step]
    by_cases input : request.IsInput
    · have next : ((session.counter + 1) &&& 0x3f).toNat = (session.counter.toNat + 1) % 64 := by
        rw [UInt8.toNat_and]
        refine (Nat.and_two_pow_sub_one_eq_mod _ 6).trans ?_
        rw [UInt8.toNat_add]
        exact Nat.mod_mod_of_dvd _ (by decide)
      rw [respond_input _ _ input, List.countP_cons_of_pos (by simpa using input)]
      simp only [next]
      omega
    · rw [respond_other _ _ input, List.countP_cons_of_neg (by simpa using input)]

/-- A stream of requests, each with its reply, and the service of what follows. -/
theorem run_served (session : Session) (requests : List Request) (tail : List UInt8) :
    ∃ replies, List.Forall₂ Answers requests replies ∧
      (serve reports).run session (requests.flatMap Request.bytes ++ tail) =
        (replies.flatten ++ ((serve reports).run (served reports session requests) tail).1,
          ((serve reports).run (served reports session requests) tail).2) := by
  induction requests generalizing session with
  | nil => exact ⟨[], .nil, rfl⟩
  | cons request requests inductionHypothesis =>
    have turned := turn_request reports session request (requests.flatMap Request.bytes ++ tail)
    obtain ⟨replies, answered, ran⟩ :=
      inductionHypothesis (respond (reports session.inputs) session request).1
    have answer := respond_answers (reports session.inputs) session request
    refine ⟨_ :: replies, .cons answer answered, ?_⟩
    rw [List.flatMap_cons, List.append_assoc, Server.run_next turned, ran, List.flatten_cons,
      List.append_assoc]
    rfl

end

/-! ## The input reports of a connection -/

section

variable {F : Type} [Scalar F] [RoundedScalar F]

/-- What a report says of the gamepad whose report it is, and of the counter. -/
structure Tells (report : Vector UInt8 64) (gamepad : DualShock4) (count : Nat) : Prop where
  reading : readReport report = gamepad.state.reading
  counter : counterOf report = count % 64
  /-- The counter only changes the upper six bits of byte 7. -/
  others : ∀ index : Fin 64, index ≠ 7 → report.get index = gamepad.report.get index
  lower : ∀ position < 2, bit (report.get 7) position = bit (gamepad.report.get 7) position

theorem tells_sent {gamepad : DualShock4} (sound : gamepad.Sound) (counter : UInt8) :
    Tells (stampInput gamepad.report counter) gamepad counter.toNat := by
  rw [sound.report]
  constructor
  · exact DualShock.readReport_sent _ _ counter sound.fits
  · exact DualShock.counter_sent _ _ counter
  · intro index other
    rw [sound.report]
    exact Vector.getElem_set_ne (by decide) index.isLt fun same => other (Fin.ext same.symm)
  · intro position lt
    rw [sound.report]
    have stamped : (stampInput (gamepad.state.usbReport gamepad.touchTimestamp) counter).get 7 =
        (((gamepad.state.usbReport gamepad.touchTimestamp).get 7 &&& (0x03 : UInt8)) |||
          ((counter &&& 0x3f) <<< (2 : UInt8))) := rfl
    rw [stamped]
    unfold bit
    interval_cases position <;> simp

/-- `histories` are the calls that have been made when an input report is sent. -/
theorem input_reports_tell (histories : Nat → List (Change F))
    (fits : ∀ index, ∀ change ∈ histories index, change.Fits) (requests : List Request)
    {request : Request} (input : request.IsInput) (rest : List UInt8) :
    let reports := fun index => (DualShock4.changed (histories index)).report
    let session := served reports .start requests
    let next := served reports .start (requests ++ [request])
    ∃ replies report, List.Forall₂ Answers requests replies ∧
      Tells report (.changed (histories session.inputs)) (requests.countP (·.IsInput)) ∧
      (serve reports).run .start (requests.flatMap Request.bytes ++ (request.bytes ++ rest)) =
        (replies.flatten ++ (inputReply request report ++ ((serve reports).run next rest).1),
          ((serve reports).run next rest).2) := by
  intro reports session next
  obtain ⟨replies, answered, ran⟩ := run_served reports .start requests (request.bytes ++ rest)
  have sound := DualShock.sound_changed (fits session.inputs)
  have counted := counter_served reports .start requests
  have turned := turn_request reports session request rest
  have reached : (respond (reports session.inputs) session request).1 = next := by
    simp [next, served, session]
  rw [reached, respond_input _ _ input] at turned
  refine ⟨replies, stampInput (reports session.inputs) session.counter, answered, ?_, ?_⟩
  · have tells := tells_sent sound session.counter
    obtain ⟨reading, counter, others, lower⟩ := tells
    have started : (Session.start.counter.toNat + requests.countP (·.IsInput)) =
        requests.countP (·.IsInput) := Nat.zero_add _
    rw [started] at counted
    exact ⟨reading, counter.trans (by simpa using counted), others, lower⟩
  · rw [ran, Server.run_next turned]

theorem input_reports_tell_south :
    let gamepad := DualShock4.changed [(.button .south true : Change ℚ)]
    let reports := fun _ : Nat => gamepad.report
    let next := served reports .start ([inputRequest] ++ [inputRequest])
    ∃ replies report, List.Forall₂ Answers [inputRequest] replies ∧
      Tells report gamepad ([inputRequest].countP (·.IsInput)) ∧
      (serve reports).run .start
          ([inputRequest].flatMap Request.bytes ++ (inputRequest.bytes ++ [])) =
        (replies.flatten ++ (inputReply inputRequest report ++ ((serve reports).run next []).1),
          ((serve reports).run next []).2) :=
  input_reports_tell (fun _ => [(.button .south true : Change ℚ)])
    (fun _ _ member => by
      rw [List.mem_singleton.mp member]
      trivial)
    [inputRequest] ⟨rfl, rfl, .inl rfl, rfl, rfl⟩ []

end

end Scd.Daemon.Usbip
