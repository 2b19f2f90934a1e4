import Scd.Core.Config
import Scd.Core.Report
import Scd.Daemon.Mapper
import Scd.Foundation.Index

/-! # The wired DualShock 4

`gamepad/dualshock/mod.rs`: the state that the outputs of the mapper and the reports of the
controller are gathered in, and the 64-byte input report that is made of it.  The report of
the transport is a field of `DualShock4`.
-/

namespace Scd.Daemon.DualShock

open Scd.Core

/-! ## Descriptor and feature reports -/

/-- hid-tools PS4ControllerUSB descriptor. -/
def reportDescriptor : List UInt8 :=
  [0x05, 0x01, 0x09, 0x05, 0xa1, 0x01, 0x85, 0x01, 0x09, 0x30, 0x09, 0x31, 0x09, 0x32, 0x09, 0x35,
   0x15, 0x00, 0x26, 0xff, 0x00, 0x75, 0x08, 0x95, 0x04, 0x81, 0x02, 0x09, 0x39, 0x15, 0x00, 0x25,
   0x07, 0x35, 0x00, 0x46, 0x3b, 0x01, 0x65, 0x14, 0x75, 0x04, 0x95, 0x01, 0x81, 0x42, 0x65, 0x00,
   0x05, 0x09, 0x19, 0x01, 0x29, 0x0e, 0x15, 0x00, 0x25, 0x01, 0x75, 0x01, 0x95, 0x0e, 0x81, 0x02,
   0x06, 0x00, 0xff, 0x09, 0x20, 0x75, 0x06, 0x95, 0x01, 0x15, 0x00, 0x25, 0x7f, 0x81, 0x02, 0x05,
   0x01, 0x09, 0x33, 0x09, 0x34, 0x15, 0x00, 0x26, 0xff, 0x00, 0x75, 0x08, 0x95, 0x02, 0x81, 0x02,
   0x06, 0x00, 0xff, 0x09, 0x21, 0x95, 0x36, 0x81, 0x02, 0x85, 0x05, 0x09, 0x22, 0x95, 0x1f, 0x91,
   0x02, 0x85, 0x04, 0x09, 0x23, 0x95, 0x24, 0xb1, 0x02, 0x85, 0x02, 0x09, 0x24, 0x95, 0x24, 0xb1,
   0x02, 0x85, 0x08, 0x09, 0x25, 0x95, 0x03, 0xb1, 0x02, 0x85, 0x10, 0x09, 0x26, 0x95, 0x04, 0xb1,
   0x02, 0x85, 0x11, 0x09, 0x27, 0x95, 0x02, 0xb1, 0x02, 0x85, 0x12, 0x06, 0x02, 0xff, 0x09, 0x21,
   0x95, 0x0f, 0xb1, 0x02, 0x85, 0x13, 0x09, 0x22, 0x95, 0x16, 0xb1, 0x02, 0x85, 0x14, 0x06, 0x05,
   0xff, 0x09, 0x20, 0x95, 0x10, 0xb1, 0x02, 0x85, 0x15, 0x09, 0x21, 0x95, 0x2c, 0xb1, 0x02, 0x06,
   0x80, 0xff, 0x85, 0x80, 0x09, 0x20, 0x95, 0x06, 0xb1, 0x02, 0x85, 0x81, 0x09, 0x21, 0x95, 0x06,
   0xb1, 0x02, 0x85, 0x82, 0x09, 0x22, 0x95, 0x05, 0xb1, 0x02, 0x85, 0x83, 0x09, 0x23, 0x95, 0x01,
   0xb1, 0x02, 0x85, 0x84, 0x09, 0x24, 0x95, 0x04, 0xb1, 0x02, 0x85, 0x85, 0x09, 0x25, 0x95, 0x06,
   0xb1, 0x02, 0x85, 0x86, 0x09, 0x26, 0x95, 0x06, 0xb1, 0x02, 0x85, 0x87, 0x09, 0x27, 0x95, 0x23,
   0xb1, 0x02, 0x85, 0x88, 0x09, 0x28, 0x95, 0x3f, 0xb1, 0x02, 0x85, 0x89, 0x09, 0x29, 0x95, 0x02,
   0xb1, 0x02, 0x85, 0x90, 0x09, 0x30, 0x95, 0x05, 0xb1, 0x02, 0x85, 0x91, 0x09, 0x31, 0x95, 0x03,
   0xb1, 0x02, 0x85, 0x92, 0x09, 0x32, 0x95, 0x03, 0xb1, 0x02, 0x85, 0x93, 0x09, 0x33, 0x95, 0x0c,
   0xb1, 0x02, 0x85, 0x94, 0x09, 0x34, 0x95, 0x3f, 0xb1, 0x02, 0x85, 0xa0, 0x09, 0x40, 0x95, 0x06,
   0xb1, 0x02, 0x85, 0xa1, 0x09, 0x41, 0x95, 0x01, 0xb1, 0x02, 0x85, 0xa2, 0x09, 0x42, 0x95, 0x01,
   0xb1, 0x02, 0x85, 0xa3, 0x09, 0x43, 0x95, 0x30, 0xb1, 0x02, 0x85, 0xa4, 0x09, 0x44, 0x95, 0x0d,
   0xb1, 0x02, 0x85, 0xf0, 0x09, 0x47, 0x95, 0x3f, 0xb1, 0x02, 0x85, 0xf1, 0x09, 0x48, 0x95, 0x3f,
   0xb1, 0x02, 0x85, 0xf2, 0x09, 0x49, 0x95, 0x0f, 0xb1, 0x02, 0x85, 0xa7, 0x09, 0x4a, 0x95, 0x01,
   0xb1, 0x02, 0x85, 0xa8, 0x09, 0x4b, 0x95, 0x01, 0xb1, 0x02, 0x85, 0xa9, 0x09, 0x4c, 0x95, 0x08,
   0xb1, 0x02, 0x85, 0xaa, 0x09, 0x4e, 0x95, 0x01, 0xb1, 0x02, 0x85, 0xab, 0x09, 0x4f, 0x95, 0x39,
   0xb1, 0x02, 0x85, 0xac, 0x09, 0x50, 0x95, 0x39, 0xb1, 0x02, 0x85, 0xad, 0x09, 0x51, 0x95, 0x0b,
   0xb1, 0x02, 0x85, 0xae, 0x09, 0x52, 0x95, 0x01, 0xb1, 0x02, 0x85, 0xaf, 0x09, 0x53, 0x95, 0x02,
   0xb1, 0x02, 0x85, 0xb0, 0x09, 0x54, 0x95, 0x3f, 0xb1, 0x02, 0x85, 0xe0, 0x09, 0x57, 0x95, 0x02,
   0xb1, 0x02, 0x85, 0xb3, 0x09, 0x55, 0x95, 0x3f, 0xb1, 0x02, 0x85, 0xb4, 0x09, 0x55, 0x95, 0x3f,
   0xb1, 0x02, 0x85, 0xb5, 0x09, 0x56, 0x95, 0x3f, 0xb1, 0x02, 0x85, 0xd0, 0x09, 0x58, 0x95, 0x3f,
   0xb1, 0x02, 0x85, 0xd4, 0x09, 0x59, 0x95, 0x3f, 0xb1, 0x02, 0xc0]

theorem length_reportDescriptor : reportDescriptor.length = 507 := by
  decide +kernel

def calibration : List UInt8 :=
  [0x02, 0x1e, 0x00, 0x05, 0x00, 0xe2, 0xff, 0xf2, 0x22, 0x4f, 0xdd, 0xbe, 0x22, 0x4d, 0xdd, 0x8d,
   0x22, 0x39, 0xdd, 0x1c, 0x02, 0x1c, 0x02, 0xe3, 0x1f, 0x8b, 0xdf, 0x8c, 0x1e, 0xb4, 0xde, 0x30,
   0x20, 0x71, 0xe0, 0x10, 0x00]

def pairing : List UInt8 :=
  [0x12, 0x8b, 0x09, 0x07, 0x6d, 0x66, 0x1c, 0, 0, 0, 0, 0, 0, 0, 0, 0]

def firmware : List UInt8 :=
  [0xa3, 0x41, 0x70, 0x72, 0x20, 0x20, 0x38, 0x20, 0x32, 0x30, 0x31, 0x34, 0, 0, 0, 0, 0, 0x30,
   0x39, 0x3a, 0x34, 0x36, 0x3a, 0x30, 0x36, 0, 0, 0, 0, 0, 0, 0, 0, 0, 1, 0, 0x43, 3, 0, 0, 0,
   0x51, 0, 5, 0, 0, 0x80, 3, 0]

/-! ## The state -/

structure Touch where
  active : Bool := false
  id : UInt8 := 0
  x : UInt16 := 0
  y : UInt16 := 0
  deriving DecidableEq, Repr

structure State where
  sticks : Vector UInt8 4
  triggers : Vector UInt8 2
  triggerButtons : Vector Bool 2
  buttons : UInt16
  /-- Up, down, left and right. -/
  dpad : Vector Bool 4
  gyro : Int16 × Int16 × Int16
  accel : Int16 × Int16 × Int16
  sensorTimestamp : UInt16
  batteryPercent : UInt8
  touchpadClicked : Bool
  touches : Vector Touch 2
  deriving DecidableEq, Repr

def State.default : State where
  sticks := .replicate 4 128
  triggers := .replicate 2 0
  triggerButtons := .replicate 2 false
  buttons := 0
  dpad := .replicate 4 false
  gyro := (0, 0, 0)
  accel := (0, 0, 8192)
  sensorTimestamp := 0
  batteryPercent := 50
  touchpadClicked := false
  touches := .replicate 2 {}

/-! ## Reports -/

namespace State

/-- `i8::from(positive) - i8::from(negative)`. -/
def difference (positive negative : Bool) : Int :=
  (if positive then 1 else 0) - (if negative then 1 else 0)

/-- The direction of the D-pad, clockwise from up; 8 is released. -/
def hat (state : State) : UInt8 :=
  -- to the right and downwards are positive
  match difference state.dpad[3] state.dpad[2], difference state.dpad[1] state.dpad[0] with
  | 0, -1 => 0
  | 1, -1 => 1
  | 1, 0 => 2
  | 1, 1 => 3
  | 0, 1 => 4
  | -1, 1 => 5
  | -1, 0 => 6
  | -1, -1 => 7
  | _, _ => 8

/-- The level of a trigger: its button counts as pulling it through. -/
def triggerLevel (state : State) (side : Fin 2) : UInt8 :=
  if state.triggerButtons[side] then 255 else state.triggers[side]

/-- The digital bit of a trigger. -/
def triggerBit (state : State) (side : Fin 2) : UInt8 :=
  if state.triggerButtons[side] || state.triggers[side] != 0 then 1 <<< (2 + side.val.toUInt8)
  else 0

/-- The two bytes of a word, as `to_le_bytes` gives them. -/
def low (value : UInt16) : UInt8 := value.toUInt8

def high (value : UInt16) : UInt8 := (value >>> 8).toUInt8

def clickedBit (state : State) : UInt8 := if state.touchpadClicked then 1 else 0

def batteryByte (state : State) : UInt8 :=
  0x10 ||| (if state.batteryPercent ≥ 100 then 11 else state.batteryPercent / 10)

def commonReport (state : State) : Vector UInt8 32 :=
  let word := fun value : Int16 => value.toUInt16
  #v[state.sticks[0], state.sticks[1], state.sticks[2], state.sticks[3],
    state.hat ||| ((state.buttons.toUInt8 &&& 0x0f) <<< 4),
    (state.buttons >>> 4).toUInt8 ||| state.triggerBit 0 ||| state.triggerBit 1,
    ((state.buttons >>> 12) &&& 1).toUInt8 ||| (state.clickedBit <<< 1),
    state.triggerLevel 0, state.triggerLevel 1,
    low state.sensorTimestamp, high state.sensorTimestamp, 25,
    low (word state.gyro.1), high (word state.gyro.1),
    low (word state.gyro.2.1), high (word state.gyro.2.1),
    low (word state.gyro.2.2), high (word state.gyro.2.2),
    low (word state.accel.1), high (word state.accel.1),
    low (word state.accel.2.1), high (word state.accel.2.1),
    low (word state.accel.2.2), high (word state.accel.2.2),
    0, 0, 0, 0, 0, state.batteryByte, 0, 0]

/-- The identifier of a touch, with the highest bit set when nothing touches. -/
def touchByte (touch : Touch) : UInt8 := touch.id ||| (if touch.active then 0 else 0x80)

/-- The byte that the two coordinates of a touch share. -/
def touchMiddle (touch : Touch) : UInt8 :=
  (high touch.x &&& (0x0f : UInt8)) ||| ((touch.y.toUInt8 &&& (0x0f : UInt8)) <<< (4 : UInt8))

def usbReport (state : State) (touchTimestamp : UInt8) : Vector UInt8 64 :=
  let zero : UInt8 := 0
  let common := state.commonReport
  let first := state.touches[0]
  let second := state.touches[1]
  #v[0x01,
    common[0], common[1], common[2], common[3], common[4], common[5], common[6], common[7],
    common[8], common[9], common[10], common[11], common[12], common[13], common[14], common[15],
    common[16], common[17], common[18], common[19], common[20], common[21], common[22], common[23],
    common[24], common[25], common[26], common[27], common[28], common[29], common[30], common[31],
    1, touchTimestamp,
    touchByte first, low first.x, touchMiddle first, (first.y >>> 4).toUInt8,
    touchByte second, low second.x, touchMiddle second, (second.y >>> 4).toUInt8,
    zero, zero, zero, zero, zero, zero, zero, zero, zero, zero, zero,
    zero, zero, zero, zero, zero, zero, zero, zero, zero, zero]

end State

/-! ## The gamepad -/

structure DualShock4 where
  /-- The report that the transport sends. -/
  report : Vector UInt8 64
  state : State
  touchTimestamp : UInt8
  reportedRumble : UInt16 × UInt16

namespace DualShock4

def new : DualShock4 where
  report := State.default.usbReport 0
  state := .default
  touchTimestamp := 0
  reportedRumble := (0, 0)

def updateReport (gamepad : DualShock4) : DualShock4 :=
  { gamepad with report := gamepad.state.usbReport gamepad.touchTimestamp }

/-- A change of the state, and the report of the changed state. -/
def update (gamepad : DualShock4) (change : State → State) : DualShock4 :=
  updateReport { gamepad with state := change gamepad.state }

def setDpad (gamepad : DualShock4) (direction : Fin 4) (pressed : Bool) : DualShock4 :=
  gamepad.update fun state => { state with dpad := state.dpad.set direction pressed }

def setTriggerButton (gamepad : DualShock4) (side : Fin 2) (pressed : Bool) : DualShock4 :=
  gamepad.update fun state =>
    { state with triggerButtons := state.triggerButtons.set side pressed }

/-- Sets or clears a bit of the button word. -/
def setBit (gamepad : DualShock4) (bit : UInt16) (pressed : Bool) : DualShock4 :=
  gamepad.update fun state =>
    { state with
      buttons := if pressed then state.buttons ||| 1 <<< bit else state.buttons &&& ~~~(1 <<< bit) }

def emitButton (gamepad : DualShock4) (button : GamepadButton) (pressed : Bool) : DualShock4 :=
  match button with
  | .west => gamepad.setBit 0 pressed
  | .south => gamepad.setBit 1 pressed
  | .east => gamepad.setBit 2 pressed
  | .north => gamepad.setBit 3 pressed
  | .leftBumper => gamepad.setBit 4 pressed
  | .rightBumper => gamepad.setBit 5 pressed
  | .select => gamepad.setBit 8 pressed
  | .start => gamepad.setBit 9 pressed
  | .leftStick => gamepad.setBit 10 pressed
  | .rightStick => gamepad.setBit 11 pressed
  | .guide => gamepad.setBit 12 pressed
  | .leftTrigger => gamepad.setTriggerButton 0 pressed
  | .rightTrigger => gamepad.setTriggerButton 1 pressed
  | .dpadUp => gamepad.setDpad 0 pressed
  | .dpadDown => gamepad.setDpad 1 pressed
  | .dpadLeft => gamepad.setDpad 2 pressed
  | .dpadRight => gamepad.setDpad 3 pressed
  -- the gamepad has no paddles
  | .paddleLeftUpper | .paddleLeftLower | .paddleRightUpper | .paddleRightLower => gamepad

/-- `poll_rumble`, with what the host has last asked of the transport. -/
def pollRumble (gamepad : DualShock4) (rumble : UInt16 × UInt16) :
    DualShock4 × Option (UInt16 × UInt16) :=
  if rumble = gamepad.reportedRumble then (gamepad, none)
  else ({ gamepad with reportedRumble := rumble }, some rumble)

def setBattery (gamepad : DualShock4) (percent : UInt8) : DualShock4 :=
  gamepad.update fun state => { state with batteryPercent := percent }

section

variable {F : Type} [Scalar F]

/-- The cast `as u8`, which saturates. -/
def toU8 (value : F) : UInt8 := .ofNat (min 255 (Scalar.toInt value).toNat)

/-- The cast `as u16`, which saturates. -/
def toU16 (value : F) : UInt16 := .ofNat (min 65535 (Scalar.toInt value).toNat)

/-- A trigger value as a byte. -/
def triggerByte (value : F) : UInt8 := toU8 (Scalar.round (clamp value 0.0 1.0 * 255.0))

/-- A stick coordinate as a byte. -/
def stickByte (value : F) : UInt8 := toU8 (Scalar.round ((clamp value (-1.0) 1.0 + 1.0) * 127.5))

def setTrigger (gamepad : DualShock4) (side : Fin 2) (value : F) : DualShock4 :=
  gamepad.update fun state =>
    { state with triggers := state.triggers.set side (triggerByte value) }

def setStick (gamepad : DualShock4) (coordinate : Fin 4) (value : F) : DualShock4 :=
  gamepad.update fun state =>
    { state with sticks := state.sticks.set coordinate (stickByte value) }

def emitAxis (gamepad : DualShock4) (axis : GamepadAxis) (value : F) : DualShock4 :=
  match axis with
  | .leftX => gamepad.setStick 0 value
  | .leftY => gamepad.setStick 1 value
  | .rightX => gamepad.setStick 2 value
  | .rightY => gamepad.setStick 3 value
  | .leftTrigger => gamepad.setTrigger 0 value
  | .rightTrigger => gamepad.setTrigger 1 value

/-- The touch of the pad: a new touch takes the next identifier. -/
def nextTouch (touch : Touch) (pad : TouchpadState F) : Touch where
  active := pad.touched
  id := if pad.touched && !touch.active then (touch.id + 1) &&& 0x7f else touch.id
  x := toU16 (Scalar.round ((clamp pad.position.1 (-1.0) 1.0 + 1.0) * 0.5 * 1919.0))
  y := toU16 (Scalar.round ((1.0 - clamp pad.position.2 (-1.0) 1.0) * 0.5 * 941.0))

/-- Half of an acceleration, towards zero. -/
def half (value : Int16) : Int16 := value / 2

def updateSource (gamepad : DualShock4) (state : ControllerState F) (touchpad : Option Trackpad) :
    DualShock4 :=
  let pad := match touchpad with
    | some .left => state.leftPad
    | some .right => state.rightPad
    | none => TouchpadState.default
  update
    { gamepad with
      touchTimestamp := (state.trackpadTimestampUs.getD state.imuTimestampUs / 1000).toUInt8 }
    fun before =>
      { before with
        gyro := state.gyroRaw
        accel := (half state.accel.1, half state.accel.2.1, half state.accel.2.2)
        sensorTimestamp := (state.imuTimestampUs.toUInt64 * 3 / 16).toUInt16
        touchpadClicked := pad.clicked
        -- one touch; the second is never used
        touches := before.touches.set 0 (nextTouch before.touches[0] pad) }

end

end DualShock4

end Scd.Daemon.DualShock
