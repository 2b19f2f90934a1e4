import Mathlib.Data.List.Basic
import Scd.Core.Scalar

/-! # The controller protocol

Buttons are the bits of a 32-bit word, of which the thirty lowest have a name.
-/

namespace Scd.Core

inductive Button where
  | a | b | x | y | qam | r3 | menu | r4 | r5 | rb
  | dpadDown | dpadRight | dpadLeft | dpadUp | view | l3 | steam | l4 | l5 | lb
  | rightStickTouch | rightPadTouch | rightPadClick | rightTriggerClick
  | leftStickTouch | leftPadTouch | leftPadClick | leftTriggerClick
  | rightGripTouch | leftGripTouch
  deriving DecidableEq, Repr

namespace Button

def all : List Button :=
  [.a, .b, .x, .y, .qam, .r3, .menu, .r4, .r5, .rb,
   .dpadDown, .dpadRight, .dpadLeft, .dpadUp, .view, .l3, .steam, .l4, .l5, .lb,
   .rightStickTouch, .rightPadTouch, .rightPadClick, .rightTriggerClick,
   .leftStickTouch, .leftPadTouch, .leftPadClick, .leftTriggerClick,
   .rightGripTouch, .leftGripTouch]

/-- The bit of a button, its place in `Button::ALL`. -/
def index : Button → Nat
  | .a => 0 | .b => 1 | .x => 2 | .y => 3 | .qam => 4 | .r3 => 5 | .menu => 6 | .r4 => 7
  | .r5 => 8 | .rb => 9 | .dpadDown => 10 | .dpadRight => 11 | .dpadLeft => 12
  | .dpadUp => 13 | .view => 14 | .l3 => 15 | .steam => 16 | .l4 => 17 | .l5 => 18
  | .lb => 19 | .rightStickTouch => 20 | .rightPadTouch => 21 | .rightPadClick => 22
  | .rightTriggerClick => 23 | .leftStickTouch => 24 | .leftPadTouch => 25
  | .leftPadClick => 26 | .leftTriggerClick => 27 | .rightGripTouch => 28
  | .leftGripTouch => 29

def mask (button : Button) : BitVec 32 := BitVec.twoPow 32 button.index

end Button

structure Buttons where
  bits : BitVec 32 := 0
  deriving DecidableEq, Repr

namespace Buttons

def contains (buttons : Buttons) (button : Button) : Bool := buttons.bits &&& button.mask != 0

def containsAll (buttons wanted : Buttons) : Bool := buttons.bits &&& wanted.bits == wanted.bits

def insert (buttons : Buttons) (button : Button) : Buttons := ⟨buttons.bits ||| button.mask⟩

def remove (buttons : Buttons) (button : Button) : Buttons := ⟨buttons.bits &&& ~~~button.mask⟩

def removeInactive (buttons active : Buttons) : Buttons := ⟨buttons.bits &&& active.bits⟩

/-- The buttons of a list, inserted one after the other. -/
def ofList (buttons : List Button) : Buttons := buttons.foldl insert {}

/-- Some button is in both sets: the `Button::ALL.iter().any` of the mapper. -/
def meets (left right : Buttons) : Bool :=
  Button.all.any fun button => left.contains button && right.contains button

end Buttons

inductive Trackpad where
  | left | right
  deriving DecidableEq, Repr

inductive StateFormat where
  | standard | ble | timestamp32Us
  deriving DecidableEq, Repr

inductive Haptic where
  | rumble (lowFrequency highFrequency : UInt16)
  | trackpadClick (trackpad : Trackpad) (gain : Int8)
  | pulse (onUs offUs repeats : UInt16)
  | tone (gain : Int8) (frequency durationMs : UInt16)
  | logSweep (gain : Int8) (durationMs startFrequency endFrequency : UInt16)
  | script (script : UInt8) (gain : Int8)
  deriving DecidableEq, Repr

section

variable (F : Type)

structure TouchpadState where
  touched : Bool
  clicked : Bool
  position : F × F

/-- One input report, decoded. -/
structure ControllerState where
  format : StateFormat
  buttons : Buttons
  triggers : F × F
  leftStick : F × F
  rightStick : F × F
  leftPad : TouchpadState F
  rightPad : TouchpadState F
  trackpadTimestampUs : Option UInt32
  imuTimestampUs : UInt32
  accel : Int16 × Int16 × Int16
  gyroRaw : Int16 × Int16 × Int16
  gyro : F × F × F

end

variable {F : Type} [Scalar F]

/-- `TouchpadState::default()`. -/
def TouchpadState.default : TouchpadState F := ⟨false, false, (0.0, 0.0)⟩

/-- `ControllerState::default()` with these buttons down. -/
def ControllerState.withButtons (buttons : Buttons) : ControllerState F where
  format := .standard
  buttons := buttons
  triggers := (0.0, 0.0)
  leftStick := (0.0, 0.0)
  rightStick := (0.0, 0.0)
  leftPad := .default
  rightPad := .default
  trackpadTimestampUs := none
  imuTimestampUs := 0
  accel := (0, 0, 0)
  gyroRaw := (0, 0, 0)
  gyro := (0.0, 0.0, 0.0)

end Scd.Core
