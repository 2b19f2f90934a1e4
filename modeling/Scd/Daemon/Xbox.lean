import Scd.Core.Config
import Scd.Daemon.Mapper
import Scd.Foundation.Index

/-! # The Xbox gamepad

`gamepad/xbox.rs`: the outputs of the mapper as events of an input device.  The device takes
every event.
-/

namespace Scd.Daemon

open Scd.Core Scd.Foundation

namespace Evdev

/-- The key codes of the device. -/
inductive PadKey where
  | btnSouth | btnEast | btnNorth | btnWest | btnTl | btnTr | btnSelect | btnStart | btnMode
  | btnThumbl | btnThumbr
  deriving DecidableEq, Repr

inductive AbsoluteAxis where
  | absX | absY | absRx | absRy | absZ | absRz | absHat0x | absHat0y
  deriving DecidableEq, Repr

inductive InputEvent where
  | key (code : PadKey) (value : Int)
  | absolute (code : AbsoluteAxis) (value : Int)
  deriving DecidableEq, Repr

/-- The level of an axis: the value of its last event, and zero before the first. -/
def level (code : AbsoluteAxis) : List InputEvent → Int :=
  List.foldl (fun current event =>
    match event with
    | .absolute other value => if other = code then value else current
    | .key _ _ => current) 0

theorem level_append_absolute (code other : AbsoluteAxis) (events : List InputEvent) (value : Int) :
    level code (events ++ [.absolute other value]) =
      if other = code then value else level code events := by
  simp [level, List.foldl_append]

theorem level_append_key (code : AbsoluteAxis) (events : List InputEvent) (key : PadKey)
    (value : Int) : level code (events ++ [.key key value]) = level code events := by
  simp [level, List.foldl_append]

end Evdev

open Evdev

structure Xbox where
  /-- Up, down, left and right. -/
  dpad : Vector Bool 4

namespace Xbox

def new : Xbox := ⟨.replicate 4 false⟩

/-- `i32::from`. -/
def fromBool (value : Bool) : Int := if value then 1 else 0

def setDpad (xbox : Xbox) (direction : Fin 4) (pressed : Bool) : Xbox :=
  ⟨put xbox.dpad direction pressed⟩

def hatX (xbox : Xbox) : InputEvent :=
  .absolute .absHat0x (fromBool (xbox.dpad.get 3) - fromBool (xbox.dpad.get 2))

def hatY (xbox : Xbox) : InputEvent :=
  .absolute .absHat0y (fromBool (xbox.dpad.get 1) - fromBool (xbox.dpad.get 0))

/-- The gamepad after a button output, and the event it has sent. -/
def emitButton (xbox : Xbox) (button : GamepadButton) (pressed : Bool) :
    Xbox × Option InputEvent :=
  let pressedValue := fromBool pressed
  match button with
  | .south => (xbox, some (.key .btnSouth pressedValue))
  | .east => (xbox, some (.key .btnEast pressedValue))
  -- x and y are aliases of north and west
  | .north => (xbox, some (.key .btnWest pressedValue))
  | .west => (xbox, some (.key .btnNorth pressedValue))
  | .leftBumper => (xbox, some (.key .btnTl pressedValue))
  | .rightBumper => (xbox, some (.key .btnTr pressedValue))
  -- the button of a trigger moves the axis of the trigger
  | .leftTrigger => (xbox, some (.absolute .absZ (pressedValue * 255)))
  | .rightTrigger => (xbox, some (.absolute .absRz (pressedValue * 255)))
  | .select => (xbox, some (.key .btnSelect pressedValue))
  | .start => (xbox, some (.key .btnStart pressedValue))
  | .guide => (xbox, some (.key .btnMode pressedValue))
  | .leftStick => (xbox, some (.key .btnThumbl pressedValue))
  | .rightStick => (xbox, some (.key .btnThumbr pressedValue))
  | .dpadUp => (xbox.setDpad 0 pressed, some (xbox.setDpad 0 pressed).hatY)
  | .dpadDown => (xbox.setDpad 1 pressed, some (xbox.setDpad 1 pressed).hatY)
  | .dpadLeft => (xbox.setDpad 2 pressed, some (xbox.setDpad 2 pressed).hatX)
  | .dpadRight => (xbox.setDpad 3 pressed, some (xbox.setDpad 3 pressed).hatX)
  -- the gamepad has no paddles
  | .paddleLeftUpper | .paddleLeftLower | .paddleRightUpper | .paddleRightLower => (xbox, none)

section

variable {F : Type} [Scalar F]

def triggerValue (value : F) : Int := Scalar.toInt (Scalar.round (clamp value 0.0 1.0 * 255.0))

def stickValue (value : F) : Int :=
  let value := clamp value (-1.0) 1.0
  Scalar.toInt (Scalar.round (value * if value < 0.0 then 32768.0 else 32767.0))

def emitAxis (axis : GamepadAxis) (value : F) : InputEvent :=
  match axis with
  | .leftX => .absolute .absX (stickValue value)
  | .leftY => .absolute .absY (stickValue value)
  | .rightX => .absolute .absRx (stickValue value)
  | .rightY => .absolute .absRy (stickValue value)
  | .leftTrigger => .absolute .absZ (triggerValue value)
  | .rightTrigger => .absolute .absRz (triggerValue value)

/-- The value of a trigger fits a byte. -/
theorem triggerValue_range [LawfulScalar F] (value : F) :
    0 ≤ triggerValue value ∧ triggerValue value ≤ 255 := by
  obtain ⟨low, high⟩ := clamp_within LawfulScalar.zero_lt_one value
  exact LawfulScalar.scaled_byte _ low high

end

end Xbox

/-! ## Rumble -/

/-- The effects that were uploaded, with their strong and weak magnitudes, and which of them
    play. -/
structure RumbleEffects where
  effects : Vector (Option (UInt16 × UInt16)) 16
  active : BitVec 16
  lastOutput : UInt16 × UInt16

namespace RumbleEffects

def default : RumbleEffects := ⟨.replicate 16 none, 0, (0, 0)⟩

/-- The slot of an identifier: `usize::try_from`, and the check of the range. -/
def slot (id : Int16) : Option (Fin 16) :=
  if within : 0 ≤ id.toInt ∧ id.toInt.toNat < 16 then some ⟨id.toInt.toNat, within.2⟩ else none

/-- `1 << index`. -/
def mask (index : Fin 16) : BitVec 16 := BitVec.twoPow 16 index

/-- The effects after an upload, and the identifier that is returned. -/
def upload (rumble : RumbleEffects) (requestedId : Int16) (effect : Option (UInt16 × UInt16)) :
    RumbleEffects × Option Int16 :=
  match effect with
  | none => (rumble, none)
  | some effect =>
    -- without an identifier the first empty slot is taken
    let index := if requestedId ≥ 0 then slot requestedId
      else (List.finRange 16).find? fun index => (rumble.effects.get index).isNone
    match index with
    | none => (rumble, none)
    | some index =>
      ({ rumble with effects := put rumble.effects index (some effect) }, some (.ofNat index.val))

def erase (rumble : RumbleEffects) (id : Int16) : RumbleEffects :=
  match slot id with
  | none => rumble
  | some index =>
    { rumble with
      effects := put rumble.effects index none
      active := rumble.active &&& ~~~mask index }

def setPlayback (rumble : RumbleEffects) (id : Int16) (repetitions : Int32) : RumbleEffects :=
  match slot id with
  | none => rumble
  | some index =>
    if repetitions > 0 then { rumble with active := rumble.active ||| mask index }
    else if repetitions = 0 then { rumble with active := rumble.active &&& ~~~mask index }
    else rumble

def isActive (rumble : RumbleEffects) (index : Fin 16) : Bool := rumble.active &&& mask index != 0

/-- The larger magnitudes of two effects. -/
def louder (left right : UInt16 × UInt16) : UInt16 × UInt16 :=
  (max left.1 right.1, max left.2 right.2)

/-- The loop of `changed_output`. -/
def output (rumble : RumbleEffects) : UInt16 × UInt16 :=
  (List.finRange 16).foldl (fun output index =>
    if rumble.isActive index then
      match rumble.effects.get index with
      | some effect => louder output effect
      | none => output
    else output) (0, 0)

def changedOutput (rumble : RumbleEffects) : RumbleEffects × Option (UInt16 × UInt16) :=
  if rumble.output = rumble.lastOutput then (rumble, none)
  else ({ rumble with lastOutput := rumble.output }, some rumble.output)

end RumbleEffects

end Scd.Daemon
