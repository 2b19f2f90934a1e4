import Scd.Daemon.DualShock
import Scd.Daemon.Loop
import Scd.Daemon.Xbox

/-! # The virtual devices

`output.rs`: the keyboard, the mouse and the gamepad that the outputs of the mapper and the
keys of the clients go to.  A device takes every event, and keeps all that it has been given.
The rumble of a gamepad is left out.
-/

namespace Scd.Daemon

open Scd.Core

/-! ## Events -/

namespace Evdev

/-- An event of the virtual keyboard: one presses the key, and zero releases it. -/
structure KeyEvent where
  key : KeyCode
  value : Int
  deriving DecidableEq, Repr

inductive RelativeAxis where
  | relX | relY | relHwheel | relWheel
  deriving DecidableEq, Repr

inductive MouseEvent where
  | key (code : MouseButton) (value : Int)
  | relative (code : RelativeAxis) (value : Int)
  deriving DecidableEq, Repr

end Evdev

open Evdev

/-! ## The gamepad -/

/-- A gamepad of either kind; the first has the events it has been given. -/
inductive VirtualGamepad where
  | xbox (gamepad : Xbox) (events : List InputEvent)
  | dualShock4 (gamepad : DualShock.DualShock4)

namespace VirtualGamepad

/-- The gamepad of a kind, and none of no kind. -/
def new : Gamepad → Option VirtualGamepad
  | .none => none
  | .xbox => some (.xbox .new [])
  | .dualShock4 => some (.dualShock4 .new)

def emitButton (gamepad : VirtualGamepad) (button : GamepadButton) (pressed : Bool) :
    VirtualGamepad :=
  match gamepad with
  | .xbox gamepad events =>
    let (gamepad, event) := gamepad.emitButton button pressed
    .xbox gamepad (events ++ event.toList)
  | .dualShock4 gamepad => .dualShock4 (gamepad.emitButton button pressed)

section

variable {F : Type} [Scalar F]

def emitAxis (gamepad : VirtualGamepad) (axis : GamepadAxis) (value : F) : VirtualGamepad :=
  match gamepad with
  | .xbox gamepad events => .xbox gamepad (events ++ [Xbox.emitAxis axis value])
  | .dualShock4 gamepad => .dualShock4 (gamepad.emitAxis axis value)

def updateSource (gamepad : VirtualGamepad) (state : ControllerState F)
    (touchpad : Option Trackpad) : VirtualGamepad :=
  match gamepad with
  | .xbox gamepad events => .xbox gamepad events
  | .dualShock4 gamepad => .dualShock4 (gamepad.updateSource state touchpad)

end

def setBattery (gamepad : VirtualGamepad) (percent : UInt8) : VirtualGamepad :=
  match gamepad with
  | .xbox gamepad events => .xbox gamepad events
  | .dualShock4 gamepad => .dualShock4 (gamepad.setBattery percent)

end VirtualGamepad

/-! ## The outputs -/

structure Outputs (F : Type) where
  gamepad : Option VirtualGamepad
  gamepadType : Gamepad
  keyboard : List KeyEvent
  leftShiftHeld : Bool
  rightShiftHeld : Bool
  mouse : List MouseEvent
  mouseRemainder : F × F
  scrollRemainder : F × F

section

variable {F : Type} [Scalar F]

namespace Outputs

def setGamepad (outputs : Outputs F) (gamepad : Gamepad) : Outputs F :=
  if gamepad = outputs.gamepadType then outputs
  else { outputs with gamepad := VirtualGamepad.new gamepad, gamepadType := gamepad }

def new (gamepad : Gamepad) : Outputs F :=
  setGamepad {
    gamepad := none
    gamepadType := .none
    keyboard := []
    leftShiftHeld := false
    rightShiftHeld := false
    mouse := []
    mouseRemainder := (0.0, 0.0)
    scrollRemainder := (0.0, 0.0) } gamepad

/-- The cast of a whole number to `i32`, which saturates. -/
def toI32 (value : F) : Int := max (-2147483648) (min 2147483647 (Scalar.toInt value))

/-- The events and the remainder of `emit_relative`.  The cast of the model truncates, as
    `f32::trunc` and the cast of the source do together. -/
def emitRelative (remainder : F × F) (axes : RelativeAxis × RelativeAxis) (value : F × F) :
    List MouseEvent × (F × F) :=
  let remainder := (remainder.1 + value.1, remainder.2 + value.2)
  let output := (toI32 remainder.1, toI32 remainder.2)
  let rest := (remainder.1 - Scalar.ofInt output.1, remainder.2 - Scalar.ofInt output.2)
  if output = (0, 0) then ([], rest)
  else ([.relative axes.1 output.1, .relative axes.2 output.2], rest)

/-- `i32::from` of a flag. -/
def pressedValue (pressed : Bool) : Int := if pressed then 1 else 0

def emit (outputs : Outputs F) (command : Output F) : Outputs F :=
  match command with
  | .key key pressed =>
    let outputs := { outputs with keyboard := outputs.keyboard ++ [⟨key, pressedValue pressed⟩] }
    if key = .leftShift then { outputs with leftShiftHeld := pressed }
    else if key = .rightShift then { outputs with rightShiftHeld := pressed }
    else outputs
  | .mouseButton button pressed =>
    { outputs with mouse := outputs.mouse ++ [.key button (pressedValue pressed)] }
  | .gamepadButton button pressed =>
    { outputs with gamepad := outputs.gamepad.map (·.emitButton button pressed) }
  | .gamepadAxis axis value =>
    { outputs with gamepad := outputs.gamepad.map (·.emitAxis axis value) }
  | .mouseMotion x y =>
    let (events, remainder) := emitRelative outputs.mouseRemainder (.relX, .relY) (x, y)
    { outputs with mouse := outputs.mouse ++ events, mouseRemainder := remainder }
  | .scroll x y =>
    let (events, remainder) := emitRelative outputs.scrollRemainder (.relHwheel, .relWheel) (x, y)
    { outputs with mouse := outputs.mouse ++ events, scrollRemainder := remainder }
  | .keyboardToggle | .modeChanged _ _ | .trackpadHaptic _ => outputs

/-- The events that type a key: Shift is tapped around it if it is wanted and not held. -/
def keyEvents (outputs : Outputs F) (key : KeyCode) (shift : Bool) : List KeyEvent :=
  if shift && !outputs.leftShiftHeld && !outputs.rightShiftHeld then
    [⟨.leftShift, 1⟩, ⟨key, 1⟩, ⟨key, 0⟩, ⟨.leftShift, 0⟩]
  else [⟨key, 1⟩, ⟨key, 0⟩]

def key (outputs : Outputs F) (key : KeyCode) (shift : Bool) : Outputs F :=
  { outputs with keyboard := outputs.keyboard ++ outputs.keyEvents key shift }

def updateGamepadSource (outputs : Outputs F) (state : ControllerState F)
    (touchpad : Option Trackpad) : Outputs F :=
  { outputs with gamepad := outputs.gamepad.map (·.updateSource state touchpad) }

def setGamepadBattery (outputs : Outputs F) (percent : UInt8) : Outputs F :=
  { outputs with gamepad := outputs.gamepad.map (·.setBattery percent) }

/-- What a turn of the loop does to the outputs. -/
def perform (outputs : Outputs F) (effect : Effect F) : Outputs F :=
  match effect with
  | .output output => outputs.emit output
  | .key key shift => outputs.key key shift
  | .setGamepad gamepad => outputs.setGamepad gamepad
  | .gamepadSource state touchpad => outputs.updateGamepadSource state touchpad
  | .gamepadBattery percent => outputs.setGamepadBattery percent
  | .haptic _ | .clickPressure _ | .publish _ => outputs

def performAll (outputs : Outputs F) (effects : List (Effect F)) : Outputs F :=
  effects.foldl perform outputs

@[simp] theorem performAll_nil (outputs : Outputs F) : outputs.performAll [] = outputs := rfl

@[simp] theorem performAll_append (outputs : Outputs F) (effects more : List (Effect F)) :
    outputs.performAll (effects ++ more) = (outputs.performAll effects).performAll more :=
  List.foldl_append

@[simp] theorem performAll_cons (outputs : Outputs F) (effect : Effect F)
    (effects : List (Effect F)) :
    outputs.performAll (effect :: effects) = (outputs.perform effect).performAll effects := rfl

end Outputs

end

end Scd.Daemon
