import Scd.Core.Protocol
import Scd.Foundation.IndexMap

/-! # Configurations

What `Config::parse` produces: the bindings that hold in every mode, the modes with their
bindings, axis mappings and layers, and the names of the modes.
-/

namespace Scd.Core

open Scd.Foundation

/-- A Linux key code. -/
structure KeyCode where
  code : UInt16
  deriving DecidableEq, Repr

def KeyCode.leftShift : KeyCode := ⟨42⟩

def KeyCode.rightShift : KeyCode := ⟨54⟩

structure ModeId where
  index : Nat
  deriving DecidableEq, Repr

inductive Gamepad where
  | none | xbox | dualShock4
  deriving DecidableEq, Repr

inductive Trigger where
  | left | right
  deriving DecidableEq, Repr

inductive Stick where
  | left | right
  deriving DecidableEq, Repr

inductive VectorTarget where
  | gamepadLeftStick | gamepadRightStick | mouseMotion | scroll
  deriving DecidableEq, Repr

inductive AxisComponent where
  | x | y | z
  deriving DecidableEq, Repr

inductive MouseButton where
  | left | right | middle | side | extra | forward | back | task
  deriving DecidableEq, Repr

inductive GamepadButton where
  | south | east | north | west | leftBumper | rightBumper | leftTrigger | rightTrigger
  | select | start | guide | leftStick | rightStick | dpadUp | dpadDown | dpadLeft | dpadRight
  | paddleLeftUpper | paddleLeftLower | paddleRightUpper | paddleRightLower
  deriving DecidableEq, Repr

inductive Action where
  | key (key : KeyCode)
  | mouse (button : MouseButton)
  | gamepad (button : GamepadButton)
  | modeSet (mode : ModeId)
  | modeNext
  deriving DecidableEq, Repr

inductive GlobalAction where
  | action (action : Action)
  | keyboardToggle
  deriving DecidableEq, Repr

structure Binding where
  inputs : Buttons
  trigger : Button
  action : Action
  deriving DecidableEq, Repr

structure GlobalBinding where
  inputs : Buttons
  trigger : Button
  action : GlobalAction
  deriving DecidableEq, Repr

structure Layer where
  hold : Button
  bindings : List Binding
  deriving DecidableEq, Repr

section

variable (F : Type)

inductive AxisActivation where
  | trigger (source : Trigger) (engage release : F)
  | buttons (buttons : Buttons)

structure AxisOptions where
  activation : Option (AxisActivation F)
  deadzone : F
  sensitivity : F
  exponent : F

structure VectorOptions where
  axis : AxisOptions F
  invertX : Bool
  invertY : Bool
  swapXy : Bool

inductive AxisMapping where
  | trigger (source target : Trigger) (options : AxisOptions F)
  | stick (source : Stick) (target : VectorTarget) (options : VectorOptions F)
  | padPosition (pad : Trackpad) (target : Stick) (options : VectorOptions F)
  | padMotion (pad : Trackpad) (options : VectorOptions F) (acceleration : F)
  | circularScroll (pad : Trackpad) (options : VectorOptions F)
  | gyro (components : AxisComponent × AxisComponent) (target : VectorTarget)
      (options : VectorOptions F)

structure Mode where
  gamepad : Gamepad
  gamepadTouchpad : Option Trackpad
  bindings : List Binding
  axes : List (AxisMapping F)
  layers : List Layer

structure Config where
  defaultMode : ModeId
  modeSwitchHaptic : Option Haptic
  clickPressure : UInt16
  oskBindings : IndexMap Button KeyCode
  globalBindings : List GlobalBinding
  modeNames : IndexMap String ModeId
  modes : List (Mode F)

end

/-- The ways a Rust program of this repository can panic. -/
inductive Panic where
  | indexOutOfBounds
  | expectFailed (message : String)
  | unreachable (message : String)
  | subtractOverflow
  | remainderByZero
  | assertionFailed
  | notCharBoundary
  deriving DecidableEq, Repr

abbrev Checked (α : Type) := Except Panic α

/-- The index operator of slices and vectors. -/
def index {α : Type} (items : List α) (position : Nat) : Checked α :=
  match items[position]? with
  | some item => .ok item
  | none => .error .indexOutOfBounds

namespace Config

variable {F : Type} (config : Config F)

def modeId (name : String) : Option ModeId := config.modeNames.get? name

def modeName (mode : ModeId) : Checked String :=
  match config.modeNames.getIndex? mode.index with
  | some (name, _) => .ok name
  | none => .error (.expectFailed "ModeId belongs to this Config")

def mode (mode : ModeId) : Checked (Mode F) := index config.modes mode.index

def nextMode (mode : ModeId) : Checked ModeId :=
  if config.modes.length = 0 then .error .remainderByZero
  else .ok ⟨(mode.index + 1) % config.modes.length⟩

end Config

end Scd.Core
