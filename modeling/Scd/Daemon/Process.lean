import Scd.Core.Kdl
import Scd.Daemon.Mapper

/-! # Axis mappings and `Mapper::process`

The second half of `mapper.rs`: the axis mappings of the active mode, the whole of
`process`, and the operations the daemon performs on the mapper besides it.
-/

namespace Scd.Core

/-- The options every mapping has. -/
def AxisMapping.axisOptions {F : Type} : AxisMapping F → AxisOptions F
  | .trigger _ _ options => options
  | .stick _ _ options | .padPosition _ _ options | .padMotion _ options _
  | .circularScroll _ options | .gyro _ _ options => options.axis

end Scd.Core

namespace Scd.Daemon

open Scd.Core Scd.Foundation

section

variable {F : Type} [Scalar F]

def triggerValue (trigger : Trigger) (state : ControllerState F) : F :=
  match trigger with
  | .left => state.triggers.1
  | .right => state.triggers.2

def scaleAxis (value : F) (options : AxisOptions F) : F :=
  if value ≤ options.deadzone then 0.0
  else
    Scalar.powf ((value - options.deadzone) / (1.0 - options.deadzone)) options.exponent
      * options.sensitivity

def touchpad (trackpad : Trackpad) (state : ControllerState F) : TouchpadState F :=
  match trackpad with
  | .left => state.leftPad
  | .right => state.rightPad

def frameSeconds (current : ControllerState F) (previous : Option (ControllerState F))
    (preferTrackpad : Bool) : Option F := do
  let previous ← previous.filter fun previous => previous.format = current.format
  let (currentTimestampUs, previousTimestampUs) :=
    if preferTrackpad then
      match current.trackpadTimestampUs, previous.trackpadTimestampUs with
      | some current, some previous => (current, previous)
      | _, _ => (current.imuTimestampUs, previous.imuTimestampUs)
    else (current.imuTimestampUs, previous.imuTimestampUs)
  let deltaUs := timestampDeltaUs current.format currentTimestampUs previousTimestampUs
  -- frames that are farther apart have no duration
  if 1 ≤ deltaUs ∧ deltaUs ≤ 100000 then
    some ((Scalar.ofInt deltaUs.toNat : F) / 1000000.0)
  else none

/-- The activation condition of a mapping; a trigger has a hysteresis. -/
def activationHolds (activation : AxisActivation F) (wasActive : Bool)
    (state : ControllerState F) : Bool :=
  match activation with
  | .trigger source engage release =>
    let value := triggerValue source state
    if wasActive then value > release else value ≥ engage
  | .buttons buttons => state.buttons.containsAll buttons

def isActive (mapping : AxisMapping F) (wasActive : Bool) (state : ControllerState F) : Bool :=
  mapping.axisOptions.activation.all fun activation => activationHolds activation wasActive state

/-- What a mapping reads: a trigger level for a trigger axis, or a vector with the factors
    and options its transformation needs. -/
inductive Source (F : Type) where
  | scalar (axis : GamepadAxis) (value : F)
  | vector (value : F × F) (sourceScale acceleration : F) (target : VectorTarget)
      (options : VectorOptions F)

def stickTarget : Stick → VectorTarget
  | .left => .gamepadLeftStick
  | .right => .gamepadRightStick

def component (state : ControllerState F) : AxisComponent → F
  | .x => state.gyro.1
  | .y => state.gyro.2.1
  | .z => state.gyro.2.2

/-- The displacement of a pad that stays touched. -/
def padMotion (pad : Trackpad) (state : ControllerState F)
    (previous : Option (ControllerState F)) : F × F :=
  let current := touchpad pad state
  if !current.touched then (0.0, 0.0)
  else match (previous.map (touchpad pad)).filter (·.touched) with
    | none => (0.0, 0.0)
    | some before =>
      (current.position.1 - before.position.1, current.position.2 - before.position.2)

/-- The angle a finger travels around the centre of a pad. -/
def circularMotion (pad : Trackpad) (state : ControllerState F)
    (previous : Option (ControllerState F)) : F × F :=
  let current := touchpad pad state
  let eligible := fun before : TouchpadState F =>
    current.touched && before.touched &&
      decide (Scalar.hypot current.position.1 current.position.2 ≥ trackpadScrollMinRadius) &&
      decide (Scalar.hypot before.position.1 before.position.2 ≥ trackpadScrollMinRadius)
  match (previous.map (touchpad pad)).filter eligible with
  | none => (0.0, 0.0)
  | some before =>
    let cross := before.position.1 * current.position.2 - before.position.2 * current.position.1
    let dot := before.position.1 * current.position.1 + before.position.2 * current.position.2
    (0.0, Scalar.atan2 cross dot)

def source (mapping : AxisMapping F) (state : ControllerState F)
    (previous : Option (ControllerState F)) : Source F :=
  match mapping with
  | .trigger source target options =>
    .scalar (match target with | .left => .leftTrigger | .right => .rightTrigger)
      (scaleAxis (triggerValue source state) options)
  | .stick source target options =>
    .vector (match source with | .left => state.leftStick | .right => state.rightStick)
      1.0 0.0 target options
  | .padPosition pad target options =>
    let pad := touchpad pad state
    .vector (if pad.touched then pad.position else (0.0, 0.0)) 1.0 0.0 (stickTarget target) options
  | .padMotion pad options acceleration =>
    .vector (padMotion pad state previous) 1.0 acceleration .mouseMotion options
  | .circularScroll pad options =>
    .vector (circularMotion pad state previous) 1.0 0.0 .scroll options
  | .gyro components target options =>
    let scale :=
      if target = .mouseMotion ∨ target = .scroll then
        (frameSeconds state previous false).getD 0.0
      else 1.0
    .vector (component state components.1, component state components.2) scale 0.0 target options

/-- Swap and invert, in the order of the source. -/
def orient (value : F × F) (options : VectorOptions F) : F × F :=
  let value := if options.swapXy then (value.2, value.1) else value
  let value := if options.invertX then (-value.1, value.2) else value
  if options.invertY then (value.1, -value.2) else value

def accelerationGain (acceleration magnitude : F) (state : ControllerState F)
    (previous : Option (ControllerState F)) : F :=
  if acceleration > 0.0 then
    match frameSeconds state previous true with
    | none => 1.0
    | some seconds =>
      let speed := magnitude / seconds
      1.0 + acceleration * (1.0 - Scalar.exp (-((speed / 4.0) * (speed / 4.0))))
  else 1.0

/-- Orientation, dead zone, response curve and acceleration of a vector. -/
def transform (value : F × F) (sourceScale acceleration : F) (options : VectorOptions F)
    (state : ControllerState F) (previous : Option (ControllerState F)) : F × F :=
  let value := orient value options
  let magnitude := Scalar.hypot value.1 value.2
  if magnitude ≤ options.axis.deadzone then (0.0, 0.0)
  else
    let scaledMagnitude := scaleAxis magnitude options.axis *
      accelerationGain acceleration magnitude state previous * sourceScale
    (value.1 / magnitude * scaledMagnitude, value.2 / magnitude * scaledMagnitude)

/-- Add a vector to two axes. -/
def addAxes (gamepad : GamepadAxis → F) (xAxis yAxis : GamepadAxis) (value : F × F) :
    GamepadAxis → F :=
  let gamepad := Function.update gamepad xAxis (gamepad xAxis + value.1)
  Function.update gamepad yAxis (gamepad yAxis + value.2)

/-- Hand a transformed vector to its target. -/
def deliver (target : VectorTarget) (value : F × F) (gamepad : GamepadAxis → F) :
    (GamepadAxis → F) × Log F :=
  match target with
  | .gamepadLeftStick => (addAxes gamepad .leftX .leftY value, [])
  | .gamepadRightStick => (addAxes gamepad .rightX .rightY value, [])
  | .mouseMotion =>
    (gamepad, if value.1 != 0.0 || value.2 != 0.0 then
      [.output (.mouseMotion value.1 value.2)] else [])
  | .scroll =>
    (gamepad, if value.1 != 0.0 || value.2 != 0.0 then [.output (.scroll value.1 value.2)] else [])

/-- What an active mapping contributes: to the gamepad axes, and to the outputs. -/
def contribute (mapping : AxisMapping F) (state : ControllerState F)
    (previous : Option (ControllerState F)) (gamepad : GamepadAxis → F) :
    (GamepadAxis → F) × Log F :=
  match source mapping state previous with
  | .scalar axis value => (Function.update gamepad axis value, [])
  | .vector value sourceScale acceleration target options =>
    deliver target (transform value sourceScale acceleration options state previous) gamepad

/-- The value a gamepad axis is set to. -/
def clampAxis (gamepad : GamepadAxis → F) (axis : GamepadAxis) : F :=
  match axis with
  | .leftTrigger | .rightTrigger => clamp (gamepad axis) 0.0 1.0
  | _ => clamp (gamepad axis) (-1.0) 1.0

structure AxisPass (F : Type) extends Pass F where
  gamepad : GamepadAxis → F

namespace Mapper

/-- One iteration of the loop over the axis mappings. -/
def axisMapping (state : ControllerState F) (previous : Option (ControllerState F))
    (pass : AxisPass F) (item : AxisMapping F × Nat) : Checked (AxisPass F × Bool) := do
  let (mapping, position) := item
  let mapper := pass.mapper
  let wasActive ← index mapper.axisActive position
  let active := isActive mapping wasActive state
  let mapper := { mapper with axisActive := mapper.axisActive.set position active }
  if !active then return (⟨⟨mapper, pass.log⟩, pass.gamepad⟩, false)
  let (gamepad, log) := contribute mapping state previous pass.gamepad
  return (⟨⟨mapper, pass.log ++ log⟩, gamepad⟩, false)

def processAxes (mapper : Mapper F) (state : ControllerState F)
    (previous : Option (ControllerState F)) : Checked (Mapper F × Log F) := do
  let mode ← mapper.mode
  let (pass, _) ← loop (axisMapping state previous) ⟨⟨mapper, []⟩, fun _ => 0.0⟩ mode.axes.zipIdx
  let (mapper, axes) := setGamepadAxes (clampAxis pass.gamepad) GamepadAxis.all pass.mapper
  return (mapper, pass.log ++ axes)

/-- The rest of a frame after the global bindings, with the keyboard visible. -/
def processKeyboard (mapper : Mapper F) (state : ControllerState F) (previousButtons : Buttons)
    (reserved : Buttons) : Checked (Mapper F × Log F) := do
  let osk ← mapper.oskBindings state.buttons reserved
  let (mapper, haptics) := osk.mapper.processTrackpadHaptics state previousButtons
  return (mapper, osk.log ++ haptics)

/-- The rest of a frame after the global bindings, with the keyboard hidden.  The flag says
    that a binding has switched the mode and cut the frame short. -/
def processBindings (mapper : Mapper F) (state : ControllerState F)
    (previous : Option (ControllerState F)) (previousButtons reserved captured : Buttons) :
    Checked (Pass F × Bool) := do
  let mapper := { mapper with quarantined := mapper.quarantined.removeInactive state.buttons }
  let released ← mapper.releaseRoutes state.buttons reserved captured
  let (started, interrupted) ←
    released.mapper.startRoutes state.buttons previousButtons reserved
  if interrupted then return (⟨started.mapper, released.log ++ started.log⟩, true)
  let (mapper, axes) ← started.mapper.processAxes state previous
  let (mapper, haptics) := mapper.processTrackpadHaptics state previousButtons
  return (⟨mapper, released.log ++ started.log ++ axes ++ haptics⟩, false)

/-- `previous.map_or(Buttons::default(), |state| state.buttons)`. -/
def previousButtons (mapper : Mapper F) : Buttons := mapper.previous.elim {} (·.buttons)

/-- `Mapper::process`.  The flag says that the frame was cut short by a keyboard toggle or a
    mode switch; the source returns nothing. -/
def processFrame (mapper : Mapper F) (state : ControllerState F) (keyboardVisible : Bool) :
    Checked (Pass F × Bool) := do
  let previous := mapper.previous
  let previousButtons := mapper.previousButtons
  -- also when the frame is cut short below
  let mapper := { mapper with previous := some state }
  let (globals, interrupted) ← mapper.globalBindings state.buttons previousButtons
  if interrupted then return (globals.toPass, true)
  if keyboardVisible then
    let (mapper, log) ← globals.mapper.processKeyboard state previousButtons globals.reserved
    return (⟨mapper, globals.log ++ log⟩, false)
  let (rest, interrupted) ← globals.mapper.processBindings state previous previousButtons
    globals.reserved globals.captured
  return (⟨rest.mapper, globals.log ++ rest.log⟩, interrupted)

def process (mapper : Mapper F) (state : ControllerState F) (keyboardVisible : Bool) :
    Checked (Mapper F × Log F) := do
  let (pass, _) ← mapper.processFrame state keyboardVisible
  return (pass.mapper, pass.log)

/-! ## The other operations -/

/-- `set_mode`: an unknown name is reported and changes nothing. -/
def setMode [Platform F] (mapper : Mapper F) (name : String) :
    Checked (Except String (Mapper F × Log F)) := do
  match mapper.config.modeId name with
  | none =>
    return .error (Platform.located F ("unknown mode " ++ Platform.debugStr F name))
  | some mode => return .ok (← mapper.switchMode mode)

def nextMode (mapper : Mapper F) : Checked (Mapper F × Log F) := do
  let next ← mapper.config.nextMode mapper.activeMode
  mapper.switchMode next

/-- The name of the active mode, `active_mode`. -/
def activeModeName (mapper : Mapper F) : Checked String := mapper.config.modeName mapper.activeMode

def reload (mapper : Mapper F) (config : Config F) : Checked (Mapper F × Log F) := do
  let name ← mapper.activeModeName
  let activeMode := (config.modeId name).getD config.defaultMode
  let (mapper, released) := mapper.releaseOutputs
  let mapper ← resetRuntime { mapper with activeMode, config }
  let changed ← mapper.modeChanged
  return (mapper, released ++ [.output changed])

def releaseAll (mapper : Mapper F) : Checked (Mapper F × Log F) := do
  let (mapper, released) := mapper.releaseOutputs
  let mapper ← mapper.resetRuntime
  -- the next frame has no buttons before it
  return ({ mapper with previous := none }, released)

def suspend (mapper : Mapper F) : Mapper F × Log F := mapper.releaseOutputs

def gamepad (mapper : Mapper F) : Checked Gamepad := do
  let mode ← mapper.mode
  return mode.gamepad

def gamepadTouchpad (mapper : Mapper F) : Checked (Option Trackpad) := do
  let mode ← mapper.mode
  return mode.gamepadTouchpad

/-- `KEY_LEFTSHIFT` and `KEY_RIGHTSHIFT`. -/
def isShift (key : KeyCode) : Bool := key = ⟨42⟩ || key = ⟨54⟩

def keyboardShifted (mapper : Mapper F) : Bool :=
  mapper.config.oskBindings.entries.any fun entry =>
    mapper.oskActive.contains entry.1 && isShift entry.2

def activeOskBindings (mapper : Mapper F) : List Button :=
  mapper.config.oskBindings.keys.filter mapper.oskActive.contains

end Mapper

end

end Scd.Daemon
