import Scd.Core.Config
import Scd.Foundation.Outcome

/-! # The mapper

`Mapper` turns controller reports into key, mouse and gamepad outputs.  The definitions
follow `mapper.rs` function by function; every place where the source can panic (an
index, an `expect`, an `unreachable!`, a subtraction of unsigned integers) is an error of
the `Checked` monad.

The functions return the outputs they push as a `Log`, in which the outputs are
interleaved with notes.  The notes are ghost: no function reads them.  They record which
binding fires, and which control owns the press that `set_held` counts.
-/

namespace Scd.Daemon

open Scd.Core Scd.Foundation

inductive GamepadAxis where
  | leftX | leftY | rightX | rightY | leftTrigger | rightTrigger
  deriving DecidableEq, Repr

def GamepadAxis.all : List GamepadAxis :=
  [.leftX, .leftY, .rightX, .rightY, .leftTrigger, .rightTrigger]

inductive Output (F : Type) where
  | key (key : KeyCode) (pressed : Bool)
  | mouseButton (button : MouseButton) (pressed : Bool)
  | gamepadButton (button : GamepadButton) (pressed : Bool)
  | gamepadAxis (axis : GamepadAxis) (value : F)
  | mouseMotion (x y : F)
  | scroll (x y : F)
  | trackpadHaptic (pad : Trackpad)
  | keyboardToggle
  | modeChanged (name : String) (haptic : Option Haptic)
  deriving DecidableEq

/-- An output that stays pressed while a control holds it. -/
inductive HeldOutput where
  | key (key : KeyCode)
  | mouse (button : MouseButton)
  | gamepad (button : GamepadButton)
  deriving DecidableEq, Repr

namespace HeldOutput

def fromAction : Action → Option HeldOutput
  | .key code => some (.key code)
  | .mouse button => some (.mouse button)
  | .gamepad button => some (.gamepad button)
  | .modeSet _ | .modeNext => none

def output {F : Type} (held : HeldOutput) (pressed : Bool) : Output F :=
  match held with
  | .key code => .key code pressed
  | .mouse button => .mouseButton button pressed
  | .gamepad button => .gamepadButton button pressed

end HeldOutput

/-! ## Ghost notes -/

/-- The controls that can hold an output: a global binding, an on-screen keyboard input, or
    the route of a mode or layer binding, known by its trigger. -/
inductive Owner where
  | global (index : Nat)
  | osk (input : Button)
  | route (trigger : Button)
  deriving DecidableEq, Repr

inductive Note where
  /-- A global binding fires on its trigger edge. -/
  | fire (index : Nat)
  /-- A mode or layer binding fires. -/
  | start (binding : Binding) (hold : Option Button)
  | claim (owner : Owner) (held : HeldOutput)
  | unclaim (owner : Owner) (held : HeldOutput)
  /-- `release_outputs` takes every claim away. -/
  | cancel
  deriving DecidableEq, Repr

inductive Entry (F : Type) where
  | output (output : Output F)
  | note (note : Note)
  deriving DecidableEq

abbrev Log (F : Type) := List (Entry F)

def Entry.output? {F : Type} : Entry F → Option (Output F)
  | .output pushed => some pushed
  | .note _ => none

/-- What the source pushes. -/
def Log.outputs {F : Type} (log : Log F) : List (Output F) := log.filterMap Entry.output?

/-! ## State -/

structure GlobalState where
  active : Bool := false
  captured : Bool := false
  deriving DecidableEq, Repr

structure ActiveRoute where
  inputs : Buttons
  trigger : Button
  hold : Option Button
  held : Option HeldOutput
  deriving DecidableEq, Repr

structure TrackpadHapticState (F : Type) where
  previousPosition : Option (F × F)
  progress : F
  lastTick : Option (StateFormat × UInt32)

structure Mapper (F : Type) where
  config : Config F
  activeMode : ModeId
  global : List GlobalState
  routes : List ActiveRoute
  quarantined : Buttons
  oskActive : Buttons
  held : IndexMap HeldOutput Nat
  gamepadAxes : GamepadAxis → F
  axisActive : List Bool
  trackpadHaptics : Trackpad → TrackpadHapticState F
  previous : Option (ControllerState F)

/-- The state a loop of the mapper threads. -/
structure Pass (F : Type) where
  mapper : Mapper F
  log : Log F

section

variable {F : Type} [Scalar F]

def TrackpadHapticState.default : TrackpadHapticState F := ⟨none, 0.0, none⟩

/-! ## Trackpad haptics -/

def trackpadHapticMinTravel : F := 45.0 / 32767.0
def trackpadHapticMaxTravel : F := 4000.0 / 32767.0
def trackpadHapticTickTravel : F := 3200.0 / 32767.0
def trackpadHapticMinIntervalUs : UInt32 := 25000
def trackpadScrollMinRadius : F := 1.0 / 3.0

def buttonPressed (button : Button) (current previous : Buttons) : Bool :=
  current.contains button && !previous.contains button

def timestampDeltaUs (format : StateFormat) (current previous : UInt32) : UInt32 :=
  if format = .timestamp32Us then
    ((current / 32).toUInt16 - (previous / 32).toUInt16).toUInt32 * 32
  else current - previous

def trackpadHaptic (haptic : TrackpadHapticState F) (pad : TouchpadState F) (format : StateFormat)
    (timestampUs : UInt32) : TrackpadHapticState F × Bool :=
  if !pad.touched then (.default, false)
  -- the time of the last tick was read off another clock
  else if haptic.lastTick.any fun tick => tick.1 ≠ format then
    ({ TrackpadHapticState.default with previousPosition := some pad.position }, false)
  else match haptic.previousPosition with
  | none => ({ haptic with previousPosition := some pad.position }, false)
  | some previousPosition =>
    let travel := Scalar.hypot (pad.position.1 - previousPosition.1)
      (pad.position.2 - previousPosition.2)
    -- the position stays too, so that slow movements add up
    if travel < trackpadHapticMinTravel then (haptic, false)
    else
      let haptic := { haptic with previousPosition := some pad.position }
      -- a jump is not a movement
      if travel > trackpadHapticMaxTravel then ({ haptic with progress := 0.0 }, false)
      else
        let haptic := { haptic with progress := haptic.progress + travel }
        if haptic.progress < trackpadHapticTickTravel then (haptic, false)
        else if haptic.lastTick.any fun tick =>
            timestampDeltaUs format timestampUs tick.2 < trackpadHapticMinIntervalUs then
          ({ haptic with progress := trackpadHapticTickTravel }, false)
        else
          ({ haptic with
              progress := Scalar.rem haptic.progress trackpadHapticTickTravel
              lastTick := some (format, timestampUs) }, true)

namespace Mapper

/-- One pad of `process_trackpad_haptics`.  A click is reported without looking at the
    travel of the pad. -/
def padHaptic (mapper : Mapper F) (state : ControllerState F) (previousButtons : Buttons)
    (pad : Trackpad) (padState : TouchpadState F) (click : Button) : Mapper F × Log F :=
  if buttonPressed click state.buttons previousButtons then
    (mapper, [.output (.trackpadHaptic pad)])
  else
    let (haptic, tick) := trackpadHaptic (mapper.trackpadHaptics pad) padState state.format
      (state.trackpadTimestampUs.getD state.imuTimestampUs)
    let mapper := { mapper with
      trackpadHaptics := Function.update mapper.trackpadHaptics pad haptic }
    (mapper, if tick then [.output (.trackpadHaptic pad)] else [])

def processTrackpadHaptics (mapper : Mapper F) (state : ControllerState F)
    (previousButtons : Buttons) : Mapper F × Log F :=
  let (mapper, left) := mapper.padHaptic state previousButtons .left state.leftPad .leftPadClick
  let (mapper, right) := mapper.padHaptic state previousButtons .right state.rightPad .rightPadClick
  (mapper, left ++ right)

/-! ## Releasing outputs and switching modes -/

def new (config : Config F) : Checked (Mapper F) := do
  let mode ← config.mode config.defaultMode
  return {
    config
    activeMode := config.defaultMode
    global := List.replicate config.globalBindings.length {}
    routes := []
    quarantined := {}
    oskActive := {}
    held := .empty
    gamepadAxes := fun _ => 0.0
    axisActive := List.replicate mode.axes.length false
    trackpadHaptics := fun _ => .default
    previous := none }

def mode (mapper : Mapper F) : Checked (Mode F) := mapper.config.mode mapper.activeMode

def setGamepadAxis (mapper : Mapper F) (axis : GamepadAxis) (value : F) : Mapper F × Log F :=
  if mapper.gamepadAxes axis == value then (mapper, [])
  else
    ({ mapper with gamepadAxes := Function.update mapper.gamepadAxes axis value },
      [.output (.gamepadAxis axis value)])

/-- `set_gamepad_axis` for every axis, in the order of `GAMEPAD_AXES`. -/
def setGamepadAxes (value : GamepadAxis → F) : List GamepadAxis → Mapper F → Mapper F × Log F
  | [], mapper => (mapper, [])
  | axis :: axes, mapper =>
    let (mapper, first) := mapper.setGamepadAxis axis (value axis)
    let (mapper, rest) := setGamepadAxes value axes mapper
    (mapper, first ++ rest)

def releaseOutputs (mapper : Mapper F) : Mapper F × Log F :=
  let releases := mapper.held.entries.reverse.map fun entry => Entry.output (entry.1.output false)
  let (mapper, axes) := setGamepadAxes (fun _ => 0.0) GamepadAxis.all { mapper with
    routes := []
    quarantined := {}
    oskActive := {}
    axisActive := List.replicate mapper.axisActive.length false
    held := .empty }
  (mapper, .note .cancel :: releases ++ axes)

def resetRuntime (mapper : Mapper F) : Checked (Mapper F) := do
  let mode ← mapper.mode
  return { mapper with
    global := List.replicate mapper.config.globalBindings.length {}
    axisActive := List.replicate mode.axes.length false
    trackpadHaptics := fun _ => .default }

def modeChanged (mapper : Mapper F) : Checked (Output F) := do
  let name ← mapper.config.modeName mapper.activeMode
  return .modeChanged name mapper.config.modeSwitchHaptic

def switchMode (mapper : Mapper F) (mode : ModeId) : Checked (Mapper F × Log F) := do
  if mapper.activeMode = mode then return (mapper, [])
  let (mapper, released) := mapper.releaseOutputs
  let mapper ← resetRuntime { mapper with activeMode := mode }
  let changed ← mapper.modeChanged
  return (mapper, released ++ [.output changed])

/-! ## Holding outputs -/

/-- `set_held`.  The owner is ghost. -/
def setHeld (held : IndexMap HeldOutput Nat) (owner : Owner) (output : HeldOutput) (active : Bool) :
    Checked (IndexMap HeldOutput Nat × Log F) :=
  if active then
    match held.get? output with
    | none => .ok (held.insert output 1, [.note (.claim owner output), .output (output.output true)])
    | some count => .ok (held.insert output (count + 1), [.note (.claim owner output)])
  else
    match held.get? output with
    | none => .ok (held, [.note (.unclaim owner output)])
    -- no count is zero; the subtraction of the source would overflow
    | some 0 => .error .subtractOverflow
    | some (count + 1) =>
      if count = 0 then
        .ok (held.shiftRemove output, [.note (.unclaim owner output), .output (output.output false)])
      else .ok (held.insert output count, [.note (.unclaim owner output)])

structure Applied (F : Type) where
  mapper : Mapper F
  log : Log F
  interrupted : Bool
  held : Option HeldOutput

def applyAction (mapper : Mapper F) (owner : Owner) (action : Action) (active : Bool) :
    Checked (Applied F) := do
  match HeldOutput.fromAction action with
  | some output =>
    let (held, log) ← setHeld mapper.held owner output active
    return ⟨{ mapper with held }, log, false, some output⟩
  | none =>
    -- a mode is switched by the press, never by the release
    if !active then return ⟨mapper, [], false, none⟩
    let mode ← match action with
      | .modeSet mode => .ok mode
      | .modeNext => mapper.config.nextMode mapper.activeMode
      | _ => .error (.unreachable "held actions returned above")
    if mode = mapper.activeMode then return ⟨mapper, [], false, none⟩
    let (mapper, log) ← mapper.switchMode mode
    return ⟨mapper, log, true, none⟩

end Mapper

/-! ## Global bindings -/

end

end Scd.Daemon

namespace Scd.Core

open Scd.Daemon

namespace GlobalBinding

variable (binding : GlobalBinding)

def prerequisites : Buttons := binding.inputs.remove binding.trigger

def allActive (buttons : Buttons) : Bool :=
  buttons.contains binding.trigger && buttons.containsAll binding.prerequisites

/-- The trigger edge. -/
def pressed (buttons previousButtons : Buttons) : Bool :=
  binding.allActive buttons && !previousButtons.contains binding.trigger &&
    previousButtons.containsAll binding.prerequisites

/-- The flags of a global binding after a frame. -/
def next (runtime : GlobalState) (buttons previousButtons : Buttons) : GlobalState where
  active := if runtime.active then binding.allActive buttons
    else binding.pressed buttons previousButtons
  captured :=
    if binding.pressed buttons previousButtons then true
    else if runtime.captured && !buttons.contains binding.trigger then false
    else runtime.captured

/-- One button of the loop that fills `reserved` and `captured`. -/
def reserveButton (captured : Bool) (buttons : Buttons) (sets : Buttons × Buttons)
    (button : Button) : Buttons × Buttons :=
  if !binding.inputs.contains button then sets
  -- a binding that has fired keeps its buttons until its trigger is released
  else if captured then (sets.1.insert button, sets.2.insert button)
  else if (binding.prerequisites.contains button && buttons.contains button) ||
      (button = binding.trigger && binding.allActive buttons) then
    (sets.1.insert button, sets.2)
  else sets

/-- The buttons this binding adds to `reserved` and to `captured`. -/
def reserve (captured : Bool) (buttons : Buttons) (sets : Buttons × Buttons) : Buttons × Buttons :=
  Button.all.foldl (binding.reserveButton captured buttons) sets

/-- The output the binding holds, when its action is a key, a mouse button or a gamepad
    button. -/
def held : Option HeldOutput :=
  match binding.action with
  | .action action => HeldOutput.fromAction action
  | .keyboardToggle => none

end GlobalBinding

namespace Binding

variable (binding : Binding)

def prerequisites : Buttons := binding.inputs.remove binding.trigger

/-- The binding has inputs besides its trigger. -/
def isChord : Bool := binding.prerequisites ≠ {}

def reserveChordInputs (buttons reserved : Buttons) : Buttons :=
  if binding.prerequisites = {} then reserved
  else
    let reserved := Button.all.foldl (fun reserved button =>
      if binding.prerequisites.contains button && buttons.contains button then
        reserved.insert button
      else reserved) reserved
    if buttons.containsAll binding.prerequisites && buttons.contains binding.trigger then
      reserved.insert binding.trigger
    else reserved

end Binding

end Scd.Core

namespace Scd.Daemon

open Scd.Core Scd.Foundation

structure GlobalPass (F : Type) extends Pass F where
  reserved : Buttons
  captured : Buttons

section

variable {F : Type} [Scalar F]

namespace Mapper

/-- One iteration of the loop over the global bindings. -/
def globalBinding (buttons previousButtons : Buttons) (pass : GlobalPass F)
    (item : GlobalBinding × Nat) : Checked (GlobalPass F × Bool) := do
  let (binding, position) := item
  let mapper := pass.mapper
  let runtime ← index mapper.global position
  let next := binding.next runtime buttons previousButtons
  let mapper := { mapper with global := mapper.global.set position next }
  let (reserved, captured) :=
    binding.reserve next.captured buttons (pass.reserved, pass.captured)
  let pressed := binding.pressed buttons previousButtons
  let fired : Log F := if pressed then [.note (.fire position)] else []
  if pressed || (runtime.active && !next.active && binding.held.isSome) then
    match binding.action with
    | .action action =>
      let applied ← mapper.applyAction (.global position) action next.active
      return (⟨⟨applied.mapper, pass.log ++ fired ++ applied.log⟩, reserved, captured⟩,
        applied.interrupted)
    -- the toggle ends the frame
    | .keyboardToggle =>
      return (⟨⟨mapper, pass.log ++ fired ++ [.output .keyboardToggle]⟩, reserved, captured⟩, true)
  else return (⟨⟨mapper, pass.log⟩, reserved, captured⟩, false)

def globalBindings (mapper : Mapper F) (buttons previousButtons : Buttons) :
    Checked (GlobalPass F × Bool) :=
  loop (globalBinding buttons previousButtons) ⟨⟨mapper, []⟩, {}, {}⟩
    mapper.config.globalBindings.zipIdx

/-! ## On-screen keyboard bindings -/

/-- One iteration of the loop over the on-screen keyboard bindings. -/
def oskBinding (buttons reserved : Buttons) (pass : Pass F) (item : Button × KeyCode) :
    Checked (Pass F × Bool) := do
  let (input, key) := item
  let mapper := pass.mapper
  let wasActive := mapper.oskActive.contains input
  let active := buttons.contains input && !reserved.contains input
  if active = wasActive then return (pass, false)
  let oskActive := if active then mapper.oskActive.insert input else mapper.oskActive.remove input
  let (held, log) ← setHeld mapper.held (.osk input) (.key key) active
  return (⟨{ mapper with oskActive, held }, pass.log ++ log⟩, false)

def oskBindings (mapper : Mapper F) (buttons reserved : Buttons) : Checked (Pass F) := do
  let (pass, _) ← loop (oskBinding buttons reserved) ⟨mapper, []⟩ mapper.config.oskBindings.entries
  return pass

/-! ## Routes -/

/-- The route cannot go on: an input is up, its layer hold is lost, or a global binding has
    captured one of its inputs. -/
def routeEnds (buttons reserved captured : Buttons) (route : ActiveRoute) : Bool :=
  !buttons.containsAll route.inputs ||
    (route.hold.any fun hold => !buttons.contains hold || reserved.contains hold) ||
    route.inputs.meets captured

/-- One iteration of the loop that releases routes. -/
def releaseRoute (buttons reserved captured : Buttons) (pass : Pass F) (position : Nat) :
    Checked (Pass F × Bool) := do
  let mapper := pass.mapper
  let route ← index mapper.routes position
  if !routeEnds buttons reserved captured route then return (pass, false)
  -- a trigger that is still down starts no other binding before it is released
  let mapper := { mapper with
    routes := mapper.routes.eraseIdx position
    quarantined :=
      if buttons.contains route.trigger then mapper.quarantined.insert route.trigger
      else mapper.quarantined }
  match route.held with
  | none => return (⟨mapper, pass.log⟩, false)
  | some output =>
    let (held, log) ← setHeld mapper.held (.route route.trigger) output false
    return (⟨{ mapper with held }, pass.log ++ log⟩, false)

/-- From the last route to the first. -/
def releaseRoutes (mapper : Mapper F) (buttons reserved captured : Buttons) : Checked (Pass F) := do
  let (pass, _) ← loop (releaseRoute buttons reserved captured) ⟨mapper, []⟩
    (List.range mapper.routes.length).reverse
  return pass

end Mapper

end

/-- The layer's hold is down and no global binding has reserved it. -/
def layerActive (buttons reserved : Buttons) (layer : Layer) : Bool :=
  buttons.contains layer.hold && !reserved.contains layer.hold

section

variable {F : Type} [Scalar F]

/-- The triggers of the active layers, which hide the mode bindings with the same trigger. -/
def overriddenTriggers (mode : Mode F) (buttons reserved : Buttons) : Buttons :=
  mode.layers.foldl (fun overridden layer =>
    if layerActive buttons reserved layer then
      layer.bindings.foldl (fun overridden binding => overridden.insert binding.trigger) overridden
    else overridden) {}

/-- The buttons that no single-button binding may use: those of the global bindings and
    of the chords that count in this frame. -/
def chordReserved (mode : Mode F) (buttons reserved overridden : Buttons) : Buttons :=
  let ofMode := mode.bindings.foldl (fun chords binding =>
    if overridden.contains binding.trigger then chords
    else binding.reserveChordInputs buttons chords) reserved
  mode.layers.foldl (fun chords layer =>
    if layerActive buttons reserved layer then
      layer.bindings.foldl (fun chords binding => binding.reserveChordInputs buttons chords)
        chords
    else chords) ofMode

namespace Mapper

/-- `route_binding`, as an iteration of a loop over bindings: `true` leaves the loop. -/
def routeBinding (hold : Option Button) (buttons previousButtons reserved : Buttons)
    (pass : Pass F) (binding : Binding) : Checked (Pass F × Bool) := do
  let mapper := pass.mapper
  if !buttonPressed binding.trigger buttons previousButtons ||
      !buttons.containsAll binding.inputs ||
      !previousButtons.containsAll binding.prerequisites ||
      (mapper.routes.any fun route => route.trigger = binding.trigger) ||
      mapper.quarantined.contains binding.trigger ||
      binding.inputs.meets reserved then
    return (pass, false)
  let applied ← mapper.applyAction (.route binding.trigger) binding.action true
  let log := pass.log ++ .note (.start binding hold) :: applied.log
  -- a mode switch has released every route, and adds none
  if applied.interrupted then return (⟨applied.mapper, log⟩, true)
  let route := ⟨binding.inputs, binding.trigger, hold, applied.held⟩
  return (⟨{ applied.mapper with routes := applied.mapper.routes ++ [route] }, log⟩, false)

/-- One mode binding in one of the two passes. -/
def modeBinding (chord : Bool) (buttons previousButtons unavailable overridden : Buttons)
    (pass : Pass F) (binding : Binding) : Checked (Pass F × Bool) :=
  if binding.isChord ≠ chord || overridden.contains binding.trigger then .ok (pass, false)
  else routeBinding none buttons previousButtons unavailable pass binding

/-- One layer binding in one of the two passes. -/
def layerBinding (chord : Bool) (hold : Button) (buttons previousButtons unavailable : Buttons)
    (pass : Pass F) (binding : Binding) : Checked (Pass F × Bool) :=
  if binding.isChord ≠ chord then .ok (pass, false)
  else routeBinding (some hold) buttons previousButtons unavailable pass binding

/-- One layer in one of the two passes. -/
def layerBindings (chord : Bool) (buttons previousButtons reserved unavailable : Buttons)
    (pass : Pass F) (layer : Layer) : Checked (Pass F × Bool) :=
  if !layerActive buttons reserved layer then .ok (pass, false)
  else loop (layerBinding chord layer.hold buttons previousButtons unavailable) pass layer.bindings

/-- One of the two passes: chords consume buttons before single-button bindings. -/
def bindingPass (mode : Mode F) (buttons previousButtons reserved : Buttons) (pass : Pass F)
    (chord : Bool) : Checked (Pass F × Bool) := do
  let overridden := overriddenTriggers mode buttons reserved
  let unavailable := if chord then reserved else chordReserved mode buttons reserved overridden
  let (pass, interrupted) ←
    loop (modeBinding chord buttons previousButtons unavailable overridden) pass mode.bindings
  if interrupted then return (pass, true)
  loop (layerBindings chord buttons previousButtons reserved unavailable) pass mode.layers

def startRoutes (mapper : Mapper F) (buttons previousButtons reserved : Buttons) :
    Checked (Pass F × Bool) := do
  let mode ← mapper.mode
  loop (bindingPass mode buttons previousButtons reserved) ⟨mapper, []⟩ [true, false]

end Mapper

end

end Scd.Daemon
