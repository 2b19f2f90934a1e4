import Scd.Daemon.Outputs

/-! # The rumble of the gamepads

The way of a rumble from the game to `main`: the effects of the Xbox gamepad, the value that the
USB/IP thread keeps of the DualShock, and `Outputs::poll_rumble`.  What `Scd.Daemon.Outputs`
leaves out of `output.rs` is here.
-/

namespace Scd.Daemon

open Scd.Core

/-- An event that `fetch_events` of the Xbox gamepad yields. -/
inductive FfEvent where
  /-- The kind of an effect is not a rumble when there are no magnitudes. -/
  | upload (requestedId : Int16) (effect : Option (UInt16 × UInt16))
  | erase (id : Int16)
  | forceFeedback (id : Int16) (repetitions : Int32)
  | other
  deriving DecidableEq

/-- One event of the loop in `Xbox::poll_rumble`. -/
def RumbleEffects.react (rumble : RumbleEffects) : FfEvent → RumbleEffects
  | .upload requestedId effect => (rumble.upload requestedId effect).1
  | .erase id => rumble.erase id
  | .forceFeedback id repetitions => rumble.setPlayback id repetitions
  | .other => rumble

/-- The rumble of a gamepad of either kind. -/
inductive RumblePad where
  | xbox (effects : RumbleEffects)
  /-- The value that the transport keeps, and the one that was reported. -/
  | dualShock4 (rumble reported : UInt16 × UInt16)

namespace RumblePad

def new : Gamepad → Option RumblePad
  | .none => none
  | .xbox => some (.xbox .default)
  | .dualShock4 => some (.dualShock4 (0, 0) (0, 0))

/-- `VirtualGamepad::poll_rumble`.  There are no events when the read would block. -/
def pollRumble (pad : RumblePad) (fetched : Option (List FfEvent)) :
    RumblePad × Option (UInt16 × UInt16) :=
  match pad with
  | .xbox effects =>
    match fetched with
    | none => (pad, none)
    | some events =>
      let (effects, output) := (events.foldl RumbleEffects.react effects).changedOutput
      (.xbox effects, output)
  | .dualShock4 rumble reported =>
    if rumble = reported then (pad, none) else (.dualShock4 rumble rumble, some rumble)

/-- The USB/IP thread has received an output report with a rumble. -/
def receive (pad : RumblePad) (value : UInt16 × UInt16) : RumblePad :=
  match pad with
  | .xbox effects => .xbox effects
  | .dualShock4 _ reported => .dualShock4 value reported

end RumblePad

/-- The gamepad of the outputs as far as it rumbles. -/
structure RumbleOutputs where
  gamepad : Option RumblePad
  gamepadType : Gamepad
  pendingRumbleStop : Bool

namespace RumbleOutputs

/-- `Outputs::set_gamepad`. -/
def setGamepad (outputs : RumbleOutputs) (gamepad : Gamepad) : RumbleOutputs :=
  if gamepad = outputs.gamepadType then outputs
  else {
    gamepad := RumblePad.new gamepad
    gamepadType := gamepad
    pendingRumbleStop := outputs.pendingRumbleStop || outputs.gamepad.isSome }

def new (gamepad : Gamepad) : RumbleOutputs :=
  setGamepad ⟨none, .none, false⟩ gamepad

/-- `Outputs::poll_rumble`. -/
def pollRumble (outputs : RumbleOutputs) (fetched : Option (List FfEvent)) :
    RumbleOutputs × Option (UInt16 × UInt16) :=
  if outputs.pendingRumbleStop then ({ outputs with pendingRumbleStop := false }, some (0, 0))
  else
    match outputs.gamepad with
    | none => (outputs, none)
    | some pad =>
      let (pad, output) := pad.pollRumble fetched
      ({ outputs with gamepad := some pad }, output)

def receive (outputs : RumbleOutputs) (value : UInt16 × UInt16) : RumbleOutputs :=
  { outputs with gamepad := outputs.gamepad.map (·.receive value) }

end RumbleOutputs

end Scd.Daemon
