import Scd.Core.Osk
import Scd.Core.Parse
import Scd.Daemon.Process
import Scd.Foundation.Path

/-! # The main loop

The state that `main` keeps between the turns of its loop, and what one turn does with a
request of a client or an event of the controller.  What a turn does to the outside is
returned as a list of effects.  Writing to the outside does not fail here: an error of
`outputs` ends the program.

A turn also carries the ghost log of the mapper (see `Scd.Daemon.Mapper`).
-/

namespace Scd.Daemon

open Scd.Core Scd.Foundation

structure Status where
  connected : Bool
  mode : String
  batteryPercent : Option UInt8
  charging : Option Bool
  device : Option String
  deriving DecidableEq

inductive Request where
  | status
  | modeSet (name : String)
  | modeNext
  | haptic (haptic : Haptic)
  | configApply (source : String)
  | osk
  | oskHide (session : UInt64)
  | key (code : UInt16) (shift : Bool) (session : UInt64)
  deriving DecidableEq

inductive Response where
  | status (status : Status)
  | done
  | error (message : String)
  deriving DecidableEq

inductive DeviceEvent (F : Type) where
  | state (state : ControllerState F)
  | battery (percent : UInt8) (charging : Bool)
  | disconnected

/-- What the loop hands to the outputs, the device and the clients. -/
inductive Effect (F : Type) where
  | output (output : Output F)
  | key (key : KeyCode) (shift : Bool)
  | setGamepad (gamepad : Gamepad)
  | gamepadSource (state : ControllerState F) (touchpad : Option Trackpad)
  | gamepadBattery (percent : UInt8)
  | haptic (haptic : Haptic)
  | clickPressure (pressure : UInt16)
  | publish (keyboard : OskState F)

/-- The variables of `main`.  Times are in nanoseconds. -/
structure MainLoop (F : Type) where
  mapper : Mapper F
  keyboard : OskState F
  keyboardClosedAt : Option Nat
  battery : Option UInt8
  charging : Option Bool

/-- The device manager's answers to `connected` and `device_name`. -/
structure DeviceInfo where
  connected : Bool
  name : Option String

/-- One turn's input: a request, or an event of the device, and the time of the turn. -/
inductive Input (F : Type) where
  | request (request : Request) (device : DeviceInfo) (now : Nat)
  | event (event : DeviceEvent F) (now : Nat)

/-- What a turn leaves and does. -/
structure Turn (F : Type) where
  main : MainLoop F
  effects : List (Effect F)
  log : Log F
  response : Option Response := none

section

variable {F : Type} [Scalar F]

def Output.isToggle : Output F → Bool
  | .keyboardToggle => true
  | _ => false

/-! ## Emitting outputs -/

/-- One output of the loop in `emit`. -/
def emitOutput (mapper : Mapper F) (output : Output F) : Checked (List (Effect F)) :=
  match output with
  | .modeChanged _ haptic => do
    let gamepad ← mapper.gamepad
    return .setGamepad gamepad :: (haptic.map Effect.haptic).toList
  | .trackpadHaptic pad => .ok [.haptic (.trackpadClick pad (-15))]
  | output => .ok [.output output]

/-- `emit`.  A keyboard toggle suspends the mapper before anything is emitted. -/
def MainLoop.emit (main : MainLoop F) (log : Log F) : Checked (Turn F) := do
  let toggled := log.outputs.any Output.isToggle
  let (mapper, suspended) := if toggled then main.mapper.suspend else (main.mapper, [])
  let keyboard :=
    if toggled then main.keyboard.setVisible (!main.keyboard.visible) else main.keyboard
  let mapped := log.outputs.filter (!·.isToggle) ++ Log.outputs suspended
  let effects ← mapped.mapM (emitOutput mapper)
  return {
    main := { main with mapper, keyboard }
    effects := effects.flatten
    log := log ++ suspended }

/-- `sync_keyboard`. -/
def syncKeyboard (mapper : Mapper F) (keyboard : OskState F) : OskState F :=
  if keyboard.visible then
    { keyboard.setActiveBindings mapper.activeOskBindings with shiftHeld := mapper.keyboardShifted }
  else keyboard

/-- `publish_keyboard`. -/
def Turn.publish (turn : Turn F) : Turn F :=
  let keyboard := syncKeyboard turn.main.mapper turn.main.keyboard
  { turn with
    main := { turn.main with keyboard }
    effects := turn.effects ++ [.publish keyboard] }

/-! ## Requests -/

def sessionInactive : Response := .error "keyboard session is no longer active"

/-- One second, the time a keyboard closed by the controller still accepts keys. -/
def closedGrace : Nat := 1000000000

/-- The answer to a request that changes nothing. -/
def MainLoop.reply (main : MainLoop F) (response : Response) : Turn F where
  main := main
  effects := []
  log := []
  response := some response

/-- Emit what a mapper operation returned, publish the keyboard, and answer `Done`. -/
def MainLoop.carryOut (main : MainLoop F) (result : Mapper F × Log F) : Checked (Turn F) := do
  let turn ← { main with mapper := result.1 }.emit result.2
  return { turn.publish with response := some .done }

def MainLoop.oskHide (main : MainLoop F) (session : UInt64) : Checked (Turn F) := do
  if session = 0 ∨ session ≠ main.keyboard.session ∨ !main.keyboard.visible then
    return main.reply sessionInactive
  else
    let (mapper, log) := main.mapper.suspend
    let turn ← { main with mapper }.emit log
    let hidden := { turn with main := { turn.main with
      keyboard := turn.main.keyboard.setVisible false
      keyboardClosedAt := none } }
    return { hidden.publish with response := some .done }

/-- The keyboard of this session is on the screen, or the controller has just closed it. -/
def MainLoop.acceptsKey (main : MainLoop F) (session : UInt64) (now : Nat) : Bool :=
  !(session = 0 || session ≠ main.keyboard.session ||
    (!main.keyboard.visible &&
      !(main.keyboardClosedAt.any fun closed => now - closed < closedGrace)))

def MainLoop.key (main : MainLoop F) (code : UInt16) (shift : Bool) (session : UInt64) (now : Nat) :
    Turn F :=
  if !main.acceptsKey session now then main.reply sessionInactive
  else if !isKeyboardKey ⟨code⟩ then
    main.reply (.error ("invalid keyboard code " ++ toString code.toNat))
  else { main.reply .done with effects := [.key ⟨code⟩ shift] }

variable [Platform F]

def MainLoop.respond (main : MainLoop F) (request : Request) (device : DeviceInfo) (now : Nat) :
    Checked (Turn F) :=
  match request with
  | .status => do
    let mode ← main.mapper.activeModeName
    return main.reply (.status
      ⟨device.connected, mode, main.battery, main.charging, device.name⟩)
  | .modeSet name => do
    match ← main.mapper.setMode name with
    | .error message => return main.reply (.error message)
    | .ok result => main.carryOut result
  | .modeNext => do main.carryOut (← main.mapper.nextMode)
  | .haptic haptic => .ok { main.reply .done with effects := [.haptic haptic] }
  | .configApply source =>
    match Config.parse source with
    | .error message => .ok (main.reply (.error message))
    | .ok config => do
      let result ← main.mapper.reload config
      let keyboard := main.keyboard.setBindings config.oskBindings.entries
      let turn ← { main with keyboard }.carryOut result
      return { turn with effects := .clickPressure config.clickPressure :: turn.effects }
  | .osk => .error (.unreachable "internal error: entered unreachable code")
  | .oskHide session => main.oskHide session
  | .key code shift session => .ok (main.key code shift session now)

/-! ## Controller events -/

omit [Platform F] in
/-- The keyboard after a frame: the controls that press its keys, and both pads. -/
def updateKeyboard (mapper : Mapper F) (keyboard : OskState F) (state : ControllerState F)
    (wasVisible : Bool) : OskState F :=
  if keyboard.visible then
    ((syncKeyboard mapper keyboard).updatePad .left
        ⟨state.leftPad.touched, state.leftPad.clicked, state.leftPad.position⟩ wasVisible).updatePad
      .right ⟨state.rightPad.touched, state.rightPad.clicked, state.rightPad.position⟩ wasVisible
  else keyboard

/-- When the controller closed the keyboard. -/
def closedAt (wasVisible visible : Bool) (now : Nat) (before : Option Nat) : Option Nat :=
  match wasVisible, visible with
  | true, false => some now
  | false, true => none
  | _, _ => before

omit [Platform F] in
def MainLoop.frame (main : MainLoop F) (state : ControllerState F) (now : Nat) : Checked (Turn F) := do
  let wasVisible := main.keyboard.visible
  let (mapper, log) ← main.mapper.process state wasVisible
  let touchpad ← mapper.gamepadTouchpad
  let turn ← { main with mapper }.emit log
  let keyboard := updateKeyboard turn.main.mapper turn.main.keyboard state wasVisible
  return { turn with
    main := { turn.main with
      keyboard
      keyboardClosedAt :=
        closedAt wasVisible turn.main.keyboard.visible now main.keyboardClosedAt }
    effects := .gamepadSource state touchpad :: turn.effects ++ [.publish keyboard] }

omit [Platform F] in
def MainLoop.disconnect (main : MainLoop F) : Checked (Turn F) := do
  let gamepad ← main.mapper.gamepad
  let (mapper, log) ← main.mapper.releaseAll
  let turn ← { main with mapper }.emit log
  let hidden := { turn with
    main := { turn.main with
      keyboard := turn.main.keyboard.setVisible false
      keyboardClosedAt := none
      battery := none
      charging := none }
    effects := .setGamepad .none :: .setGamepad gamepad :: turn.effects }
  return hidden.publish

omit [Platform F] in
def MainLoop.handle (main : MainLoop F) (event : DeviceEvent F) (now : Nat) : Checked (Turn F) :=
  match event with
  | .state state => main.frame state now
  | .battery percent charging =>
    .ok { main := { main with battery := some percent, charging := some charging }
          effects := [.gamepadBattery percent]
          log := [] }
  | .disconnected => main.disconnect

def MainLoop.step (main : MainLoop F) (input : Input F) : Checked (Turn F) :=
  match input with
  | .request request device now => main.respond request device now
  | .event event now => main.handle event now

omit [Platform F] in
/-- The variables of `main` before the loop. -/
def MainLoop.start (config : Config F) : Checked (MainLoop F) := do
  let mapper ← Mapper.new config
  return {
    mapper
    keyboard := syncKeyboard mapper (OskState.default.setBindings config.oskBindings.entries)
    keyboardClosedAt := none
    battery := none
    charging := none }

/-! ## Runs -/

/-- One turn of a run. -/
structure Transition (F : Type) where
  before : MainLoop F
  input : Input F
  turn : Turn F

/-- A turn that does not panic. -/
inductive Turns : MainLoop F → List (Transition F) → MainLoop F → Prop where
  | turn {before : MainLoop F} {input : Input F} {turn : Turn F} :
      before.step input = .ok turn → Turns before [⟨before, input, turn⟩] turn.main

/-- A run of the loop, with its turns. -/
abbrev MainLoop.Run : MainLoop F → List (Transition F) → MainLoop F → Prop := Path Turns

/-- The run on the given inputs. -/
def MainLoop.runs (main : MainLoop F) : List (Input F) → Checked (List (Transition F) × MainLoop F)
  | [] => .ok ([], main)
  | input :: inputs => do
    let turn ← main.step input
    let (turns, final) ← turn.main.runs inputs
    return (⟨main, input, turn⟩ :: turns, final)

/-- The run of the program on the given inputs. -/
def MainLoop.runsFrom (config : Config F) (inputs : List (Input F)) :
    Checked (MainLoop F × List (Transition F) × MainLoop F) := do
  let start ← MainLoop.start config
  let (turns, final) ← start.runs inputs
  return (start, turns, final)

/-- The mapper's log of a run. -/
def runLog (turns : List (Transition F)) : Log F := turns.flatMap fun transition => transition.turn.log

end

end Scd.Daemon
