import Scd.Daemon.Device
import Scd.Daemon.Ipc
import Scd.Daemon.Outputs
import Scd.Daemon.Rumble

/-! # The whole daemon

The loop of `main.rs` over the parts that the other modules model one by one: the mapper and
the keyboard (`MainLoop`), the device manager, the outputs, the rumble, and the server of the
socket.  The thread of the server and the one that plays the DualShock 4 run beside the loop,
and a step of theirs may come between any two of its own.  So the loop does one thing at a
step: it takes a command, performs one effect, polls the controller, or polls the rumble.

Writing to a virtual device does not fail here, as in `Scd.Daemon.Loop`.
-/

namespace Scd.Core

/-! ## Comparing states

`OskState` derives `PartialEq`, by which the daemon tells whether there is a state to publish.
-/

instance decidableEqOskPad {F : Type} [DecidableEq F] : DecidableEq (OskPad F) := fun left right =>
  decidable_of_iff (left.touched = right.touched ∧ left.pressed = right.pressed ∧
      left.position = right.position) <| by
    constructor
    · rintro ⟨touched, pressed, position⟩
      cases left
      cases right
      simp_all
    · rintro rfl
      exact ⟨rfl, rfl, rfl⟩

instance decidableEqOskState {F : Type} [DecidableEq F] : DecidableEq (OskState F) :=
  fun left right =>
  decidable_of_iff (left.visible = right.visible ∧ left.shiftHeld = right.shiftHeld ∧
      (∀ button ∈ Button.all, left.bindings button = right.bindings button) ∧
      left.activeBindings = right.activeBindings ∧
      left.left = right.left ∧ left.right = right.right ∧
      left.padOffsets .left = right.padOffsets .left ∧
      left.padOffsets .right = right.padOffsets .right ∧
      left.session = right.session ∧ left.clickSequence = right.clickSequence ∧
      left.clickHistoryLen = right.clickHistoryLen ∧
      left.clickHistory = right.clickHistory) <| by
    constructor
    · rintro ⟨visible, shiftHeld, bindings, rest⟩
      have every : left.bindings = right.bindings := by
        funext button
        exact bindings button (by cases button <;> decide)
      have offsets : left.padOffsets = right.padOffsets := by
        funext side
        cases side
        · exact rest.2.2.2.1
        · exact rest.2.2.2.2.1
      cases left
      cases right
      simp_all
    · rintro rfl
      simp

end Scd.Core

namespace Scd.Daemon

open Scd.Core Scd.Foundation

/-- What a step of the loop finds outside. -/
structure World (P : Type) where
  transport : Transport P
  /-- The clock in nanoseconds, at its readings by the step. -/
  now : Nat → Nat
  /-- `fetch_events` of the Xbox gamepad; none when it would block. -/
  fetched : Option (List FfEvent)
  terminated : Bool

/-- Where the loop stands. -/
inductive Place (F : Type) where
  | top
  /-- In the loop over the commands, of which it has taken some. -/
  | commands (taken : Nat)
  /-- The effects come before the response. -/
  | answering (taken : Nat) (command : Ipc.ControlCommand) (response : Option Response)
      (effects : List (Effect F))
  | polling
  | handling (effects : List (Effect F))
  | refreshing
  | rumbling
  /-- The loop is left, and the channel of the commands is closed. -/
  | leaving
  | ended

/-- The effects of the turn that are still to be performed. -/
def Place.pending {F : Type} : Place F → List (Effect F)
  | .answering _ _ _ effects | .handling effects => effects
  | _ => []

/-- The variables of `main`, and where its loop stands. -/
structure Program (P F : Type) where
  main : MainLoop F
  device : DeviceManager P
  outputs : Outputs F
  rumbler : RumbleOutputs
  rumble : UInt16 × UInt16
  lastRumble : Nat
  lastLizardRefresh : Nat
  server : Ipc.System (OskState F)
  place : Place F

/-- What is seen of a step. -/
inductive Occurrence (F : Type) where
  | turned (transition : Transition F)
  | performed (effect : Effect F)
  | rumbled (rumble : UInt16 × UInt16)
  /-- The manager gives a controller up. -/
  | dropped
  /-- An event of `poll`. -/
  | returned (event : DeviceEvent F)
  | client (sighting : Ipc.Sighting (OskState F))

/-! ## The thread of the server -/

/-- The steps of the server's thread; the others of `Ipc.Step` are those of the daemon. -/
inductive Ipc.ThreadStep {S : Type} (fromStr : List UInt8 → Option Request) :
    Ipc.System S → List (Ipc.Sighting S) → Ipc.System S → Prop where
  | accept {system after : Ipc.System S} {registration : Option Nat}
      {sightings : List (Ipc.Sighting S)} :
      (∀ token ∈ registration, system.sources.get? token = none) →
      system.acceptClient registration = .ok (after, sightings) →
      ThreadStep fromStr system sightings after
  | ready {system : Ipc.System S} {registration : Nat} {source : Ipc.Source}
      {arrived : Ipc.Arrived} {whole : Bool} {result : Ipc.Ready S} :
      system.sources.get? registration = some source → source.enabled = true →
      source.reader.ready fromStr arrived whole system.state system.commands = .ok result →
      ThreadStep fromStr system result.sightings (system.apply registration result)
  | deliver {system : Ipc.System S} {whole : Bool} :
      ThreadStep fromStr system (system.deliver whole).2 (system.deliver whole).1
  | push {system : Ipc.System S} {order : List Nat} {whole : Nat → Bool} :
      order.Perm system.state.clients.keys →
      ThreadStep fromStr system (system.push order whole).2 (system.push order whole).1

section

variable {P F : Type}

namespace DeviceManager

/-- `FIRST_INTERFACE`. -/
def firstInterface : Nat := 2

/-- `device_name`. -/
def deviceName (manager : DeviceManager P) : Option String :=
  match manager.active, manager.puck with
  | some active, some _ => some ("28de:1304 interface " ++ toString (firstInterface + active))
  | _, _ => none

def info (manager : DeviceManager P) : DeviceInfo := ⟨manager.connected, manager.deviceName⟩

end DeviceManager

namespace Program

variable [Scalar F] [DecidableEq (OskState F)]

/-! ## Effects -/

/-- One effect.  Of the keyboard only what differs from the state before is published. -/
def perform (program : Program P F) (transport : Transport P) (effect : Effect F) :
    Program P F :=
  let program := { program with outputs := program.outputs.perform effect }
  match effect with
  | .setGamepad gamepad => { program with rumbler := program.rumbler.setGamepad gamepad }
  | .haptic haptic => { program with device := program.device.playHaptic transport haptic }
  | .clickPressure pressure =>
    { program with device := program.device.setTrackpadClickPressure transport pressure }
  | .publish keyboard => { program with server := program.server.publishOsk keyboard }
  | .output _ | .key _ _ | .gamepadSource _ _ | .gamepadBattery _ => program

/-- What the controller lets be seen of a step of the loop. -/
def controller (before after : Program P F) (event : Option (DeviceEvent F)) :
    List (Occurrence F) :=
  (if before.device.connected && !after.device.connected then [.dropped] else []) ++
    (event.map .returned).toList

/-- An effect, and what is seen of it. -/
def carry (program : Program P F) (transport : Transport P) (effect : Effect F)
    (place : Place F) : Program P F × List (Occurrence F) :=
  let after := { program.perform transport effect with place }
  (after, .performed effect :: program.controller after none)

/-! ## The loop -/

/-- Three seconds between two `suppress_lizard_mode`. -/
def lizardRefresh : Nat := 3000000000

/-- A rumble is handed over again after 40 ms, before the controller lets it fade. -/
def rumbleRefresh : Nat := 40000000

def silence : UInt16 × UInt16 := (0, 0)

/-- A rumble that is handed to the device manager. -/
def sendRumble (program : Program P F) (world : World P) (rumble : UInt16 × UInt16) :
    Program P F × List (Occurrence F) :=
  let after := { program with
    device := program.device.rumble world.transport rumble.1 rumble.2
    rumble := rumble
    lastRumble := world.now 1
    place := .top }
  (after, .rumbled rumble :: program.controller after none)

/-- The rumble of a turn: a change at once, and anything but silence again and again. -/
def pollRumble (program : Program P F) (world : World P) : Program P F × List (Occurrence F) :=
  let (rumbler, next) := program.rumbler.pollRumble world.fetched
  let program := { program with rumbler }
  match next with
  | some next => program.sendRumble world next
  | none =>
    if program.rumble ≠ silence ∧ rumbleRefresh ≤ world.now 0 - program.lastRumble then
      program.sendRumble world program.rumble
    else ({ program with place := .top }, [])

def refreshLizard (program : Program P F) (world : World P) : Program P F :=
  if program.device.connected ∧ lizardRefresh ≤ world.now 0 - program.lastLizardRefresh then
    { program with
      device := program.device.suppressLizardMode world.transport
      lastLizardRefresh := world.now 1
      place := .rumbling }
  else { program with place := .rumbling }

/-- The answer to a command, whose effects are still to be performed. -/
def takeCommand [Platform F] (program : Program P F) (world : World P) (taken : Nat)
    (command : Ipc.ControlCommand) (queue : List Ipc.ControlCommand) :
    Checked (Program P F × List (Occurrence F)) := do
  let device := program.device.info
  let turn ← program.main.respond command.request device (world.now 0)
  return ({ program with
      main := turn.main
      server := { program.server with
        commands := { program.server.commands with queue }
        held := program.server.held ++ [command] }
      place := .answering taken command turn.response turn.effects },
    [.turned ⟨program.main, .request command.request device (world.now 0), turn⟩])

def pollDevice (program : Program P F) (world : World P) :
    Checked (Program P F × List (Occurrence F)) := do
  let (device, event) := program.device.poll world.transport
  match event with
  | none =>
    let after := { program with device, place := .refreshing }
    return (after, program.controller after none)
  | some event =>
    let turn ← program.main.handle event (world.now 0)
    let after := { program with device, main := turn.main, place := .handling turn.effects }
    return (after, program.controller after (some event) ++
      [.turned ⟨program.main, .event event (world.now 0), turn⟩])

/-- The response of a command that is answered. -/
def answer (program : Program P F) (taken : Nat) (command : Ipc.ControlCommand) :
    Option Response → Program P F × List (Occurrence F)
  | none => ({ program with place := .commands (taken + 1) }, [])
  | some response =>
    ({ program with
        server := program.server.respond command response
        place := .commands (taken + 1) },
      [.client (.answered command response)])

/-- One step of the loop. -/
def advance [Platform F] (program : Program P F) (world : World P) :
    Checked (Program P F × List (Occurrence F)) :=
  match program.place with
  | .top =>
    if world.terminated then
      .ok ({ program with
        server := { program.server with
          commands := { program.server.commands with receiver := false } }
        place := .leaving }, [])
    else .ok ({ program with place := .commands 0 }, [])
  | .commands taken =>
    match program.server.commands.queue with
    | command :: queue =>
      if taken < 32 then program.takeCommand world taken command queue
      else .ok ({ program with place := .polling }, [])
    | [] => .ok ({ program with place := .polling }, [])
  | .answering taken command response (effect :: effects) =>
    .ok (program.carry world.transport effect (.answering taken command response effects))
  | .answering taken command response [] => .ok (program.answer taken command response)
  | .polling => program.pollDevice world
  | .handling (effect :: effects) =>
    .ok (program.carry world.transport effect (.handling effects))
  | .handling [] => .ok ({ program with place := .refreshing }, [])
  | .refreshing => .ok (program.refreshLizard world, [])
  | .rumbling => .ok (program.pollRumble world)
  | .leaving =>
    match program.server.commands.queue with
    | command :: queue =>
      .ok ({ program with
        server := { program.server with commands := { program.server.commands with queue } } },
        [.client (.lost command)])
    | [] =>
      .ok ({ program with
        server := { program.server with events := program.server.events ++ [.shutdown] }
        place := .ended }, [])
  | .ended => .ok (program, [])

/-- The daemon before its loop. -/
def start (config : Config F) (world : World P) : Checked (Program P F) := do
  let device := (DeviceManager.new world.transport).setTrackpadClickPressure world.transport
    config.clickPressure
  let main ← MainLoop.start config
  let gamepad ← main.mapper.gamepad
  return {
    main
    device
    outputs := .new gamepad
    rumbler := .new gamepad
    rumble := silence
    lastRumble := world.now 1
    lastLizardRefresh := world.now 0
    server := (Ipc.System.bind .default).publishOsk main.keyboard
    place := .top }

/-- The steps of the three threads, in any order. -/
inductive Step [Platform F] (fromStr : List UInt8 → Option Request) :
    Program P F → List (Occurrence F) → Program P F → Prop where
  | loop {program after : Program P F} {world : World P} {seen : List (Occurrence F)} :
      program.advance world = .ok (after, seen) → Step fromStr program seen after
  | socket {program : Program P F} {server : Ipc.System (OskState F)}
      {sightings : List (Ipc.Sighting (OskState F))} :
      Ipc.ThreadStep fromStr program.server sightings server →
      Step fromStr program (sightings.map .client) { program with server }
  /-- A game sends the DualShock 4 a rumble. -/
  | game {program : Program P F} {value : UInt16 × UInt16} :
      Step fromStr program [] { program with rumbler := program.rumbler.receive value }

/-- A run of the daemon. -/
abbrev Run [Platform F] (fromStr : List UInt8 → Option Request) :
    Program P F → List (Occurrence F) → Program P F → Prop := Path (Step fromStr)

end Program

end

end Scd.Daemon
