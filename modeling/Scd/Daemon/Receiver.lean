import Scd.Daemon.Device

/-! # The manager on the receiver

The device manager over the transport of `Scd.Daemon.Usb`, and the part of the main loop
that drives it: what `Scd.Daemon.Program` does on such a receiver (`daemon_drives_controller`).
Any call to the transport may fail; one that does not is a call of the model of `usb.rs`.
-/

namespace Scd.Daemon

open Scd.Core

/-! ## The receiver -/

/-- What the transport has done.  Ghost. -/
inductive Receipt where
  | read (slot : Nat) (completion : Usb.Completion)
  | submitted (slot : Nat) (data : List UInt8)
  deriving DecidableEq, Repr

/-- The opened receiver, with the receipts of the current step. -/
structure Receiver where
  device : Usb.Device
  log : List Receipt

/-- What the kernel and the controllers do during a step. -/
structure Surroundings where
  openFails : Option Usb.IoError
  pollFails : Option Usb.IoError
  writeFails : Option Usb.IoError
  control : Nat → List UInt8 → Bool
  wait : Usb.Device.Wait
  now : Nat → Int

/-- `FIRST_INTERFACE..FIRST_INTERFACE + SLOT_COUNT`. -/
def receiverInterfaces : List UInt8 := [2, 3, 4, 5]

/-- A write to the slot finds its output transfer free. -/
def submits (device : Usb.Device) (slot : Nat) : Bool :=
  match device.reap with
  | .ok reaped => (reaped.slots[slot]?).any fun found => !found.output.pending
  | .error _ => false

namespace Receiver

/-- The reports that `poll` has returned. -/
def receipts (notes : List Usb.Note) : List Receipt :=
  notes.filterMap fun
    | .handedOut slot completion => some (.read slot completion)
    | .completed _ _ => none

def poll (receiver : Receiver) (active : Option Nat) (wait : Usb.Device.Wait) :
    Except Usb.IoError (Receiver × Option (Nat × List UInt8)) := do
  let (device, report, notes) ← receiver.device.poll active wait
  return (⟨device, receiver.log ++ receipts notes⟩, report)

def write (receiver : Receiver) (slot : Nat) (data : List UInt8) :
    Except Usb.IoError Receiver := do
  let device ← receiver.device.write slot data
  let log := if submits receiver.device slot then [.submitted slot data] else []
  return ⟨device, receiver.log ++ log⟩

end Receiver

/-- The transport during a step.  A receiver that is opened again goes on counting. -/
def Surroundings.transport (surroundings : Surroundings) (clock : Nat) : Transport Receiver where
  opened := match surroundings.openFails with
    | some error => .error error
    | none => .ok ⟨{ Usb.Device.ofInterfaces receiverInterfaces with clock }, []⟩
  poll := fun receiver active => match surroundings.pollFails with
    | some error => .error error
    | none => receiver.poll active surroundings.wait
  write := fun receiver slot data => match surroundings.writeFails with
    | some error => .error error
    | none => receiver.write slot data
  control := fun _ => surroundings.control
  now := surroundings.now

/-! ## The loop -/

/-- The manager, the rumble that `main` keeps, and the number of completed transfers. -/
structure ControllerLoop where
  manager : DeviceManager Receiver
  rumble : UInt16 × UInt16
  lastRumble : Int
  /-- Ghost. -/
  clock : Nat

inductive ControllerEvent where
  /-- The report of a controller arrives. -/
  | arrive (slot : Nat) (data : List UInt8)
  /-- The kernel is done with an output transfer. -/
  | finishOutput (slot : Nat) (status : Int) (data : List UInt8)
  /-- A call of the manager; haptics come from pads, mode switches and clients. -/
  | call (call : DeviceCall) (surroundings : Surroundings)
  /-- `outputs.poll_rumble()`, and a change that it returns. -/
  | pollRumble (next : Option (UInt16 × UInt16)) (surroundings : Surroundings)

/-- What is observed of a step. -/
inductive Observation where
  | activated (slot : Nat) (completion : Usb.Completion)
  | submitted (slot : Nat) (data : List UInt8)
  | dropped (clock : Nat)
  deriving DecidableEq, Repr

namespace ControllerLoop

def new (surroundings : Surroundings) : ControllerLoop where
  manager := .new (surroundings.transport 0)
  rumble := (0, 0)
  lastRumble := surroundings.now 2
  clock := 0

/-- The receiver changes on its own, and the receipts of the last step are forgotten. -/
def onDevice (manager : DeviceManager Receiver) (change : Usb.Device → Usb.Device) :
    DeviceManager Receiver :=
  { manager with puck := manager.puck.map fun receiver => ⟨change receiver.device, []⟩ }

def forget (manager : DeviceManager Receiver) : DeviceManager Receiver := onDevice manager id

/-- One call of the manager. -/
def callManager {F : Type} [Scalar F] (loop : ControllerLoop) (call : DeviceCall)
    (surroundings : Surroundings) : ControllerLoop × Option (DeviceEvent F) :=
  let (manager, event) := (forget loop.manager).call call (surroundings.transport loop.clock)
  ({ loop with manager }, event)

/-- The rumble of a turn: a change at once, and anything but silence again after 40 ms. -/
def pollRumble (loop : ControllerLoop) (next : Option (UInt16 × UInt16))
    (surroundings : Surroundings) : ControllerLoop :=
  let transport := surroundings.transport loop.clock
  let manager := forget loop.manager
  match next with
  | some next =>
    { loop with
      manager := manager.rumble transport next.1 next.2
      rumble := next
      lastRumble := surroundings.now 2 }
  | none =>
    if loop.rumble ≠ (0, 0) ∧
        DeviceManager.milliseconds 40 ≤ surroundings.now 1 - loop.lastRumble then
      { loop with
        manager := manager.rumble transport loop.rumble.1 loop.rumble.2
        lastRumble := surroundings.now 2 }
    else { loop with manager }

/-- One event. -/
def react (F : Type) [Scalar F] (loop : ControllerLoop) : ControllerEvent → ControllerLoop
  | .arrive slot data =>
    { loop with manager := onDevice loop.manager fun device => (device.arrive slot data).1 }
  | .finishOutput slot status data =>
    { loop with manager := onDevice loop.manager (·.finishOutput slot status data) }
  | .call call surroundings => (loop.callManager (F := F) call surroundings).1
  | .pollRumble next surroundings => loop.pollRumble next surroundings

/-- The number of completed transfers.  Those of a receiver that was lost do not count. -/
def tick (loop : ControllerLoop) : ControllerLoop :=
  { loop with clock := (loop.manager.puck.map (·.device.clock)).getD loop.clock }

def receipts (loop : ControllerLoop) : List Receipt :=
  (loop.manager.puck.map (·.log)).getD []

/-- What a receipt lets be observed: of the reports only the one that activates a slot. -/
def observe (activates : Bool) : Receipt → List Observation
  | .submitted slot data => [.submitted slot data]
  | .read slot completion => if activates then [.activated slot completion] else []

/-- What a step from one state to another lets be observed. -/
def observations (before after : ControllerLoop) : List Observation :=
  after.receipts.flatMap
      (observe (before.manager.active.isNone && after.manager.active.isSome)) ++
    if before.manager.active.isSome && after.manager.active.isNone then [.dropped after.clock]
    else []

def step (F : Type) [Scalar F] (loop : ControllerLoop) (event : ControllerEvent) : ControllerLoop :=
  (loop.react F event).tick

end ControllerLoop

end Scd.Daemon
