import Scd.Core.Report
import Scd.Daemon.Loop
import Scd.Daemon.Usb
import Scd.Foundation.Dialogue

/-! # The device manager

`DeviceManager` of `device.rs`: at most one slot of the receiver is active, the one whose
controller is connected.  The manager is generic in the opened receiver `P`; what the
transport answers to the calls of a method, and the clock, are an argument of the method.

A method that sends feature reports is a dialogue about them (`Sends`).  Its name alone stands
for what the method comes to with the answers of the transport.
-/

namespace Scd.Daemon

open Scd.Core Scd.Foundation

/-- The world during one call of a method. -/
structure Transport (P : Type) where
  /-- `usb::Device::open` on the slots of the receiver. -/
  opened : Except Usb.IoError P
  poll : P → Option Nat → Except Usb.IoError (P × Option (Nat × List UInt8))
  write : P → Nat → List UInt8 → Except Usb.IoError P
  /-- `usb::Device::control` has written the whole report. -/
  control : P → Nat → List UInt8 → Bool
  /-- The clock in nanoseconds, at its readings by the method in their order in the source. -/
  now : Nat → Int

structure DeviceManager (P : Type) where
  puck : Option P
  active : Option Nat
  trackpadClickPressure : UInt16
  lastState : Option Int
  lastScan : Int
  disconnected : Bool

namespace DeviceManager

variable {P : Type}

def milliseconds (count : Int) : Int := count * 1000000

def scan (manager : DeviceManager P) (transport : Transport P) (now : Int) : DeviceManager P :=
  match transport.opened with
  | .ok puck => { manager with lastScan := now, puck := some puck }
  | .error _ => { manager with lastScan := now }

def new (transport : Transport P) : DeviceManager P :=
  scan
    { puck := none
      active := none
      trackpadClickPressure := 25
      lastState := none
      lastScan := transport.now 0 - milliseconds 2000
      disconnected := false }
    transport (transport.now 1)

/-- `reset`, and whether a controller was connected. -/
def reset (manager : DeviceManager P) (now : Int) : DeviceManager P × Bool :=
  ({ manager with
      active := none
      lastState := none
      puck := none
      lastScan := now - milliseconds 2000 },
    manager.active.isSome)

end DeviceManager

/-! ## Feature reports -/

/-- What a method does, as far as the feature reports that it sends to slots are taken. -/
abbrev Sends (P : Type) : Type → Type := Dialogue (P × Nat × List UInt8) fun _ => Bool

/-- Whether a feature report is taken. -/
def Transport.takes {P : Type} (transport : Transport P) (sent : P × Nat × List UInt8) : Bool :=
  transport.control sent.1 sent.2.1 sent.2.2

namespace DeviceManager

variable {P : Type}

def sendFeature (manager : DeviceManager P) (active : Nat) (report : List UInt8) : Sends P Bool :=
  match manager.puck with
  | none => return false
  | some puck => Dialogue.ask (puck, active, report)

/-- The click pressure, on both pads. -/
def sendClickPressure (manager : DeviceManager P) (active : Nat) (pressure : UInt16)
    (configured : Bool) : Sends P Bool :=
  [Trackpad.left, Trackpad.right].foldlM (fun configured pad => do
    let sent ← manager.sendFeature active (trackpadClickPressureReport pad pressure)
    return configured && sent) configured

/-- A slot that is about to become active takes its settings. -/
def configure (manager : DeviceManager P) (index : Nat) : Sends P Bool := do
  let lizard ← manager.sendFeature index (lizardModeReport false)
  -- not sent after a first report that was refused
  let imu ← if lizard then manager.sendFeature index (imuModeReport true) else pure false
  manager.sendClickPressure index manager.trackpadClickPressure imu

def connected (manager : DeviceManager P) : Bool := manager.active.isSome

/-! ## Polling -/

section

variable {F : Type}

/-- What `poll` does with a report that it understands. -/
def receiveSends (manager : DeviceManager P) (transport : Transport P) (index : Nat) :
    Report F → Sends P (DeviceManager P × Option (DeviceEvent F))
  | .disconnected =>
    if manager.active = some index then
      return ({ manager with active := none, lastState := none }, some .disconnected)
    else return (manager, none)
  | .state state => do
    let configured ← if manager.active.isNone then manager.configure index else pure true
    -- a slot that does not take its settings loses the receiver
    if !configured then return ((manager.reset (transport.now 3)).1, none)
    let manager :=
      if manager.active.isNone then { manager with active := some index } else manager
    if manager.active = some index then
      return ({ manager with lastState := some (transport.now 3) }, some (.state state))
    else return (manager, none)
  | .battery percent charging =>
    if manager.active = some index then return (manager, some (.battery percent charging))
    else return (manager, none)

/-- The active slot has sent no state for 750 ms. -/
def silent (manager : DeviceManager P) (now : Int) : Bool :=
  manager.active.isSome && manager.lastState.any fun last => milliseconds 750 ≤ now - last

/-- The receiver is missing, and it is time to look for it. -/
def scanDue (manager : DeviceManager P) (now : Int) : Bool :=
  manager.puck.isNone && decide (milliseconds 1000 ≤ now - manager.lastScan)

variable [Scalar F]

/-- What `poll` does with what it has read of the receiver. -/
def interpretSends (manager : DeviceManager P) (transport : Transport P) :
    Option (Nat × List UInt8) → Sends P (DeviceManager P × Option (DeviceEvent F))
  | none => return (manager, none)
  | some (index, report) =>
    match parseReport report with
    | none => return (manager, none)
    | some parsed => manager.receiveSends transport index parsed

/-- The part of `poll` that reads the receiver. -/
def readSends (manager : DeviceManager P) (transport : Transport P) :
    Sends P (DeviceManager P × Option (DeviceEvent F)) :=
  match manager.puck with
  | none => return (manager, none)
  | some puck =>
    match transport.poll puck manager.active with
    | .error _ =>
      let (manager, disconnected) := manager.reset (transport.now 3)
      return (manager, if disconnected then some .disconnected else none)
    | .ok (puck, polled) => { manager with puck := some puck }.interpretSends transport polled

def pollSends (manager : DeviceManager P) (transport : Transport P) :
    Sends P (DeviceManager P × Option (DeviceEvent F)) :=
  -- a connection that was lost between two polls
  if manager.disconnected then
    return ({ manager with disconnected := false }, some .disconnected)
  else
    let manager :=
      if manager.scanDue (transport.now 0) then manager.scan transport (transport.now 1)
      else manager
    if manager.silent (transport.now 2) then
      return ({ manager with active := none, lastState := none }, some .disconnected)
    else manager.readSends transport

def poll (manager : DeviceManager P) (transport : Transport P) :
    DeviceManager P × Option (DeviceEvent F) :=
  (manager.pollSends transport).run transport.takes

end

/-! ## Writing -/

def playHaptic (manager : DeviceManager P) (transport : Transport P) (haptic : Haptic) :
    DeviceManager P :=
  match manager.active, manager.puck with
  | some active, some puck =>
    match transport.write puck active haptic.encode with
    | .ok puck => { manager with puck := some puck }
    | .error _ =>
      let (manager, disconnected) := manager.reset (transport.now 0)
      { manager with disconnected }
  | _, _ => manager

def rumble (manager : DeviceManager P) (transport : Transport P)
    (lowFrequency highFrequency : UInt16) : DeviceManager P :=
  manager.playHaptic transport (.rumble lowFrequency highFrequency)

def setTrackpadClickPressureSends (manager : DeviceManager P) (transport : Transport P)
    (pressure : UInt16) : Sends P (DeviceManager P) := do
  let manager := { manager with trackpadClickPressure := pressure }
  match manager.active with
  | none => return manager
  | some active =>
    if ← manager.sendClickPressure active pressure true then return manager
    else
      let (manager, disconnected) := manager.reset (transport.now 0)
      return { manager with disconnected }

def setTrackpadClickPressure (manager : DeviceManager P) (transport : Transport P)
    (pressure : UInt16) : DeviceManager P :=
  (manager.setTrackpadClickPressureSends transport pressure).run transport.takes

/-- A failure is only logged. -/
def suppressLizardModeSends (manager : DeviceManager P) : Sends P (DeviceManager P) := do
  match manager.active with
  | none => return manager
  | some active =>
    let _ ← manager.sendFeature active (lizardModeReport false)
    return manager

def suppressLizardMode (manager : DeviceManager P) (transport : Transport P) : DeviceManager P :=
  manager.suppressLizardModeSends.run transport.takes

/-! ## What the methods come to -/

section

variable {manager : DeviceManager P} {transport : Transport P}

variable {F : Type}

theorem run_receiveSends (index : Nat) (report : Report F) :
    (manager.receiveSends transport index report).run transport.takes =
      match report with
      | .disconnected =>
        if manager.active = some index then
          ({ manager with active := none, lastState := none }, some .disconnected)
        else (manager, none)
      | .state state =>
        if manager.active.isNone && !(manager.configure index).run transport.takes then
          ((manager.reset (transport.now 3)).1, none)
        else
          let manager :=
            if manager.active.isNone then { manager with active := some index } else manager
          if manager.active = some index then
            ({ manager with lastState := some (transport.now 3) }, some (.state state))
          else (manager, none)
      | .battery percent charging =>
        if manager.active = some index then (manager, some (.battery percent charging))
        else (manager, none) := by
  cases report with
  | disconnected | battery => exact Dialogue.run_ite ..
  | state state =>
    simp only [receiveSends]
    cases manager.active.isNone with
    | true =>
      simp only [if_true, Bool.true_and, Dialogue.run_bind, Dialogue.run_ite]
      cases (manager.configure index).run transport.takes <;> rfl
    | false => simp [Dialogue.run_ite]

variable [Scalar F]

theorem run_interpretSends (polled : Option (Nat × List UInt8)) :
    ((manager.interpretSends transport polled).run transport.takes :
        DeviceManager P × Option (DeviceEvent F)) =
      match polled with
      | none => (manager, none)
      | some (index, report) =>
        match parseReport report with
        | none => (manager, none)
        | some parsed => (manager.receiveSends transport index parsed).run transport.takes := by
  cases polled with
  | none => rfl
  | some polled =>
    simp only [interpretSends]
    split <;> rfl

theorem run_readSends :
    ((manager.readSends transport).run transport.takes :
        DeviceManager P × Option (DeviceEvent F)) =
      match manager.puck with
      | none => (manager, none)
      | some puck =>
        match transport.poll puck manager.active with
        | .error _ =>
          let (manager, disconnected) := manager.reset (transport.now 3)
          (manager, if disconnected then some .disconnected else none)
        | .ok (puck, polled) =>
          ({ manager with puck := some puck }.interpretSends transport polled).run
            transport.takes := by
  unfold readSends
  split
  · rfl
  · split <;> rfl

theorem poll_eq :
    (manager.poll transport : DeviceManager P × Option (DeviceEvent F)) =
      if manager.disconnected then ({ manager with disconnected := false }, some .disconnected)
      else
        let manager :=
          if manager.scanDue (transport.now 0) then manager.scan transport (transport.now 1)
          else manager
        if manager.silent (transport.now 2) then
          ({ manager with active := none, lastState := none }, some .disconnected)
        else (manager.readSends transport).run transport.takes := by
  simp only [poll, pollSends, Dialogue.run_ite]
  rfl

omit [Scalar F] in
theorem setTrackpadClickPressure_eq (pressure : UInt16) :
    manager.setTrackpadClickPressure transport pressure =
      let manager := { manager with trackpadClickPressure := pressure }
      match manager.active with
      | none => manager
      | some active =>
        if (manager.sendClickPressure active pressure true).run transport.takes then manager
        else
          let (manager, disconnected) := manager.reset (transport.now 0)
          { manager with disconnected } := by
  unfold setTrackpadClickPressure setTrackpadClickPressureSends
  dsimp only
  split
  · rfl
  · simp only [Dialogue.run_bind, Dialogue.run_ite]
    rfl

@[simp] theorem suppressLizardMode_eq : manager.suppressLizardMode transport = manager := by
  unfold suppressLizardMode suppressLizardModeSends
  split <;> simp

end

end DeviceManager

/-! ## Calls -/

inductive DeviceCall where
  | poll
  | playHaptic (haptic : Haptic)
  | rumble (lowFrequency highFrequency : UInt16)
  | setTrackpadClickPressure (pressure : UInt16)
  | suppressLizardMode
  deriving DecidableEq, Repr

/-- One call of a method, with the event that it returns. -/
def DeviceManager.call {P F : Type} [Scalar F] (manager : DeviceManager P) (call : DeviceCall)
    (transport : Transport P) : DeviceManager P × Option (DeviceEvent F) :=
  match call with
  | .poll => manager.poll transport
  | .playHaptic haptic => (manager.playHaptic transport haptic, none)
  | .rumble lowFrequency highFrequency =>
    (manager.rumble transport lowFrequency highFrequency, none)
  | .setTrackpadClickPressure pressure =>
    (manager.setTrackpadClickPressure transport pressure, none)
  | .suppressLizardMode => (manager.suppressLizardMode transport, none)

end Scd.Daemon
