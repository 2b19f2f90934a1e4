import Scd.Verified.Composition
import Scd.Verified.RumbleStop

/-! # The daemon on the receiver

`Program` leaves open how its transport answers, and `ControllerLoop` is the part of the daemon
that drives the receiver of `usb.rs`.  On that receiver every run of the daemon is one of
`ControllerLoop`, so that what is shown of the latter's runs is shown of the former's.

The two may differ in the receipts, which are ghosts: neither of them goes by the receipts of a
receiver (`DeviceManager.call_map`).
-/

namespace Scd.Daemon

open Scd.Core Scd.Foundation

/-! ## The view of a receiver -/

section

variable {P Q : Type}

/-- A transport that knows of a receiver what `view` shows of it, and answers as the other. -/
structure Transport.Maps (view : P → Q) (transport : Transport P) (image : Transport Q) : Prop where
  opened : image.opened = transport.opened.map view
  poll : ∀ puck active, image.poll (view puck) active =
    (transport.poll puck active).map fun result => (view result.1, result.2)
  write : ∀ puck slot data, image.write (view puck) slot data =
    (transport.write puck slot data).map view
  control : ∀ puck slot data, image.control (view puck) slot data =
    transport.control puck slot data
  now : image.now = transport.now

namespace DeviceManager

def map (view : P → Q) (manager : DeviceManager P) : DeviceManager Q where
  puck := manager.puck.map view
  active := manager.active
  trackpadClickPressure := manager.trackpadClickPressure
  lastState := manager.lastState
  lastScan := manager.lastScan
  disconnected := manager.disconnected

variable {view : P → Q} {transport : Transport P} {image : Transport Q}
  {manager : DeviceManager P}

theorem map_scan (maps : transport.Maps view image) (now : Int) :
    (manager.map view).scan image now = (manager.scan transport now).map view := by
  unfold scan
  rw [maps.opened]
  cases transport.opened <;> rfl

@[simp] theorem map_reset (now : Int) : (manager.map view).reset now =
    ((manager.reset now).1.map view, (manager.reset now).2) := rfl

@[simp] theorem map_silent (now : Int) : (manager.map view).silent now = manager.silent now := rfl

@[simp] theorem map_scanDue (now : Int) :
    (manager.map view).scanDue now = manager.scanDue now := by
  obtain ⟨puck, _, _, _, _, _⟩ := manager
  cases puck <;> rfl

theorem run_sendFeature_map (maps : transport.Maps view image) (index : Nat)
    (report : List UInt8) :
    ((manager.map view).sendFeature index report).run image.takes =
      (manager.sendFeature index report).run transport.takes := by
  cases puck : manager.puck with
  | none => simp [sendFeature, map, puck]
  | some receiver =>
    simpa [sendFeature, map, puck, Dialogue.ask, Transport.takes] using
      maps.control receiver index report

theorem run_sendClickPressure_map (maps : transport.Maps view image) (index : Nat)
    (pressure : UInt16) (configured : Bool) :
    ((manager.map view).sendClickPressure index pressure configured).run image.takes =
      (manager.sendClickPressure index pressure configured).run transport.takes := by
  simp [sendClickPressure, run_sendFeature_map maps]

theorem run_configure_map (maps : transport.Maps view image) (index : Nat) :
    ((manager.map view).configure index).run image.takes =
      (manager.configure index).run transport.takes := by
  have kept : (manager.map view).trackpadClickPressure = manager.trackpadClickPressure := rfl
  simp only [configure, Dialogue.run_bind, run_sendFeature_map maps, kept]
  cases (manager.sendFeature index (lizardModeReport false)).run transport.takes <;>
    simp [run_sendFeature_map maps, run_sendClickPressure_map maps]

theorem playHaptic_map (maps : transport.Maps view image) (haptic : Haptic) :
    (manager.map view).playHaptic image haptic = (manager.playHaptic transport haptic).map view := by
  obtain ⟨puck, active, pressure, lastState, lastScan, disconnected⟩ := manager
  cases active with
  | none => rfl
  | some slot =>
    cases puck with
    | none => rfl
    | some puck =>
      simp only [playHaptic, map, Option.map_some, maps.write, maps.now]
      cases transport.write puck slot haptic.encode <;> rfl

theorem setTrackpadClickPressure_map (maps : transport.Maps view image) (pressure : UInt16) :
    (manager.map view).setTrackpadClickPressure image pressure =
      (manager.setTrackpadClickPressure transport pressure).map view := by
  obtain ⟨puck, active, kept, lastState, lastScan, disconnected⟩ := manager
  rw [setTrackpadClickPressure_eq, setTrackpadClickPressure_eq]
  cases active with
  | none => rfl
  | some slot =>
    have sent := @run_sendClickPressure_map _ _ view transport image
      ⟨puck, some slot, pressure, lastState, lastScan, disconnected⟩ maps slot pressure true
    dsimp only [map] at sent ⊢
    rw [sent, maps.now]
    split <;> rfl

variable {F : Type}

theorem receive_map (maps : transport.Maps view image) (index : Nat) (report : Report F) :
    ((manager.map view).receiveSends image index report).run image.takes =
      (((manager.receiveSends transport index report).run transport.takes).1.map view,
        ((manager.receiveSends transport index report).run transport.takes).2) := by
  have active : (manager.map view).active = manager.active := rfl
  simp only [run_receiveSends, active, run_configure_map maps, maps.now]
  cases report with
  | disconnected =>
    dsimp only
    split <;> rfl
  | battery =>
    dsimp only
    split <;> rfl
  | state state =>
    dsimp only
    split
    · rfl
    · cases manager.active.isNone with
      | true => simp only [if_true]; rfl
      | false =>
        simp only [Bool.false_eq_true, if_false, active]
        split <;> rfl

variable [Scalar F]

theorem interpret_map (maps : transport.Maps view image) (polled : Option (Nat × List UInt8)) :
    ((manager.map view).interpretSends image polled).run image.takes =
      (((manager.interpretSends (F := F) transport polled).run transport.takes).1.map view,
        ((manager.interpretSends (F := F) transport polled).run transport.takes).2) := by
  rw [run_interpretSends, run_interpretSends]
  cases polled with
  | none => rfl
  | some report =>
    dsimp only
    split
    · rfl
    · exact receive_map maps _ _

theorem read_map (maps : transport.Maps view image) :
    ((manager.map view).readSends image).run image.takes =
      (((manager.readSends (F := F) transport).run transport.takes).1.map view,
        ((manager.readSends (F := F) transport).run transport.takes).2) := by
  rw [run_readSends, run_readSends]
  cases puck : manager.puck with
  | none =>
    have missing : (manager.map view).puck = none := congrArg (Option.map view) puck
    rw [missing]
  | some receiver =>
    have opened : (manager.map view).puck = some (view receiver) := congrArg (Option.map view) puck
    have active : (manager.map view).active = manager.active := rfl
    rw [opened]
    dsimp only
    rw [active, maps.poll]
    cases transport.poll receiver manager.active with
    | error => simp only [Except.map, map_reset, maps.now]
    | ok result =>
      obtain ⟨receiver, polled⟩ := result
      exact @interpret_map _ _ _ _ _ { manager with puck := some receiver } _ _ maps polled

/-- No method goes by what the view of the receiver does not show. -/
theorem call_map (maps : transport.Maps view image) (call : DeviceCall) :
    ((manager.map view).call call image : DeviceManager Q × Option (DeviceEvent F)) =
      ((manager.call (F := F) call transport).1.map view,
        (manager.call (F := F) call transport).2) := by
  cases call with
  | playHaptic haptic => exact congrArg (·, none) (playHaptic_map maps haptic)
  | rumble low high => exact congrArg (·, none) (playHaptic_map maps (.rumble low high))
  | setTrackpadClickPressure pressure =>
    exact congrArg (·, none) (setTrackpadClickPressure_map maps pressure)
  | suppressLizardMode => simp only [call, suppressLizardMode_eq]
  | poll =>
    simp only [call]
    rw [poll_eq, poll_eq]
    have scanned : (if manager.scanDue (transport.now 0) then
          (manager.map view).scan image (transport.now 1) else manager.map view) =
        (if manager.scanDue (transport.now 0) then manager.scan transport (transport.now 1)
          else manager).map view := by
      rw [map_scan maps]
      split <;> rfl
    have told : (manager.map view).disconnected = manager.disconnected := rfl
    rw [told, maps.now, map_scanDue, scanned]
    generalize (if manager.scanDue (transport.now 0) then
        manager.scan transport (transport.now 1) else manager) = opened
    dsimp only
    rw [map_silent, read_map maps]
    -- a disconnection is told first, then a silent controller is given up
    split
    · rfl
    · split <;> rfl

end DeviceManager

end

/-- The transport without receipts. -/
def Surroundings.bare (surroundings : Surroundings) (clock : Nat) : Transport Usb.Device where
  opened := match surroundings.openFails with
    | some error => .error error
    | none => .ok { Usb.Device.ofInterfaces receiverInterfaces with clock }
  poll := fun device active => match surroundings.pollFails with
    | some error => .error error
    | none => (device.poll active surroundings.wait).map fun result => (result.1, result.2.1)
  write := fun device slot data => match surroundings.writeFails with
    | some error => .error error
    | none => device.write slot data
  control := fun _ => surroundings.control
  now := surroundings.now

theorem transport_maps (surroundings : Surroundings) (clock : Nat) :
    (surroundings.transport clock).Maps Receiver.device (surroundings.bare clock) where
  opened := by
    simp only [Surroundings.transport, Surroundings.bare]
    cases surroundings.openFails <;> rfl
  poll := by
    intro receiver active
    simp only [Surroundings.transport, Surroundings.bare, Receiver.poll]
    cases surroundings.pollFails with
    | some => rfl
    | none => cases receiver.device.poll active surroundings.wait <;> rfl
  write := by
    intro receiver slot data
    simp only [Surroundings.transport, Surroundings.bare, Receiver.write]
    cases surroundings.writeFails with
    | some => rfl
    | none => cases receiver.device.write slot data <;> rfl
  control := fun _ _ _ => rfl
  now := rfl

/-! ## The daemon -/

/-- The manager, but for the receipts of its receiver. -/
def DeviceManager.bare (manager : DeviceManager Receiver) : DeviceManager Usb.Device :=
  manager.map Receiver.device

theorem bare_forget (manager : DeviceManager Receiver) :
    (ControllerLoop.forget manager).bare = manager.bare := by
  obtain ⟨puck, _, _, _, _, _⟩ := manager
  cases puck <;> rfl

section

variable {F : Type} [Scalar F]

/-- The receipts make no difference to a call. -/
theorem call_bare {first second : DeviceManager Receiver} (same : first.bare = second.bare)
    (surroundings : Surroundings) (clock : Nat) (call : DeviceCall) :
    (first.call (F := F) call (surroundings.transport clock)).1.bare =
        (second.call (F := F) call (surroundings.transport clock)).1.bare ∧
      (first.call (F := F) call (surroundings.transport clock)).2 =
        (second.call call (surroundings.transport clock)).2 := by
  have maps := transport_maps surroundings clock
  have both : (first.bare.call (F := F) call (surroundings.bare clock)) =
      second.bare.call call (surroundings.bare clock) := by rw [same]
  unfold DeviceManager.bare at both
  rw [DeviceManager.call_map maps, DeviceManager.call_map maps] at both
  exact Prod.mk.inj both

/-- `ControllerLoop` as a part of the daemon. -/
structure Program.Drives (program : Program Receiver F) (loop : ControllerLoop) : Prop where
  manager : program.device.bare = loop.manager.bare
  rumble : program.rumble = loop.rumble
  lastRumble : (program.lastRumble : Int) = loop.lastRumble

/-- The surroundings with the clock as `main` reads it at the rumble. -/
def Surroundings.timed (surroundings : Surroundings) (now : Nat → Nat) : Surroundings :=
  { surroundings with now := fun
    | 0 => surroundings.now 0
    | reading + 1 => now reading }

variable {program after : Program Receiver F} {loop : ControllerLoop} {world : World Receiver}
  {surroundings : Surroundings}

/-- A call of the daemon is one of `ControllerLoop`. -/
theorem Program.Drives.call (drives : program.Drives loop) (call : DeviceCall)
    (surroundings : Surroundings) {after : Program Receiver F}
    (called : after.device =
      (program.device.call (F := F) call (surroundings.transport loop.clock)).1)
    (rumble : after.rumble = program.rumble) (last : after.lastRumble = program.lastRumble) :
    after.Drives (loop.react F (.call call surroundings)) := by
  have same := drives.manager.trans (bare_forget loop.manager).symm
  constructor
  case manager =>
    rw [called]
    exact (call_bare (F := F) same surroundings loop.clock call).1
  case rumble => exact rumble.trans drives.rumble
  case lastRumble =>
    rw [last]
    exact drives.lastRumble

variable [DecidableEq (OskState F)]

omit [DecidableEq (OskState F)] in
/-- The rumble of a turn, in both models of it. -/
theorem Program.Drives.pollRumble (drives : program.Drives loop)
    (here : world.transport = surroundings.transport loop.clock) :
    (program.pollRumble world).1.Drives (loop.pollRumble
      (program.rumbler.pollRumble world.fetched).2 (surroundings.timed world.now)) := by
  have same := drives.manager.trans (bare_forget loop.manager).symm
  have told : ∀ rumble : UInt16 × UInt16,
      (program.device.rumble world.transport rumble.1 rumble.2).bare =
        ((ControllerLoop.forget loop.manager).rumble
          ((surroundings.timed world.now).transport loop.clock) rumble.1 rumble.2).bare := by
    intro rumble
    rw [here]
    exact (call_bare (F := F) same surroundings loop.clock (.rumble rumble.1 rumble.2)).1
  unfold Program.pollRumble ControllerLoop.pollRumble
  dsimp only
  cases (program.rumbler.pollRumble world.fetched).2 with
  | some next => exact ⟨told next, rfl, rfl⟩
  | none =>
    have due : (program.rumble ≠ Program.silence ∧
        Program.rumbleRefresh ≤ world.now 0 - program.lastRumble) ↔
        loop.rumble ≠ (0, 0) ∧ DeviceManager.milliseconds 40 ≤
          (surroundings.timed world.now).now 1 - loop.lastRumble := by
      rw [← drives.rumble, ← drives.lastRumble]
      refine and_congr_right fun _ => ?_
      show 40000000 ≤ _ ↔ (40 * 1000000 : Int) ≤ (world.now 0 : Int) - _
      omega
    by_cases late : program.rumble ≠ Program.silence ∧
        Program.rumbleRefresh ≤ world.now 0 - program.lastRumble
    · dsimp only
      rw [if_pos late, if_pos (due.mp late), ← drives.rumble]
      exact ⟨told program.rumble, rfl, rfl⟩
    · dsimp only
      rw [if_neg late, if_neg (late ∘ due.mpr)]
      exact ⟨same, drives.rumble, drives.lastRumble⟩

/-- A step of the loop is an event of `ControllerLoop`, or does not concern it. -/
theorem Program.Drives.advance [Platform F] (drives : program.Drives loop)
    (here : world.transport = surroundings.transport loop.clock) {seen : List (Occurrence F)}
    (advanced : program.advance world = .ok (after, seen)) :
    after.Drives loop ∨ ∃ event, after.Drives (loop.react F event) := by
  have aside : ∀ {after : Program Receiver F}, after.device = program.device →
      after.rumble = program.rumble → after.lastRumble = program.lastRumble →
      after.Drives loop := by
    intro after device rumble last
    exact ⟨device ▸ drives.manager, rumble ▸ drives.rumble, last ▸ drives.lastRumble⟩
  by_cases rumbling : program.place = .rumbling
  · simp only [Program.advance, rumbling, Except.ok.injEq] at advanced
    have next := drives.pollRumble here
    rw [advanced] at next
    exact .inr ⟨.pollRumble _ _, next⟩
  · have polls : ∀ {device : DeviceManager Receiver} {event : Option (DeviceEvent F)}
        {after : Program Receiver F}, program.device.poll world.transport = (device, event) →
        after.device = device → after.rumble = program.rumble →
        after.lastRumble = program.lastRumble → ∃ event, after.Drives (loop.react F event) := by
      intro device event after polled same rumble last
      rw [here] at polled
      have called := same.trans (congrArg Prod.fst polled).symm
      exact ⟨.call .poll surroundings, drives.call .poll surroundings called rumble last⟩
    cases Program.advance_kind advanced with
    | moves | takes | leaves | loses | ends => exact .inl (aside rfl rfl rfl)
    | answers taken command response =>
      left
      cases response <;> exact aside rfl rfl rfl
    | quiet _ polled => exact .inr (polls polled rfl rfl rfl)
    | handles _ _ polled => exact .inr (polls polled rfl rfl rfl)
    | rumbles place => exact absurd place rumbling
    | @carries effect =>
      cases effect with
      | haptic haptic =>
        have called := congrArg (program.device.playHaptic · haptic) here
        exact .inr ⟨.call (.playHaptic haptic) surroundings, drives.call _ _ called rfl rfl⟩
      | clickPressure pressure =>
        have called := congrArg (program.device.setTrackpadClickPressure · pressure) here
        exact .inr ⟨.call (.setTrackpadClickPressure pressure) surroundings,
          drives.call _ _ called rfl rfl⟩
      | _ => exact .inl (aside rfl rfl rfl)

/-! ## Runs -/

/-- The daemon on the receiver, and the number of completed transfers, which is a ghost. -/
structure Driven (F : Type) where
  program : Program Receiver F
  clock : Nat

/-- What becomes of the number when the receiver has changed. -/
def Driven.tick (driven : Driven F) : Driven F :=
  { driven with clock := (driven.program.device.puck.map (·.device.clock)).getD driven.clock }

/-- The steps of the daemon, in whatever surroundings, and those of the receiver itself. -/
inductive Driven.Step [Platform F] (fromStr : List UInt8 → Option Request) :
    Driven F → List (Occurrence F) → Driven F → Prop where
  | loop {driven : Driven F} {surroundings : Surroundings} {world : World Receiver}
      {after : Program Receiver F} {seen : List (Occurrence F)} :
      world.transport = surroundings.transport driven.clock →
      driven.program.advance world = .ok (after, seen) →
      Step fromStr driven seen (tick ⟨after, driven.clock⟩)
  | socket {driven : Driven F} {server : Ipc.System (OskState F)}
      {sightings : List (Ipc.Sighting (OskState F))} :
      Ipc.ThreadStep fromStr driven.program.server sightings server →
      Step fromStr driven (sightings.map .client)
        { driven with program := { driven.program with server } }
  | game {driven : Driven F} {value : UInt16 × UInt16} :
      Step fromStr driven [] { driven with
        program := { driven.program with rumbler := driven.program.rumbler.receive value } }
  | arrive {driven : Driven F} (slot : Nat) (data : List UInt8) :
      Step fromStr driven [] (tick ⟨{ driven.program with
        device := ControllerLoop.onDevice driven.program.device fun device =>
          (device.arrive slot data).1 }, driven.clock⟩)
  | finishOutput {driven : Driven F} (slot : Nat) (status : Int) (data : List UInt8) :
      Step fromStr driven [] (tick ⟨{ driven.program with
        device := ControllerLoop.onDevice driven.program.device
          (·.finishOutput slot status data) }, driven.clock⟩)

structure Driven.Drives (driven : Driven F) (loop : ControllerLoop) : Prop where
  program : driven.program.Drives loop
  clock : driven.clock = loop.clock
  ticked : loop.tick = loop

omit [Scalar F] [DecidableEq (OskState F)] in
theorem Driven.Drives.tick {program : Program Receiver F} {clock : Nat}
    (drives : program.Drives loop) (same : clock = loop.clock) :
    (Driven.tick ⟨program, clock⟩).Drives loop.tick := by
  have pucks : program.device.puck.map (·.device.clock) =
      loop.manager.puck.map (·.device.clock) := by
    have both := congrArg (fun manager => manager.puck.map (·.clock)) drives.manager
    simpa [DeviceManager.bare, DeviceManager.map, Option.map_map, Function.comp_def] using both
  constructor
  case program => exact ⟨drives.manager, drives.rumble, drives.lastRumble⟩
  case clock =>
    simp only [Driven.tick, ControllerLoop.tick]
    rw [pucks, same]
  case ticked =>
    simp only [ControllerLoop.tick]
    cases loop.manager.puck <;> rfl

variable [Platform F] {fromStr : List UInt8 → Option Request} {driven next : Driven F}
  {seen : List (Occurrence F)}

theorem Driven.Drives.step (drives : driven.Drives loop)
    (step : Driven.Step fromStr driven seen next) :
    next.Drives loop ∨ ∃ event, next.Drives (loop.step F event) := by
  have changed : ∀ {change : Usb.Device → Usb.Device} {event : ControllerEvent},
      loop.react F event = { loop with
        manager := ControllerLoop.onDevice loop.manager change } →
      Driven.Drives (Driven.tick ⟨{ driven.program with
        device := ControllerLoop.onDevice driven.program.device change }, driven.clock⟩)
          (loop.step F event) := by
    intro change event reacts
    have onDevice : ∀ manager : DeviceManager Receiver,
        (ControllerLoop.onDevice manager change).bare = manager.bare.map change := by
      intro manager
      obtain ⟨puck, _, _, _, _, _⟩ := manager
      cases puck <;> rfl
    refine .tick ⟨?_, ?_, ?_⟩ (drives.clock.trans ?_)
    · rw [reacts, onDevice, onDevice, drives.program.manager]
    · rw [reacts]
      exact drives.program.rumble
    · rw [reacts]
      exact drives.program.lastRumble
    · rw [reacts]
  cases step with
  | socket | game =>
    exact .inl ⟨⟨drives.program.manager, drives.program.rumble, drives.program.lastRumble⟩,
      drives.clock, drives.ticked⟩
  | arrive slot data =>
    have reacts : loop.react F (.arrive slot data) = _ := rfl
    exact .inr ⟨.arrive slot data, changed reacts⟩
  | finishOutput slot status data =>
    have reacts : loop.react F (.finishOutput slot status data) = _ := rfl
    exact .inr ⟨.finishOutput slot status data, changed reacts⟩
  | loop here advanced =>
    rw [drives.clock] at here
    cases drives.program.advance here advanced with
    | inl aside =>
      have ticked := Driven.Drives.tick aside drives.clock
      rw [drives.ticked] at ticked
      exact .inl ticked
    | inr reacts =>
      obtain ⟨event, reacts⟩ := reacts
      exact .inr ⟨event, .tick reacts (drives.clock.trans (react_clock F loop event).symm)⟩

/-- The surroundings in which `main` starts. -/
def Surroundings.begun (surroundings : Surroundings) (lastRumble : Nat) : Surroundings :=
  { surroundings with now := fun reading =>
    if reading = 2 then lastRumble else surroundings.now reading }

omit [Platform F] in
theorem Driven.Drives.start {config : Config F} {program : Program Receiver F}
    (started : Program.start config world = .ok program)
    (here : world.transport = surroundings.transport 0) :
    (Driven.tick ⟨program, 0⟩).Drives ((ControllerLoop.new (surroundings.begun (world.now 1))).step F
      (.call (.setTrackpadClickPressure config.clickPressure) surroundings)) := by
  obtain ⟨main, _, rest⟩ := bind_ok started
  obtain ⟨gamepad, _, done⟩ := bind_ok rest
  cases done
  -- the manager before it is told the click pressure
  have scanned : DeviceManager.new world.transport =
      (ControllerLoop.new (surroundings.begun (world.now 1))).manager := by
    rw [here]
    rfl
  have drives : Program.Drives
      { main
        device := DeviceManager.new world.transport
        outputs := .new gamepad
        rumbler := .new gamepad
        rumble := Program.silence
        lastRumble := world.now 1
        lastLizardRefresh := world.now 0
        server := (Ipc.System.bind .default).publishOsk main.keyboard
        place := (Place.top : Place F) }
      (ControllerLoop.new (surroundings.begun (world.now 1))) :=
    ⟨congrArg _ scanned, rfl, rfl⟩
  have called := congrArg ((DeviceManager.new world.transport).setTrackpadClickPressure ·
    config.clickPressure) here
  exact .tick (drives.call (.setTrackpadClickPressure config.clickPressure) surroundings called rfl
    rfl) rfl

end

end Scd.Daemon
