import Scd.Daemon.Device
import Scd.Foundation.Monitor

/-! # Connections of the controller

The main loop sees a connection as a row of events that a `Disconnected` closes.  The
manager drops a connection in five places, and in two of them the event has to wait for
the next `poll`.  `Phase` is the protocol that the main loop relies on; the manager follows
it whatever the transport answers.
-/

namespace Scd.Daemon

open Scd.Core Scd.Foundation

variable {P F : Type}

/-! ## The protocol -/

/-- What is seen of a run: the slot goes from active to none, and the events of `poll`. -/
inductive Sighting (F : Type) where
  | dropped
  | returned (event : DeviceEvent F)

/-- No connection, an open one, and one that was dropped without its `Disconnected`. -/
inductive Phase where
  | idle | open | owed
  deriving DecidableEq, Repr

/-- Which sighting a phase allows, and the phase after it. -/
def Phase.next : Phase → Sighting F → Option Phase
  | .idle, .returned (.state _) => some .open
  | .open, .returned (.state _) => some .open
  | .open, .returned (.battery _ _) => some .open
  | .open, .dropped => some .owed
  | .owed, .returned .disconnected => some .idle
  | _, _ => none

namespace DeviceManager

/-- The phase as the manager keeps it. -/
def phase (manager : DeviceManager P) : Phase :=
  if manager.disconnected then .owed else if manager.active.isSome then .open else .idle

/-- What one call lets be seen. -/
def sightings (before after : DeviceManager P) (event : Option (DeviceEvent F)) :
    List (Sighting F) :=
  (if before.active.isSome && after.active.isNone then [.dropped] else []) ++
    (event.map Sighting.returned).toList

/-- The invariant of the manager. -/
structure Sound (manager : DeviceManager P) : Prop where
  lastState : manager.active.isSome → manager.lastState.isSome
  puck : manager.active.isSome → manager.puck.isSome
  flag : manager.disconnected → manager.active = none

/-! ## What a call can do -/

/-- The ways a call ends, by the active slot and the flag before it. -/
inductive Outcome (active : Option Nat) (disconnected : Bool) (after : DeviceManager P) :
    Option (DeviceEvent F) → Prop where
  | quiet : after.active = active → after.disconnected = disconnected →
      Outcome active disconnected after none
  | reported : disconnected → after.disconnected = false → after.active = none →
      Outcome active disconnected after (some .disconnected)
  | lost : disconnected = false → active.isSome → after.disconnected = false →
      after.active = none → Outcome active disconnected after (some .disconnected)
  | owes : disconnected = false → active.isSome → after.disconnected → after.active = none →
      Outcome active disconnected after none
  | state (state : ControllerState F) : disconnected = false → after.disconnected = false →
      after.active.isSome → Outcome active disconnected after (some (.state state))
  | battery (percent : UInt8) (charging : Bool) : disconnected = false → active.isSome →
      after.active = active → after.disconnected = false →
      Outcome active disconnected after (some (.battery percent charging))

theorem sightings_kept {before after : DeviceManager P} {event : Option (DeviceEvent F)}
    (kept : before.active.isSome → after.active.isSome) :
    sightings before after event = (event.map Sighting.returned).toList := by
  rw [sightings, if_neg, List.nil_append]
  rw [Bool.and_eq_true, Option.isNone_iff_eq_none]
  rintro ⟨active, closed⟩
  simpa [closed] using kept active

theorem sightings_dropped {before after : DeviceManager P} {event : Option (DeviceEvent F)}
    (active : before.active.isSome) (closed : after.active = none) :
    sightings before after event = .dropped :: (event.map Sighting.returned).toList := by
  rw [sightings, if_pos (by simp [active, closed]), List.singleton_append]

/-- Every outcome is a move of the protocol. -/
theorem Outcome.follows {before after : DeviceManager P} {event : Option (DeviceEvent F)}
    (outcome : Outcome before.active before.disconnected after event) (sound : Sound before) :
    Accepts Phase.next before.phase (sightings before after event) after.phase := by
  cases outcome with
  | quiet active disconnected =>
    rw [sightings_kept (by simp [active])]
    simp [Accepts, phase, active, disconnected]
  | reported flag cleared closed =>
    rw [sightings_kept (by simp [sound.flag flag])]
    apply Accepts.single
    simp [phase, flag, cleared, closed, Phase.next]
  | lost clear active cleared closed =>
    rw [sightings_dropped active closed]
    simp [Accepts, phase, clear, active, cleared, closed, Phase.next]
  | owes clear active raised closed =>
    rw [sightings_dropped active closed]
    apply Accepts.single
    simp [phase, clear, active, raised, Phase.next]
  | state state clear cleared active =>
    rw [sightings_kept fun _ => active]
    apply Accepts.single
    cases wasActive : before.active.isSome <;>
      simp [phase, clear, cleared, active, wasActive, Phase.next]
  | battery percent charging clear active same cleared =>
    rw [sightings_kept (by simp [same])]
    apply Accepts.single
    simp [phase, clear, cleared, active, same, Phase.next]

/-! ## The methods -/

/-- What is proved of every method: the invariant, and how the call ends. -/
def Keeps (before : DeviceManager P) (result : DeviceManager P × Option (DeviceEvent F)) : Prop :=
  Sound result.1 ∧ Outcome before.active before.disconnected result.1 result.2

variable {manager : DeviceManager P} {transport : Transport P}

/-- Nothing that the invariant reads has changed. -/
theorem Sound.same (sound : Sound manager) {after : DeviceManager P}
    (active : after.active = manager.active) (lastState : after.lastState = manager.lastState)
    (puck : manager.puck.isSome → after.puck.isSome)
    (disconnected : after.disconnected = manager.disconnected) : Sound after := by
  refine ⟨?_, ?_, ?_⟩
  · rw [active, lastState]
    exact sound.lastState
  · rw [active]
    exact fun isActive => puck (sound.puck isActive)
  · rw [active, disconnected]
    exact sound.flag

/-- A manager without an active slot. -/
theorem Sound.closed {after : DeviceManager P} (closed : after.active = none) : Sound after := by
  refine ⟨?_, ?_, fun _ => closed⟩
  · simp [closed]
  · simp [closed]

theorem quiet (sound : Sound manager) {after : DeviceManager P}
    (active : after.active = manager.active) (lastState : after.lastState = manager.lastState)
    (puck : manager.puck.isSome → after.puck.isSome)
    (disconnected : after.disconnected = manager.disconnected) :
    Keeps manager (after, (none : Option (DeviceEvent F))) :=
  ⟨sound.same active lastState puck disconnected, .quiet active disconnected⟩

theorem receive_keeps (sound : Sound manager) (opened : manager.puck.isSome)
    (clear : manager.disconnected = false) (index : Nat) (report : Report F) :
    Keeps manager ((manager.receiveSends transport index report).run transport.takes) := by
  cases report with
  | disconnected =>
    simp only [run_receiveSends]
    split
    · next active => exact ⟨.closed rfl, .lost clear (by simp [active]) clear rfl⟩
    · exact quiet sound rfl rfl id rfl
  | battery percent charging =>
    simp only [run_receiveSends]
    split
    · next active => exact ⟨sound, .battery percent charging clear (by simp [active]) rfl clear⟩
    · exact quiet sound rfl rfl id rfl
  | state state =>
    simp only [run_receiveSends]
    cases active : manager.active with
    | none =>
      simp only [Option.isNone_none, Bool.true_and, if_true]
      split
      -- the settings of the slot were not taken, and there is nothing to report
      · exact ⟨.closed rfl, .quiet active.symm rfl⟩
      · exact ⟨⟨by simp, fun _ => opened, by simp [clear]⟩, .state state clear clear rfl⟩
    | some current =>
      simp only [Option.isNone_some, Bool.false_and, Bool.false_eq_true, if_false]
      split
      · refine ⟨⟨by simp, fun _ => opened, by simp [clear]⟩, .state state clear clear ?_⟩
        simp [active]
      · exact quiet sound rfl rfl id rfl

/-- A reset that sets the flag: the event follows at the next `poll`. -/
theorem reset_owes (clear : manager.disconnected = false) (active : manager.active.isSome)
    (now : Int) :
    Keeps manager ({ (manager.reset now).1 with disconnected := (manager.reset now).2 },
      (none : Option (DeviceEvent F))) :=
  ⟨.closed rfl, .owes clear active active rfl⟩

theorem interpret_keeps [Scalar F] (sound : Sound manager) (opened : manager.puck.isSome)
    (clear : manager.disconnected = false) (polled : Option (Nat × List UInt8)) :
    Keeps manager ((manager.interpretSends (F := F) transport polled).run transport.takes) := by
  cases polled with
  | none => exact quiet sound rfl rfl id rfl
  | some report =>
    simp only [run_interpretSends]
    cases (parseReport report.2 : Option (Report F)) with
    | none => exact quiet sound rfl rfl id rfl
    | some parsed => exact receive_keeps sound opened clear report.1 parsed

theorem read_keeps [Scalar F] (sound : Sound manager) (clear : manager.disconnected = false) :
    Keeps manager ((manager.readSends (F := F) transport).run transport.takes) := by
  cases opened : manager.puck with
  | none =>
    rw [run_readSends, opened]
    exact quiet sound rfl rfl id rfl
  | some puck =>
    cases polled : transport.poll puck manager.active with
    | error error =>
      simp only [run_readSends, opened, polled]
      cases active : manager.active with
      | none =>
        simp only [reset, active]
        exact ⟨.closed rfl, .quiet active.symm rfl⟩
      | some slot =>
        simp only [reset, active]
        exact ⟨.closed rfl, .lost clear (by simp [active]) clear rfl⟩
    | ok result =>
      obtain ⟨puck, report⟩ := result
      simp only [run_readSends, opened, polled]
      have same : Sound { manager with puck := some puck } :=
        sound.same rfl rfl (fun _ => rfl) rfl
      exact interpret_keeps same rfl clear report

@[simp] theorem scan_active (now : Int) : (manager.scan transport now).active = manager.active := by
  unfold scan
  cases transport.opened <;> rfl

@[simp] theorem scan_disconnected (now : Int) :
    (manager.scan transport now).disconnected = manager.disconnected := by
  unfold scan
  cases transport.opened <;> rfl

theorem scan_sound (sound : Sound manager) (now : Int) : Sound (manager.scan transport now) := by
  unfold scan
  cases transport.opened with
  | error error => exact sound.same rfl rfl id rfl
  | ok puck => exact sound.same rfl rfl (fun _ => rfl) rfl

theorem poll_keeps [Scalar F] (sound : Sound manager) :
    Keeps manager (manager.poll transport : DeviceManager P × Option (DeviceEvent F)) := by
  rw [poll_eq]
  cases flag : manager.disconnected with
  | true =>
    have closed := sound.flag flag
    rw [if_pos rfl]
    exact ⟨.closed closed, .reported flag rfl closed⟩
  | false =>
    rw [if_neg (by simp)]
    -- looking for the receiver changes nothing that the protocol sees
    generalize chosen : (if manager.scanDue (transport.now 0) then
      manager.scan transport (transport.now 1) else manager) = scanned
    have facts : Sound scanned ∧ scanned.active = manager.active ∧
        scanned.disconnected = manager.disconnected := by
      subst chosen
      split
      · exact ⟨scan_sound sound _, scan_active _, scan_disconnected _⟩
      · exact ⟨sound, rfl, rfl⟩
    obtain ⟨soundScanned, sameActive, sameFlag⟩ := facts
    rw [Keeps, ← sameActive, ← sameFlag]
    rw [flag] at sameFlag
    dsimp only
    split
    · next silent =>
      have active : scanned.active.isSome := ((Bool.and_eq_true ..).mp silent).1
      exact ⟨.closed rfl, .lost sameFlag active sameFlag rfl⟩
    · exact read_keeps soundScanned sameFlag

/-- A manager with an active slot owes no event. -/
theorem Sound.clear (sound : Sound manager) (active : manager.active.isSome) :
    manager.disconnected = false := by
  cases flag : manager.disconnected with
  | false => rfl
  | true => simp [sound.flag flag] at active

theorem playHaptic_keeps (sound : Sound manager) (haptic : Haptic) :
    Keeps manager (manager.playHaptic transport haptic, (none : Option (DeviceEvent F))) := by
  obtain ⟨puck, active, pressure, lastState, lastScan, disconnected⟩ := manager
  cases active with
  | none => exact quiet sound rfl rfl id rfl
  | some slot =>
    cases puck with
    | none => exact quiet sound rfl rfl id rfl
    | some puck =>
      simp only [playHaptic]
      cases transport.write puck slot haptic.encode with
      | ok puck => exact quiet sound rfl rfl (fun _ => rfl) rfl
      | error error => exact reset_owes (sound.clear rfl) rfl _

theorem setTrackpadClickPressure_keeps (sound : Sound manager) (pressure : UInt16) :
    Keeps manager
      (manager.setTrackpadClickPressure transport pressure, (none : Option (DeviceEvent F))) := by
  obtain ⟨puck, active, old, lastState, lastScan, disconnected⟩ := manager
  cases active with
  | none => exact quiet sound rfl rfl id rfl
  | some slot =>
    simp only [setTrackpadClickPressure_eq]
    split
    · exact quiet sound rfl rfl id rfl
    · exact ⟨.closed rfl, .owes (sound.clear rfl) rfl rfl rfl⟩

theorem call_keeps [Scalar F] (sound : Sound manager) (call : DeviceCall) :
    Keeps manager (manager.call call transport : DeviceManager P × Option (DeviceEvent F)) := by
  cases call with
  | poll => exact poll_keeps sound
  | playHaptic haptic => exact playHaptic_keeps sound haptic
  | rumble lowFrequency highFrequency => exact playHaptic_keeps sound _
  | setTrackpadClickPressure pressure => exact setTrackpadClickPressure_keeps sound pressure
  | suppressLizardMode =>
    rw [call, suppressLizardMode_eq]
    exact quiet sound rfl rfl id rfl

/-- A pending flag is kept by every method but `poll`, which turns it into the event. -/
theorem call_flag [Scalar F] (sound : Sound manager) (flag : manager.disconnected)
    (call : DeviceCall) :
    (call = .poll ∧ (manager.call call transport : DeviceManager P × Option (DeviceEvent F)) =
        ({ manager with disconnected := false }, some .disconnected)) ∨
      (call ≠ .poll ∧ (manager.call (F := F) call transport).1.disconnected) := by
  have closed := sound.flag flag
  obtain ⟨puck, active, pressure, lastState, lastScan, disconnected⟩ := manager
  cases closed
  cases call with
  | poll => exact .inl ⟨rfl, poll_eq.trans (if_pos flag)⟩
  | playHaptic haptic => exact .inr ⟨by simp, flag⟩
  | rumble lowFrequency highFrequency => exact .inr ⟨by simp, flag⟩
  | setTrackpadClickPressure pressure => exact .inr ⟨by simp, flag⟩
  | suppressLizardMode => exact .inr ⟨by simp, by simpa [call] using flag⟩

end DeviceManager

/-! ## Runs -/

/-- One call, with any answers of the transport. -/
inductive DeviceStep [Scalar F] :
    DeviceManager P → List (Sighting F) → DeviceManager P → Prop where
  | call {before : DeviceManager P} (call : DeviceCall) (transport : Transport P) :
      DeviceStep before
        (before.sightings (before.call (F := F) call transport).1 (before.call call transport).2)
        (before.call (F := F) call transport).1

namespace DeviceManager

theorem new_sound (transport : Transport P) :
    Sound (new transport) ∧ (new transport).phase = .idle := by
  have closed : (new transport).active = none := scan_active _
  refine ⟨.closed closed, ?_⟩
  have clear : (new transport).disconnected = false := scan_disconnected _
  simp [phase, closed, clear]

/-- Every run follows the protocol. -/
theorem run_follows [Scalar F] {transport : Transport P} {labels : List (Sighting F)}
    {manager : DeviceManager P} (run : Path DeviceStep (new transport) labels manager) :
    Sound manager ∧ Accepts Phase.next .idle labels manager.phase := by
  obtain ⟨sound, idle⟩ := new_sound transport
  rw [← idle]
  refine Path.accepts Sound phase ?_ run sound
  rintro before labels after ⟨call, transport⟩ sound
  obtain ⟨soundAfter, outcome⟩ := @call_keeps P F _ transport _ sound call
  exact ⟨soundAfter, outcome.follows sound⟩

end DeviceManager

/-- What the main loop relies on: every connection is closed by exactly one event. -/
structure ConnectionsClosed [Scalar F] (labels : List (Sighting F)) (manager : DeviceManager P) :
    Prop where
  /-- A connection that is dropped is reported before anything else is, and until then the
      flag says so. -/
  dropReported : ∀ past rest, labels = past ++ .dropped :: rest →
    (rest = [] ∧ manager.disconnected) ∨ ∃ later, rest = .returned .disconnected :: later
  /-- What is reported is a connection that was just dropped. -/
  disconnectedDropped : ∀ past rest, labels = past ++ .returned .disconnected :: rest →
    ∃ earlier, past = earlier ++ [.dropped]
  stateBetween : ∀ past mid rest,
    labels = past ++ .returned .disconnected :: mid ++ .returned .disconnected :: rest →
    ∃ state, .returned (.state state) ∈ mid
  /-- An event with input is returned only with a slot active. -/
  inputActive : ∀ past event, labels = past ++ [.returned event] →
    event = .disconnected ∨ manager.active.isSome
  batteryActive : ∀ (call : DeviceCall) (transport : Transport P) (percent : UInt8)
    (charging : Bool), (manager.call (F := F) call transport).2 = some (.battery percent charging) →
    manager.active.isSome
  /-- The flag is cleared by the `poll` that reports it, and by nothing else. -/
  flagKept : manager.disconnected → ∀ (call : DeviceCall) (transport : Transport P),
    if call = .poll then (manager.call (F := F) call transport).2 = some .disconnected
    else (manager.call (F := F) call transport).1.disconnected
  lastState : manager.active.isSome → manager.lastState.isSome
  puck : manager.active.isSome → manager.puck.isSome

/-! ## Reading the protocol -/

theorem Phase.next_idle {label : Sighting F} {after : Phase}
    (allowed : Phase.next .idle label = some after) :
    ∃ state, label = .returned (.state state) := by
  cases label with
  | dropped => cases allowed
  | returned event =>
    cases event with
    | state state => exact ⟨state, rfl⟩
    | battery percent charging => cases allowed
    | disconnected => cases allowed

theorem Phase.next_owed {label : Sighting F} {after : Phase}
    (allowed : Phase.next .owed label = some after) : label = .returned .disconnected := by
  cases label with
  | dropped => cases allowed
  | returned event =>
    cases event with
    | state state => cases allowed
    | battery percent charging => cases allowed
    | disconnected => rfl

theorem Phase.next_dropped {before after : Phase}
    (allowed : Phase.next before (.dropped : Sighting F) = some after) : after = .owed := by
  cases before <;> cases allowed
  rfl

theorem Phase.next_disconnected {before after : Phase}
    (allowed : Phase.next before (.returned (.disconnected : DeviceEvent F)) = some after) :
    before = .owed ∧ after = .idle := by
  cases before <;> cases allowed
  exact ⟨rfl, rfl⟩

/-- An event other than `Disconnected` leaves a connection open. -/
theorem Phase.next_returned {before after : Phase} {event : DeviceEvent F}
    (allowed : Phase.next before (.returned event) = some after) :
    event = .disconnected ∨ after = .open := by
  cases event with
  | disconnected => exact .inl rfl
  | state state =>
    cases before with
    | idle => exact .inr (Option.some.inj allowed).symm
    | «open» => exact .inr (Option.some.inj allowed).symm
    | owed => cases allowed
  | battery percent charging =>
    cases before with
    | «open» => exact .inr (Option.some.inj allowed).symm
    | _ => cases allowed

/-- Only a drop leads to an event that is owed. -/
theorem Phase.next_to_owed {before : Phase} {label : Sighting F}
    (allowed : Phase.next before label = some .owed) : label = .dropped := by
  cases label with
  | dropped => rfl
  | returned event =>
    obtain rfl | opened := Phase.next_returned allowed
    · cases (Phase.next_disconnected allowed).2
    · cases opened

theorem DeviceManager.phase_owed {manager : DeviceManager P} (owed : manager.phase = .owed) :
    manager.disconnected := by
  rw [phase] at owed
  split at owed
  · assumption
  · split at owed <;> cases owed

theorem DeviceManager.phase_open {manager : DeviceManager P} (opened : manager.phase = .open) :
    manager.active.isSome := by
  rw [phase] at opened
  split at opened
  · cases opened
  · split at opened
    · assumption
    · cases opened

/-! ## Connections are closed once -/

/-- Every connection is closed by exactly one `Disconnected`. -/
theorem connections_closed_once [Scalar F] {transport : Transport P} {labels : List (Sighting F)}
    {manager : DeviceManager P}
    (run : Path DeviceStep (DeviceManager.new transport) labels manager) :
    ConnectionsClosed labels manager := by
  obtain ⟨sound, accepts⟩ := DeviceManager.run_follows run
  constructor
  case lastState => exact sound.lastState
  case puck => exact sound.puck
  case dropReported =>
    rintro past rest rfl
    -- a drop leaves a report owed, and while one is owed no other label is allowed
    obtain ⟨before, after, _, dropped, late⟩ := accepts.around
    cases Phase.next_dropped dropped
    cases rest with
    | nil => exact .inl ⟨rfl, DeviceManager.phase_owed (Accepts.nil_iff.mp late).symm⟩
    | cons label later =>
      obtain ⟨_, allowed, _⟩ := Accepts.cons_iff.mp late
      cases Phase.next_owed allowed
      exact .inr ⟨later, rfl⟩
  case disconnectedDropped =>
    rintro past rest rfl
    -- a report is allowed only while one is owed, which only a drop brings about
    obtain ⟨before, after, early, closed, _⟩ := accepts.around
    cases (Phase.next_disconnected closed).1
    obtain rfl | ⟨earlier, label, rfl⟩ := List.eq_nil_or_concat' past
    · cases Accepts.nil_iff.mp early
    · obtain ⟨_, _, allowed⟩ := early.last
      cases Phase.next_to_owed allowed
      exact ⟨earlier, rfl⟩
  case stateBetween =>
    rintro past mid rest rfl
    rw [List.append_assoc, List.cons_append] at accepts
    -- after a report the manager is idle, and only a state leads out of that
    obtain ⟨_, _, _, closed, late⟩ := accepts.around
    cases (Phase.next_disconnected closed).2
    cases mid with
    | nil =>
      obtain ⟨_, allowed, _⟩ := Accepts.cons_iff.mp late
      cases (Phase.next_disconnected allowed).1
    | cons label mid =>
      obtain ⟨_, allowed, _⟩ := Accepts.cons_iff.mp late
      obtain ⟨state, rfl⟩ := Phase.next_idle allowed
      exact ⟨state, List.mem_cons_self⟩
  case inputActive =>
    rintro past event rfl
    obtain ⟨_, _, allowed⟩ := accepts.last
    exact (Phase.next_returned allowed).imp id DeviceManager.phase_open
  case batteryActive =>
    intro call transport percent charging returned
    have outcome := (@DeviceManager.call_keeps P F _ transport _ sound call).2
    rw [returned] at outcome
    cases outcome with
    | battery _ _ _ active _ _ => exact active
  case flagKept =>
    intro flag call transport
    obtain ⟨isPoll, result⟩ | ⟨differs, kept⟩ :=
      @DeviceManager.call_flag P F _ transport _ sound flag call
    · rw [if_pos isPoll, result]
    · rw [if_neg differs]
      exact kept

/-- A receiver that sends this report and takes no haptic command. -/
def deafReceiver (report : List UInt8) : Transport Unit where
  opened := .ok ()
  poll := fun _ _ => .ok ((), some (0, report))
  write := fun _ _ _ => .error (.errno 19)
  control := fun _ _ _ => true
  now := fun _ => 0

/-- A controller connects, a haptic command fails, and the next `poll` says so. -/
theorem connections_closed_once_haptic :
    ∃ (state : ControllerState ℚ) (manager : DeviceManager Unit),
      manager.active = none ∧ manager.disconnected = false ∧
      ConnectionsClosed [.returned (.state state), .dropped, .returned .disconnected] manager := by
  let receiver := deafReceiver (0x42 :: List.replicate 45 0)
  have start : Path (@DeviceStep Unit ℚ _) (.new receiver) [] (.new receiver) := .refl
  have connected := start.snoc (.call .poll receiver)
  have dropped := connected.snoc (.call (.playHaptic (.script 1 0)) receiver)
  exact ⟨_, _, rfl, rfl, connections_closed_once (dropped.snoc (.call .poll receiver))⟩

end Scd.Daemon
