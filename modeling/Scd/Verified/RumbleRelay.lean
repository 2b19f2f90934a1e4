import Scd.Verified.BatteryLevel
import Scd.Verified.Composition
import Scd.Verified.RumbleStop

/-! # The rumble of the controller

What a game asks of the virtual gamepad reaches the device manager through a poll in each turn of
the loop.  `Relay` is what an observer of the daemon knows: the gamepad that is plugged in, whether
one was given up since the last rumble that was handed over, and that rumble.  After each poll the
manager has been told what the gamepad of the active mode wants, and to stop when a gamepad is
given up.  What it does with a rumble is `DeviceManager.Commanded`: whether the report comes
through is another matter (`rumble_stop_lost`).
-/

namespace Scd.Daemon

open Scd.Core Scd.Foundation

/-! ## The gamepads -/

namespace RumbleEffects

/-- Between two polls the last output is the output. -/
def Reported (rumble : RumbleEffects) : Prop := rumble.lastOutput = rumble.output

theorem reported_default : default.Reported := by
  have silent : ∀ index, default.isActive index = false := by decide
  have same : default.output = (0, 0) := by simp [output, silent]
  exact same.symm

/-- The output that has changed is the one that is returned. -/
theorem changedOutput_spec (rumble : RumbleEffects) :
    rumble.changedOutput.1.Reported ∧
      rumble.changedOutput.1.lastOutput = rumble.changedOutput.2.getD rumble.lastOutput := by
  unfold changedOutput
  split
  · next same => exact ⟨same.symm, rfl⟩
  · exact ⟨rfl, rfl⟩

/-- The events of a game do not report anything. -/
theorem react_lastOutput (rumble : RumbleEffects) (event : FfEvent) :
    (rumble.react event).lastOutput = rumble.lastOutput := by
  cases event with
  | other => rfl
  | upload requestedId effect =>
    cases effect with
    | none => rfl
    | some effect =>
      simp only [react, upload]
      split <;> rfl
  | erase id =>
    simp only [react, erase]
    split <;> rfl
  | forceFeedback id repetitions =>
    simp only [react, setPlayback]
    split
    · rfl
    · split
      · rfl
      · split <;> rfl

theorem reacts_lastOutput (rumble : RumbleEffects) (events : List FfEvent) :
    (events.foldl react rumble).lastOutput = rumble.lastOutput := by
  induction events generalizing rumble with
  | nil => rfl
  | cons event events inductionHypothesis =>
    rw [List.foldl_cons, inductionHypothesis, react_lastOutput]

end RumbleEffects

namespace RumblePad

def kind : RumblePad → Gamepad
  | .xbox _ => .xbox
  | .dualShock4 _ _ => .dualShock4

/-- What the game wants, as far as the daemon has read it. -/
def wanted : RumblePad → UInt16 × UInt16
  | .xbox effects => effects.output
  | .dualShock4 rumble _ => rumble

/-- What the last poll has reported. -/
def told : RumblePad → UInt16 × UInt16
  | .xbox effects => effects.lastOutput
  | .dualShock4 _ reported => reported

/-- The events of an Xbox gamepad are fetched by the poll that reports them. -/
def Settled (pad : RumblePad) : Prop := ∀ effects, pad = .xbox effects → effects.Reported

variable {pad : RumblePad}

theorem kind_pollRumble (pad : RumblePad) (fetched : Option (List FfEvent)) :
    (pad.pollRumble fetched).1.kind = pad.kind := by
  cases pad with
  | xbox effects => cases fetched <;> rfl
  | dualShock4 rumble reported =>
    simp only [pollRumble]
    split <;> rfl

/-- A poll returns what has changed since the last one, and leaves nothing untold. -/
theorem pollRumble_spec (settled : pad.Settled) (fetched : Option (List FfEvent)) :
    (pad.pollRumble fetched).1.kind = pad.kind ∧ (pad.pollRumble fetched).1.Settled ∧
      (pad.pollRumble fetched).1.told = (pad.pollRumble fetched).1.wanted ∧
      (pad.pollRumble fetched).1.told = (pad.pollRumble fetched).2.getD pad.told := by
  refine ⟨kind_pollRumble pad fetched, ?_⟩
  cases pad with
  | dualShock4 rumble last =>
    simp only [pollRumble]
    split
    · next same => exact ⟨nofun, same.symm, rfl⟩
    · exact ⟨nofun, rfl, rfl⟩
  | xbox effects =>
    cases fetched with
    | none => exact ⟨settled, settled effects rfl, rfl⟩
    | some events =>
      obtain ⟨reported, last⟩ := (events.foldl RumbleEffects.react effects).changedOutput_spec
      rw [RumbleEffects.reacts_lastOutput] at last
      have after : Settled (.xbox (events.foldl RumbleEffects.react effects).changedOutput.1) := by
        rintro other ⟨rfl⟩
        exact reported
      exact ⟨after, reported, last⟩

/-- What the thread of the DualShock 4 receives waits for a poll. -/
theorem receive_spec (settled : pad.Settled) (value : UInt16 × UInt16) :
    (pad.receive value).kind = pad.kind ∧ (pad.receive value).Settled ∧
      (pad.receive value).told = pad.told := by
  cases pad with
  | xbox effects => exact ⟨rfl, settled, rfl⟩
  | dualShock4 rumble reported => exact ⟨rfl, nofun, rfl⟩

theorem new_spec {gamepad : Gamepad} (created : new gamepad = some pad) :
    pad.kind = gamepad ∧ pad.Settled ∧ pad.told = (0, 0) := by
  cases gamepad with
  | none => cases created
  | xbox =>
    cases created
    refine ⟨rfl, ?_, rfl⟩
    rintro effects ⟨rfl⟩
    exact RumbleEffects.reported_default
  | dualShock4 =>
    cases created
    exact ⟨rfl, nofun, rfl⟩

end RumblePad

/-! ## What is known of the rumble -/

/-- The rumble that the manager has been told, as an observer knows it. -/
structure Relay where
  gamepad : Gamepad
  /-- A gamepad was given up since the last rumble that was handed over. -/
  replaced : Bool
  sent : UInt16 × UInt16

namespace Relay

variable {F : Type}

def next (relay : Relay) : Occurrence F → Relay
  | .performed (.setGamepad gamepad) =>
    if gamepad = relay.gamepad then relay
    else ⟨gamepad, relay.replaced || decide (relay.gamepad ≠ .none), relay.sent⟩
  | .rumbled rumble => ⟨relay.gamepad, false, rumble⟩
  | _ => relay

/-- What is known after a run that starts with a gamepad of this kind. -/
def after (kind : Gamepad) (seen : List (Occurrence F)) : Relay :=
  seen.foldl next ⟨kind, false, Program.silence⟩

/-- What does not concern the rumble is passed over. -/
theorem next_aside (relay : Relay) {seen : List (Occurrence F)}
    (aside : ∀ occurrence ∈ seen, ∀ relay : Relay, relay.next occurrence = relay) :
    seen.foldl next relay = relay := by
  induction seen with
  | nil => rfl
  | cons occurrence seen inductionHypothesis =>
    rw [List.foldl_cons, aside occurrence List.mem_cons_self]
    exact inductionHypothesis fun other member => aside other (List.mem_cons_of_mem _ member)

theorem next_controller {P : Type} (relay : Relay) (before after : Program P F)
    (event : Option (DeviceEvent F)) : (before.controller after event).foldl next relay = relay := by
  refine relay.next_aside fun occurrence member relay => ?_
  rcases List.mem_append.mp member with dropped | returned
  · split at dropped
    · rw [List.mem_singleton.mp dropped]
      rfl
    · cases dropped
  · obtain ⟨event, _, rfl⟩ := by simpa using returned
    rfl

end Relay

/-! ## The outputs -/

namespace RumbleOutputs

def wanted (outputs : RumbleOutputs) : UInt16 × UInt16 :=
  (outputs.gamepad.map RumblePad.wanted).getD Program.silence

def told (outputs : RumbleOutputs) : UInt16 × UInt16 :=
  (outputs.gamepad.map RumblePad.told).getD Program.silence

/-- The outputs and what is known of the rumble. -/
structure Relays (outputs : RumbleOutputs) (relay : Relay) : Prop where
  gamepadType : outputs.gamepadType = relay.gamepad
  present : outputs.gamepad = none ↔ relay.gamepad = .none
  pad : ∀ pad, outputs.gamepad = some pad → pad.kind = relay.gamepad ∧ pad.Settled
  pending : outputs.pendingRumbleStop = relay.replaced
  told : outputs.told = if relay.replaced then Program.silence else relay.sent

variable {outputs : RumbleOutputs} {relay : Relay}

theorem new_eq_none (gamepad : Gamepad) : RumblePad.new gamepad = none ↔ gamepad = .none := by
  cases gamepad <;> simp [RumblePad.new]

theorem told_new (gamepad : Gamepad) :
    ((RumblePad.new gamepad).map RumblePad.told).getD Program.silence = Program.silence := by
  cases gamepad <;> rfl

/-- A gamepad that is given up stops the rumble, and a new one has not asked for any. -/
theorem Relays.setGamepad {F : Type} (relays : outputs.Relays relay) (gamepad : Gamepad) :
    (outputs.setGamepad gamepad).Relays
      (relay.next (.performed (.setGamepad gamepad) : Occurrence F)) := by
  simp only [RumbleOutputs.setGamepad, relays.gamepadType, Relay.next]
  split
  · exact relays
  · constructor
    case gamepadType => rfl
    case present => exact new_eq_none gamepad
    case pad =>
      intro pad created
      exact ⟨(RumblePad.new_spec created).1, (RumblePad.new_spec created).2.1⟩
    case pending =>
      have some : outputs.gamepad.isSome = decide (relay.gamepad ≠ .none) := by
        cases found : outputs.gamepad with
        | none => simp [relays.present.mp found]
        | some pad =>
          have other : relay.gamepad ≠ .none := by
            intro none
            rw [relays.present.mpr none] at found
            cases found
          simp [other]
      simp only [relays.pending, some]
    case told =>
      have told := relays.told
      cases replaced : relay.replaced with
      | true => exact told_new gamepad
      | false =>
        cases plugged : decide (relay.gamepad ≠ .none) with
        | true => exact told_new gamepad
        | false =>
          -- there was no gamepad, so that the manager has been told to stop already
          have none : outputs.gamepad = none := relays.present.mpr (by simpa using plugged)
          rw [RumbleOutputs.told, none, replaced] at told
          exact (told_new gamepad).trans told

theorem relays_new (kind : Gamepad) : (new kind).Relays ⟨kind, false, Program.silence⟩ := by
  have nothing : Relays ⟨none, .none, false⟩ ⟨.none, false, Program.silence⟩ :=
    ⟨rfl, by simp, nofun, rfl, rfl⟩
  have plugged := nothing.setGamepad (F := Unit) kind
  cases kind <;> exact plugged

theorem Relays.receive (relays : outputs.Relays relay) (value : UInt16 × UInt16) :
    (outputs.receive value).Relays relay := by
  cases found : outputs.gamepad with
  | none =>
    have same : outputs.receive value = outputs := by
      simp [RumbleOutputs.receive, found]
      rw [← found]
    rw [same]
    exact relays
  | some pad =>
    obtain ⟨kind, settled⟩ := relays.pad pad found
    have received := RumblePad.receive_spec settled value
    constructor
    case gamepadType => exact relays.gamepadType
    case present => simpa [RumbleOutputs.receive, found] using relays.present
    case pad =>
      intro other same
      obtain rfl : pad.receive value = other := by simpa [RumbleOutputs.receive, found] using same
      exact ⟨received.1.trans kind, received.2.1⟩
    case pending => exact relays.pending
    case told =>
      have told := relays.told
      simp only [RumbleOutputs.told, found, Option.map_some, Option.getD_some] at told
      simp only [RumbleOutputs.told, RumbleOutputs.receive, found, Option.map_some,
        Option.getD_some, received.2.2]
      exact told

/-- A poll stops the rumble of a gamepad that was given up, or else tells all that is wanted. -/
theorem Relays.poll (relays : outputs.Relays relay) (fetched : Option (List FfEvent)) :
    (outputs.pollRumble fetched).1.Relays
        ⟨relay.gamepad, false, (outputs.pollRumble fetched).2.getD relay.sent⟩ ∧
      (relay.replaced = true → (outputs.pollRumble fetched).2 = some Program.silence) ∧
      (relay.replaced = false →
        (outputs.pollRumble fetched).1.told = (outputs.pollRumble fetched).1.wanted) := by
  have told := relays.told
  simp only [RumbleOutputs.pollRumble, relays.pending]
  cases replaced : relay.replaced with
  | true =>
    rw [replaced] at told
    exact ⟨⟨relays.gamepadType, relays.present, relays.pad, rfl, told⟩, fun _ => rfl, nofun⟩
  | false =>
    simp only [replaced, Bool.false_eq_true, if_false] at told ⊢
    cases found : outputs.gamepad with
    | none =>
      refine ⟨⟨relays.gamepadType, relays.present, relays.pad, ?_, told⟩, nofun, fun _ => ?_⟩
      · rw [relays.pending, replaced]
      · simp [RumbleOutputs.told, RumbleOutputs.wanted, found]
    | some pad =>
      obtain ⟨kind, settled⟩ := relays.pad pad found
      obtain ⟨same, settles, all, last⟩ := RumblePad.pollRumble_spec settled fetched
      simp only [RumbleOutputs.told, found, Option.map_some, Option.getD_some] at told
      refine ⟨⟨relays.gamepadType, ?_, ?_, ?_, ?_⟩, nofun, fun _ => ?_⟩
      · simpa [found] using relays.present
      · rintro other ⟨rfl⟩
        exact ⟨same.trans kind, settles⟩
      · rfl
      · simp [RumbleOutputs.told, last, told]
      · simp [RumbleOutputs.told, RumbleOutputs.wanted, all]

end RumbleOutputs

/-! ## The daemon -/

section

variable {P F : Type} [Scalar F] [DecidableEq (OskState F)] [Platform F]
  {fromStr : List UInt8 → Option Request} {program after : Program P F} {relay : Relay}
  {seen : List (Occurrence F)} {world : World P}

/-- The rumble that `main` keeps is the one that was sent. -/
structure Program.Relayed (program : Program P F) (relay : Relay) : Prop where
  outputs : program.rumbler.Relays relay
  rumble : program.rumble = relay.sent

namespace Program.Relayed

omit [Platform F] in
/-- An effect changes the rumble only as a gamepad is plugged in. -/
theorem perform (relayed : program.Relayed relay) (transport : Transport P) (effect : Effect F) :
    (program.perform transport effect).Relayed (relay.next (.performed effect)) := by
  constructor
  case outputs =>
    cases effect with
    | setGamepad gamepad => exact relayed.outputs.setGamepad gamepad
    | _ => exact relayed.outputs
  case rumble =>
    rw [Program.perform_rumble, relayed.rumble]
    cases effect with
    | setGamepad gamepad =>
      simp only [Relay.next]
      split <;> rfl
    | _ => rfl

omit [Scalar F] [DecidableEq (OskState F)] [Platform F] in
/-- The rumble that a poll sends is the one that the outputs have told. -/
theorem rumbled (relayed : program.Relayed relay) (rumbled : program.Rumbled world seen after) :
    after.Relayed (seen.foldl Relay.next relay) := by
  obtain ⟨polls, stops, _⟩ := relayed.outputs.poll world.fetched
  have untouched : (program.rumbler.pollRumble world.fetched).2 = none → relay.replaced = false := by
    intro nothing
    cases replaced : relay.replaced with
    | false => rfl
    | true => rw [stops replaced] at nothing; cases nothing
  cases rumbled with
  | sends rumble sends =>
    have sent : (program.rumbler.pollRumble world.fetched).2.getD relay.sent = rumble := by
      cases sends with
      | inl returned => rw [returned]; rfl
      | inr repeated => rw [repeated.1, repeated.2, relayed.rumble]; rfl
    rw [sent] at polls
    rw [Program.sendRumble, List.foldl_cons, Relay.next_controller]
    exact ⟨polls, rfl⟩
  | keeps nothing =>
    have same : relay = ⟨relay.gamepad, false, relay.sent⟩ := by rw [← untouched nothing]
    rw [nothing, Option.getD_none, ← same] at polls
    exact ⟨polls, relayed.rumble⟩

theorem advance (relayed : program.Relayed relay)
    (advanced : program.advance world = .ok (after, seen)) :
    after.Relayed (seen.foldl Relay.next relay) := by
  have kept : ∀ {program after : Program P F}, program.Relayed relay →
      after.rumbler = program.rumbler → after.rumble = program.rumble → after.Relayed relay :=
    fun relayed rumbler rumble => ⟨rumbler ▸ relayed.outputs, rumble.trans relayed.rumble⟩
  cases Program.advance_kind advanced with
  | @carries effect _ place =>
    rw [Program.carry, List.foldl_cons, Relay.next_controller]
    have performed := relayed.perform world.transport effect
    exact ⟨performed.outputs, performed.rumble⟩
  | answers taken command response =>
    cases response <;> exact kept relayed rfl rfl
  | quiet =>
    rw [Relay.next_controller]
    exact kept relayed rfl rfl
  | handles =>
    rw [List.foldl_append, Relay.next_controller]
    exact kept relayed rfl rfl
  | rumbles _ rumbled => exact relayed.rumbled rumbled
  | _ => exact kept relayed rfl rfl

theorem step (relayed : program.Relayed relay) (step : program.Step fromStr seen after) :
    after.Relayed (seen.foldl Relay.next relay) := by
  cases step with
  | loop advanced => exact relayed.advance advanced
  | @socket _ sightings =>
    have aside : (sightings.map (Occurrence.client (F := F))).foldl Relay.next relay = relay := by
      refine relay.next_aside fun occurrence member relay => ?_
      obtain ⟨sighting, _, rfl⟩ := List.mem_map.mp member
      rfl
    rw [aside]
    exact ⟨relayed.outputs, relayed.rumble⟩
  | game => exact ⟨relayed.outputs.receive _, relayed.rumble⟩

theorem run {kind : Gamepad} {final : Program P F} {start : Program P F}
    (relayed : start.Relayed (Relay.after kind ([] : List (Occurrence F))))
    (run : start.Run fromStr seen final) : final.Relayed (Relay.after kind seen) := by
  have kept : ∀ {past : List (Occurrence F)} {program after : Program P F}
      {seen : List (Occurrence F)}, program.Step fromStr seen after →
      program.Relayed (Relay.after kind past) → after.Relayed (Relay.after kind (past ++ seen)) := by
    intro past program after seen step relayed
    rw [Relay.after, List.foldl_append]
    exact relayed.step step
  exact Path.history (fun past (program : Program P F) => program.Relayed (Relay.after kind past))
    kept run relayed

end Program.Relayed

/-! ## The gamepad of the active mode -/

omit [Scalar F] [DecidableEq (OskState F)] [Platform F] in
/-- The gamepad that an observer knows of is the one that is plugged in. -/
theorem Relay.after_gamepad (kind : Gamepad) (seen : List (Occurrence F)) :
    (Relay.after kind seen).gamepad =
      ((plugEvents (performedOf seen)).foldl Plugged.after
        (Plugged.after ⟨.none, newBattery⟩ (.plug kind))).kind := by
  induction seen using List.reverseRecOn with
  | nil => exact (after_plug_kind _ kind).symm
  | append_singleton seen occurrence inductionHypothesis =>
    rw [Relay.after, List.foldl_append, performedOf, List.filterMap_append, plugEvents,
      List.filterMap_append, List.foldl_append]
    cases occurrence with
    | performed effect =>
      cases effect with
      | setGamepad gamepad =>
        have plugged := after_plug_kind ((plugEvents (performedOf seen)).foldl Plugged.after
          (Plugged.after ⟨.none, newBattery⟩ (.plug kind))) gamepad
        refine Eq.trans ?_ plugged.symm
        simp only [List.foldl_cons, List.foldl_nil, Relay.next]
        split
        · next same => exact same.symm
        · rfl
      | _ => exact inductionHypothesis
    | _ => exact inductionHypothesis

omit [Scalar F] [DecidableEq (OskState F)] [Platform F] in
/-- A poll that leaves another rumble has sent it, and it sends one again that would fade. -/
theorem Program.pollRumble_told (program : Program P F) (world : World P)
    (due : (program.pollRumble world).1.rumble ≠ program.rumble ∨
      (program.pollRumble world).1.rumble ≠ silence ∧
        rumbleRefresh ≤ world.now 0 - program.lastRumble) :
    .rumbled (program.pollRumble world).1.rumble ∈ (program.pollRumble world).2 := by
  unfold Program.pollRumble at due ⊢
  dsimp only at due ⊢
  split
  · exact List.mem_cons_self
  · next nothing =>
    split
    · exact List.mem_cons_self
    · next early =>
      rw [nothing] at due
      simp only [if_neg early] at due
      cases due with
      | inl changed => exact absurd rfl changed
      | inr fades => exact absurd fades early

/-- What the manager does with a rumble: the report for a connected controller commands it. -/
inductive DeviceManager.Commanded (transport : Transport P) (rumble : UInt16 × UInt16)
    (manager : DeviceManager P) : DeviceManager P → Prop where
  | away : (∀ slot puck, manager.active = some slot → manager.puck ≠ some puck) →
      Commanded transport rumble manager manager
  | written {slot : Nat} {puck written : P} {report : List UInt8} :
      manager.active = some slot → manager.puck = some puck → rumbleCommand report = some rumble →
      transport.write puck slot report = .ok written →
      Commanded transport rumble manager { manager with puck := some written }
  | lost {slot : Nat} {puck : P} {report : List UInt8} {error : Usb.IoError}
      {after : DeviceManager P} :
      manager.active = some slot → manager.puck = some puck → rumbleCommand report = some rumble →
      transport.write puck slot report = .error error → after.active = none →
      Commanded transport rumble manager after

theorem DeviceManager.rumble_commanded (manager : DeviceManager P) (transport : Transport P)
    (rumble : UInt16 × UInt16) :
    manager.Commanded transport rumble (manager.rumble transport rumble.1 rumble.2) := by
  have reads := rumbleCommand_encode (.rumble rumble.1 rumble.2)
  unfold DeviceManager.rumble DeviceManager.playHaptic
  split
  · next slot puck active opened =>
    split
    · next written writes => exact .written active opened reads writes
    · next error fails => exact .lost active opened reads fails rfl
  · next nobody => exact .away fun slot puck active opened => nobody slot puck active opened

omit [Scalar F] [DecidableEq (OskState F)] [Platform F] in
/-- The rumble that is seen is the one that the manager is handed. -/
theorem Program.Rumbled.handed {polled : List (Occurrence F)} {rumble : UInt16 × UInt16}
    (rumbled : program.Rumbled world polled after) (told : .rumbled rumble ∈ polled) :
    after.device = program.device.rumble world.transport rumble.1 rumble.2 := by
  cases rumbled with
  | keeps => cases told
  | sends sent _ =>
    -- besides it, a controller may be given up
    obtain rfl : rumble = sent := by simpa [Program.sendRumble, Program.controller] using told
    rfl

/-- What a poll of the rumble comes to, for an observer who has seen the run before it. -/
structure Program.RumbleShown (kind : Gamepad) (seen : List (Occurrence F)) (program : Program P F)
    (world : World P) (polled : List (Occurrence F)) (after : Program P F) : Prop where
  /-- The gamepad that may rumble is that of the active mode. -/
  active : after.main.mapper.gamepad = .ok (Relay.after kind seen).gamepad
  gamepad : ∀ pad, after.rumbler.gamepad = some pad → pad.kind = (Relay.after kind seen).gamepad
  /-- The manager has been told to stop for a gamepad that was given up. -/
  stopped : (Relay.after kind (seen ++ polled)).replaced = false
  /-- Otherwise it has been told what is wanted. -/
  sent : (Relay.after kind (seen ++ polled)).sent =
    if (Relay.after kind seen).replaced then Program.silence else after.rumbler.wanted
  /-- A change is told at once, and anything but silence again and again. -/
  told : (Relay.after kind (seen ++ polled)).sent ≠ (Relay.after kind seen).sent ∨
      (Relay.after kind (seen ++ polled)).sent ≠ Program.silence ∧
        Program.rumbleRefresh ≤ world.now 0 - program.lastRumble →
    .rumbled (Relay.after kind (seen ++ polled)).sent ∈ polled
  /-- The manager is handed what is told, and nothing else. -/
  handed : ∀ rumble, .rumbled rumble ∈ polled →
    program.device.Commanded world.transport rumble after.device
  spared : (∀ rumble, .rumbled rumble ∉ polled) → after.device = program.device

theorem rumble_follows_gamepad {config : Config F} (accepted : config.Accepted)
    {begun : World P} {start : Program P F} {kind : Gamepad}
    (started : Program.start config begun = .ok start)
    (first : start.main.mapper.gamepad = .ok kind) (run : start.Run fromStr seen program)
    (rumbling : program.place = .rumbling) {polled : List (Occurrence F)}
    (advanced : program.advance world = .ok (after, polled)) :
    Program.RumbleShown kind seen program world polled after := by
  obtain ⟨_, composed⟩ := Program.Run.composed run (Program.Sound.start accepted started)
  obtain ⟨main, begins, rest⟩ := bind_ok started
  obtain ⟨gamepad, plugged, done⟩ := bind_ok rest
  cases done
  obtain rfl : gamepad = kind := Except.ok.inj (plugged.symm.trans first)
  have relayed : program.Relayed (Relay.after gamepad seen) :=
    Program.Relayed.run ⟨RumbleOutputs.relays_new gamepad, rfl⟩ run
  have next : after.Relayed (Relay.after gamepad (seen ++ polled)) := by
    rw [Relay.after, List.foldl_append]
    exact relayed.advance advanced
  simp only [Program.advance, rumbling, Except.ok.injEq] at advanced
  have rumbled : program.Rumbled world polled after := by
    simpa [advanced] using program.pollRumble_kind world
  obtain ⟨polls, stops, tells⟩ := relayed.outputs.poll world.fetched
  have reads : after.rumbler = (program.rumbler.pollRumble world.fetched).1 ∧
      after.main = program.main := by
    cases rumbled <;> exact ⟨rfl, rfl⟩
  rw [← reads.1] at polls tells
  have stopped : (Relay.after gamepad (seen ++ polled)).replaced = false :=
    next.outputs.pending.symm.trans polls.pending
  constructor
  case active =>
    have effects : (turnsOf seen).flatMap (·.turn.effects) = performedOf seen := by
      simpa [Place.pending, rumbling] using composed.effects
    rw [reads.2, Relay.after_gamepad, ← effects]
    exact kind_pluggedAfter accepted begins first composed.main
  case gamepad => exact fun pad present => (polls.pad pad present).1
  case stopped => exact stopped
  case sent =>
    have told := next.outputs.told
    have silenced := polls.told
    simp only [stopped, Bool.false_eq_true, if_false] at told silenced
    rw [← told]
    cases replaced : (Relay.after gamepad seen).replaced with
    | true => rw [silenced, stops replaced]; rfl
    | false => exact tells replaced
  case told =>
    rw [← next.rumble, ← relayed.rumble]
    simpa [advanced] using program.pollRumble_told world
  case handed =>
    intro rumble told
    rw [rumbled.handed told]
    exact program.device.rumble_commanded world.transport rumble
  case spared =>
    intro untold
    cases rumbled with
    | keeps => rfl
    | sends sent _ => exact absurd List.mem_cons_self (untold sent)

/-- The mode with the DualShock 4 is the first one. -/
def rumbleConfig : Config ℚ := { padConfig with defaultMode := ⟨1⟩ }

theorem rumble_accepted : rumbleConfig.Accepted :=
  ⟨{ padDocument with nodes := padDocument.nodes.set 1 (wordNode "default-mode" ["game"] []) }, rfl⟩

def rumbleStart : Program Unit ℚ := (Program.start rumbleConfig quietWorld).toOption.get rfl

/-- A controller whose second button is down, and that can be written to. -/
def listeningWorld : World Unit :=
  { pressingWorld with
    transport := { pressingWorld.transport with write := fun _ _ _ => .ok () } }

/-- A game sends a rumble, a controller connects, and the loop comes to the poll that tells it. -/
theorem rumble_follows_gamepad_game :
    ∃ (seen polled : List (Occurrence ℚ)) (program after : Program Unit ℚ),
      program.device.active = some 0 ∧ program.rumble = (0, 0) ∧ after.rumble = (3, 5) ∧
        Program.RumbleShown .dualShock4 seen program listeningWorld polled after := by
  have started : Program.start rumbleConfig quietWorld = .ok rumbleStart := rfl
  let asked : Program Unit ℚ := { rumbleStart with rumbler := rumbleStart.rumbler.receive (3, 5) }
  have sent : rumbleStart.Run Ipc.parseLine [] asked := Path.single .game
  obtain ⟨⟨program, seen, after, polled⟩, runs, facts⟩ := map_ok
    (show (do
        let (program, seen) ← asked.advances listeningWorld 7
        let (after, polled) ← program.advance listeningWorld
        return (program, seen, after, polled) :
          Checked (Program Unit ℚ × List (Occurrence ℚ) × Program Unit ℚ × _)).map
          (fun (program, _, after, _) => (program.device.active, program.rumble, after.rumble,
            program.place matches .rumbling)) = .ok (some 0, (0, 0), (3, 5), true) by
      decide +kernel)
  obtain ⟨⟨program, seen⟩, advances, rest⟩ := bind_ok runs
  obtain ⟨⟨after, polled⟩, polls, done⟩ := bind_ok rest
  cases done
  simp only [Prod.mk.injEq] at facts
  obtain ⟨active, before, told, here⟩ := facts
  have rumbling : program.place = .rumbling := by
    split at here
    · assumption
    · cases here
  have run := sent.trans (Program.advances_run Ipc.parseLine advances)
  exact ⟨_, polled, program, after, active, before, told,
    rumble_follows_gamepad rumble_accepted started rfl run rumbling polls⟩

end

end Scd.Daemon
