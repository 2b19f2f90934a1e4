import Scd.Verified.StaleInput

/-! # The rumble stop

All haptic commands of a controller share one output transfer.  A write that finds it
pending is accepted and dropped.  A rumble is repeated every 40 ms until it gets through,
but a stop is written once, so that a stop that is dropped leaves the motors on
(`rumble_stop_lost`).

The stop gets through when the output transfer is free at the time, and it lasts when no
mode and no client starts a rumble of its own.
-/

namespace Scd.Daemon

open Scd.Core Scd.Foundation

/-! ## The last rumble command -/

/-- The rumble that an output report commands. -/
def rumbleCommand (data : List UInt8) : Option (UInt16 × UInt16) :=
  if data.head? = some 0x80 then some (leU16 data 4, leU16 data 7) else none

/-- The rumble of a haptic. -/
def rumbleOf : Haptic → Option (UInt16 × UInt16)
  | .rumble lowFrequency highFrequency => some (lowFrequency, highFrequency)
  | _ => none

theorem rumbleCommand_encode (haptic : Haptic) : rumbleCommand haptic.encode = rumbleOf haptic := by
  cases haptic with
  | rumble low high =>
    have lows := leU16_leBytes low
    have highs := leU16_leBytes high
    exact (if_pos rfl).trans (congrArg some (Prod.ext lows highs))
  | _ => rfl

namespace Observation

/-- The last rumble command of the connection after one more observation. -/
def nextRumble (last : Option (UInt16 × UInt16)) : Observation → Option (UInt16 × UInt16)
  | .activated _ _ => none
  | .dropped _ => none
  | .submitted _ data => (rumbleCommand data).or last

end Observation

/-- The last rumble command that was submitted in the present connection. -/
def lastRumbleCommand (labels : List Observation) : Option (UInt16 × UInt16) :=
  labels.foldl Observation.nextRumble none

theorem lastRumbleCommand_append (labels more : List Observation) :
    lastRumbleCommand (labels ++ more) = more.foldl Observation.nextRumble (lastRumbleCommand labels) :=
  List.foldl_append

/-! ## What a step lets be observed -/

section

variable {before after : ControllerLoop} {labels : List Observation}

/-- A step that keeps the active slot lets its writes be observed. -/
theorem observations_same (same : after.manager.active = before.manager.active) :
    before.observations after = after.receipts.flatMap (ControllerLoop.observe false) := by
  rw [ControllerLoop.observations, same]
  cases before.manager.active <;> simp

/-- A drop ends the connection. -/
theorem lastRumbleCommand_dropped (active : before.manager.active.isSome)
    (closed : after.manager.active = none) :
    lastRumbleCommand (labels ++ before.observations after) = none := by
  rw [ControllerLoop.observations, if_pos (by simp [active, closed]), ← List.append_assoc,
    lastRumbleCommand_append]
  rfl

/-- Without a write the last command stays, or the connection is a new one. -/
theorem lastRumbleCommand_quiet
    (quiet : ∀ receipt ∈ after.receipts, ∃ slot completion, receipt = .read slot completion) :
    lastRumbleCommand (labels ++ before.observations after) = none ∨
      lastRumbleCommand (labels ++ before.observations after) = lastRumbleCommand labels := by
  have silent : ∀ observation ∈ before.observations after,
      ∀ slot data, observation ≠ .submitted slot data := by
    rintro observation member slot data rfl
    rw [ControllerLoop.observations, List.mem_append] at member
    cases member with
    | inl receipt =>
      obtain ⟨receipt, present, isSubmitted⟩ := List.mem_flatMap.mp receipt
      obtain ⟨slot, completion, rfl⟩ := quiet receipt present
      simp only [ControllerLoop.observe] at isSubmitted
      split at isSubmitted <;> simp at isSubmitted
    | inr drop =>
      split at drop <;> simp at drop
  rw [lastRumbleCommand_append]
  generalize lastRumbleCommand labels = last
  generalize before.observations after = more at silent
  induction more generalizing last with
  | nil => exact .inr rfl
  | cons observation more inductionHypothesis =>
    have rest := fun last => inductionHypothesis last fun other member =>
      silent other (List.mem_cons_of_mem _ member)
    rw [List.foldl_cons]
    cases observation with
    | submitted slot data => exact absurd rfl (silent _ List.mem_cons_self slot data)
    | activated slot completion => exact .inl ((rest none).elim id id)
    | dropped clock => exact .inl ((rest none).elim id id)

end

/-! ## Receipts -/

section

variable {F : Type} [Scalar F] {clock : Nat} {surroundings : Surroundings}
  {manager : DeviceManager Receiver}

/-- Nothing was written in this step. -/
def Unwritten (manager : DeviceManager Receiver) : Prop :=
  ∀ receiver, manager.puck = some receiver →
    ∀ receipt ∈ receiver.log, ∃ slot completion, receipt = .read slot completion

theorem Counted.unwritten (counted : Counted clock manager) : Unwritten manager := by
  intro receiver opened receipt member
  rw [(counted receiver opened).2] at member
  cases member

omit [Scalar F] in
theorem receive_unwritten (unwritten : Unwritten manager) (index : Nat) (report : Report F) :
    Unwritten ((manager.receiveSends (surroundings.transport clock) index report).run
      (surroundings.transport clock).takes).1 := by
  have missing : Unwritten (manager.reset ((surroundings.transport clock).now 3)).1 := by
    intro receiver opened
    cases opened
  cases report with
  | disconnected =>
    simp only [DeviceManager.run_receiveSends]
    split <;> exact unwritten
  | battery percent charging =>
    simp only [DeviceManager.run_receiveSends]
    split <;> exact unwritten
  | state state =>
    simp only [DeviceManager.run_receiveSends]
    split
    · exact missing
    · split <;> split <;> exact unwritten

theorem read_unwritten (counted : Counted clock manager) :
    Unwritten ((manager.readSends (F := F) (surroundings.transport clock)).run
      (surroundings.transport clock).takes).1 := by
  obtain ⟨puck, active, pressure, lastState, lastScan, disconnected⟩ := manager
  cases puck with
  | none =>
    intro receiver opened
    cases opened
  | some receiver =>
    simp only [DeviceManager.run_readSends]
    cases polled : (surroundings.transport clock).poll receiver active with
    | error error =>
      intro receiver opened
      cases opened
    | ok result =>
      obtain ⟨after, report⟩ := result
      have empty := (counted receiver rfl).2
      have unwritten : ∀ receipt ∈ after.log, ∃ slot completion,
          receipt = .read slot completion := by
        obtain ⟨awaited, notes, _, ⟨_, rfl⟩ | ⟨slot, which, transfer, _, _, _, _, _, rfl⟩⟩ :=
          Receiver.poll_ok (Surroundings.poll_ok polled).2
        · simp [empty]
        · simp [empty]
      cases report with
      | none =>
        rintro receiver ⟨⟩
        exact unwritten
      | some report =>
        simp only [DeviceManager.run_interpretSends]
        cases (parseReport report.2 : Option (Report F)) with
        | none =>
          rintro receiver ⟨⟩
          exact unwritten
        | some parsed =>
          apply receive_unwritten
          rintro receiver ⟨⟩
          exact unwritten

theorem poll_unwritten (counted : Counted clock manager) :
    Unwritten (manager.poll (F := F) (surroundings.transport clock)).1 := by
  rw [DeviceManager.poll_eq]
  split
  · exact counted.unwritten
  · by_cases due : manager.scanDue ((surroundings.transport clock).now 0) = true
    · have missing : manager.puck = none := by
        simpa using ((Bool.and_eq_true ..).mp due).1
      have scanned := (@scan_counted clock surroundings manager missing
        ((surroundings.transport clock).now 1)).1
      rw [if_pos due]
      dsimp only
      split
      · exact scanned.unwritten
      · exact read_unwritten scanned
    · rw [if_neg due]
      dsimp only
      split
      · exact counted.unwritten
      · exact read_unwritten counted

omit [Scalar F] in
theorem setClickPressure_unwritten (counted : Counted clock manager) (pressure : UInt16) :
    Unwritten (manager.setTrackpadClickPressure (surroundings.transport clock) pressure) := by
  obtain ⟨puck, active, old, lastState, lastScan, disconnected⟩ := manager
  cases active with
  | none => exact counted.unwritten
  | some slot =>
    simp only [DeviceManager.setTrackpadClickPressure_eq]
    split
    · exact counted.unwritten
    · intro receiver opened
      cases opened

/-- The haptic is skipped without a controller, the receiver is lost, or the command is
    written: it is submitted when the output transfer is free. -/
theorem playHaptic_writes (counted : Counted clock manager) (haptic : Haptic) :
    (manager.playHaptic (surroundings.transport clock) haptic = manager ∧
        (manager.active = none ∨ manager.puck = none)) ∨
      ((manager.playHaptic (surroundings.transport clock) haptic).active = none ∧
        (manager.playHaptic (surroundings.transport clock) haptic).puck = none) ∨
      ∃ receiver slot after, manager.puck = some receiver ∧ manager.active = some slot ∧
        (manager.playHaptic (surroundings.transport clock) haptic).active = some slot ∧
        (manager.playHaptic (surroundings.transport clock) haptic).puck = some after ∧
        after.log = if submits receiver.device slot then [.submitted slot haptic.encode] else [] := by
  obtain ⟨puck, active, pressure, lastState, lastScan, disconnected⟩ := manager
  cases active with
  | none => exact .inl ⟨rfl, .inl rfl⟩
  | some slot =>
    cases puck with
    | none => exact .inl ⟨rfl, .inr rfl⟩
    | some receiver =>
      simp only [DeviceManager.playHaptic]
      cases written : (surroundings.transport clock).write receiver slot haptic.encode with
      | error error => exact .inr (.inl ⟨rfl, rfl⟩)
      | ok after =>
        refine .inr (.inr ⟨receiver, slot, after, rfl, rfl, rfl, rfl, ?_⟩)
        have empty := (counted receiver rfl).2
        obtain ⟨reaped, _, ⟨free, rfl⟩ | ⟨busy, rfl⟩⟩ :=
          Receiver.write_ok (Surroundings.write_ok written)
        · simp [free, empty]
        · simp [busy, empty]

end

/-! ## The stop -/

/-- The output transfer of the active slot is not pending. -/
def OutputIdle (manager : DeviceManager Receiver) : Prop :=
  ∃ receiver slot transfer, manager.puck = some receiver ∧ manager.active = some slot ∧
    receiver.device.transfer (.output slot) = some transfer ∧ transfer.pending = false

/-- No rumble command, or a stop, is the last one. -/
def Stopped (labels : List Observation) : Prop :=
  lastRumbleCommand labels = none ∨ lastRumbleCommand labels = some (0, 0)

/-- The controller does what the daemon believes it does: no rumble. -/
def StopDelivered (labels : List Observation) (loop : ControllerLoop) : Prop :=
  loop.manager.active.isSome → loop.rumble = (0, 0) → OutputIdle loop.manager → Stopped labels

/-- The haptic that a call of the manager plays. -/
def hapticOf : DeviceCall → Option Haptic
  | .playHaptic haptic => some haptic
  | .rumble lowFrequency highFrequency => some (.rumble lowFrequency highFrequency)
  | _ => none

/-- A stop finds the output transfer free, unless there is nothing to stop; and while the
    rumble of the gamepad is off, no other rumble command is submitted. -/
def keepsStop (labels : List Observation) (loop : ControllerLoop) (event : ControllerEvent) : Prop :=
  ∀ receiver slot, loop.manager.puck = some receiver → loop.manager.active = some slot →
    match event with
    | .pollRumble (some next) _ =>
      next = (0, 0) → submits receiver.device slot = true ∨ Stopped labels
    | .call call _ =>
      loop.rumble = (0, 0) → submits receiver.device slot = true →
        ∀ next, (hapticOf call).bind rumbleOf = some next → next = (0, 0)
    | _ => True

/-- The runs of the loop whose events meet the condition. -/
inductive StoppingRun (F : Type) [Scalar F] (surroundings : Surroundings) :
    List Observation → ControllerLoop → Prop where
  | start : StoppingRun F surroundings [] (.new surroundings)
  | event {labels : List Observation} {loop : ControllerLoop} (event : ControllerEvent) :
      StoppingRun F surroundings labels loop → keepsStop labels loop event →
      StoppingRun F surroundings (labels ++ loop.observations (loop.step F event)) (loop.step F event)

/-- The invariant of such a run. -/
structure Stilled (labels : List Observation) (loop : ControllerLoop) : Prop where
  sound : loop.manager.Sound
  timed : Timed loop
  inactive : loop.manager.active = none → lastRumbleCommand labels = none
  stopped : loop.rumble = (0, 0) → Stopped labels

/-- When no slot is active after a step without a write, no command counts. -/
theorem Stilled.closes {labels : List Observation} {before after : ControllerLoop}
    (stilled : Stilled labels before) (closed : after.manager.active = none)
    (quiet : ∀ receipt ∈ after.receipts, ∃ slot completion, receipt = .read slot completion) :
    lastRumbleCommand (labels ++ before.observations after) = none := by
  cases active : before.manager.active with
  | some slot => exact lastRumbleCommand_dropped (by simp [active]) closed
  | none =>
    have last := @lastRumbleCommand_quiet before after labels quiet
    rw [stilled.inactive active] at last
    exact last.elim id id

/-- A step without a write keeps what is known of the last command. -/
theorem Stilled.quiet {labels : List Observation} {before after : ControllerLoop}
    (stilled : Stilled labels before) (sound : after.manager.Sound) (timed : Timed after)
    (quiet : ∀ receipt ∈ after.receipts, ∃ slot completion, receipt = .read slot completion)
    (rumble : after.rumble = before.rumble) :
    Stilled (labels ++ before.observations after) after := by
  have last := @lastRumbleCommand_quiet before after labels quiet
  refine ⟨sound, timed, fun closed => stilled.closes closed quiet, ?_⟩
  intro off
  have stopped := stilled.stopped (rumble ▸ off)
  obtain none | same := last
  · exact .inl none
  · rw [Stopped, same]
    exact stopped

/-- A step that plays a haptic. -/
theorem Stilled.haptic {labels : List Observation} {before after : ControllerLoop}
    {surroundings : Surroundings} (stilled : Stilled labels before) (sound : after.manager.Sound)
    (timed : Timed after) (haptic : Haptic)
    (played : after.manager = (ControllerLoop.forget before.manager).playHaptic
      (surroundings.transport before.clock) haptic)
    (stop : after.rumble = (0, 0) → ∀ receiver slot, before.manager.puck = some receiver →
      before.manager.active = some slot →
        if submits receiver.device slot then
          rumbleOf haptic = some (0, 0) ∨ (rumbleOf haptic = none ∧ Stopped labels)
        else Stopped labels) :
    Stilled (labels ++ before.observations after) after := by
  have counted := forget_counted stilled.timed
  obtain ⟨skipped, missing⟩ | ⟨closed, lost⟩ |
    ⟨receiver, slot, written, opened, active, activeAfter, openedAfter, log⟩ :=
      @playHaptic_writes _ surroundings _ counted haptic
  -- skipped: without a slot nothing was ever commanded
  · have none : lastRumbleCommand labels = none := by
      apply stilled.inactive
      cases active : before.manager.active with
      | none => rfl
      | some slot =>
        have opened := stilled.sound.puck (by simp [active])
        rcases missing with inactive | noPuck
        · cases active.symm.trans inactive
        · simp [Option.map_eq_none_iff.mp noPuck] at opened
    have same : after.manager = ControllerLoop.forget before.manager := played.trans skipped
    have nothing : before.observations after = [] := by
      have receipts : after.receipts = [] := by
        rw [ControllerLoop.receipts, same]
        cases opened : before.manager.puck <;>
          simp [ControllerLoop.forget, ControllerLoop.onDevice, opened]
      rw [observations_same (by rw [same]; rfl), receipts]
      rfl
    rw [nothing, List.append_nil]
    exact ⟨sound, timed, fun _ => none, fun _ => .inl none⟩
  · rw [← played] at closed lost
    have none := stilled.closes closed (by simp [ControllerLoop.receipts, lost])
    exact ⟨sound, timed, fun _ => none, fun _ => .inl none⟩
  · rw [← played] at activeAfter openedAfter
    obtain ⟨original, present, rfl⟩ := Option.map_eq_some_iff.mp opened
    have wrote := fun off => stop off original slot present active
    have observed : before.observations after =
        written.log.flatMap (ControllerLoop.observe false) := by
      rw [observations_same (activeAfter.trans active.symm), ControllerLoop.receipts, openedAfter]
      rfl
    refine ⟨sound, timed, by simp [activeAfter], ?_⟩
    intro off
    have wrote := wrote off
    change written.log = if submits original.device slot then _ else _ at log
    rw [Stopped, lastRumbleCommand_append, observed, log]
    cases free : submits original.device slot with
    | false =>
      rw [free, if_neg (by simp)] at wrote
      exact wrote
    | true =>
      rw [free, if_pos rfl] at wrote
      simp only [if_true, List.flatMap_cons, List.flatMap_nil, ControllerLoop.observe,
        List.append_nil, List.foldl_cons, List.foldl_nil, Observation.nextRumble,
        rumbleCommand_encode]
      obtain stops | ⟨other, stopped⟩ := wrote
      · rw [stops]
        exact .inr rfl
      · rw [other]
        exact stopped

theorem onDevice_unwritten (manager : DeviceManager Receiver) (change : Usb.Device → Usb.Device) :
    Unwritten (ControllerLoop.onDevice manager change) := by
  intro receiver opened receipt member
  obtain ⟨original, _, rfl⟩ := Option.map_eq_some_iff.mp opened
  cases member

theorem Unwritten.receipts {loop : ControllerLoop} (unwritten : Unwritten loop.manager) :
    ∀ receipt ∈ loop.receipts, ∃ slot completion, receipt = .read slot completion := by
  intro receipt member
  rw [ControllerLoop.receipts] at member
  cases opened : loop.manager.puck with
  | none => simp [opened] at member
  | some receiver =>
    rw [opened] at member
    exact unwritten receiver opened receipt member

theorem Stilled.step {F : Type} [Scalar F] {labels : List Observation} {loop : ControllerLoop}
    {event : ControllerEvent} (stilled : Stilled labels loop) (keeps : keepsStop labels loop event) :
    Stilled (labels ++ loop.observations (loop.step F event)) (loop.step F event) := by
  have sound : (loop.step F event).manager.Sound := @react_sound F _ loop stilled.sound event
  have timed := step_timed F loop event
  have counted := forget_counted stilled.timed
  cases event with
  | arrive slot data =>
    exact .quiet stilled sound timed (Unwritten.receipts (onDevice_unwritten _ _)) rfl
  | finishOutput slot status data =>
    exact .quiet stilled sound timed (Unwritten.receipts (onDevice_unwritten _ _)) rfl
  | pollRumble next surroundings =>
    simp only [ControllerLoop.step, ControllerLoop.react, ControllerLoop.pollRumble] at sound timed ⊢
    cases next with
    -- a change of the rumble is written at once
    | some next =>
      refine .haptic stilled sound timed (.rumble next.1 next.2) rfl ?_
      intro off receiver slot opened active
      change next = (0, 0) at off
      have written := keeps receiver slot opened active off
      split
      · exact .inl (by rw [off]; rfl)
      · next busy => exact written.resolve_left busy
    -- a rumble that is on is repeated; a stop is not
    | none =>
      dsimp only at sound timed ⊢
      split at sound
      · next due =>
        rw [if_pos due] at timed ⊢
        refine .haptic stilled sound timed (.rumble loop.rumble.1 loop.rumble.2) rfl ?_
        exact fun off => absurd off due.1
      · next idle =>
        rw [if_neg idle] at timed ⊢
        exact .quiet stilled sound timed (Unwritten.receipts (onDevice_unwritten _ _)) rfl
  | call call surroundings =>
    have played : ∀ haptic, hapticOf call = some haptic →
        (loop.step F (.call call surroundings)).manager =
          (ControllerLoop.forget loop.manager).playHaptic (surroundings.transport loop.clock)
            haptic →
        Stilled (labels ++ loop.observations (loop.step F (.call call surroundings)))
          (loop.step F (.call call surroundings)) := by
      intro haptic isHaptic same
      refine .haptic stilled sound timed haptic same ?_
      intro off receiver slot opened active
      have stopped := stilled.stopped off
      split
      · next free =>
        have only := keeps receiver slot opened active off free
        rw [isHaptic, Option.bind_some] at only
        cases rumble : rumbleOf haptic with
        | none => exact .inr ⟨rfl, stopped⟩
        | some next => exact .inl (by rw [only next rumble])
      · exact stopped
    cases call with
    | playHaptic haptic => exact played haptic rfl rfl
    | rumble lowFrequency highFrequency => exact played _ rfl rfl
    | poll =>
      exact .quiet stilled sound timed (Unwritten.receipts (poll_unwritten counted)) rfl
    | suppressLizardMode =>
      have unwritten : Unwritten ((ControllerLoop.forget loop.manager).suppressLizardMode
          (surroundings.transport loop.clock)) := by
        rw [DeviceManager.suppressLizardMode_eq]
        exact counted.unwritten
      exact .quiet stilled sound timed (Unwritten.receipts unwritten) rfl
    | setTrackpadClickPressure pressure =>
      exact .quiet stilled sound timed (Unwritten.receipts (setClickPressure_unwritten counted _)) rfl

theorem stilled_start (surroundings : Surroundings) : Stilled [] (.new surroundings) := by
  have start : Counted 0 (ControllerLoop.new surroundings).manager := (scan_counted rfl _).1
  refine ⟨(DeviceManager.new_sound _).1, ?_, fun _ => rfl, fun _ => .inl rfl⟩
  intro receiver opened
  exact (start receiver opened).1

/-- In a run whose stops find the output transfer free, and in which nobody else starts a
    rumble, the last rumble command is a stop whenever the rumble is off. -/
theorem rumble_stop_delivered {F : Type} [Scalar F] {surroundings : Surroundings}
    {labels : List Observation} {loop : ControllerLoop}
    (run : StoppingRun F surroundings labels loop) : StopDelivered labels loop := by
  have stilled : Stilled labels loop := by
    induction run with
    | start => exact stilled_start surroundings
    | event event _ keeps inductionHypothesis => exact inductionHypothesis.step keeps
  intro _ off _
  exact stilled.stopped off

/-- A rumble is finished when the stop comes, and the stop is submitted. -/
theorem rumble_stop_delivered_free :
    ∃ labels loop, StoppingRun ℚ (calm 0) labels loop ∧
      lastRumbleCommand labels = some (0, 0) ∧ StopDelivered labels loop := by
  have fresh : StoppingRun ℚ (calm 0) [] (.new (calm 0)) := .start
  have reported := fresh.event (.arrive 0 idleReport) (by rintro _ _ _ _; trivial)
  have connected := reported.event (.call .poll (calm 0)) (by
    rintro _ _ _ ⟨⟩)
  have rumbles := connected.event (.pollRumble (some (5, 5)) (calm 0)) (by
    rintro _ _ _ _ ⟨⟩)
  have finished := rumbles.event (.finishOutput 0 0 []) (by rintro _ _ _ _; trivial)
  have stopped := finished.event (.pollRumble (some (0, 0)) (calm 0)) (by
    rintro _ _ ⟨⟩ ⟨⟩ _
    exact .inl rfl)
  exact ⟨_, _, stopped, rfl, rumble_stop_delivered stopped⟩

/-- The stop comes while the rumble is still being written, and is never written itself. -/
theorem rumble_stop_lost :
    ∃ labels loop, Path (ControllerStep ℚ) (.new (calm 0)) labels loop ∧
      lastRumbleCommand labels = some (5, 5) ∧ ¬ StopDelivered labels loop := by
  have start : Path (ControllerStep ℚ) (.new (calm 0)) [] (.new (calm 0)) := .refl
  have connected := (start.snoc (.event (.arrive 0 idleReport))).snoc
    (.event (.call .poll (calm 0)))
  have stopped := (connected.snoc (.event (.pollRumble (some (5, 5)) (calm 0)))).snoc
    (.event (.pollRumble (some (0, 0)) (calm 0)))
  have idle := (stopped.snoc (.event (.finishOutput 0 0 []))).snoc (.event (.call .poll (calm 0)))
  refine ⟨_, _, idle, rfl, ?_⟩
  intro delivered
  obtain none | stop := delivered rfl rfl ⟨_, _, _, rfl, rfl, rfl, rfl⟩
  · cases none
  · cases stop

end Scd.Daemon
