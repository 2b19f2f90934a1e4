import Scd.Daemon.Features
import Scd.Verified.Capabilities
import Scd.Verified.Idle

/-! # The configuration in force

What the outside is like follows from the active configuration and mode: the gamepad that is
plugged in, the keys that the controls press on the on-screen keyboard, and the settings of the
controller.  A turn changes the configuration at once and lists what is to be done about it, so
that between two steps the rest of the list is still to be performed.
-/

namespace Scd.Daemon

open Scd.Core Scd.Foundation

/-! ## The controller -/

/-- The slot has taken what the daemon wants of a controller. -/
structure Settings.Hold (settings : Settings) (slot : Nat) (pressure : UInt16) : Prop where
  lizard : settings slot 9 = some 0
  imu : settings slot 48 = some 0x18
  left : settings slot 52 = some pressure
  right : settings slot 53 = some pressure

namespace DeviceManager

variable {P : Type} {manager : DeviceManager P} {transport : Transport P} {settings : Settings}

/-- An active slot has taken its settings. -/
def Set (settings : Settings) (manager : DeviceManager P) : Prop :=
  ∀ slot, manager.active = some slot → settings.Hold slot manager.trackpadClickPressure

theorem set_closed (closed : manager.active = none) : manager.Set settings := by
  intro slot active
  rw [closed] at active
  cases active

/-- Both pads take the click pressure. -/
theorem sendClickPressure_taken {index : Nat} {pressure : UInt16} {configured : Bool}
    (sent : (manager.sendClickPressure index pressure configured).run transport.takes = true) :
    configured = true ∧ transport.accepted (manager.sendClickPressure index pressure configured) =
      [(index, trackpadClickPressureReport .left pressure),
        (index, trackpadClickPressureReport .right pressure)] := by
  have taken : (configured = true ∧ (manager.sendFeature index
      (trackpadClickPressureReport .left pressure)).run transport.takes = true) ∧
        (manager.sendFeature index (trackpadClickPressureReport .right pressure)).run
          transport.takes = true := by
    simpa [sendClickPressure] using sent
  obtain ⟨⟨configured, left⟩, right⟩ := taken
  exact ⟨configured, by simp [sendClickPressure, left, right]⟩

/-- A slot that becomes active takes all its settings. -/
theorem set_configure {index : Nat}
    (configured : (manager.configure index).run transport.takes = true) :
    (settings.takeAll (transport.accepted (manager.configure index))).Hold index
      manager.trackpadClickPressure := by
  simp only [configure] at configured ⊢
  rw [Dialogue.run_bind] at configured
  rw [Transport.accepted_bind, Transport.accepted_sendFeature]
  -- no report can have been refused
  cases lizard : (manager.sendFeature index (lizardModeReport false)).run transport.takes with
  | false =>
    simp only [lizard, Bool.false_eq_true, if_false, Dialogue.run_bind] at configured
    cases (sendClickPressure_taken configured).1
  | true =>
    simp only [lizard, if_true, Dialogue.run_bind] at configured
    obtain ⟨imu, pads⟩ := sendClickPressure_taken configured
    rw [imu] at pads
    simp only [if_true, Transport.accepted_bind, Transport.accepted_sendFeature, imu, pads]
    constructor <;>
      simp [Settings.takeAll, lizardModeReport, imuModeReport, trackpadClickPressureReport]

theorem set_pressure (set : manager.Set settings) (pressure : UInt16) :
    (manager.setTrackpadClickPressure transport pressure).Set (settings.takeAll
      (transport.accepted (manager.setTrackpadClickPressureSends transport pressure))) := by
  rw [setTrackpadClickPressure_eq]
  unfold setTrackpadClickPressureSends
  dsimp only
  cases active : manager.active with
  | none => exact set_closed rfl
  | some index =>
    dsimp only
    split
    · next sent =>
      simp only [Transport.accepted_bind, sent, if_true, Dialogue.pure_eq,
        Transport.accepted_done, List.append_nil, (sendClickPressure_taken sent).2]
      intro slot current
      obtain rfl : index = slot := Option.some.inj current
      have before := set index active
      constructor
      · simpa [Settings.takeAll, trackpadClickPressureReport] using before.lizard
      · simpa [Settings.takeAll, trackpadClickPressureReport] using before.imu
      · simp [Settings.takeAll, trackpadClickPressureReport]
      · simp [Settings.takeAll, trackpadClickPressureReport]
    · exact set_closed rfl

theorem set_suppress (set : manager.Set settings) :
    (manager.suppressLizardMode transport).Set
      (settings.takeAll (transport.accepted manager.suppressLizardModeSends)) := by
  rw [suppressLizardMode_eq]
  unfold suppressLizardModeSends
  cases active : manager.active with
  | none => exact set_closed active
  | some index =>
    intro slot current
    have before := set slot current
    obtain rfl : index = slot := Option.some.inj (active.symm.trans current)
    simp only [Transport.accepted_bind, Transport.accepted_sendFeature, Dialogue.pure_eq,
      Transport.accepted_done, List.append_nil]
    split
    · constructor
      · simp [Settings.takeAll, lizardModeReport]
      · simpa [Settings.takeAll, lizardModeReport] using before.imu
      · simpa [Settings.takeAll, lizardModeReport] using before.left
      · simpa [Settings.takeAll, lizardModeReport] using before.right
    · exact before

theorem set_playHaptic (set : manager.Set settings) (haptic : Haptic) :
    (manager.playHaptic transport haptic).Set settings := by
  unfold playHaptic
  split
  · next active _ _ =>
    split
    · exact set
    · exact set_closed rfl
  · exact set

variable {F : Type}

theorem set_receive (set : manager.Set settings) (index : Nat) (report : Report F) :
    ((manager.receiveSends transport index report).run transport.takes).1.Set
      (settings.takeAll (transport.accepted (manager.receiveSends transport index report))) := by
  cases report with
  | disconnected =>
    simp only [receiveSends, Dialogue.run_ite, Transport.accepted_ite]
    split
    · exact set_closed rfl
    · exact set
  | battery =>
    simp only [receiveSends, Dialogue.run_ite, Transport.accepted_ite]
    split <;> exact set
  | state state =>
    simp only [receiveSends]
    cases active : manager.active with
    | none =>
      simp only [Option.isNone_none, if_true, Dialogue.run_bind, Transport.accepted_bind,
        Dialogue.run_ite, Transport.accepted_ite]
      cases configured : (manager.configure index).run transport.takes with
      | false => exact set_closed rfl
      | true =>
        simp only [Bool.not_true, Bool.false_eq_true, if_false, Dialogue.pure_eq,
          Transport.accepted_done, List.append_nil]
        intro slot current
        obtain rfl : index = slot := Option.some.inj current
        exact set_configure configured
    | some current =>
      simp only [Option.isNone_some, Bool.false_eq_true, if_false, Dialogue.run_bind,
        Transport.accepted_bind, Dialogue.run_ite, Transport.accepted_ite, Dialogue.pure_eq,
        Dialogue.run_done, Transport.accepted_done, Bool.not_true, List.nil_append, active]
      split
      · intro slot connected
        exact set slot (active.trans connected)
      · exact set

variable [Scalar F]

theorem set_interpret (set : manager.Set settings) (polled : Option (Nat × List UInt8)) :
    ((manager.interpretSends (F := F) transport polled).run transport.takes).1.Set
      (settings.takeAll (transport.accepted
        (manager.interpretSends (F := F) transport polled))) := by
  cases polled with
  | none => exact set
  | some report =>
    unfold interpretSends
    dsimp only
    split
    · exact set
    · exact set_receive set _ _

theorem set_scan (set : manager.Set settings) (now : Int) :
    (manager.scan transport now).Set settings := by
  unfold scan
  split <;> exact set

theorem set_poll (set : manager.Set settings) :
    (manager.poll transport : DeviceManager P × Option (DeviceEvent F)).1.Set
      (settings.takeAll (transport.accepted (manager.pollSends (F := F) transport))) := by
  simp only [poll, pollSends, Dialogue.run_ite, Transport.accepted_ite]
  split
  · exact set
  · have scanned : (if manager.scanDue (transport.now 0) then
        manager.scan transport (transport.now 1) else manager).Set settings := by
      split
      · exact set_scan set _
      · exact set
    generalize (if manager.scanDue (transport.now 0) then
        manager.scan transport (transport.now 1) else manager) = manager at scanned ⊢
    split
    · exact set_closed rfl
    · unfold readSends
      cases manager.puck with
      | none => exact scanned
      | some puck =>
        dsimp only
        cases transport.poll puck manager.active with
        | error => exact set_closed rfl
        | ok result =>
          obtain ⟨puck, polled⟩ := result
          have opened : { manager with puck := some puck }.Set settings := scanned
          exact set_interpret (F := F) opened polled

omit [Scalar F] in
theorem receive_pressure (index : Nat) (report : Report F) :
    ((manager.receiveSends transport index report).run
      transport.takes).1.trackpadClickPressure =
      manager.trackpadClickPressure := by
  cases report with
  | disconnected =>
    simp only [run_receiveSends]
    split <;> rfl
  | battery =>
    simp only [run_receiveSends]
    split <;> rfl
  | state state =>
    simp only [run_receiveSends]
    split
    · rfl
    · cases manager.active.isNone with
      | true => simp only [if_true]
      | false =>
        simp only [Bool.false_eq_true, if_false]
        split <;> rfl

/-- Polling leaves the pressure that is wanted. -/
theorem poll_pressure :
    (manager.poll transport : DeviceManager P × Option (DeviceEvent F)).1.trackpadClickPressure =
      manager.trackpadClickPressure := by
  rw [poll_eq]
  dsimp only
  split
  · rfl
  · have scanned : (if manager.scanDue (transport.now 0) then
        manager.scan transport (transport.now 1) else manager).trackpadClickPressure =
          manager.trackpadClickPressure := by
      unfold scan
      split
      · split <;> rfl
      · rfl
    rw [← scanned]
    generalize (if manager.scanDue (transport.now 0) then
        manager.scan transport (transport.now 1) else manager) = manager
    split
    · rfl
    · rw [run_readSends]
      cases manager.puck with
      | none => rfl
      | some puck =>
        dsimp only
        cases transport.poll puck manager.active with
        | error => rfl
        | ok result =>
          obtain ⟨puck, polled⟩ := result
          dsimp only
          rw [run_interpretSends]
          cases polled with
          | none => rfl
          | some report =>
            dsimp only
            split
            · rfl
            · exact receive_pressure _ _

end DeviceManager

/-! ## What the effects come to -/

section

variable {F : Type}

/-- The gamepad after an effect. -/
def Effect.plugs (gamepad : Gamepad) : Effect F → Gamepad
  | .setGamepad next => next
  | _ => gamepad

/-- The click pressure after an effect. -/
def Effect.presses (pressure : UInt16) : Effect F → UInt16
  | .clickPressure next => next
  | _ => pressure

variable [Scalar F]

theorem plugs_performed (outputs : Outputs F) (effect : Effect F) :
    (outputs.perform effect).gamepadType = effect.plugs outputs.gamepadType := by
  cases effect with
  | output output =>
    cases output with
    | key key pressed =>
      simp only [Outputs.perform, Outputs.emit, Effect.plugs]
      split
      · rfl
      · split <;> rfl
    | _ => rfl
  | setGamepad gamepad =>
    simp only [Outputs.perform, Outputs.setGamepad, Effect.plugs]
    split
    · next same => exact same.symm
    · rfl
  | _ => rfl

/-! ## Turns -/

omit [Scalar F] in
theorem emitOutputs_plugs {mapper : Mapper F} {gamepad : Gamepad} {outputs : List (Output F)}
    {effects : List (List (Effect F))} (emitted : outputs.mapM (emitOutput mapper) = .ok effects)
    (current : mapper.gamepad = .ok gamepad) (before : Gamepad) :
    effects.flatten.foldl Effect.plugs before =
      if outputs.any Output.isModeChange then gamepad else before := by
  induction outputs generalizing effects before with
  | nil =>
    cases emitted
    rfl
  | cons output outputs inductionHypothesis =>
    rw [List.mapM_cons] at emitted
    obtain ⟨first, emits, rest⟩ := bind_ok emitted
    obtain ⟨more, emitsRest, done⟩ := bind_ok rest
    cases done
    rw [List.flatten_cons, List.foldl_append, inductionHypothesis emitsRest, List.any_cons]
    cases output with
    | modeChanged name haptic =>
      obtain ⟨plugged, plugs, done⟩ := bind_ok emits
      cases done
      obtain rfl : plugged = gamepad := Except.ok.inj (plugs.symm.trans current)
      cases haptic <;> simp [Output.isModeChange, Effect.plugs]
    | _ =>
      cases emits
      simp [Output.isModeChange, Effect.plugs]

omit [Scalar F] in
theorem gamepad_same {mapper next : Mapper F} (config : next.config = mapper.config)
    (activeMode : next.activeMode = mapper.activeMode) : next.gamepad = mapper.gamepad := by
  rw [Mapper.gamepad, Mapper.gamepad, Mapper.mode, Mapper.mode, config, activeMode]

theorem gamepad_released (mapper : Mapper F) :
    mapper.releaseOutputs.1.gamepad = mapper.gamepad ∧
      mapper.releaseOutputs.1.config = mapper.config := by
  have config : mapper.releaseOutputs.1.config = mapper.config := by rw [releaseOutputs_eq]
  refine ⟨gamepad_same config ?_, config⟩
  rw [releaseOutputs_eq]

theorem steps_gamepad {mapper next : Mapper F} {log : Log F} (steps : Steps mapper log next)
    (unchanged : log.changesMode = false) : next.gamepad = mapper.gamepad := by
  cases steps with
  | moves moves =>
    obtain ⟨config, activeMode, _, _⟩ := moves.sameShape
    exact gamepad_same config activeMode
  | @changes first second mid _ moves changed =>
    obtain ⟨name, haptic, log⟩ := changed.log
    have reports : second.changesMode = true := by
      rw [log, changesMode_append, changesMode_of_mem List.mem_cons_self, Bool.or_true]
    rw [changesMode_append, reports, Bool.or_true] at unchanged
    cases unchanged

/-- What a turn emits, and with which mapper. -/
theorem emit_inv {main : MainLoop F} {log : Log F} {turn : Turn F}
    (emitted : main.emit log = .ok turn) :
    ∃ (suspended : Log F) (effects : List (List (Effect F))),
      (log.outputs.filter (!·.isToggle) ++ suspended.outputs).mapM
        (emitOutput turn.main.mapper) = .ok effects ∧
      turn.effects = effects.flatten ∧
      (turn.main.mapper = main.mapper ∨ turn.main.mapper = main.mapper.releaseOutputs.1) ∧
      turn.main.keyboard.bindings = main.keyboard.bindings := by
  unfold MainLoop.emit at emitted
  cases toggled : log.outputs.any Output.isToggle with
  | false =>
    simp only [toggled, Bool.false_eq_true, if_false] at emitted
    obtain ⟨effects, emits, done⟩ := bind_ok emitted
    cases done
    exact ⟨_, effects, emits, rfl, .inl rfl, rfl⟩
  | true =>
    simp only [toggled, if_true] at emitted
    obtain ⟨effects, emits, done⟩ := bind_ok emitted
    cases done
    refine ⟨_, effects, emits, rfl, .inr rfl, ?_⟩
    simp only [OskState.setVisible]
    split <;> rfl

theorem emit_keeps {main : MainLoop F} {log : Log F} {turn : Turn F}
    (emitted : main.emit log = .ok turn) :
    turn.main.mapper.gamepad = main.mapper.gamepad ∧
      turn.main.mapper.config = main.mapper.config ∧
      turn.main.keyboard.bindings = main.keyboard.bindings := by
  obtain ⟨_, _, _, _, same | released, bindings⟩ := emit_inv emitted
  · rw [same]
    exact ⟨rfl, rfl, bindings⟩
  · obtain ⟨gamepad, config⟩ := gamepad_released main.mapper
    rw [released]
    exact ⟨gamepad, config, bindings⟩

/-- The gamepad is plugged in anew where the mode changes. -/
theorem emit_plugs {main : MainLoop F} {log : Log F} {turn : Turn F} {before : Gamepad}
    (emitted : main.emit log = .ok turn) (wf : turn.main.mapper.Wf)
    (current : log.changesMode = false → main.mapper.gamepad = .ok before) :
    turn.main.mapper.gamepad = .ok (turn.effects.foldl Effect.plugs before) := by
  obtain ⟨mode, found⟩ := wf.mode_ok
  have plugged : turn.main.mapper.gamepad = .ok mode.gamepad := by
    rw [Mapper.gamepad, found]
    rfl
  obtain ⟨suspended, effects, emits, same, _⟩ := emit_inv emitted
  rw [same, emitOutputs_plugs emits plugged before, plugged]
  split
  · rfl
  · next unchanged =>
    -- none of the outputs that are emitted is a change of the mode
    have none : log.changesMode = false := by
      rw [List.any_append, Bool.or_eq_true, not_or, List.any_filter] at unchanged
      rw [Log.changesMode, List.any_eq_false]
      intro output member changes
      refine unchanged.1 (List.any_eq_true.mpr ⟨output, member, ?_⟩)
      cases output with
      | modeChanged name haptic => rfl
      | _ => cases changes
    rw [← current none, ← (emit_keeps emitted).1, plugged]

theorem emit_presses {main : MainLoop F} {log : Log F} {turn : Turn F}
    (emitted : main.emit log = .ok turn) (before : UInt16) :
    turn.effects.foldl Effect.presses before = before := by
  obtain ⟨suspended, effects, emits, same, _⟩ := emit_inv emitted
  rw [same]
  generalize log.outputs.filter (!·.isToggle) ++ suspended.outputs = outputs at emits
  clear same
  induction outputs generalizing effects with
  | nil =>
    cases emits
    rfl
  | cons output outputs inductionHypothesis =>
    rw [List.mapM_cons] at emits
    obtain ⟨first, one, rest⟩ := bind_ok emits
    obtain ⟨more, others, done⟩ := bind_ok rest
    cases done
    rw [List.flatten_cons, List.foldl_append]
    cases output with
    | modeChanged name haptic =>
      obtain ⟨gamepad, _, done⟩ := bind_ok one
      cases done
      cases haptic <;> exact inductionHypothesis _ others
    | _ =>
      cases one
      exact inductionHypothesis _ others

/-- The keys that a configuration binds on the on-screen keyboard. -/
def boundCodes (config : Config F) : Button → UInt16 :=
  (OskState.default.setBindings config.oskBindings.entries : OskState F).bindings

/-- A turn leaves the mode and the configuration that its effects come to. -/
structure Turn.Follows (main : MainLoop F) (turn : Turn F) : Prop where
  gamepad : ∀ gamepad, main.mapper.gamepad = .ok gamepad →
    turn.main.mapper.gamepad = .ok (turn.effects.foldl Effect.plugs gamepad)
  pressure : turn.effects.foldl Effect.presses main.mapper.config.clickPressure =
    turn.main.mapper.config.clickPressure
  bindings : main.keyboard.bindings = boundCodes main.mapper.config →
    turn.main.keyboard.bindings = boundCodes turn.main.mapper.config

omit [Scalar F] in
theorem sync_bindings (mapper : Mapper F) (keyboard : OskState F) :
    (syncKeyboard mapper keyboard).bindings = keyboard.bindings := by
  unfold syncKeyboard
  split <;> rfl

theorem update_bindings (mapper : Mapper F) (keyboard : OskState F) (state : ControllerState F)
    (wasVisible : Bool) :
    (updateKeyboard mapper keyboard state wasVisible).bindings = keyboard.bindings := by
  have pad : ∀ (keyboard : OskState F) (side : OskPadSide) (pad : OskPad F),
      (keyboard.updatePad side pad wasVisible).bindings = keyboard.bindings := by
    intro keyboard side pad
    unfold OskState.updatePad
    dsimp only
    split <;> cases side <;> rfl
  unfold updateKeyboard
  split
  · rw [pad, pad, sync_bindings]
  · rfl

/-- The effects of an operation of the mapper, after which the keyboard is published. -/
theorem carryOut_follows {main : MainLoop F} {mapper : Mapper F} {log : Log F} {turn : Turn F}
    (carried : main.carryOut (mapper, log) = .ok turn) (wf : turn.main.mapper.Wf) :
    (∀ before, (log.changesMode = false → mapper.gamepad = .ok before) →
        turn.main.mapper.gamepad = .ok (turn.effects.foldl Effect.plugs before)) ∧
      (∀ before, turn.effects.foldl Effect.presses before = before) ∧
      turn.main.mapper.config = mapper.config ∧
      turn.main.keyboard.bindings = main.keyboard.bindings := by
  obtain ⟨emitted, emits, done⟩ := bind_ok carried
  cases done
  obtain ⟨_, config, bindings⟩ := emit_keeps emits
  refine ⟨fun before current => ?_, fun before => ?_, config, ?_⟩
  · simp only [Turn.publish, List.foldl_append]
    exact emit_plugs emits wf current
  · simp only [Turn.publish, List.foldl_append]
    exact emit_presses emits before
  · exact (sync_bindings _ _).trans bindings

variable [Platform F]

theorem respond_follows {main : MainLoop F} (wf : main.mapper.Wf) {request : Request}
    {device : DeviceInfo} {now : Nat} {turn : Turn F}
    (responded : main.respond request device now = .ok turn) : turn.Follows main := by
  have after : turn.main.mapper.Wf := ((respond_kind responded).calls wf).wf wf
  cases respond_answered responded with
  | reply => exact ⟨fun _ => id, rfl, id⟩
  | haptic => exact ⟨fun _ => id, rfl, id⟩
  | key => exact ⟨fun _ => id, rfl, id⟩
  | switch mode _ switched carries =>
    have kept := (switchMode_kept switched).1
    obtain ⟨gamepad, pressure, config, bindings⟩ := carryOut_follows carries after
    refine ⟨fun before current => gamepad before fun unchanged => ?_, ?_, ?_⟩
    · rcases switchMode_cases switched with ⟨_, same, _⟩ | ⟨_, changed, _, changes, log⟩
      · rw [same]
        exact current
      · rw [log, changesMode_modeChanged _ changes] at unchanged
        cases unchanged
    · rw [pressure, config, kept]
    · rw [bindings, config, kept]
      exact id
  | @reload source result carried config accepted reloaded carries =>
    have kept := (cleared_reload reloaded).2.1
    obtain ⟨gamepad, pressure, same, bindings⟩ := carryOut_follows carries after
    refine ⟨fun before _ => gamepad before fun unchanged => ?_, ?_, fun _ => ?_⟩
    · obtain ⟨_, _, _, _, changes, log⟩ := reload_cases reloaded
      rw [log, changesMode_modeChanged _ changes] at unchanged
      cases unchanged
    · show carried.effects.foldl Effect.presses config.clickPressure =
        carried.main.mapper.config.clickPressure
      rw [pressure, same, kept]
    · show carried.main.keyboard.bindings = boundCodes carried.main.mapper.config
      rw [bindings, same, kept]
      rfl
  | hide _ _ _ emits =>
    obtain ⟨_, config, bindings⟩ := emit_keeps emits
    obtain ⟨own, released⟩ := gamepad_released main.mapper
    refine ⟨fun before current => ?_, ?_, ?_⟩
    · simp only [Turn.publish, List.foldl_append]
      exact emit_plugs emits after fun _ => own.trans current
    · simp only [Turn.publish, List.foldl_append]
      rw [config]
      exact (emit_presses emits _).trans (congrArg Config.clickPressure released.symm)
    · intro current
      simp only [Turn.publish, sync_bindings, OskState.setVisible]
      rw [config]
      split <;> exact bindings.trans (current.trans (congrArg boundCodes released.symm))

omit [Platform F] in
theorem handle_follows {main : MainLoop F} (wf : main.mapper.Wf) {event : DeviceEvent F} {now : Nat}
    {turn : Turn F} (handled : main.handle event now = .ok turn) (after : turn.main.mapper.Wf) :
    turn.Follows main := by
  cases event with
  | battery =>
    cases handled
    exact ⟨fun _ => id, rfl, id⟩
  | state state =>
    obtain ⟨⟨mapper, log⟩, processed, rest⟩ := bind_ok handled
    obtain ⟨touchpad, _, rest⟩ := bind_ok rest
    obtain ⟨emitted, emits, done⟩ := bind_ok rest
    cases done
    obtain ⟨_, config, bindings⟩ := emit_keeps emits
    obtain ⟨_, kind⟩ := process_kind wf processed
    have own : mapper.config = main.mapper.config := kind.config
    refine ⟨fun before current => ?_, ?_, ?_⟩
    · simp only [List.cons_append, List.foldl_cons, List.foldl_append]
      refine emit_plugs emits after fun unchanged => ?_
      have steps := (process_steps wf state main.keyboard.visible).of_ok processed
      exact (steps_gamepad steps unchanged).trans current
    · simp only [List.cons_append, List.foldl_cons, List.foldl_append]
      rw [config]
      exact (emit_presses emits _).trans (congrArg Config.clickPressure own.symm)
    · intro current
      simp only [update_bindings]
      rw [config]
      exact bindings.trans (current.trans (congrArg boundCodes own.symm))
  | disconnected =>
    obtain ⟨gamepad, plugged, rest⟩ := bind_ok handled
    obtain ⟨⟨mapper, log⟩, releases, rest⟩ := bind_ok rest
    obtain ⟨emitted, emits, done⟩ := bind_ok rest
    obtain ⟨_, config, bindings⟩ := emit_keeps emits
    obtain ⟨_, own, mode, _⟩ := cleared_releaseAll releases
    cases done
    refine ⟨fun before current => ?_, ?_, ?_⟩
    · simp only [Turn.publish, List.cons_append, List.foldl_cons, List.foldl_append]
      exact emit_plugs emits after fun _ => (gamepad_same own mode).trans plugged
    · simp only [Turn.publish, List.cons_append, List.foldl_cons, List.foldl_append]
      rw [config]
      exact (emit_presses emits _).trans (congrArg Config.clickPressure own.symm)
    · intro current
      simp only [Turn.publish, sync_bindings, OskState.setVisible]
      rw [config]
      split <;> exact bindings.trans (current.trans (congrArg boundCodes own.symm))

/-! ## The daemon -/

variable {P : Type} [DecidableEq (OskState F)] {program after : Program P F}
  {settings : Settings} {fromStr : List UInt8 → Option Request}

/-- Once the effects of the turn are performed, the outside is as the configuration says. -/
structure Program.Follows (settings : Settings) (program : Program P F) : Prop where
  sound : program.Sound
  controller : program.device.Set settings
  pressure : program.place.pending.foldl Effect.presses program.device.trackpadClickPressure =
    program.main.mapper.config.clickPressure
  gamepad : program.main.mapper.gamepad =
    .ok (program.place.pending.foldl Effect.plugs program.outputs.gamepadType)
  rumbler : program.rumbler.gamepadType = program.outputs.gamepadType
  bindings : program.main.keyboard.bindings = boundCodes program.main.mapper.config

omit [Platform F] in
/-- One effect, and what the transport accepts of it. -/
theorem perform_follows (transport : Transport P) (effect : Effect F)
    (set : program.device.Set settings) :
    (program.perform transport effect).device.Set
        (settings.takeAll (program.effectAccepts transport effect)) ∧
      (program.perform transport effect).device.trackpadClickPressure =
        effect.presses program.device.trackpadClickPressure ∧
      (program.rumbler.gamepadType = program.outputs.gamepadType →
        (program.perform transport effect).rumbler.gamepadType =
          effect.plugs program.outputs.gamepadType) := by
  cases effect with
  | clickPressure pressure =>
    refine ⟨DeviceManager.set_pressure set pressure, ?_, id⟩
    simp only [Program.perform, Effect.presses, DeviceManager.setTrackpadClickPressure_eq]
    split
    · rfl
    · split <;> rfl
  | haptic haptic =>
    refine ⟨DeviceManager.set_playHaptic set haptic, ?_, id⟩
    simp only [Program.perform, Effect.presses, DeviceManager.playHaptic]
    split
    · split <;> rfl
    · rfl
  | setGamepad gamepad =>
    refine ⟨set, rfl, fun same => ?_⟩
    simp only [Program.perform, Effect.plugs, RumbleOutputs.setGamepad]
    split
    · next unchanged => exact unchanged.symm
    · rfl
  | _ => exact ⟨set, rfl, id⟩

namespace Program.Follows

omit [DecidableEq (OskState F)] [Platform F] in
/-- A step between whose ends nothing of this has changed. -/
theorem silent (follows : program.Follows settings) (sound : after.Sound)
    (device : after.device = program.device) (main : after.main = program.main)
    (outputs : after.outputs = program.outputs)
    (rumbler : after.rumbler.gamepadType = program.rumbler.gamepadType)
    (pending : after.place.pending = program.place.pending) : after.Follows settings where
  sound := sound
  controller := device ▸ follows.controller
  pressure := by
    rw [device, main, pending]
    exact follows.pressure
  gamepad := by
    rw [main, outputs, pending]
    exact follows.gamepad
  rumbler := by
    rw [rumbler, outputs]
    exact follows.rumbler
  bindings := by
    rw [main]
    exact follows.bindings

omit [Platform F] in
theorem carries (follows : program.Follows settings) (transport : Transport P) {effect : Effect F}
    {effects : List (Effect F)} {place : Place F}
    (pending : program.place.pending = effect :: effects) (rest : place.pending = effects)
    (sound : ({ program.perform transport effect with place } : Program P F).Sound) :
    ({ program.perform transport effect with place } : Program P F).Follows
      (settings.takeAll (program.effectAccepts transport effect)) := by
  obtain ⟨set, pressure, rumbler⟩ := perform_follows transport effect follows.controller
  have before := follows.pressure
  have plugged := follows.gamepad
  rw [pending, List.foldl_cons] at before plugged
  constructor
  case sound => exact sound
  case controller => exact set
  case pressure =>
    show place.pending.foldl Effect.presses
      (program.perform transport effect).device.trackpadClickPressure = _
    rw [rest, pressure, before]
    simp only [Program.perform_main]
  case gamepad =>
    simp only [Program.perform_main, Program.perform_outputs, plugs_performed, rest]
    exact plugged
  case rumbler =>
    simp only [Program.perform_outputs, plugs_performed]
    exact rumbler follows.rumbler
  case bindings =>
    simp only [Program.perform_main]
    exact follows.bindings

omit [DecidableEq (OskState F)] [Platform F] in
/-- A turn, whose effects are still to be performed. -/
theorem turns {turn : Turn F} {taken : Settings} (follows : program.Follows settings)
    (turned : turn.Follows program.main) (nothing : program.place.pending = [])
    (sound : after.Sound) (set : after.device.Set taken)
    (kept : after.device.trackpadClickPressure = program.device.trackpadClickPressure)
    (main : after.main = turn.main) (outputs : after.outputs = program.outputs)
    (rumbler : after.rumbler = program.rumbler) (pending : after.place.pending = turn.effects) :
    after.Follows taken := by
  have pressure := follows.pressure
  have gamepad := follows.gamepad
  rw [nothing, List.foldl_nil] at pressure gamepad
  constructor
  case sound => exact sound
  case controller => exact set
  case pressure => rw [pending, kept, pressure, main, turned.pressure]
  case gamepad =>
    rw [pending, main, outputs]
    exact turned.gamepad _ gamepad
  case rumbler =>
    rw [rumbler, outputs]
    exact follows.rumbler
  case bindings =>
    rw [main]
    exact turned.bindings follows.bindings

omit [Platform F] in
theorem rumbles {world : World P} {seen : List (Occurrence F)} (follows : program.Follows settings)
    (place : program.place = .rumbling) (sound : after.Sound)
    (rumbled : program.Rumbled world seen after) : after.Follows settings := by
  have kept : (program.rumbler.pollRumble world.fetched).1.gamepadType =
      program.rumbler.gamepadType := by
    unfold RumbleOutputs.pollRumble
    split
    · rfl
    · split <;> rfl
  cases rumbled with
  | keeps =>
    exact follows.silent sound rfl rfl rfl kept (by rw [place]; rfl)
  | sends rumble =>
    obtain ⟨_, pressure, _⟩ := perform_follows world.transport
      (.haptic (.rumble rumble.1 rumble.2)) follows.controller
    have before := follows.pressure
    have gamepad := follows.gamepad
    rw [place] at before gamepad
    constructor
    case sound => exact sound
    case controller => exact DeviceManager.set_playHaptic follows.controller _
    case pressure => exact pressure.trans before
    case gamepad => exact gamepad
    case rumbler => exact kept.trans follows.rumbler
    case bindings => exact follows.bindings

omit [DecidableEq (OskState F)] [Platform F] in
theorem refreshes {world : World P} (follows : program.Follows settings)
    (place : program.place = .refreshing) (sound : (program.refreshLizard world).Sound) :
    (program.refreshLizard world).Follows (settings.takeAll
      (if program.device.connected ∧
          Program.lizardRefresh ≤ world.now 0 - program.lastLizardRefresh then
        world.transport.accepted program.device.suppressLizardModeSends else [])) := by
  unfold Program.refreshLizard at sound ⊢
  split
  · next due =>
    rw [if_pos due] at sound
    have set : (program.device.suppressLizardMode world.transport).Set
        (settings.takeAll (world.transport.accepted program.device.suppressLizardModeSends)) :=
      DeviceManager.set_suppress follows.controller
    have pressure := follows.pressure
    have gamepad := follows.gamepad
    rw [place] at pressure gamepad
    have kept : program.device.suppressLizardMode world.transport = program.device :=
      DeviceManager.suppressLizardMode_eq
    rw [← kept] at pressure
    exact ⟨sound, set, pressure, gamepad, follows.rumbler, follows.bindings⟩
  · next early =>
    rw [if_neg early] at sound
    exact follows.silent sound rfl rfl rfl rfl (by rw [place]; rfl)

omit [DecidableEq (OskState F)] [Platform F] in
theorem polls {world : World P} {seen : List (Occurrence F)} (follows : program.Follows settings)
    (place : program.place = .polling) (sound : after.Sound)
    (advanced : program.pollDevice world = .ok (after, seen)) :
    after.Follows (settings.takeAll (world.transport.accepted
      (program.device.pollSends (F := F) world.transport))) := by
  have set : (program.device.poll world.transport : DeviceManager P × Option (DeviceEvent F)).1.Set
      (settings.takeAll (world.transport.accepted
        (program.device.pollSends (F := F) world.transport))) :=
    DeviceManager.set_poll follows.controller
  have kept : (program.device.poll world.transport :
      DeviceManager P × Option (DeviceEvent F)).1.trackpadClickPressure = _ :=
    DeviceManager.poll_pressure
  have nothing : program.place.pending = [] := by
    rw [place]
    rfl
  rcases polled : (program.device.poll world.transport : _ × Option (DeviceEvent F)) with
    ⟨device, event⟩
  rw [polled] at set kept
  simp only [Program.pollDevice, polled] at advanced
  cases event with
  | none =>
    cases advanced
    have idle : Turn.Follows program.main ⟨program.main, [], [], none⟩ := ⟨fun _ => id, rfl, id⟩
    exact follows.turns idle nothing sound set kept rfl rfl rfl rfl
  | some event =>
    obtain ⟨turn, handled, done⟩ := bind_ok advanced
    cases done
    have turned := handle_follows follows.sound.wf handled sound.wf
    exact follows.turns turned nothing sound set kept rfl rfl rfl rfl

theorem step {written : List (Nat × List UInt8)} (follows : program.Follows settings)
    (writes : Program.Writes fromStr program written after) :
    after.Follows (settings.takeAll written) := by
  obtain ⟨_, step⟩ := writes.step
  have sound : after.Sound := follows.sound.step step
  clear step
  cases writes with
  | socket => exact follows.silent sound rfl rfl rfl rfl rfl
  | @game value => exact follows.silent sound rfl rfl rfl rfl rfl
  | loop advanced =>
    rename_i world seen
    unfold Program.accepts
    have rests : ∀ {next : Program P F}, next.device = program.device →
        next.main = program.main → next.outputs = program.outputs →
        next.rumbler = program.rumbler → program.place.pending = [] → next.place.pending = [] →
        next.Sound → next.Follows settings := by
      intro next device main outputs rumbler before pending sound
      exact follows.silent sound device main outputs (by rw [rumbler]) (pending.trans before.symm)
    cases place : program.place with
    | answering taken command response effects =>
      cases effects with
      | cons effect effects =>
        simp only [Program.advance, place, Except.ok.injEq] at advanced
        obtain rfl : (program.carry world.transport effect
          (.answering taken command response effects)).1 = after := congrArg Prod.fst advanced
        exact follows.carries world.transport (by rw [place]; rfl) rfl sound
      | nil =>
        simp only [Program.advance, place, Except.ok.injEq] at advanced
        cases response with
        | none =>
          cases advanced
          exact rests rfl rfl rfl rfl (by rw [place]; rfl) rfl sound
        | some response =>
          cases advanced
          exact rests rfl rfl rfl rfl (by rw [place]; rfl) rfl sound
    | handling effects =>
      cases effects with
      | cons effect effects =>
        simp only [Program.advance, place, Except.ok.injEq] at advanced
        obtain rfl : (program.carry world.transport effect (.handling effects)).1 = after :=
          congrArg Prod.fst advanced
        exact follows.carries world.transport (by rw [place]; rfl) rfl sound
      | nil =>
        simp only [Program.advance, place] at advanced
        cases advanced
        exact rests rfl rfl rfl rfl (by rw [place]; rfl) rfl sound
    | polling =>
      simp only [Program.advance, place] at advanced
      exact follows.polls place sound advanced
    | refreshing =>
      simp only [Program.advance, place] at advanced
      cases advanced
      exact follows.refreshes place sound
    | rumbling =>
      simp only [Program.advance, place, Except.ok.injEq] at advanced
      have rumbled : program.Rumbled world seen after := by
        simpa [advanced] using program.pollRumble_kind world
      exact follows.rumbles place sound rumbled
    | commands taken =>
      simp only [Program.advance, place] at advanced
      split at advanced
      · split at advanced
        · obtain ⟨turn, responded, done⟩ := bind_ok advanced
          cases done
          have turned := respond_follows follows.sound.wf responded
          have nothing : program.place.pending = [] := by rw [place]; rfl
          exact follows.turns turned nothing sound follows.controller rfl rfl rfl rfl rfl
        · cases advanced
          exact rests rfl rfl rfl rfl (by rw [place]; rfl) rfl sound
      · cases advanced
        exact rests rfl rfl rfl rfl (by rw [place]; rfl) rfl sound
    | top =>
      simp only [Program.advance, place] at advanced
      split at advanced <;> cases advanced <;>
        exact rests rfl rfl rfl rfl (by rw [place]; rfl) rfl sound
    | leaving =>
      simp only [Program.advance, place] at advanced
      split at advanced
      · cases advanced
        exact rests rfl rfl rfl rfl (by rw [place]; rfl) rfl sound
      · cases advanced
        exact rests rfl rfl rfl rfl (by rw [place]; rfl) rfl sound
    | ended =>
      simp only [Program.advance, place] at advanced
      cases advanced
      exact follows

end Program.Follows

theorem Program.Follows.start {config : Config F} (accepted : config.Accepted) {world : World P}
    {start : Program P F} (started : Program.start config world = .ok start) :
    start.Follows Settings.none := by
  have sound : start.Sound := .start accepted started
  obtain ⟨main, begins, rest⟩ := bind_ok started
  obtain ⟨gamepad, plugged, done⟩ := bind_ok rest
  cases done
  obtain ⟨mapper, news, begun⟩ := bind_ok begins
  cases begun
  have own := (new_previous news).1
  have closed : (DeviceManager.new world.transport).active = none := by
    unfold DeviceManager.new DeviceManager.scan
    split <;> rfl
  constructor
  case sound => exact sound
  case controller =>
    apply DeviceManager.set_closed
    show ((DeviceManager.new world.transport).setTrackpadClickPressure _ _).active = none
    simp only [DeviceManager.setTrackpadClickPressure_eq, closed]
  case pressure =>
    show ((DeviceManager.new world.transport).setTrackpadClickPressure _ _).trackpadClickPressure =
      mapper.config.clickPressure
    simp only [DeviceManager.setTrackpadClickPressure_eq, closed, own]
  case gamepad =>
    rw [plugged]
    cases gamepad <;> rfl
  case rumbler => cases gamepad <;> rfl
  case bindings =>
    show (syncKeyboard mapper _).bindings = boundCodes mapper.config
    rw [sync_bindings, own]
    rfl

/-- What holds of the outside: a connected controller has taken its settings, and with all
    effects performed everything is as the active configuration and mode say. -/
structure Program.Configured (settings : Settings) (program : Program P F) : Prop where
  controller : ∀ slot, program.device.active = some slot →
    settings.Hold slot program.device.trackpadClickPressure
  bindings : program.main.keyboard.bindings = boundCodes program.main.mapper.config
  settled : program.place.pending = [] →
    program.device.trackpadClickPressure = program.main.mapper.config.clickPressure ∧
      program.main.mapper.gamepad = .ok program.outputs.gamepadType ∧
      program.rumbler.gamepadType = program.outputs.gamepadType

/-- In every run of the daemon, whatever the transport accepts or refuses, whichever
    configurations clients apply and controllers come and go. -/
theorem outside_is_configured {config : Config F} (accepted : config.Accepted) {world : World P}
    {start final : Program P F} (started : Program.start config world = .ok start)
    {written : List (Nat × List UInt8)} (run : Path (Program.Writes fromStr) start written final) :
    final.Configured (Settings.none.takeAll written) := by
  have initial : start.Follows (Settings.none.takeAll []) := .start accepted started
  have preserved : ∀ {past : List (Nat × List UInt8)} {program : Program P F}
      {written : List (Nat × List UInt8)} {after : Program P F},
      Program.Writes fromStr program written after →
      program.Follows (Settings.none.takeAll past) →
      after.Follows (Settings.none.takeAll (past ++ written)) := by
    intro past program written after writes follows
    rw [Settings.takeAll_append]
    exact follows.step writes
  have follows : final.Follows (Settings.none.takeAll ([] ++ written)) :=
    run.history (fun past program => program.Follows (Settings.none.takeAll past)) preserved initial
  refine ⟨follows.controller, follows.bindings, fun nothing => ?_⟩
  have pressure := follows.pressure
  have gamepad := follows.gamepad
  rw [nothing] at pressure gamepad
  exact ⟨pressure, gamepad, follows.rumbler⟩

theorem Program.advances_writes (fromStr : List UInt8 → Option Request) {world : World P}
    {steps : Nat} {seen : List (Occurrence F)}
    (advances : program.advances world steps = .ok (after, seen)) :
    ∃ written, Path (Program.Writes fromStr) program written after := by
  induction steps generalizing after seen with
  | zero =>
    cases advances
    exact ⟨[], .refl⟩
  | succ steps inductionHypothesis =>
    obtain ⟨⟨mid, early⟩, before, rest⟩ := bind_ok advances
    obtain ⟨⟨after, late⟩, last, done⟩ := bind_ok rest
    cases done
    obtain ⟨written, path⟩ := inductionHypothesis before
    exact ⟨_, path.snoc (.loop last)⟩

/-- A controller connects, and has taken the settings of the example. -/
theorem outside_is_configured_connected : ∃ (final : Program Unit ℚ) (settings : Settings),
    settings.Hold 0 final.device.trackpadClickPressure ∧ final.Configured settings := by
  obtain ⟨⟨start, final, seen⟩, runs, active⟩ := map_ok
    (show (do
        let start ← Program.start exampleConfig pressingWorld
        let (final, seen) ← start.advances pressingWorld 3
        return (start, final, seen) : Checked (Program Unit ℚ × Program Unit ℚ × _)).map
          (·.2.1.device.active) = .ok (some 0) by decide +kernel)
  obtain ⟨start, started, rest⟩ := bind_ok runs
  obtain ⟨⟨final, seen⟩, advances, done⟩ := bind_ok rest
  cases done
  obtain ⟨written, path⟩ := Program.advances_writes Ipc.parseLine advances
  have configured := outside_is_configured example_accepted started path
  exact ⟨final, _, configured.controller 0 active, configured⟩

end

end Scd.Daemon
