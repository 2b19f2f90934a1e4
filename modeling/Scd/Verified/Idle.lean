import Scd.Verified.Composition
import Scd.Verified.Resets

/-! # The daemon without a controller

A controller may go at any moment: its receiver is unplugged, it falls silent, or a write to
it fails in the middle of an effect.  When the loop has been told, nothing is left of it: the
mapper is as a new one, the keyboard is hidden, and until the next controller comes no request
types, moves or presses anything.
-/

namespace Scd.Daemon

open Scd.Core Scd.Foundation

section

variable {P F : Type} [Scalar F]

/-- What `main` keeps while no controller is there. -/
structure MainLoop.Idle (main : MainLoop F) : Prop where
  cleared : Cleared main.mapper
  previous : main.mapper.previous = none
  visible : main.keyboard.visible = false
  keyboardClosedAt : main.keyboardClosedAt = none
  battery : main.battery = none
  charging : main.charging = none

/-- An effect that no device but the gamepad's socket and the clients see. -/
def Effect.Silent : Effect F → Prop
  | .setGamepad _ | .haptic _ | .clickPressure _ => True
  | .publish keyboard => keyboard.visible = false
  | _ => False

/-! ## Nothing is left to release -/

theorem setGamepadAxes_zero (axes : List GamepadAxis) {mapper : Mapper F}
    (zero : ∀ axis, (mapper.gamepadAxes axis == 0.0) = true) :
    Mapper.setGamepadAxes (fun _ => 0.0) axes mapper = (mapper, []) := by
  induction axes with
  | nil => rfl
  | cons axis axes inductionHypothesis =>
    have first : mapper.setGamepadAxis axis 0.0 = (mapper, []) := by
      rw [Mapper.setGamepadAxis, if_pos (zero axis)]
    rw [Mapper.setGamepadAxes]
    simp only [first, inductionHypothesis, List.append_nil]

/-- A cleared mapper releases nothing. -/
theorem Cleared.releases_nothing {mapper : Mapper F} (cleared : Cleared mapper) :
    mapper.releaseOutputs.2 = [.note .cancel] := by
  have axes : ∀ after : Mapper F, after.gamepadAxes = mapper.gamepadAxes →
      Mapper.setGamepadAxes (fun _ => 0.0) GamepadAxis.all after = (after, []) := by
    intro after same
    refine setGamepadAxes_zero _ fun axis => ?_
    rw [same]
    exact cleared.axes axis
  simp only [Mapper.releaseOutputs, cleared.held]
  rw [axes { mapper with
    routes := []
    quarantined := {}
    oskActive := {}
    axisActive := List.replicate mapper.axisActive.length false
    held := .empty } rfl]
  rfl

omit [Scalar F] in
theorem emitOutputs_silent {mapper : Mapper F} {outputs : List (Output F)}
    {effects : List (List (Effect F))} (changes : ∀ output ∈ outputs, output.isModeChange = true)
    (emitted : outputs.mapM (emitOutput mapper) = .ok effects) :
    ∀ effect ∈ effects.flatten, effect.Silent := by
  induction outputs generalizing effects with
  | nil =>
    cases emitted
    intro effect member
    cases member
  | cons output outputs inductionHypothesis =>
    rw [List.mapM_cons] at emitted
    obtain ⟨first, emits, rest⟩ := bind_ok emitted
    obtain ⟨more, emitsRest, done⟩ := bind_ok rest
    cases done
    have tail := inductionHypothesis
      (fun output member => changes output (List.mem_cons_of_mem _ member)) emitsRest
    intro effect member
    rw [List.flatten_cons, List.mem_append] at member
    rcases member with own | other
    · cases output with
      | modeChanged name haptic =>
        obtain ⟨gamepad, _, pure⟩ := bind_ok emits
        cases pure
        rcases List.mem_cons.mp own with rfl | played
        · trivial
        · rw [Option.mem_toList, Option.map_eq_some_iff] at played
          obtain ⟨_, _, rfl⟩ := played
          trivial
      | _ => exact absurd (changes _ List.mem_cons_self) Bool.false_ne_true
    · exact tail effect other

/-- Emitting mode changes changes nothing, and no device sees it. -/
theorem emit_silent {main : MainLoop F} {log : Log F} {turn : Turn F}
    (changes : ∀ output ∈ log.outputs, output.isModeChange = true)
    (emitted : main.emit log = .ok turn) :
    turn.main = main ∧ ∀ effect ∈ turn.effects, effect.Silent := by
  have untoggled : log.toggles = false := by
    refine List.any_eq_false.mpr fun output member => ?_
    have change := changes output member
    cases output <;> simp_all [Output.isToggle, Output.isModeChange]
  refine ⟨(emit_untoggled untoggled emitted).1, ?_⟩
  unfold MainLoop.emit at emitted
  rw [show log.outputs.any Output.isToggle = false from untoggled] at emitted
  obtain ⟨effects, emits, done⟩ := bind_ok emitted
  cases done
  refine emitOutputs_silent (fun output member => ?_) emits
  rw [List.mem_append] at member
  rcases member with own | none
  · exact changes output (List.mem_of_mem_filter own)
  · cases none

/-- Carrying out what reports no more than a mode change. -/
theorem carryOut_silent {main : MainLoop F} {mapper : Mapper F} {log : Log F} {turn : Turn F}
    (changes : ∀ output ∈ log.outputs, output.isModeChange = true)
    (hidden : main.keyboard.visible = false) (carried : main.carryOut (mapper, log) = .ok turn) :
    turn.main = { main with mapper } ∧ ∀ effect ∈ turn.effects, effect.Silent := by
  obtain ⟨emitted, emits, done⟩ := bind_ok carried
  obtain ⟨same, silent⟩ := emit_silent changes emits
  cases done
  -- a hidden keyboard is published as it is
  have kept : syncKeyboard emitted.main.mapper emitted.main.keyboard = main.keyboard := by
    rw [same, syncKeyboard, if_neg (by simp [hidden])]
  constructor
  · show { emitted.main with keyboard := syncKeyboard emitted.main.mapper emitted.main.keyboard } = _
    rw [kept, same]
  · intro effect member
    rcases List.mem_append.mp member with own | published
    · exact silent effect own
    · rw [List.mem_singleton] at published
      subst published
      show (syncKeyboard emitted.main.mapper emitted.main.keyboard).visible = false
      rw [kept, hidden]

/-! ## Requests -/

/-- A cleared mapper switches modes without releasing anything. -/
theorem Cleared.switch_outputs {mapper next : Mapper F} {mode : ModeId} {log : Log F}
    (cleared : Cleared mapper) (switched : mapper.switchMode mode = .ok (next, log)) :
    ∀ output ∈ log.outputs, output.isModeChange = true := by
  rcases switchMode_cases switched with ⟨_, _, rfl⟩ | ⟨_, changed, _, changes, rfl⟩
  · intro output member
    cases member
  · obtain ⟨name, _, same⟩ := bind_ok changes
    cases same
    rw [cleared.releases_nothing]
    intro output member
    cases List.mem_singleton.mp member
    rfl

theorem Cleared.reload_outputs {mapper next : Mapper F} {config : Config F} {log : Log F}
    (cleared : Cleared mapper) (reloaded : mapper.reload config = .ok (next, log)) :
    ∀ output ∈ log.outputs, output.isModeChange = true := by
  obtain ⟨_, changed, _, _, changes, rfl⟩ := reload_cases reloaded
  obtain ⟨name, _, same⟩ := bind_ok changes
  cases same
  rw [cleared.releases_nothing]
  intro output member
  cases List.mem_singleton.mp member
  rfl

variable [Platform F]

/-- A request leaves the loop as idle as it was, and is silent. -/
theorem MainLoop.Idle.respond {main : MainLoop F} (idle : main.Idle) {request : Request}
    {device : DeviceInfo} {now : Nat} {turn : Turn F}
    (responded : main.respond request device now = .ok turn) :
    turn.main.Idle ∧ ∀ effect ∈ turn.effects, effect.Silent := by
  cases answered : respond_answered responded with
  | reply _ =>
    refine ⟨idle, fun effect member => ?_⟩
    cases member
  | haptic haptic =>
    refine ⟨idle, fun effect member => ?_⟩
    cases List.mem_singleton.mp member
    trivial
  | @key session code shift =>
    -- the keyboard is hidden, and has not been closed just now
    have refused : main.acceptsKey session now = false := by
      simp [MainLoop.acceptsKey, idle.visible, idle.keyboardClosedAt]
    simp only [MainLoop.respond, MainLoop.key, refused] at responded
    cases responded
  | @switch _ result _ mode _ switches carries =>
    obtain ⟨mapper, log⟩ := result
    obtain ⟨same, silent⟩ :=
      carryOut_silent (idle.cleared.switch_outputs switches) idle.visible carries
    refine ⟨?_, silent⟩
    rw [same]
    exact { idle with
      cleared := idle.cleared.switchMode switches
      previous := (switchMode_kept switches).2.2.trans idle.previous }
  | @reload source result carried config _ reloads carries =>
    obtain ⟨mapper, log⟩ := result
    let bound : MainLoop F :=
      { main with keyboard := main.keyboard.setBindings config.oskBindings.entries }
    have hidden : bound.keyboard.visible = false := idle.visible
    obtain ⟨same, silent⟩ := carryOut_silent (idle.cleared.reload_outputs reloads) hidden carries
    obtain ⟨cleared, _, previous⟩ := cleared_reload reloads
    constructor
    · show carried.main.Idle
      rw [same]
      exact ⟨cleared, previous.trans idle.previous, idle.visible, idle.keyboardClosedAt,
        idle.battery, idle.charging⟩
    · intro effect member
      rcases List.mem_cons.mp member with rfl | rest
      · trivial
      · exact silent effect rest
  | hide _ _ visible =>
    rw [idle.visible] at visible
    cases visible

omit [Platform F] in
/-- The loop is idle when it has been told that the controller has gone. -/
theorem idle_disconnect {main : MainLoop F} {turn : Turn F}
    (disconnected : main.disconnect = .ok turn) : turn.main.Idle := by
  obtain ⟨gamepad, _, rest⟩ := bind_ok disconnected
  obtain ⟨⟨mapper, log⟩, releases, rest⟩ := bind_ok rest
  obtain ⟨emitted, emits, done⟩ := bind_ok rest
  have untoggled : log.toggles = false := by
    obtain ⟨_, _, _, rfl⟩ := releaseAll_cases releases
    exact toggles_releaseOutputs _
  have same := (emit_untoggled untoggled emits).1
  cases done
  obtain ⟨cleared, _, _, previous⟩ := cleared_releaseAll releases
  have hidden := setVisible_false emitted.main.keyboard
  have synced := sameSession_sync emitted.main.mapper (emitted.main.keyboard.setVisible false)
  refine ⟨?_, ?_, synced.visible.trans hidden.1, rfl, rfl, rfl⟩
  · show Cleared emitted.main.mapper
    rw [same]
    exact cleared
  · show emitted.main.mapper.previous = none
    rw [same]
    exact previous

omit [Platform F] in
theorem idle_start {config : Config F} {main : MainLoop F}
    (started : MainLoop.start config = .ok main) : main.Idle := by
  obtain ⟨mapper, news, done⟩ := bind_ok started
  cases done
  obtain ⟨mode, _, same⟩ := bind_ok news
  have previous : mapper.previous = none := by
    cases same
    rfl
  exact ⟨cleared_new news, previous, (sameSession_sync mapper _).visible, rfl, rfl, rfl⟩

/-! ## Runs -/

variable [DecidableEq (OskState F)] {program after : Program P F}
  {fromStr : List UInt8 → Option Request} {seen : List (Occurrence F)}

/-- The loop is idle unless a controller is there, or has gone without the loop being told. -/
def Program.Rests (program : Program P F) : Prop :=
  program.device.active = none → program.device.disconnected = false → program.main.Idle

omit [Platform F] [DecidableEq (OskState F)] in
/-- A call that returns no event brings no rest. -/
theorem rests_quiet {device : DeviceManager P}
    (keeps : DeviceManager.Keeps program.device (device, (none : Option (DeviceEvent F))))
    (rests : program.Rests) (main : after.main = program.main) (same : after.device = device) :
    after.Rests := by
  intro active clear
  rw [same] at active clear
  rw [main]
  cases keeps.2 with
  | quiet kept flag => exact rests (kept.symm.trans active) (flag.symm.trans clear)
  | owes _ _ raised =>
    rw [clear] at raised
    cases raised

omit [Platform F] [DecidableEq (OskState F)] in
theorem rests_handled {device : DeviceManager P} {event : DeviceEvent F} {turn : Turn F} {now : Nat}
    (keeps : DeviceManager.Keeps program.device (device, some event))
    (handled : program.main.handle event now = .ok turn) (same : after.device = device)
    (main : after.main = turn.main) : after.Rests := by
  intro active _
  rw [same] at active
  rw [main]
  cases keeps.2 with
  | reported => exact idle_disconnect handled
  | lost => exact idle_disconnect handled
  | state state _ _ connected =>
    rw [active] at connected
    cases connected
  | battery percent charging _ connected kept =>
    rw [← kept, active] at connected
    cases connected

theorem Program.Rests.step (rests : program.Rests) (sound : program.Sound)
    (step : program.Step fromStr seen after) : after.Rests := by
  cases step with
  | socket step => exact rests
  | game => exact rests
  | @loop _ world _ advanced =>
    cases Program.advance_kind advanced with
    | moves => exact rests
    | takes taken now place queued responded =>
      exact fun active clear => ((rests active clear).respond responded).1
    | @carries effect effects place pending rest same =>
      exact rests_quiet
        (Program.perform_device program world.transport effect sound.device) rests
        (Program.perform_main program world.transport effect) rfl
    | answers taken command response place =>
      cases response <;> exact rests
    | quiet place polled =>
      have keeps : DeviceManager.Keeps program.device
          (program.device.poll world.transport : _ × Option (DeviceEvent F)) :=
        DeviceManager.poll_keeps sound.device
      rw [polled] at keeps
      exact rests_quiet keeps rests rfl rfl
    | handles now place polled handled =>
      have keeps : DeviceManager.Keeps program.device
          (program.device.poll world.transport : _ × Option (DeviceEvent F)) :=
        DeviceManager.poll_keeps sound.device
      rw [polled] at keeps
      exact rests_handled keeps handled rfl rfl
    | rumbles place rumbled =>
      cases rumbled with
      | keeps => exact rests
      | sends rumble =>
        exact rests_quiet (DeviceManager.playHaptic_keeps sound.device _) rests rfl rfl
    | leaves => exact rests
    | loses => exact rests
    | ends => exact rests

/-- What holds while no controller is there. -/
structure Program.Unplugged [ScalarEq F] (program : Program P F) : Prop where
  idle : program.main.Idle
  /-- The next controller finds the mapper as a new one that has entered the mode. -/
  fresh : ∀ {started entered : Mapper F} {log : Log F},
    Mapper.new program.main.mapper.config = .ok started →
      started.switchMode program.main.mapper.activeMode = .ok (entered, log) →
        SameOutputs program.main.mapper entered
  /-- No request presses, moves or types anything, or brings the keyboard up. -/
  silent : ∀ {request device now turn}, program.main.respond request device now = .ok turn →
    ∀ effect ∈ turn.effects, effect.Silent
  /-- No haptic command reaches a controller. -/
  still : ∀ transport haptic, program.device.playHaptic transport haptic = program.device

omit [Platform F] [DecidableEq (OskState F)] in
theorem new_previous {config : Config F} {mapper : Mapper F}
    (news : Mapper.new config = .ok mapper) : mapper.config = config ∧ mapper.previous = none := by
  obtain ⟨mode, _, same⟩ := bind_ok news
  cases same
  exact ⟨rfl, rfl⟩

/-- Whenever no controller is there and the loop has been told, nothing is left of one. -/
theorem unplugged_rests [ScalarEq F] {config : Config F} (accepted : config.Accepted)
    {world : World P} {start final : Program P F}
    (started : Program.start config world = .ok start) (run : start.Run fromStr seen final)
    (closed : final.device.active = none) (told : final.device.disconnected = false) :
    final.Unplugged := by
  have initial : start.Sound ∧ start.Rests := by
    refine ⟨Program.Sound.start accepted started, ?_⟩
    obtain ⟨main, begins, rest⟩ := bind_ok started
    obtain ⟨gamepad, _, done⟩ := bind_ok rest
    cases done
    exact fun _ _ => idle_start begins
  have reached : final.Sound ∧ final.Rests :=
    Path.invariant (fun program => program.Sound ∧ program.Rests)
      (fun step holds => ⟨holds.1.step step, holds.2.step holds.1 step⟩) run initial
  have idle := reached.2 closed told
  constructor
  case idle => exact idle
  case fresh =>
    intro fresh entered log news switched
    obtain ⟨config, previous⟩ := new_previous news
    obtain ⟨sameConfig, sameMode, samePrevious⟩ := switchMode_kept switched
    have entered := (cleared_new news).switchMode switched
    exact (idle.cleared.twin entered (sameConfig.trans config).symm sameMode.symm
      (idle.previous.trans (samePrevious.trans previous).symm)).sameOutputs
  case silent => exact fun responded => (idle.respond responded).2
  case still =>
    intro transport haptic
    rw [DeviceManager.playHaptic, closed]

/-- The receiver is pulled out. -/
def goneWorld : World Unit :=
  { quietWorld with
    transport := { deafReceiver [] with poll := fun _ _ => .error (.errno 19) } }

/-- A controller connects and presses a key, is lost, and the loop is told: the key is up again,
    and nothing is left of the controller. -/
theorem unplugged_rests_gone : ∃ mid final : Program Unit ℚ,
    mid.device.active = some 0 ∧ mid.outputs.keyboard = [⟨⟨48⟩, 1⟩] ∧
      final.outputs.keyboard = [⟨⟨48⟩, 1⟩, ⟨⟨48⟩, 0⟩] ∧ final.Unplugged := by
  obtain ⟨⟨mid, final, seen⟩, runs, facts⟩ := map_ok
    (show (do
        let (mid, early) ← quietStart.advances pressingWorld 5
        let (final, late) ← mid.advances goneWorld 10
        return (mid, final, early ++ late) : Checked (Program Unit ℚ × Program Unit ℚ × _)).map
          (fun (mid, final, _) => (mid.device.active, mid.outputs.keyboard, final.device.active,
            final.device.disconnected, final.outputs.keyboard)) =
              .ok (some 0, [⟨⟨48⟩, 1⟩], none, false, [⟨⟨48⟩, 1⟩, ⟨⟨48⟩, 0⟩]) by decide +kernel)
  obtain ⟨⟨mid, early⟩, presses, rest⟩ := bind_ok runs
  obtain ⟨⟨final, late⟩, loses, done⟩ := bind_ok rest
  cases done
  simp only [Prod.mk.injEq] at facts
  obtain ⟨active, pressed, closed, told, released⟩ := facts
  have started : Program.start exampleConfig quietWorld = .ok quietStart := rfl
  have run : quietStart.Run Ipc.parseLine _ final :=
    (Program.advances_run _ presses).trans (Program.advances_run _ loses)
  exact ⟨mid, final, active, pressed, released,
    unplugged_rests example_accepted started run closed told⟩

end

end Scd.Daemon
