import Scd.Daemon.Program
import Scd.Verified.Connections
import Scd.Verified.ClientSteps
import Scd.Verified.Settlement

/-! # The steps of the daemon

`advance_kind` is the inversion of `Program.advance`: it says what a step of the loop changes,
and everything that the later modules prove about runs of the whole daemon starts from it.
The turns of the loop return (`respond_returns`, `handle_returns`), so that a step returns
unless a command asks for what the daemon does not answer.
-/

namespace Scd.Daemon

open Scd.Core Scd.Foundation

section

variable {P F : Type} [Scalar F]

/-! ## Turns return -/

omit [Scalar F] in
theorem emitOutputs_returns {mapper : Mapper F} (wf : mapper.Wf) (outputs : List (Output F)) :
    ∃ effects, outputs.mapM (emitOutput mapper) = .ok effects := by
  obtain ⟨mode, found⟩ := wf.mode_ok
  induction outputs with
  | nil => exact ⟨[], rfl⟩
  | cons output outputs inductionHypothesis =>
    obtain ⟨effects, emitted⟩ := inductionHypothesis
    have first : ∃ effects, emitOutput mapper output = .ok effects := by
      cases output with
      | modeChanged name haptic =>
        simp only [emitOutput, Mapper.gamepad, found, ok_bind]
        exact ⟨_, rfl⟩
      | _ => exact ⟨_, rfl⟩
    obtain ⟨one, emits⟩ := first
    exact ⟨one :: effects, by simp only [List.mapM_cons, emits, emitted, ok_bind]; rfl⟩

theorem emit_returns (main : MainLoop F) (wf : main.mapper.Wf) (log : Log F) :
    ∃ turn, main.emit log = .ok turn := by
  have suspended : main.mapper.suspend.1.Wf := (suspend_steps main.mapper).wf wf
  unfold MainLoop.emit
  cases log.outputs.any Output.isToggle with
  | true =>
    obtain ⟨effects, emitted⟩ := emitOutputs_returns suspended
      (log.outputs.filter (!·.isToggle) ++ Log.outputs main.mapper.suspend.2)
    simp only [if_true, emitted, ok_bind]
    exact ⟨_, rfl⟩
  | false =>
    obtain ⟨effects, emitted⟩ := emitOutputs_returns wf
      (log.outputs.filter (!·.isToggle) ++ Log.outputs [])
    simp only [Bool.false_eq_true, if_false, emitted, ok_bind]
    exact ⟨_, rfl⟩

/-- The mapper that an operation leaves can be emitted. -/
theorem carryOut_returns (main : MainLoop F) {result : Mapper F × Log F} (wf : result.1.Wf) :
    Returns (main.carryOut result) fun turn => turn.response.isSome := by
  obtain ⟨turn, emitted⟩ :=
    emit_returns { main with mapper := result.1 } wf result.2
  simp only [MainLoop.carryOut, emitted, ok_bind]
  exact .ok rfl

variable [Platform F]

/-- Every request is answered, but for the subscription that the server keeps to itself. -/
theorem respond_returns {main : MainLoop F} (wf : main.mapper.Wf) {request : Request}
    (forwarded : request ≠ .osk) (device : DeviceInfo) (now : Nat) :
    Returns (main.respond request device now) fun turn => turn.response.isSome := by
  cases request with
  | status =>
    obtain ⟨name, named⟩ := modeName_of_lt wf.config wf.activeMode
    simp only [MainLoop.respond, Mapper.activeModeName, named, ok_bind]
    exact .ok rfl
  | modeSet name =>
    obtain ⟨result, sets, steps⟩ := perform_steps wf (.setMode name) (by simp)
    simp only [MainLoop.respond]
    cases found : main.mapper.config.modeId name with
    | none =>
      simp only [Mapper.setMode, found]
      exact .ok rfl
    | some mode =>
      simp only [Mapper.perform, Mapper.setMode, found, bind_assoc, pure_bind] at sets ⊢
      obtain ⟨switched, switches, done⟩ := bind_ok sets
      cases done
      simp only [switches, ok_bind]
      exact carryOut_returns main (steps.wf wf)
  | modeNext =>
    obtain ⟨result, nexts, steps⟩ := perform_steps wf .nextMode (by simp)
    simp only [Mapper.perform] at nexts
    simp only [MainLoop.respond, nexts, ok_bind]
    exact carryOut_returns main (steps.wf wf)
  | haptic haptic => exact .ok rfl
  | configApply source =>
    simp only [MainLoop.respond]
    split
    · exact .ok rfl
    · next config parsed =>
      obtain ⟨result, reloads, steps⟩ :=
        perform_steps wf (.reload config) fun other same => by
          cases same
          exact parse_accepted parsed
      simp only [Mapper.perform] at reloads
      simp only [reloads, ok_bind]
      refine (carryOut_returns _ (steps.wf wf)).bind fun turn answered => ?_
      exact .ok answered
  | osk => exact absurd rfl forwarded
  | oskHide session =>
    simp only [MainLoop.respond, MainLoop.oskHide]
    split
    · exact .ok rfl
    · obtain ⟨turn, emitted⟩ := emit_returns { main with mapper := main.mapper.suspend.1 }
        ((suspend_steps main.mapper).wf wf) main.mapper.suspend.2
      simp only [emitted, ok_bind]
      exact .ok rfl
  | key code shift session =>
    refine .ok ?_
    unfold MainLoop.key
    split
    · rfl
    · split <;> rfl

omit [Platform F] in
/-- Every event of the controller is handled. -/
theorem handle_returns {main : MainLoop F} (wf : main.mapper.Wf) (event : DeviceEvent F)
    (now : Nat) : ∃ turn, main.handle event now = .ok turn := by
  cases event with
  | state state =>
    obtain ⟨⟨mapper, log⟩, processes, steps⟩ := process_steps wf state main.keyboard.visible
    have after : mapper.Wf := steps.wf wf
    obtain ⟨mode, found⟩ := after.mode_ok
    obtain ⟨turn, emitted⟩ := emit_returns { main with mapper } after log
    simp only [MainLoop.handle, MainLoop.frame, processes, ok_bind, Mapper.gamepadTouchpad, found,
      emitted, pure_bind]
    exact ⟨_, rfl⟩
  | battery percent charging => exact ⟨_, rfl⟩
  | disconnected =>
    obtain ⟨mode, found⟩ := wf.mode_ok
    obtain ⟨⟨mapper, log⟩, releases, steps⟩ := releaseAll_steps wf
    obtain ⟨turn, emitted⟩ :=
      emit_returns { main with mapper } (steps.wf wf) log
    simp only [MainLoop.handle, MainLoop.disconnect, Mapper.gamepad, found, ok_bind, releases,
      emitted, pure_bind]
    exact ⟨_, rfl⟩

end

/-! ## Kinds of steps -/

section

variable {P F : Type}

/-- The command that is being answered, with its response. -/
def Place.answer {F : Type} : Place F → Option (Ipc.ControlCommand × Option Response)
  | .answering _ command response _ => some (command, response)
  | _ => none

/-- The loop has been left. -/
def Place.left {F : Type} : Place F → Bool
  | .leaving | .ended => true
  | _ => false

/-- The loop is at the same command, or at none. -/
structure Place.Same (before after : Place F) : Prop where
  answer : after.answer = before.answer
  left : after.left = before.left

variable [Scalar F] [DecidableEq (OskState F)] [Platform F]

/-- Polling the rumble ends the turn, with a rumble that is sent or without one. -/
inductive Program.Rumbled (program : Program P F) (world : World P) :
    List (Occurrence F) → Program P F → Prop where
  | sends (rumble : UInt16 × UInt16) :
      ((program.rumbler.pollRumble world.fetched).2 = some rumble ∨
        (program.rumbler.pollRumble world.fetched).2 = none ∧ rumble = program.rumble) →
      Rumbled program world
        ({ program with rumbler := (program.rumbler.pollRumble world.fetched).1 }.sendRumble
          world rumble).2
        ({ program with rumbler := (program.rumbler.pollRumble world.fetched).1 }.sendRumble
          world rumble).1
  | keeps :
      (program.rumbler.pollRumble world.fetched).2 = none →
      Rumbled program world []
        { program with
          rumbler := (program.rumbler.pollRumble world.fetched).1
          place := .top }

/-- What a step of the loop changes, and what is seen of it. -/
inductive Program.Advance (program : Program P F) (world : World P) :
    List (Occurrence F) → Program P F → Prop where
  | moves (refreshed : Nat) (place : Place F) :
      program.place.pending = [] → place.pending = [] → program.place.Same place →
      Advance program world [] { program with lastLizardRefresh := refreshed, place }
  | takes {command : Ipc.ControlCommand} {queue : List Ipc.ControlCommand} {turn : Turn F}
      (taken now : Nat) :
      program.place = .commands taken → program.server.commands.queue = command :: queue →
      program.main.respond command.request program.device.info now = .ok turn →
      Advance program world
        [.turned ⟨program.main, .request command.request program.device.info now, turn⟩]
        { program with
          main := turn.main
          server := { program.server with
            commands := { program.server.commands with queue }
            held := program.server.held ++ [command] }
          place := .answering taken command turn.response turn.effects }
  | carries {effect : Effect F} {effects : List (Effect F)} (place : Place F) :
      program.place.pending = effect :: effects → place.pending = effects →
      program.place.Same place →
      Advance program world (program.carry world.transport effect place).2
        (program.carry world.transport effect place).1
  | answers (taken : Nat) (command : Ipc.ControlCommand) (response : Option Response) :
      program.place = .answering taken command response [] →
      Advance program world (program.answer taken command response).2
        (program.answer taken command response).1
  | quiet {device : DeviceManager P} :
      program.place = .polling →
      (program.device.poll world.transport : _ × Option (DeviceEvent F)) = (device, none) →
      Advance program world
        (program.controller { program with device, place := .refreshing } none)
        { program with device, place := .refreshing }
  | handles {device : DeviceManager P} {event : DeviceEvent F} {turn : Turn F} (now : Nat) :
      program.place = .polling → program.device.poll world.transport = (device, some event) →
      program.main.handle event now = .ok turn →
      Advance program world
        (program.controller
            { program with device, main := turn.main, place := .handling turn.effects }
            (some event) ++
          [.turned ⟨program.main, .event event now, turn⟩])
        { program with device, main := turn.main, place := .handling turn.effects }
  | rumbles {seen : List (Occurrence F)} {after : Program P F} :
      program.place = .rumbling → program.Rumbled world seen after →
      Advance program world seen after
  | leaves :
      program.place = .top →
      Advance program world []
        { program with
          server := { program.server with
            commands := { program.server.commands with receiver := false } }
          place := .leaving }
  | loses {command : Ipc.ControlCommand} {queue : List Ipc.ControlCommand} :
      program.place = .leaving → program.server.commands.queue = command :: queue →
      Advance program world [.client (.lost command)]
        { program with
          server := { program.server with commands := { program.server.commands with queue } } }
  | ends :
      program.place = .leaving →
      Advance program world []
        { program with
          server := { program.server with events := program.server.events ++ [.shutdown] }
          place := .ended }

omit [Scalar F] [DecidableEq (OskState F)] [Platform F] in
theorem Program.pollRumble_kind (program : Program P F) (world : World P) :
    program.Rumbled world (program.pollRumble world).2 (program.pollRumble world).1 := by
  unfold Program.pollRumble
  dsimp only
  split
  · next next polled => exact .sends next (.inl polled)
  · next polled =>
    split
    · exact .sends program.rumble (.inr ⟨polled, rfl⟩)
    · exact .keeps polled

theorem Program.advance_kind {program after : Program P F} {world : World P}
    {seen : List (Occurrence F)} (advanced : program.advance world = .ok (after, seen)) :
    program.Advance world seen after := by
  unfold Program.advance at advanced
  split at advanced
  · next atTop =>
    split at advanced
    · cases advanced
      exact .leaves atTop
    · cases advanced
      exact .moves program.lastLizardRefresh _ (by rw [atTop]; rfl) rfl
        (by rw [atTop]; exact ⟨rfl, rfl⟩)
  · next taken atCommands =>
    have nothing : program.place.pending = [] := by rw [atCommands]; rfl
    have polls : program.place.Same .polling := by rw [atCommands]; exact ⟨rfl, rfl⟩
    split at advanced
    · next command queue queued =>
      split at advanced
      · obtain ⟨turn, responded, done⟩ := bind_ok advanced
        cases done
        exact .takes taken (world.now 0) atCommands queued responded
      · cases advanced
        exact .moves program.lastLizardRefresh _ nothing rfl polls
    · cases advanced
      exact .moves program.lastLizardRefresh _ nothing rfl polls
  · next taken command response effect effects answering =>
    cases advanced
    exact .carries (.answering taken command response effects) (by rw [answering]; rfl) rfl
      (by rw [answering]; exact ⟨rfl, rfl⟩)
  · next taken command response answering =>
    obtain rfl : (program.answer taken command response).1 = after :=
      congrArg Prod.fst (Except.ok.inj advanced)
    obtain rfl : (program.answer taken command response).2 = seen :=
      congrArg Prod.snd (Except.ok.inj advanced)
    exact .answers taken command response answering
  · next polling =>
    rcases polled : (program.device.poll world.transport : _ × Option (DeviceEvent F)) with
      ⟨device, event⟩
    simp only [Program.pollDevice, polled] at advanced
    cases event with
    | none =>
      cases advanced
      exact .quiet polling polled
    | some event =>
      obtain ⟨turn, handled, done⟩ := bind_ok advanced
      cases done
      exact .handles (world.now 0) polling polled handled
  · next effect effects handling =>
    cases advanced
    exact .carries (.handling effects) (by rw [handling]; rfl) rfl
      (by rw [handling]; exact ⟨rfl, rfl⟩)
  · next handling =>
    cases advanced
    exact .moves program.lastLizardRefresh _ (by rw [handling]; rfl) rfl
      (by rw [handling]; exact ⟨rfl, rfl⟩)
  · next refreshing =>
    have nothing : program.place.pending = [] := by rw [refreshing]; rfl
    have rumbles : program.place.Same .rumbling := by rw [refreshing]; exact ⟨rfl, rfl⟩
    cases advanced
    unfold Program.refreshLizard
    rw [DeviceManager.suppressLizardMode_eq]
    split
    · exact .moves (world.now 1) .rumbling nothing rfl rumbles
    · exact .moves program.lastLizardRefresh .rumbling nothing rfl rumbles
  · next rumbling =>
    obtain rfl : (program.pollRumble world).1 = after :=
      congrArg Prod.fst (Except.ok.inj advanced)
    obtain rfl : (program.pollRumble world).2 = seen :=
      congrArg Prod.snd (Except.ok.inj advanced)
    exact .rumbles rumbling (Program.pollRumble_kind program world)
  · next leaving =>
    split at advanced
    · next command queue queued =>
      cases advanced
      exact .loses leaving queued
    · cases advanced
      exact .ends leaving
  · next ended =>
    cases advanced
    have nothing : program.place.pending = [] := by rw [ended]; rfl
    exact .moves program.lastLizardRefresh program.place nothing nothing ⟨rfl, rfl⟩

/-! ## What a step leaves alone -/

section

omit [Platform F]

variable (program : Program P F) (transport : Transport P) (effect : Effect F)

@[simp] theorem Program.perform_main : (program.perform transport effect).main = program.main := by
  cases effect <;> rfl

@[simp] theorem Program.perform_outputs :
    (program.perform transport effect).outputs = program.outputs.perform effect := by
  cases effect <;> rfl

@[simp] theorem Program.perform_rumble :
    (program.perform transport effect).rumble = program.rumble := by
  cases effect <;> rfl

/-- An effect reaches the server only if it publishes the keyboard. -/
theorem Program.perform_server :
    (program.perform transport effect).server = program.server ∨
      ∃ keyboard, effect = .publish keyboard ∧
        (program.perform transport effect).server = program.server.publishOsk keyboard := by
  cases effect with
  | publish keyboard => exact .inr ⟨keyboard, rfl, rfl⟩
  | _ => exact .inl rfl

/-- An effect, for the manager. -/
theorem Program.perform_device (sound : program.device.Sound) :
    DeviceManager.Keeps program.device
      ((program.perform transport effect).device, (none : Option (DeviceEvent F))) := by
  cases effect with
  | haptic haptic => exact DeviceManager.playHaptic_keeps sound haptic
  | clickPressure pressure => exact DeviceManager.setTrackpadClickPressure_keeps sound pressure
  | _ => exact DeviceManager.quiet sound rfl rfl id rfl

omit [Scalar F] in
theorem Program.publishOsk_commands (system : Ipc.System (OskState F)) (keyboard : OskState F) :
    (system.publishOsk keyboard).commands = system.commands ∧
      (system.publishOsk keyboard).held = system.held := by
  unfold Ipc.System.publishOsk
  split <;> exact ⟨rfl, rfl⟩

end

end

end Scd.Daemon
