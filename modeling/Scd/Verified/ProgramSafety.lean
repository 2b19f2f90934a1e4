import Scd.Verified.ProgramSteps

/-! # The invariant of the daemon

What holds between any two steps of the three threads: the mapper and the manager are in good
order, the daemon holds the command that it is answering and no other, and nothing is in the
queue that it does not answer.  So no step of the loop panics (`advance_returns`).
-/

namespace Scd.Daemon

open Scd.Core Scd.Foundation

/-! ## The thread of the server -/

namespace Ipc.Sighting

variable {S : Type}

def queued? : Ipc.Sighting S → Option Ipc.ControlCommand
  | .queued command => some command
  | _ => none

def answered? : Ipc.Sighting S → Option (Ipc.ControlCommand × Response)
  | .answered command response => some (command, response)
  | _ => none

def lost? : Ipc.Sighting S → Option Ipc.ControlCommand
  | .lost command => some command
  | _ => none

end Ipc.Sighting

namespace Ipc

variable {S : Type} {fromStr : List UInt8 → Option Request}

/-- What a step of the thread leaves alone, and what it adds to the queue. -/
structure Threaded (before : System S) (sightings : List (Ipc.Sighting S)) (after : System S) :
    Prop where
  held : after.held = before.held
  commands : after.commands =
    { before.commands with queue := before.commands.queue ++ sightings.filterMap Sighting.queued? }
  forwarded : ∀ command ∈ sightings.filterMap Sighting.queued?, command.request ≠ .osk
  answered : sightings.filterMap Sighting.answered? = []
  lost : sightings.filterMap Sighting.lost? = []
  oskCurrent : after.oskCurrent = before.oskCurrent

theorem Threaded.quiet {before after : System S} {sightings : List (Ipc.Sighting S)}
    (held : after.held = before.held) (commands : after.commands = before.commands)
    (oskCurrent : after.oskCurrent = before.oskCurrent)
    (queued : sightings.filterMap Sighting.queued? = [])
    (answered : sightings.filterMap Sighting.answered? = [])
    (lost : sightings.filterMap Sighting.lost? = []) : Threaded before sightings after where
  held := held
  commands := by rw [commands, queued, List.append_nil]
  forwarded := by simp [queued]
  answered := answered
  lost := lost
  oskCurrent := oskCurrent

/-- The ends of a callback that returns, whatever the state of the server. -/
inductive Ready.Ended (reader : ClientReader) (state : IpcState S) (commands : Commands) :
    Ready S → Prop where
  | more (request : List UInt8) :
      Ended reader state commands
        { reader := { reader with request }, action := .continues, state, commands
          sightings := [] }
  | rejected (request : List UInt8) (message : String) (whole : Bool) :
      Ended reader state commands
        (({ reader with request } : ClientReader).reject state commands message whole)
  | closed (request : List UInt8) :
      Ended reader state commands (({ reader with request } : ClientReader).close state commands)
  | subscribed (request : List UInt8) {connection : ClientConnection} :
      state.clients.get? reader.client = some connection →
      Ended reader state commands
        { reader := { reader with request }, action := .continues
          state := { state with
            clients := state.clients.insert reader.client { connection with osk := true } }
          commands
          sightings := [.subscribed reader.client, .wrote reader.client (.osk state.osk) true] }
  | left (request : List UInt8) {connection : ClientConnection} :
      state.clients.get? reader.client = some connection →
      Ended reader state commands
        (({ reader with request } : ClientReader).closeAfter
          { state with
            clients := state.clients.insert reader.client { connection with osk := true } }
          commands
          [.subscribed reader.client, .wrote reader.client (.osk state.osk) false])
  | queued (request : List UInt8) {parsed : Request} :
      parsed ≠ .osk →
      Ended reader state commands
        { reader := { reader with request }, action := .disable, state
          commands := { commands with queue := commands.queue ++ [⟨parsed, reader.client⟩] }
          sightings := [.queued ⟨parsed, reader.client⟩] }

theorem ready_ended {reader : ClientReader} {arrived : Arrived} {whole : Bool}
    {state : IpcState S} {commands : Commands} {result : Ready S}
    (returned : reader.ready fromStr arrived whole state commands = .ok result) :
    result.Ended reader state commands := by
  obtain ⟨⟨request, line⟩, _, rest⟩ := bind_ok returned
  cases line with
  | more =>
    cases rest
    exact .more request
  | rejected message =>
    cases rest
    exact .rejected request message whole
  | closed =>
    cases rest
    exact .closed request
  | request parsed =>
    by_cases osk : parsed = .osk
    · -- a subscription is kept by the server
      subst osk
      dsimp only at rest
      split at rest
      · cases rest
      · next connection found =>
        cases whole with
        | true =>
          cases rest
          exact .subscribed request found
        | false =>
          cases rest
          exact .left request found
    · rcases trySend_cases commands ⟨parsed, reader.client⟩ with sent | sent | sent
      · cases parsed with
        | osk => exact absurd rfl osk
        | _ =>
          simp only [sent] at rest
          cases rest
          exact .queued request osk
      · cases parsed with
        | osk => exact absurd rfl osk
        | _ =>
          simp only [sent] at rest
          cases rest
          exact .rejected request _ whole
      · cases parsed with
        | osk => exact absurd rfl osk
        | _ =>
          simp only [sent] at rest
          cases rest
          exact .closed request

theorem Ready.Ended.threaded {system : System S} {reader : ClientReader} {result : Ready S}
    (ended : result.Ended reader system.state system.commands) (registration : Nat) :
    Threaded system result.sightings (system.apply registration result) := by
  cases ended with
  | more => exact .quiet rfl rfl rfl rfl rfl rfl
  | rejected => exact .quiet rfl rfl rfl rfl rfl rfl
  | closed => exact .quiet rfl rfl rfl rfl rfl rfl
  | subscribed => exact .quiet rfl rfl rfl rfl rfl rfl
  | left => exact .quiet rfl rfl rfl rfl rfl rfl
  | queued _ forwarded => exact ⟨rfl, rfl, by simpa [Sighting.queued?] using forwarded, rfl, rfl, rfl⟩

theorem pushTo_threaded (whole : Nat → Bool) (system : System S) (client : Nat) :
    Threaded system (system.pushTo whole client).2 (system.pushTo whole client).1 := by
  unfold System.pushTo
  split
  · exact .quiet rfl rfl rfl rfl rfl rfl
  · split
    · exact .quiet rfl rfl rfl rfl rfl rfl
    · split <;> exact .quiet rfl rfl rfl rfl rfl rfl

theorem Threaded.trans {before mid after : System S} {early late : List (Ipc.Sighting S)}
    (first : Threaded before early mid) (second : Threaded mid late after) :
    Threaded before (early ++ late) after where
  held := second.held.trans first.held
  commands := by
    rw [second.commands, first.commands, List.filterMap_append, List.append_assoc]
  forwarded := by
    intro command member
    rw [List.filterMap_append, List.mem_append] at member
    exact member.elim (first.forwarded command) (second.forwarded command)
  answered := by rw [List.filterMap_append, first.answered, second.answered, List.append_nil]
  lost := by rw [List.filterMap_append, first.lost, second.lost, List.append_nil]
  oskCurrent := second.oskCurrent.trans first.oskCurrent

theorem pushAll_threaded (whole : Nat → Bool) (system : System S) (order : List Nat) :
    Threaded system (system.pushAll whole order).2 (system.pushAll whole order).1 := by
  induction order generalizing system with
  | nil => exact .quiet rfl rfl rfl rfl rfl rfl
  | cons client order inductionHypothesis =>
    exact (pushTo_threaded whole system client).trans (inductionHypothesis _)

theorem ThreadStep.threaded {before after : System S} {sightings : List (Ipc.Sighting S)}
    (step : ThreadStep fromStr before sightings after) : Threaded before sightings after := by
  cases step with
  | accept fresh accepted =>
    unfold System.acceptClient at accepted
    dsimp only at accepted
    split at accepted
    · cases accepted
    · split at accepted
      · cases accepted
        exact .quiet rfl rfl rfl rfl rfl rfl
      · cases accepted
        exact .quiet rfl rfl rfl rfl rfl rfl
  | ready found enabled returned => exact (ready_ended returned).threaded _
  | deliver =>
    unfold System.deliver
    split
    · exact .quiet rfl rfl rfl rfl rfl rfl
    · exact .quiet rfl rfl rfl rfl rfl rfl
    · dsimp only
      split <;> exact .quiet rfl rfl rfl rfl rfl rfl
  | @push order whole listed =>
    unfold System.push
    split
    · exact .quiet rfl rfl rfl rfl rfl rfl
    · next shown _ =>
      have pushed := pushAll_threaded whole { before with
        state := { before.state with osk := shown }, published := none } order
      exact ⟨pushed.held, pushed.commands, pushed.forwarded, pushed.answered, pushed.lost,
        pushed.oskCurrent⟩

/-- The steps of the thread are steps of the server. -/
theorem ThreadStep.step [DecidableEq S] {before after : System S}
    {sightings : List (Ipc.Sighting S)} (step : ThreadStep fromStr before sightings after) :
    Step fromStr before sightings after := by
  cases step with
  | accept fresh accepted => exact .accept fresh accepted
  | ready found enabled returned => exact .ready found enabled returned
  | deliver => exact .deliver
  | push order => exact .push order

end Ipc

/-! ## The invariant -/

section

variable {P F : Type} [Scalar F] [DecidableEq (OskState F)] {program after : Program P F}

structure Program.Sound (program : Program P F) : Prop where
  wf : program.main.mapper.Wf
  device : program.device.Sound
  /-- The channel is open as long as the loop runs. -/
  receiver : program.server.commands.receiver = !program.place.left
  held : program.server.held = (program.place.answer.map Prod.fst).toList
  answered : ∀ {command response}, program.place.answer = some (command, response) →
    response.isSome
  forwarded : ∀ command ∈ program.server.commands.queue, command.request ≠ .osk

variable [Platform F] {fromStr : List UInt8 → Option Request} {seen : List (Occurrence F)}

namespace Program.Sound

theorem advance {world : World P} (sound : program.Sound)
    (advance : program.Advance world seen after) : after.Sound := by
  cases advance with
  | moves refreshed place nothing rest same =>
    exact {
      wf := sound.wf
      device := sound.device
      receiver := by rw [same.left]; exact sound.receiver
      held := by rw [same.answer]; exact sound.held
      answered := by rw [same.answer]; exact sound.answered
      forwarded := sound.forwarded }
  | @takes command queue turn taken now place queued responded =>
    have member : ∀ other ∈ queue, other ∈ program.server.commands.queue := by
      intro other member
      rw [queued]
      exact List.mem_cons_of_mem _ member
    have forwarded : command.request ≠ .osk :=
      sound.forwarded command (by rw [queued]; exact List.mem_cons_self)
    have response : turn.response.isSome :=
      (respond_returns sound.wf forwarded program.device.info now).of_ok responded
    exact {
      wf := ((respond_kind responded).calls sound.wf).wf sound.wf
      device := sound.device
      receiver := by
        show program.server.commands.receiver = true
        rw [sound.receiver, place]
        rfl
      held := by
        show program.server.held ++ [command] = [command]
        rw [sound.held, place]
        rfl
      answered := by
        intro other answer same
        cases same
        exact response
      forwarded := fun other inside => sound.forwarded other (member other inside) }
  | @carries effect effects place pending rest same =>
    have server : (program.perform world.transport effect).server.commands =
          program.server.commands ∧
        (program.perform world.transport effect).server.held = program.server.held := by
      rcases Program.perform_server program world.transport effect with kept | ⟨keyboard, _, kept⟩
      · rw [kept]
        exact ⟨rfl, rfl⟩
      · rw [kept]
        exact Program.publishOsk_commands _ _
    exact {
      wf := by
        show (program.perform world.transport effect).main.mapper.Wf
        rw [Program.perform_main]
        exact sound.wf
      device := (Program.perform_device program world.transport effect sound.device).1
      receiver := by
        show (program.perform world.transport effect).server.commands.receiver = !place.left
        rw [server.1, same.left]
        exact sound.receiver
      held := by
        show (program.perform world.transport effect).server.held = _
        rw [server.2, sound.held, ← same.answer]
        rfl
      answered := by
        intro command response answer
        exact sound.answered (same.answer ▸ answer)
      forwarded := by
        show ∀ command ∈ (program.perform world.transport effect).server.commands.queue, _
        rw [server.1]
        exact sound.forwarded }
  | answers taken command response place =>
    have answer : program.place.answer = some (command, response) := by
      rw [place]
      rfl
    obtain ⟨response, rfl⟩ := Option.isSome_iff_exists.mp (sound.answered answer)
    exact {
      wf := sound.wf
      device := sound.device
      receiver := by
        show program.server.commands.receiver = true
        rw [sound.receiver, place]
        rfl
      held := by
        show program.server.held.erase command = []
        rw [sound.held, answer]
        simp
      answered := fun impossible => by cases impossible
      forwarded := sound.forwarded }
  | @quiet device place polled =>
    have keeps : DeviceManager.Keeps program.device (device, (none : Option (DeviceEvent F))) := by
      rw [← polled]
      exact DeviceManager.poll_keeps sound.device
    exact {
      wf := sound.wf
      device := keeps.1
      receiver := by rw [sound.receiver, place]; rfl
      held := by rw [sound.held, place]; rfl
      answered := fun impossible => by cases impossible
      forwarded := sound.forwarded }
  | @handles device event turn now place polled handled =>
    have keeps : DeviceManager.Keeps program.device (device, some event) := by
      rw [← polled]
      exact DeviceManager.poll_keeps sound.device
    have stepped : program.main.step (.event event now) = .ok turn := handled
    exact {
      wf := ((step_kind stepped).calls sound.wf).wf sound.wf
      device := keeps.1
      receiver := by rw [sound.receiver, place]; rfl
      held := by rw [sound.held, place]; rfl
      answered := fun impossible => by cases impossible
      forwarded := sound.forwarded }
  | rumbles place rumbled =>
    have receiver : program.server.commands.receiver = true := by
      rw [sound.receiver, place]
      rfl
    have held : program.server.held = [] := by
      rw [sound.held, place]
      rfl
    cases rumbled with
    | keeps =>
      exact ⟨sound.wf, sound.device, receiver, held, (fun impossible => by cases impossible),
        sound.forwarded⟩
    | sends rumble =>
      exact ⟨sound.wf, (DeviceManager.playHaptic_keeps (F := F) sound.device _).1, receiver, held,
        (fun impossible => by cases impossible), sound.forwarded⟩
  | leaves place =>
    exact {
      wf := sound.wf
      device := sound.device
      receiver := rfl
      held := by
        have held := sound.held
        rw [place] at held
        exact held
      answered := fun impossible => by cases impossible
      forwarded := sound.forwarded }
  | @loses command queue place queued =>
    exact { sound with
      forwarded := by
        intro other member
        exact sound.forwarded other (by rw [queued]; exact List.mem_cons_of_mem _ member) }
  | ends place =>
    exact {
      wf := sound.wf
      device := sound.device
      receiver := by
        have closed := sound.receiver
        rw [place] at closed
        exact closed
      held := by
        have held := sound.held
        rw [place] at held
        exact held
      answered := fun impossible => by cases impossible
      forwarded := sound.forwarded }

theorem step (sound : program.Sound) (step : program.Step fromStr seen after) : after.Sound := by
  cases step with
  | loop advanced => exact advance sound (Program.advance_kind advanced)
  | socket step =>
    have threaded := step.threaded
    exact { sound with
      receiver := by
        show _ = !program.place.left
        rw [threaded.commands]
        exact sound.receiver
      held := threaded.held.trans sound.held
      forwarded := by
        rw [threaded.commands]
        intro command member
        exact (List.mem_append.mp member).elim (sound.forwarded command)
          (threaded.forwarded command) }
  | game => exact { sound with }

theorem start {config : Config F} {world : World P} {start : Program P F}
    (accepted : config.Accepted) (started : Program.start config world = .ok start) :
    start.Sound := by
  obtain ⟨main, begins, rest⟩ := bind_ok started
  obtain ⟨gamepad, _, done⟩ := bind_ok rest
  cases done
  have commands := Program.publishOsk_commands (Ipc.System.bind OskState.default) main.keyboard
  exact {
    wf := (Reached.start accepted begins).wf
    device := (DeviceManager.setTrackpadClickPressure_keeps (F := F)
      (DeviceManager.new_sound world.transport).1 config.clickPressure).1
    receiver := by
      show ((Ipc.System.bind OskState.default).publishOsk main.keyboard).commands.receiver = true
      rw [commands.1]
      rfl
    held := commands.2
    answered := fun impossible => by cases impossible
    forwarded := by
      show ∀ command ∈ ((Ipc.System.bind OskState.default).publishOsk
        main.keyboard).commands.queue, _
      rw [commands.1]
      intro command member
      cases member }

/-- Every step of the loop returns. -/
theorem advance_returns (sound : program.Sound) (world : World P) :
    ∃ result, program.advance world = .ok result := by
  unfold Program.advance
  cases place : program.place with
  | commands taken =>
    dsimp only
    cases queued : program.server.commands.queue with
    | nil => exact ⟨_, rfl⟩
    | cons command queue =>
      have forwarded : command.request ≠ .osk :=
        sound.forwarded command (by rw [queued]; exact List.mem_cons_self)
      obtain ⟨turn, responded⟩ :=
        (respond_returns sound.wf forwarded program.device.info (world.now 0)).exists_ok
      dsimp only
      split
      · simp only [Program.takeCommand, responded, ok_bind]
        exact ⟨_, rfl⟩
      · exact ⟨_, rfl⟩
  | polling =>
    dsimp only [Program.pollDevice]
    rcases (program.device.poll world.transport : _ × Option (DeviceEvent F)) with ⟨device, event⟩
    cases event with
    | none => exact ⟨_, rfl⟩
    | some event =>
      obtain ⟨turn, handled⟩ := handle_returns sound.wf event (world.now 0)
      simp only [handled, ok_bind]
      exact ⟨_, rfl⟩
  | top =>
    dsimp only
    split <;> exact ⟨_, rfl⟩
  | leaving =>
    dsimp only
    split <;> exact ⟨_, rfl⟩
  | answering taken command response effects => cases effects <;> exact ⟨_, rfl⟩
  | handling effects => cases effects <;> exact ⟨_, rfl⟩
  | refreshing => exact ⟨_, rfl⟩
  | rumbling => exact ⟨_, rfl⟩
  | ended => exact ⟨_, rfl⟩

end Program.Sound

end

end Scd.Daemon
