import Scd.Verified.IpcProtocol
import Scd.Verified.ProgramSafety

/-! # The daemon and its parts

A run of the daemon is at the same time a run of the main loop, a run of the server and a run
of the device manager: what the other modules prove of these parts holds of the program.  And
the parts fit together: each event of the controller and each request of a client is handled
once and in order, a request is answered behind all its effects, and nothing is performed that
no turn has asked for.
-/

namespace Scd.Daemon

open Scd.Core Scd.Foundation

/-! ## What is read off a run -/

namespace Occurrence

variable {F : Type}

def turned? : Occurrence F → Option (Transition F)
  | .turned transition => some transition
  | _ => none

def performed? : Occurrence F → Option (Effect F)
  | .performed effect => some effect
  | _ => none

def controller? : Occurrence F → Option (Sighting F)
  | .dropped => some .dropped
  | .returned event => some (.returned event)
  | _ => none

def client? : Occurrence F → Option (Ipc.Sighting (OskState F))
  | .client sighting => some sighting
  | _ => none

end Occurrence

section

variable {F : Type}

def Input.request? : Input F → Option Request
  | .request asked _ _ => some asked
  | .event _ _ => none

def Input.event? : Input F → Option (DeviceEvent F)
  | .request _ _ _ => none
  | .event told _ => some told

/-- An event that `poll` returns. -/
def Sighting.event? : Sighting F → Option (DeviceEvent F)
  | .dropped => none
  | .returned event => some event

/-- A request that leaves the queue: the loop takes it, or it goes with the channel. -/
def Occurrence.consumed? : Occurrence F → Option Request
  | .turned transition => transition.input.request?
  | .client sighting => sighting.lost?.map (·.request)
  | _ => none

/-- A request that a turn has handled, with its response. -/
def Transition.exchange? (transition : Transition F) : Option (Request × Option Response) :=
  transition.input.request?.map fun request => (request, transition.turn.response)

def exchanged (answered : Ipc.ControlCommand × Response) : Request × Option Response :=
  (answered.1.request, some answered.2)

abbrev turnsOf (seen : List (Occurrence F)) : List (Transition F) :=
  seen.filterMap Occurrence.turned?

abbrev performedOf (seen : List (Occurrence F)) : List (Effect F) :=
  seen.filterMap Occurrence.performed?

abbrev controllerOf (seen : List (Occurrence F)) : List (Sighting F) :=
  seen.filterMap Occurrence.controller?

abbrev clientsOf (seen : List (Occurrence F)) : List (Ipc.Sighting (OskState F)) :=
  seen.filterMap Occurrence.client?

end

/-! ## What a step says of the parts -/

section

variable {P F : Type} [Scalar F] [DecidableEq (OskState F)] {program after : Program P F}

omit [Scalar F] [DecidableEq (OskState F)] in
/-- What is seen of the controller, read off again. -/
theorem controllerOf_controller (before after : Program P F) (event : Option (DeviceEvent F)) :
    controllerOf (before.controller after event) =
      DeviceManager.sightings before.device after.device event := by
  have dropped : (!after.device.active.isSome) = after.device.active.isNone := by simp
  unfold Program.controller DeviceManager.sightings DeviceManager.connected
  rw [controllerOf, dropped, List.filterMap_append]
  congr 1
  · split <;> rfl
  · cases event <;> rfl

omit [Scalar F] [DecidableEq (OskState F)] in
/-- Of the controller nothing is seen that concerns the other parts. -/
theorem filterMap_controller {α : Type} (before after : Program P F)
    (event : Option (DeviceEvent F)) (read : Occurrence F → Option α)
    (dropped : read .dropped = none) (returned : ∀ event, read (.returned event) = none) :
    (before.controller after event).filterMap read = [] := by
  unfold Program.controller
  cases event <;> split <;> simp [dropped, returned]

/-- The response that a place holds back. -/
def Place.exchanges {F : Type} (place : Place F) : List (Request × Option Response) :=
  (place.answer.map fun answer => (answer.1.request, answer.2)).toList

/-- The occurrences between two states, for each part and from one part to the other. -/
structure Program.Composed [Platform F] (fromStr : List UInt8 → Option Request)
    (before : Program P F) (seen : List (Occurrence F)) (after : Program P F) : Prop where
  main : before.main.Run (turnsOf seen) after.main
  server : Path (Ipc.Step fromStr) before.server (clientsOf seen) after.server
  device : Foundation.Accepts Phase.next before.device.phase (controllerOf seen) after.device.phase
  outputs : after.outputs = before.outputs.performAll (performedOf seen)
  /-- The effects of the turns are performed, all of them and in their order. -/
  effects : before.place.pending ++ (turnsOf seen).flatMap (·.turn.effects) =
    performedOf seen ++ after.place.pending
  /-- The turns handle the events that `poll` returns. -/
  events : (turnsOf seen).filterMap (·.input.event?) =
    (controllerOf seen).filterMap Sighting.event?
  /-- Requests leave the queue as they have come. -/
  requests : (before.server.commands.queue ++
      (clientsOf seen).filterMap Ipc.Sighting.queued?).map (·.request) =
    seen.filterMap Occurrence.consumed? ++ after.server.commands.queue.map (·.request)
  /-- Each request is answered with the response of its own turn. -/
  exchanges : before.place.exchanges ++ (turnsOf seen).filterMap Transition.exchange? =
    ((clientsOf seen).filterMap Ipc.Sighting.answered?).map exchanged ++ after.place.exchanges

variable [Platform F] {fromStr : List UInt8 → Option Request} {seen : List (Occurrence F)}

namespace Program.Composed

theorem refl (program : Program P F) : program.Composed fromStr [] program where
  main := .refl
  server := .refl
  device := Foundation.Accepts.nil_iff.mpr rfl
  outputs := rfl
  effects := by simp
  events := rfl
  requests := by simp
  exchanges := by simp

theorem trans {before mid after : Program P F} {early late : List (Occurrence F)}
    (first : before.Composed fromStr early mid) (second : mid.Composed fromStr late after) :
    before.Composed fromStr (early ++ late) after where
  main := by
    rw [turnsOf, List.filterMap_append]
    exact first.main.trans second.main
  server := by
    rw [clientsOf, List.filterMap_append]
    exact first.server.trans second.server
  device := by
    rw [controllerOf, List.filterMap_append]
    exact Foundation.Accepts.append_iff.mpr ⟨_, first.device, second.device⟩
  outputs := by
    rw [performedOf, List.filterMap_append, Outputs.performAll_append, second.outputs,
      first.outputs]
  effects := by
    rw [turnsOf, performedOf, List.filterMap_append, List.filterMap_append, List.flatMap_append,
      ← List.append_assoc, first.effects, List.append_assoc, second.effects, List.append_assoc]
  events := by
    rw [turnsOf, controllerOf, List.filterMap_append, List.filterMap_append,
      List.filterMap_append, List.filterMap_append, first.events, second.events]
  requests := by
    rw [clientsOf, List.filterMap_append, List.filterMap_append, List.filterMap_append,
      ← List.append_assoc, List.map_append, first.requests, List.append_assoc,
      ← List.map_append, second.requests, List.append_assoc]
  exchanges := by
    rw [turnsOf, clientsOf, List.filterMap_append, List.filterMap_append, List.filterMap_append,
      List.filterMap_append, List.map_append, ← List.append_assoc, first.exchanges,
      List.append_assoc, second.exchanges, List.append_assoc]

/-- A step of the loop of which only the controller is seen. -/
theorem aside {before after : Program P F}
    (keeps : DeviceManager.Keeps before.device (after.device, (none : Option (DeviceEvent F))))
    (sound : before.device.Sound) (main : after.main = before.main)
    (server : after.server = before.server) (outputs : after.outputs = before.outputs)
    (pending : after.place.pending = before.place.pending)
    (answer : after.place.answer = before.place.answer) :
    before.Composed fromStr (before.controller after none) after where
  main := by
    rw [turnsOf, filterMap_controller _ _ _ _ rfl fun _ => rfl, main]
    exact .refl
  server := by
    rw [clientsOf, filterMap_controller _ _ _ _ rfl fun _ => rfl, server]
    exact .refl
  device := by
    rw [controllerOf_controller]
    exact keeps.2.follows sound
  outputs := by
    rw [performedOf, filterMap_controller _ _ _ _ rfl fun _ => rfl, outputs]
    rfl
  effects := by
    rw [turnsOf, performedOf, filterMap_controller _ _ _ _ rfl fun _ => rfl,
      filterMap_controller _ _ _ _ rfl fun _ => rfl, pending]
    simp
  events := by
    rw [turnsOf, controllerOf_controller, filterMap_controller _ _ _ _ rfl fun _ => rfl]
    unfold DeviceManager.sightings
    split <;> rfl
  requests := by
    rw [clientsOf, filterMap_controller _ _ _ _ rfl fun _ => rfl,
      filterMap_controller _ _ _ _ rfl fun _ => rfl, server]
    simp
  exchanges := by
    rw [turnsOf, clientsOf, filterMap_controller _ _ _ _ rfl fun _ => rfl,
      filterMap_controller _ _ _ _ rfl fun _ => rfl, Place.exchanges, Place.exchanges, answer]
    simp

/-- Nothing is seen. -/
theorem silent {before after : Program P F} (device : after.device = before.device)
    (sound : before.device.Sound) (main : after.main = before.main)
    (server : after.server = before.server) (outputs : after.outputs = before.outputs)
    (pending : after.place.pending = before.place.pending)
    (answer : after.place.answer = before.place.answer) : before.Composed fromStr [] after := by
  have keeps : DeviceManager.Keeps before.device (after.device, (none : Option (DeviceEvent F))) :=
    device ▸ DeviceManager.quiet sound rfl rfl id rfl
  have nothing : before.controller after none = [] := by
    simp [Program.controller, device]
  rw [← nothing]
  exact aside keeps sound main server outputs pending answer

theorem carries (sound : program.Sound) (transport : Transport P) {effect : Effect F}
    {effects : List (Effect F)} {place : Place F}
    (pending : program.place.pending = effect :: effects) (rest : place.pending = effects)
    (same : program.place.Same place) :
    program.Composed fromStr (program.carry transport effect place).2
      (program.carry transport effect place).1 := by
  -- the effect itself, and what it does to the manager
  let mid : Program P F :=
    { program.perform transport effect with place, device := program.device }
  have performed : program.Composed fromStr [.performed effect] mid := by
    constructor
    case main =>
      show program.main.Run [] (program.perform transport effect).main
      rw [Program.perform_main]
      exact .refl
    case server =>
      show Path (Ipc.Step fromStr) program.server [] (program.perform transport effect).server
      rcases Program.perform_server program transport effect with same | ⟨keyboard, _, published⟩
      · rw [same]
        exact .refl
      · rw [published]
        exact Path.single .publish
    case device => exact Foundation.Accepts.nil_iff.mpr rfl
    case outputs => exact Program.perform_outputs program transport effect
    case effects =>
      show program.place.pending ++ [] = effect :: place.pending
      rw [pending, rest, List.append_nil]
    case events => rfl
    case requests =>
      have queue : (program.perform transport effect).server.commands = program.server.commands := by
        rcases Program.perform_server program transport effect with same | ⟨keyboard, _, published⟩
        · rw [same]
        · rw [published, (Program.publishOsk_commands _ _).1]
      show (program.server.commands.queue ++ []).map _ =
        [] ++ (program.perform transport effect).server.commands.queue.map _
      rw [queue, List.append_nil, List.nil_append]
    case exchanges =>
      show program.place.exchanges ++ [] = [] ++ place.exchanges
      rw [Place.exchanges, Place.exchanges, same.answer, List.append_nil, List.nil_append]
  have device : mid.Composed fromStr (mid.controller (program.carry transport effect place).1 none)
      (program.carry transport effect place).1 :=
    aside (Program.perform_device program transport effect sound.device) sound.device rfl rfl rfl
      rfl rfl
  exact performed.trans device

theorem rumbles {world : World P} (sound : program.Sound) (rumbling : program.place = .rumbling)
    (rumbled : program.Rumbled world seen after) : program.Composed fromStr seen after := by
  cases rumbled with
  | keeps =>
    exact silent rfl sound.device rfl rfl rfl (by rw [rumbling]; rfl) (by rw [rumbling]; rfl)
  | sends rumble =>
    let mid : Program P F := { program with
      rumbler := (program.rumbler.pollRumble world.fetched).1
      rumble := rumble
      lastRumble := world.now 1
      place := .top }
    have sent : program.Composed fromStr [.rumbled rumble] mid := by
      have nothing : program.Composed fromStr [] mid :=
        silent rfl sound.device rfl rfl rfl (by rw [rumbling]; rfl) (by rw [rumbling]; rfl)
      exact ⟨nothing.main, nothing.server, nothing.device, nothing.outputs, nothing.effects,
        nothing.events, nothing.requests, nothing.exchanges⟩
    let last : Program P F :=
      { mid with device := program.device.rumble world.transport rumble.1 rumble.2 }
    have device : mid.Composed fromStr (mid.controller last none) last :=
      aside (DeviceManager.playHaptic_keeps sound.device _) sound.device rfl rfl rfl rfl rfl
    exact sent.trans device

/-- The server goes its own way. -/
theorem socket {server : Ipc.System (OskState F)} {sightings : List (Ipc.Sighting (OskState F))}
    (step : Ipc.ThreadStep fromStr program.server sightings server) :
    program.Composed fromStr (sightings.map .client) { program with server } := by
  have threaded := step.threaded
  have clients : clientsOf (sightings.map (Occurrence.client (F := F))) = sightings := by
    rw [clientsOf, List.filterMap_map]
    exact List.filterMap_some
  have nothing : ∀ {α : Type} (read : Occurrence F → Option α),
      (∀ sighting, read (.client sighting) = none) →
        (sightings.map Occurrence.client).filterMap read = [] := by
    intro α read silent
    rw [List.filterMap_map]
    exact List.filterMap_eq_nil_iff.mpr fun sighting _ => silent sighting
  constructor
  case main =>
    rw [turnsOf, nothing _ fun _ => rfl]
    exact .refl
  case server =>
    rw [clients]
    exact Path.single step.step
  case device =>
    rw [controllerOf, nothing _ fun _ => rfl]
    exact Foundation.Accepts.nil_iff.mpr rfl
  case outputs =>
    rw [performedOf, nothing _ fun _ => rfl]
    rfl
  case effects =>
    rw [turnsOf, performedOf, nothing _ fun _ => rfl, nothing _ fun _ => rfl]
    simp
  case events =>
    rw [turnsOf, controllerOf, nothing _ fun _ => rfl, nothing _ fun _ => rfl]
    rfl
  case requests =>
    have lost : (sightings.map Occurrence.client).filterMap
        (Occurrence.consumed? (F := F)) = [] := by
      rw [List.filterMap_map]
      refine List.filterMap_eq_nil_iff.mpr fun sighting member => ?_
      have kept := List.filterMap_eq_nil_iff.mp threaded.lost sighting member
      simp [Occurrence.consumed?, kept]
    rw [clients, lost, threaded.commands, List.nil_append]
  case exchanges =>
    rw [turnsOf, nothing _ fun _ => rfl, clients, threaded.answered]
    simp

/-- A request is taken off the queue, and its turn begins. -/
theorem takes (sound : program.Sound) {taken now : Nat} {command : Ipc.ControlCommand}
    {queue : List Ipc.ControlCommand} {turn : Turn F} (place : program.place = .commands taken)
    (queued : program.server.commands.queue = command :: queue)
    (responded : program.main.respond command.request program.device.info now = .ok turn) :
    program.Composed fromStr
      [.turned ⟨program.main, .request command.request program.device.info now, turn⟩]
      { program with
        main := turn.main
        server := { program.server with
          commands := { program.server.commands with queue }
          held := program.server.held ++ [command] }
        place := .answering taken command turn.response turn.effects } := by
  have commands : program.server.commands = ⟨command :: queue, true⟩ := by
    have opened := sound.receiver
    rw [place] at opened
    cases whole : program.server.commands with
    | mk queue' receiver =>
      rw [whole] at queued opened
      cases queued
      cases opened
      rfl
  constructor
  case main => exact Path.single (.turn responded)
  case server =>
    refine Path.single ?_
    have received : Ipc.Step fromStr program.server _ _ := .receive commands
    rw [commands]
    exact received
  case device => exact Foundation.Accepts.nil_iff.mpr rfl
  case outputs => rfl
  case effects =>
    rw [place]
    simp [Occurrence.turned?, Occurrence.performed?, Place.pending]
  case events => rfl
  case requests =>
    rw [queued]
    simp [Occurrence.client?, Occurrence.consumed?, Input.request?]
  case exchanges =>
    rw [place]
    rfl

theorem answers (sound : program.Sound) {taken : Nat} {command : Ipc.ControlCommand}
    {response : Option Response} (place : program.place = .answering taken command response []) :
    program.Composed fromStr (program.answer taken command response).2
      (program.answer taken command response).1 := by
  have answer : program.place.answer = some (command, response) := by
    rw [place]
    rfl
  have held : program.server.held = [command] := by
    rw [sound.held, answer]
    rfl
  obtain ⟨response, rfl⟩ := Option.isSome_iff_exists.mp (sound.answered answer)
  constructor
  case main => exact .refl
  case server => exact Path.single (.respond (by rw [held]; exact List.mem_cons_self))
  case device => exact Foundation.Accepts.nil_iff.mpr rfl
  case outputs => rfl
  case effects =>
    rw [place]
    rfl
  case events => rfl
  case requests =>
    show (program.server.commands.queue ++ []).map _ =
      [] ++ program.server.commands.queue.map _
    rw [List.append_nil, List.nil_append]
  case exchanges =>
    rw [place]
    rfl

theorem handles (sound : program.Sound) {world : World P} {device : DeviceManager P}
    {event : DeviceEvent F} {turn : Turn F} {now : Nat} (place : program.place = .polling)
    (polled : program.device.poll world.transport = (device, some event))
    (handled : program.main.handle event now = .ok turn) :
    program.Composed fromStr
      (program.controller
          { program with device, main := turn.main, place := .handling turn.effects } (some event) ++
        [.turned ⟨program.main, .event event now, turn⟩])
      { program with device, main := turn.main, place := .handling turn.effects } := by
  have keeps : DeviceManager.Keeps program.device (device, some event) := by
    rw [← polled]
    exact DeviceManager.poll_keeps sound.device
  constructor
  case main =>
    rw [turnsOf, List.filterMap_append, filterMap_controller _ _ _ _ rfl fun _ => rfl]
    exact Path.single (.turn handled)
  case server =>
    rw [clientsOf, List.filterMap_append, filterMap_controller _ _ _ _ rfl fun _ => rfl]
    exact .refl
  case device =>
    rw [controllerOf, List.filterMap_append]
    have seen := controllerOf_controller program
      { program with device, main := turn.main, place := .handling turn.effects } (some event)
    rw [controllerOf] at seen
    rw [seen]
    show Foundation.Accepts Phase.next _ (program.device.sightings device (some event) ++ []) _
    rw [List.append_nil]
    exact keeps.2.follows sound.device
  case outputs =>
    rw [performedOf, List.filterMap_append, filterMap_controller _ _ _ _ rfl fun _ => rfl]
    rfl
  case effects =>
    rw [turnsOf, performedOf, List.filterMap_append, List.filterMap_append,
      filterMap_controller _ _ _ Occurrence.turned? rfl fun _ => rfl,
      filterMap_controller _ _ _ Occurrence.performed? rfl fun _ => rfl, place]
    show [] ++ ([turn.effects].flatten) = [] ++ turn.effects
    rw [List.flatten_singleton]
  case events =>
    rw [turnsOf, controllerOf, List.filterMap_append, List.filterMap_append,
      filterMap_controller _ _ _ _ rfl fun _ => rfl]
    unfold Program.controller
    split <;> rfl
  case requests =>
    simp only [clientsOf, List.filterMap_append]
    rw [filterMap_controller _ _ _ Occurrence.client? rfl fun _ => rfl,
      filterMap_controller _ _ _ Occurrence.consumed? rfl fun _ => rfl]
    show (program.server.commands.queue ++ []).map _ =
      [] ++ program.server.commands.queue.map _
    rw [List.append_nil, List.nil_append]
  case exchanges =>
    simp only [turnsOf, clientsOf, List.filterMap_append]
    rw [filterMap_controller _ _ _ Occurrence.turned? rfl fun _ => rfl,
      filterMap_controller _ _ _ Occurrence.client? rfl fun _ => rfl, place]
    rfl

theorem leaves (sound : program.Sound) (place : program.place = .top) :
    program.Composed fromStr []
      { program with
        server := { program.server with
          commands := { program.server.commands with receiver := false } }
        place := .leaving } := by
  have nothing : program.Composed fromStr [] { program with place := .leaving } :=
    silent rfl sound.device rfl rfl rfl (by rw [place]; rfl) (by rw [place]; rfl)
  exact { nothing with server := Path.single .hangUp }

theorem loses (sound : program.Sound) {command : Ipc.ControlCommand}
    {queue : List Ipc.ControlCommand} (place : program.place = .leaving)
    (queued : program.server.commands.queue = command :: queue) :
    program.Composed fromStr [.client (.lost command)]
      { program with
        server := { program.server with
          commands := { program.server.commands with queue } } } := by
  have commands : program.server.commands = ⟨command :: queue, false⟩ := by
    have closed := sound.receiver
    rw [place] at closed
    cases whole : program.server.commands with
    | mk queue' receiver =>
      rw [whole] at queued closed
      cases queued
      cases closed
      rfl
  constructor
  case main => exact .refl
  case server =>
    refine Path.single ?_
    have discarded : Ipc.Step fromStr program.server _ _ := .discard commands
    rw [commands]
    exact discarded
  case device => exact Foundation.Accepts.nil_iff.mpr rfl
  case outputs => rfl
  case effects =>
    rw [place]
    rfl
  case events => rfl
  case requests =>
    rw [queued]
    simp [Occurrence.client?, Ipc.Sighting.queued?, Occurrence.consumed?, Ipc.Sighting.lost?]
  case exchanges =>
    rw [place]
    rfl

theorem ends (sound : program.Sound) (place : program.place = .leaving) :
    program.Composed fromStr []
      { program with
        server := { program.server with events := program.server.events ++ [.shutdown] }
        place := .ended } := by
  have nothing : program.Composed fromStr [] { program with place := .ended } :=
    silent rfl sound.device rfl rfl rfl (by rw [place]; rfl) (by rw [place]; rfl)
  exact { nothing with server := Path.single .shutdown }

/-- Every step of the loop. -/
theorem advance {world : World P} (sound : program.Sound)
    (advance : program.Advance world seen after) : program.Composed fromStr seen after := by
  cases advance with
  | moves refreshed place nothing rest same =>
    exact silent rfl sound.device rfl rfl rfl (rest.trans nothing.symm) same.answer
  | takes taken now place queued responded => exact takes sound place queued responded
  | carries place pending rest same => exact carries sound world.transport pending rest same
  | answers taken command response place => exact answers sound place
  | quiet place polled =>
    refine aside ?_ sound.device rfl rfl rfl (by rw [place]; rfl) (by rw [place]; rfl)
    rw [← polled]
    exact DeviceManager.poll_keeps sound.device
  | handles now place polled handled => exact handles sound place polled handled
  | rumbles place rumbled => exact rumbles sound place rumbled
  | leaves place => exact leaves sound place
  | loses place queued => exact loses sound place queued
  | ends place => exact ends sound place

theorem step (sound : program.Sound) (step : program.Step fromStr seen after) :
    program.Composed fromStr seen after := by
  cases step with
  | loop advanced => exact advance sound (Program.advance_kind advanced)
  | socket step => exact socket step
  | game => exact silent rfl sound.device rfl rfl rfl rfl rfl

end Program.Composed

/-! ## Runs -/

theorem Program.Run.composed {start final : Program P F} (run : start.Run fromStr seen final)
    (sound : start.Sound) : final.Sound ∧ start.Composed fromStr seen final := by
  induction run with
  | refl => exact ⟨sound, .refl _⟩
  | snoc _ step inductionHypothesis =>
    obtain ⟨soundMid, early⟩ := inductionHypothesis
    exact ⟨soundMid.step step, early.trans (.step soundMid step)⟩

/-- What a run of the daemon is, part by part. -/
structure Program.Parts (fromStr : List UInt8 → Option Request) (config : Config F)
    (seen : List (Occurrence F)) (final : Program P F) : Prop where
  main : ∃ start, MainLoop.start config = .ok start ∧ start.Run (turnsOf seen) final.main
  server : Path (Ipc.Step fromStr) (Ipc.System.bind .default) (clientsOf seen) final.server
  device : Foundation.Accepts Phase.next .idle (controllerOf seen) final.device.phase
  outputs : ∃ gamepad, final.outputs = (Outputs.new gamepad).performAll (performedOf seen)
  effects : (turnsOf seen).flatMap (·.turn.effects) = performedOf seen ++ final.place.pending
  events : (turnsOf seen).filterMap (·.input.event?) =
    (controllerOf seen).filterMap Sighting.event?
  requests : ((clientsOf seen).filterMap Ipc.Sighting.queued?).map (·.request) =
    seen.filterMap Occurrence.consumed? ++ final.server.commands.queue.map (·.request)
  exchanges : (turnsOf seen).filterMap Transition.exchange? =
    ((clientsOf seen).filterMap Ipc.Sighting.answered?).map exchanged ++ final.place.exchanges

/-- The server has published the keyboard of the configuration before the loop. -/
theorem Program.start_parts {config : Config F} {world : World P} {start : Program P F}
    (started : Program.start config world = .ok start) : Program.Parts fromStr config [] start := by
  obtain ⟨main, begins, rest⟩ := bind_ok started
  obtain ⟨gamepad, _, done⟩ := bind_ok rest
  cases done
  have idle := DeviceManager.new_sound world.transport
  have queue : ((Ipc.System.bind OskState.default).publishOsk main.keyboard).commands.queue = [] := by
    rw [(Program.publishOsk_commands _ _).1]
    rfl
  constructor
  case main => exact ⟨main, begins, .refl⟩
  case server => exact Path.single .publish
  case device =>
    -- no slot is active yet, so that the click pressure is only kept
    have closed : (DeviceManager.new world.transport).active = none := by
      exact DeviceManager.scan_active _
    have phase : DeviceManager.phase ((DeviceManager.new world.transport).setTrackpadClickPressure
        world.transport config.clickPressure) = .idle := by
      simpa [DeviceManager.setTrackpadClickPressure_eq, DeviceManager.phase, closed] using idle.2
    exact Foundation.Accepts.nil_iff.mpr phase.symm
  case outputs => exact ⟨gamepad, rfl⟩
  case effects => rfl
  case events => rfl
  case requests =>
    show [] = [] ++ ((Ipc.System.bind OskState.default).publishOsk
      main.keyboard).commands.queue.map _
    rw [queue]
    rfl
  case exchanges => rfl

/-- Whatever the three threads do one after the other, the daemon is the sum of its parts. -/
theorem daemon_composes {config : Config F} (accepted : config.Accepted) {world : World P}
    {start final : Program P F} (started : Program.start config world = .ok start)
    (run : start.Run fromStr seen final) : Program.Parts fromStr config seen final := by
  have initial : Program.Parts fromStr config [] start := Program.start_parts started
  obtain ⟨_, composed⟩ := Program.Run.composed run (Program.Sound.start accepted started)
  obtain ⟨main, begins, rest⟩ := initial.main
  obtain ⟨gamepad, outputs⟩ := initial.outputs
  have pending : start.place.pending = [] := by simpa using initial.effects.symm
  have exchanges : start.place.exchanges = [] := by simpa using initial.exchanges.symm
  have queue : start.server.commands.queue = [] := by simpa using initial.requests.symm
  constructor
  case main => exact ⟨main, begins, by simpa using rest.trans composed.main⟩
  case server => simpa using initial.server.trans composed.server
  case device => simpa using Foundation.Accepts.append_iff.mpr ⟨_, initial.device, composed.device⟩
  case outputs => exact ⟨gamepad, by rw [composed.outputs, outputs]; simp⟩
  case effects => simpa [pending] using composed.effects
  case events => exact composed.events
  case requests => simpa [queue] using composed.requests
  case exchanges => simpa [exchanges] using composed.exchanges

/-- Some steps of the loop alone, in a world that stays the same. -/
def Program.advances (program : Program P F) (world : World P) :
    Nat → Checked (Program P F × List (Occurrence F))
  | 0 => .ok (program, [])
  | steps + 1 => do
    let (mid, early) ← program.advances world steps
    let (after, late) ← mid.advance world
    return (after, early ++ late)

theorem Program.advances_run (fromStr : List UInt8 → Option Request)
    {program after : Program P F} {world : World P} {steps : Nat} {seen : List (Occurrence F)}
    (advances : program.advances world steps = .ok (after, seen)) :
    program.Run fromStr seen after := by
  induction steps generalizing after seen with
  | zero =>
    cases advances
    exact .refl
  | succ steps inductionHypothesis =>
    obtain ⟨⟨mid, early⟩, before, rest⟩ := bind_ok advances
    obtain ⟨⟨after, late⟩, last, done⟩ := bind_ok rest
    cases done
    exact (inductionHypothesis before).snoc (.loop last)

/-- The receiver is there, and no controller is. -/
def quietWorld : World Unit where
  transport := deafReceiver []
  now := fun _ => 0
  fetched := none
  terminated := false

/-- The daemon of the example, before its loop. -/
def quietStart : Program Unit ℚ := (Program.start exampleConfig quietWorld).toOption.get rfl

/-- A controller whose second button is down. -/
def pressingWorld : World Unit :=
  { quietWorld with transport := deafReceiver (0x42 :: 0 :: 2 :: List.replicate 43 0) }

/-- A client has connected. -/
def acceptedServer : Ipc.System (OskState ℚ) :=
  ((quietStart.server.acceptClient (some 0)).toOption.get rfl).1

def acceptedStart : Program Unit ℚ := { quietStart with server := acceptedServer }

theorem acceptedStart_run :
    quietStart.Run Ipc.parseLine [.client (.accepted 1)] acceptedStart := by
  have accepts : Ipc.ThreadStep Ipc.parseLine quietStart.server [.accepted 1] acceptedServer :=
    @Ipc.ThreadStep.accept _ _ _ _ (some 0) _ (fun _ _ => rfl) rfl
  exact Path.single (.socket accepts)

/-- Then a controller connects, and presses a key. -/
theorem exists_pressing : ∃ (seen : List (Occurrence ℚ)) (final : Program Unit ℚ),
    quietStart.Run Ipc.parseLine seen final ∧ final.device.active = some 0 ∧
      final.outputs.keyboard = [⟨⟨48⟩, 1⟩] ∧
      (final.server.sources.get? 0).map (·.enabled) = some true := by
  obtain ⟨⟨final, seen⟩, advances, facts⟩ := map_ok
    (show (acceptedStart.advances pressingWorld 5).map
        (fun result => (result.1.device.active, result.1.outputs.keyboard,
          (result.1.server.sources.get? 0).map (·.enabled))) =
          .ok (some 0, [⟨⟨48⟩, 1⟩], some true) by decide +kernel)
  obtain ⟨active, rest⟩ := Prod.mk.inj facts
  obtain ⟨keyboard, enabled⟩ := Prod.mk.inj rest
  exact ⟨_, final, acceptedStart_run.trans (Program.advances_run Ipc.parseLine advances), active,
    keyboard, enabled⟩

/-- A client connects and asks for the next mode, and the loop comes to the commands. -/
theorem daemon_composes_asked :
    ∃ final : Program Unit ℚ, final.server.commands.queue = [⟨.modeNext, 1⟩] ∧
      Program.Parts Ipc.parseLine exampleConfig
        [.client (.accepted 1), .client (.queued ⟨.modeNext, 1⟩)] final := by
  have started : Program.start exampleConfig quietWorld = .ok quietStart := rfl
  have queued := acceptedStart_run.snoc (.socket
    (@Ipc.ThreadStep.ready _ _ _ 0 _ ⟨Ipc.modeNextLine, .wouldBlock⟩ true _ rfl rfl rfl))
  have atCommands := queued.snoc (@Program.Step.loop _ _ _ _ _ _ _ _ quietWorld _ rfl)
  exact ⟨_, rfl, daemon_composes example_accepted started atCommands⟩

/-- The daemon starts, and from there on no thread panics, however their steps interleave;
    but there is a last client number. -/
theorem daemon_never_panics {config : Config F} (accepted : config.Accepted)
    (delimited : Ipc.OskDelimited fromStr) (world : World P) :
    ∃ start : Program P F, Program.start config world = .ok start ∧
      ∀ seen final, start.Run fromStr seen final →
        (∀ world, ∃ result, final.advance world = .ok result) ∧
        (∀ {token source}, final.server.sources.get? token = some source →
          source.enabled = true → ∀ arrived whole, ∃ result,
            source.reader.ready fromStr arrived whole final.server.state final.server.commands =
              .ok result) ∧
        ∀ registration, final.server.state.nextClient + 1 < 2 ^ 64 →
          ∃ result, final.server.acceptClient registration = .ok result := by
  obtain ⟨mapper, news, wf⟩ := new_wf accepted.wellFormed
  obtain ⟨mode, found⟩ := wf.mode_ok
  have begins : ∃ start : Program P F, Program.start config world = .ok start := by
    simp only [Program.start, MainLoop.start, news, ok_bind, pure_bind, Mapper.gamepad, found]
    exact ⟨_, rfl⟩
  obtain ⟨start, started⟩ := begins
  refine ⟨start, started, fun seen final run => ?_⟩
  obtain ⟨sound, composed⟩ := Program.Run.composed run (Program.Sound.start accepted started)
  have initial : Program.Parts fromStr config [] start := Program.start_parts started
  have server : Ipc.Sound fromStr final.server :=
    (Ipc.run_accepts delimited (initial.server.trans composed.server) 0).1
  refine ⟨sound.advance_returns, ?_, ?_⟩
  · intro token source found enabled arrived whole
    obtain ⟨connection, entry, _, within⟩ := server.listens found enabled
    exact (Ipc.ready_spec within entry arrived whole final.server.commands).exists_ok
  · intro registration below
    unfold Ipc.System.acceptClient
    dsimp only
    rw [if_neg (by omega)]
    split <;> exact ⟨_, rfl⟩

/-- A client has connected and a controller holds a key: in any world the loop goes on, and
    whatever arrives from the client is read. -/
theorem daemon_never_panics_pressing :
    ∃ (final : Program Unit ℚ) (source : Ipc.Source), final.device.active = some 0 ∧
      final.outputs.keyboard = [⟨⟨48⟩, 1⟩] ∧ final.server.sources.get? 0 = some source ∧
      (∀ world, ∃ result, final.advance world = .ok result) ∧
      ∀ arrived whole, ∃ result, source.reader.ready Ipc.parseLine arrived whole
        final.server.state final.server.commands = .ok result := by
  obtain ⟨start, started, safe⟩ :=
    daemon_never_panics (P := Unit) example_accepted Ipc.parseLine_delimited quietWorld
  obtain rfl : quietStart = start := Except.ok.inj started
  obtain ⟨seen, final, run, active, pressed, listens⟩ := exists_pressing
  obtain ⟨source, found, enabled⟩ := Option.map_eq_some_iff.mp listens
  obtain ⟨advances, reads, _⟩ := safe seen final run
  exact ⟨final, source, active, pressed, found, advances, reads found enabled⟩

end

end Scd.Daemon
