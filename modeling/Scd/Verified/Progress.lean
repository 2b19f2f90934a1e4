import Mathlib.Data.Prod.Lex
import Scd.Foundation.Liveness
import Scd.Verified.Composition

/-! # What the daemon goes on to do

Between two turns of the loop the threads of the server and of the game may do as much as they
like, and a turn performs as many effects as it has.  Still the loop comes to every command:
it takes at most 32 of them before it polls the controller, and those that arrive meanwhile
stand behind.  `Place.Goes` is what one step does to the place and the queue.
-/

namespace Scd.Daemon

open Scd.Core Scd.Foundation

section

variable {F : Type}

/-- A step of the loop, by the place and the queue before it and after it. -/
inductive Place.Goes : Place F → List Ipc.ControlCommand → List (Occurrence F) → Place F →
    List Ipc.ControlCommand → Prop where
  | enters (queue : List Ipc.ControlCommand) : Goes .top queue [] (.commands 0) queue
  | leaves (queue : List Ipc.ControlCommand) : Goes .top queue [] .leaving queue
  | takes {taken : Nat} {command : Ipc.ControlCommand} {queue : List Ipc.ControlCommand}
      {response : Option Response} {effects : List (Effect F)} {seen : List (Occurrence F)} :
      taken < 32 →
      Goes (.commands taken) (command :: queue) seen (.answering taken command response effects)
        queue
  | polls {taken : Nat} {queue : List Ipc.ControlCommand} : (taken < 32 → queue = []) →
      Goes (.commands taken) queue [] .polling queue
  | performs {taken : Nat} {command : Ipc.ControlCommand} {response : Option Response}
      {effect : Effect F} {effects : List (Effect F)} {queue : List Ipc.ControlCommand}
      {seen : List (Occurrence F)} :
      Goes (.answering taken command response (effect :: effects)) queue seen
        (.answering taken command response effects) queue
  | answers {taken : Nat} {command : Ipc.ControlCommand} {response : Option Response}
      {queue : List Ipc.ControlCommand} {seen : List (Occurrence F)} :
      (∀ answer, response = some answer → .client (.answered command answer) ∈ seen) →
      Goes (.answering taken command response []) queue seen (.commands (taken + 1)) queue
  | polled {place : Place F} {queue : List Ipc.ControlCommand} {seen : List (Occurrence F)} :
      (place = .refreshing ∨ ∃ effects, place = .handling effects) →
      Goes .polling queue seen place queue
  | handles {effect : Effect F} {effects : List (Effect F)} {queue : List Ipc.ControlCommand}
      {seen : List (Occurrence F)} :
      Goes (.handling (effect :: effects)) queue seen (.handling effects) queue
  | handled (queue : List Ipc.ControlCommand) : Goes (.handling []) queue [] .refreshing queue
  | refreshes (queue : List Ipc.ControlCommand) : Goes .refreshing queue [] .rumbling queue
  | rumbles {queue : List Ipc.ControlCommand} {seen : List (Occurrence F)} :
      Goes .rumbling queue seen .top queue
  | loses {command : Ipc.ControlCommand} {queue : List Ipc.ControlCommand} :
      Goes .leaving (command :: queue) [.client (.lost command)] .leaving queue
  | ends : Goes .leaving [] [] .ended []
  | rests (queue : List Ipc.ControlCommand) : Goes .ended queue [] .ended queue

end

section

variable {P F : Type} [Scalar F] [DecidableEq (OskState F)] [Platform F]

omit [Platform F] in
theorem carry_queue (program : Program P F) (transport : Transport P) (effect : Effect F)
    (place : Place F) :
    (program.carry transport effect place).1.server.commands.queue =
      program.server.commands.queue := by
  show (program.perform transport effect).server.commands.queue = _
  rcases Program.perform_server program transport effect with same | ⟨keyboard, _, published⟩
  · rw [same]
  · rw [published, (Program.publishOsk_commands _ _).1]

omit [Scalar F] [DecidableEq (OskState F)] [Platform F] in
theorem rumbled_turn {program after : Program P F} {world : World P} {seen : List (Occurrence F)}
    (rumbled : program.Rumbled world seen after) :
    after.place = .top ∧ after.server = program.server := by
  cases rumbled <;> exact ⟨rfl, rfl⟩

theorem Program.advance_goes {program after : Program P F} {world : World P}
    {seen : List (Occurrence F)} (advanced : program.advance world = .ok (after, seen)) :
    program.place.Goes program.server.commands.queue seen after.place
      after.server.commands.queue := by
  unfold Program.advance at advanced
  split at advanced
  · next top =>
    rw [top]
    split at advanced
    · cases advanced
      exact .leaves _
    · cases advanced
      exact .enters _
  · next taken atCommands =>
    rw [atCommands]
    split at advanced
    · next command queue queued =>
      rw [queued]
      split at advanced
      · next below =>
        obtain ⟨turn, responded, done⟩ := bind_ok advanced
        cases done
        exact .takes below
      · next enough =>
        cases advanced
        rw [queued]
        exact .polls fun below => absurd below enough
    · next empty =>
      cases advanced
      exact .polls fun _ => empty
  · next taken command response effect effects answering =>
    obtain rfl : (program.carry world.transport effect
        (.answering taken command response effects)).1 = after :=
      congrArg Prod.fst (Except.ok.inj advanced)
    rw [answering, carry_queue]
    exact .performs
  · next taken command response answering =>
    rw [answering]
    cases response with
    | none =>
      cases advanced
      exact .answers fun answer impossible => by cases impossible
    | some response =>
      cases advanced
      exact .answers fun answer same => by
        cases same
        exact List.mem_singleton.mpr rfl
  · next polling =>
    rw [polling]
    rcases polled : (program.device.poll world.transport : _ × Option (DeviceEvent F)) with
      ⟨device, event⟩
    simp only [Program.pollDevice, polled] at advanced
    cases event with
    | none =>
      cases advanced
      exact .polled (.inl rfl)
    | some event =>
      obtain ⟨turn, handled, done⟩ := bind_ok advanced
      cases done
      exact .polled (.inr ⟨_, rfl⟩)
  · next effect effects handling =>
    obtain rfl : (program.carry world.transport effect (.handling effects)).1 = after :=
      congrArg Prod.fst (Except.ok.inj advanced)
    rw [handling, carry_queue]
    exact .handles
  · next handling =>
    cases advanced
    rw [handling]
    exact .handled _
  · next refreshing =>
    cases advanced
    rw [refreshing]
    unfold Program.refreshLizard
    split <;> exact .refreshes _
  · next rumbling =>
    obtain rfl : (program.pollRumble world).1 = after :=
      congrArg Prod.fst (Except.ok.inj advanced)
    obtain ⟨place, server⟩ := rumbled_turn (Program.pollRumble_kind program world)
    rw [rumbling, place, server]
    exact .rumbles
  · next leaving =>
    rw [leaving]
    split at advanced
    · next command queue queued =>
      cases advanced
      show Place.Goes _ _ _ program.place _
      rw [queued, leaving]
      exact .loses
    · next empty =>
      cases advanced
      rw [empty]
      exact .ends
  · next ended =>
    cases advanced
    rw [ended]
    exact .rests _

/-! ## The other threads -/

/-- A step of the loop. -/
def Program.Loops (program : Program P F) (seen : List (Occurrence F)) (after : Program P F) :
    Prop := ∃ world, program.advance world = .ok (after, seen)

omit [Scalar F] [DecidableEq (OskState F)] [Platform F] in
/-- A step of the thread of the server that takes an event of the channel. -/
def Program.Delivers (program : Program P F) (seen : List (Occurrence F)) (after : Program P F) :
    Prop :=
  ∃ whole, seen = (program.server.deliver whole).2.map .client ∧
    after = { program with server := (program.server.deliver whole).1 }

namespace Ipc

variable {S : Type} {fromStr : List UInt8 → Option Request}

theorem pushTo_channels (whole : Nat → Bool) (system : System S) (client : Nat) :
    (system.pushTo whole client).1.commands = system.commands ∧
      (system.pushTo whole client).1.events = system.events := by
  unfold System.pushTo
  split
  · exact ⟨rfl, rfl⟩
  · split
    · exact ⟨rfl, rfl⟩
    · split <;> exact ⟨rfl, rfl⟩

theorem pushAll_channels (whole : Nat → Bool) (order : List Nat) (system : System S) :
    (system.pushAll whole order).1.commands = system.commands ∧
      (system.pushAll whole order).1.events = system.events := by
  induction order generalizing system with
  | nil => exact ⟨rfl, rfl⟩
  | cons client order inductionHypothesis =>
    obtain ⟨commands, events⟩ := inductionHypothesis (system.pushTo whole client).1
    obtain ⟨commandsTo, eventsTo⟩ := pushTo_channels whole system client
    exact ⟨commands.trans commandsTo, events.trans eventsTo⟩

/-- Nothing is put into a channel whose receiver has gone. -/
theorem ready_closed {reader : ClientReader} {arrived : Arrived} {whole : Bool}
    {state : IpcState S} {commands : Commands} {result : Ready S}
    (returned : reader.ready fromStr arrived whole state commands = .ok result)
    (closed : commands.receiver = false) : result.commands = commands := by
  obtain ⟨⟨request, line⟩, _, rest⟩ := bind_ok returned
  cases line with
  | more | rejected | closed =>
    cases rest
    rfl
  | request parsed =>
    have refused : commands.trySend ⟨parsed, reader.client⟩ = .error .disconnected := by
      simp [Commands.trySend, closed]
    cases parsed with
    | osk =>
      dsimp only at rest
      split at rest
      · cases rest
      · cases whole with
        | true | false =>
          cases rest
          rfl
    | _ =>
      simp only [refused] at rest
      cases rest
      rfl

theorem ThreadStep.closed {before after : System S} {sightings : List (Ipc.Sighting S)}
    (step : ThreadStep fromStr before sightings after)
    (closed : before.commands.receiver = false) : after.commands = before.commands := by
  cases step with
  | accept fresh accepted =>
    unfold System.acceptClient at accepted
    dsimp only at accepted
    split at accepted
    · cases accepted
    · split at accepted
      · cases accepted
        rfl
      · cases accepted
        rfl
  | ready found enabled returned => exact ready_closed returned closed
  | deliver =>
    unfold System.deliver
    split
    · rfl
    · rfl
    · dsimp only
      split <;> rfl
  | push =>
    unfold System.push
    split
    · rfl
    · exact (pushAll_channels _ _ _).1

/-- Only the callback of the channel takes an event from it. -/
theorem ThreadStep.events {before after : System S} {sightings : List (Ipc.Sighting S)}
    (step : ThreadStep fromStr before sightings after) : after.events = before.events ∨
      ∃ whole, sightings = (before.deliver whole).2 ∧ after = (before.deliver whole).1 := by
  cases step with
  | accept fresh accepted =>
    left
    unfold System.acceptClient at accepted
    dsimp only at accepted
    split at accepted
    · cases accepted
    · split at accepted
      · cases accepted
        rfl
      · cases accepted
        rfl
  | ready => exact .inl rfl
  | deliver => exact .inr ⟨_, rfl, rfl⟩
  | push =>
    left
    unfold System.push
    split
    · rfl
    · exact (pushAll_channels _ _ _).2

end Ipc

variable {fromStr : List UInt8 → Option Request} {program after : Program P F}
  {seen : List (Occurrence F)}

/-- A step that is not one of the loop leaves the loop where it is, and adds to the queue. -/
structure Program.Beside (program after : Program P F) : Prop where
  place : after.place = program.place
  queue : ∃ more, after.server.commands.queue = program.server.commands.queue ++ more
  closed : program.server.commands.receiver = false →
    after.server.commands = program.server.commands

theorem Program.step_goes (step : program.Step fromStr seen after) :
    program.Loops seen after ∨ program.Beside after := by
  cases step with
  | loop advanced => exact .inl ⟨_, advanced⟩
  | socket step =>
    have commands := congrArg Ipc.Commands.queue step.threaded.commands
    exact .inr ⟨rfl, ⟨_, commands⟩, step.closed⟩
  | game => exact .inr ⟨rfl, ⟨[], (List.append_nil _).symm⟩, fun _ => rfl⟩

/-! ## Commands -/

/-- How far the loop is from taking a command, or from dropping one. -/
def Place.delay {F : Type} : Place F → ℕ ×ₗ ℕ
  | .commands taken => toLex (if taken < 32 then 0 else 6, 0)
  | .top => toLex (1, 0)
  | .rumbling => toLex (2, 0)
  | .refreshing => toLex (3, 0)
  | .handling effects => toLex (4, effects.length)
  | .polling => toLex (5, 0)
  | .answering _ _ _ effects => toLex (7, effects.length)
  | .leaving | .ended => toLex (0, 0)

/-- A command that stands in the queue behind others, or is being answered. -/
inductive Place.Awaits {F : Type} (command : Ipc.ControlCommand) :
    ℕ ×ₗ (ℕ ×ₗ ℕ) → Place F → List Ipc.ControlCommand → Prop where
  | queued {place : Place F} {ahead behind : List Ipc.ControlCommand} : place ≠ .ended →
      Awaits command (toLex (ahead.length + 1, place.delay)) place (ahead ++ command :: behind)
  | answered {taken : Nat} {response : Response} {effects : List (Effect F)}
      {queue : List Ipc.ControlCommand} :
      Awaits command (toLex (0, toLex (0, effects.length)))
        (.answering taken command (some response) effects) queue

/-- What becomes of a command: only a loop that has been left drops one. -/
def Place.Concludes {F : Type} (command : Ipc.ControlCommand) (place : Place F)
    (seen : List (Occurrence F)) : Prop :=
  (place = .leaving ∧ .client (.lost command) ∈ seen) ∨
    ∃ response, .client (.answered command response) ∈ seen

section

omit [Scalar F] [DecidableEq (OskState F)] [Platform F]

variable {place next : Place F} {queue rest : List Ipc.ControlCommand}
  {command : Ipc.ControlCommand} {rank : ℕ ×ₗ (ℕ ×ₗ ℕ)}

/-- The command keeps its place in the queue, and the loop comes nearer. -/
theorem awaits_nearer {ahead behind : List Ipc.ControlCommand} (running : next ≠ .ended)
    (nearer : next.delay < place.delay) :
    place.Concludes command seen ∨ ∃ lower, lower < toLex (ahead.length + 1, place.delay) ∧
      next.Awaits command lower (ahead ++ command :: behind) := by
  refine .inr ⟨toLex (ahead.length + 1, next.delay), ?_, .queued running⟩
  exact Prod.Lex.toLex_lt_toLex.mpr (.inr ⟨rfl, nearer⟩)

/-- A step of the loop settles the command or brings it nearer. -/
theorem Place.Goes.lowers (goes : place.Goes queue seen next rest)
    (answers : ∀ {command response}, next.answer = some (command, response) → response.isSome)
    (awaits : place.Awaits command rank queue) :
    place.Concludes command seen ∨ ∃ lower, lower < rank ∧ next.Awaits command lower rest := by
  cases awaits with
  | @answered taken response effects =>
    cases goes with
    | performs =>
      refine .inr ⟨_, ?_, .answered⟩
      simp [Prod.Lex.toLex_lt_toLex]
    | answers label => exact .inl (.inr ⟨response, label response rfl⟩)
  | @queued _ ahead behind running =>
    generalize stands : ahead ++ command :: behind = queue at goes
    cases goes with
    | rests => exact absurd rfl running
    | ends => simp at stands
    | @takes taken head tail response effects below =>
      cases ahead with
      | nil =>
        obtain ⟨rfl, rfl⟩ := List.cons.inj stands
        obtain ⟨response, rfl⟩ := Option.isSome_iff_exists.mp (answers rfl)
        refine .inr ⟨_, ?_, .answered⟩
        simp [Prod.Lex.toLex_lt_toLex]
      | cons first ahead =>
        obtain ⟨rfl, rfl⟩ := List.cons.inj stands
        refine .inr ⟨_, ?_, .queued (by simp)⟩
        simp [Prod.Lex.toLex_lt_toLex]
    | @loses head tail =>
      cases ahead with
      | nil =>
        obtain ⟨rfl, rfl⟩ := List.cons.inj stands
        exact .inl (.inl ⟨rfl, List.mem_cons_self⟩)
      | cons first ahead =>
        obtain ⟨rfl, rfl⟩ := List.cons.inj stands
        refine .inr ⟨_, ?_, .queued (by simp)⟩
        simp [Prod.Lex.toLex_lt_toLex]
    | @polls taken _ empty =>
      have enough : ¬ taken < 32 := by
        intro below
        rw [empty below] at stands
        simp at stands
      subst stands
      refine awaits_nearer (by simp) ?_
      simp [Place.delay, enough, Prod.Lex.toLex_lt_toLex]
    | polled next =>
      subst stands
      obtain rfl | ⟨effects, rfl⟩ := next
      · exact awaits_nearer (by simp) (by simp [Place.delay, Prod.Lex.toLex_lt_toLex])
      · exact awaits_nearer (by simp) (by simp [Place.delay, Prod.Lex.toLex_lt_toLex])
    | @answers taken =>
      subst stands
      refine awaits_nearer (by simp) ?_
      simp only [Place.delay, Prod.Lex.toLex_lt_toLex]
      split <;> omega
    | _ =>
      subst stands
      exact awaits_nearer (by simp) (by simp [Place.delay, Prod.Lex.toLex_lt_toLex])

/-- What stands in the queue keeps its place when others come behind. -/
theorem Place.Awaits.behind (awaits : place.Awaits command rank queue)
    (more : List Ipc.ControlCommand) : place.Awaits command rank (queue ++ more) := by
  cases awaits with
  | queued running =>
    rw [List.append_assoc]
    exact .queued running
  | answered => exact .answered

end

theorem commands_ranking (command : Ipc.ControlCommand) :
    Ranking (Program.Step (P := P) (F := F) fromStr) Program.Loops
      (fun program seen _ => program.place.Concludes command seen) fun rank program =>
      program.Sound ∧
        program.place.Awaits command rank program.server.commands.queue := by
  have lowers : ∀ {rank : ℕ ×ₗ (ℕ ×ₗ ℕ)} {program after : Program P F}
      {seen : List (Occurrence F)}, program.Loops seen after → program.Sound →
      program.place.Awaits command rank program.server.commands.queue →
      program.place.Concludes command seen ∨ ∃ lower, lower < rank ∧ after.Sound ∧
        after.place.Awaits command lower after.server.commands.queue := by
    intro rank program after seen loops sound awaits
    obtain ⟨world, advanced⟩ := loops
    have step : program.Step fromStr seen after := .loop advanced
    have next : after.Sound := sound.step step
    cases (Program.advance_goes advanced).lowers next.answered awaits with
    | inl concluded => exact .inl concluded
    | inr lower =>
      obtain ⟨lower, below, awaits⟩ := lower
      exact .inr ⟨lower, below, next, awaits⟩
  constructor
  case kept =>
    rintro rank program seen after step ⟨sound, awaits⟩
    cases Program.step_goes step with
    | inl loops =>
      cases lowers loops sound awaits with
      | inl concluded => exact .inl concluded
      | inr lower =>
        obtain ⟨lower, below, next⟩ := lower
        exact .inr ⟨lower, below.le, next⟩
    | inr beside =>
      obtain ⟨more, queue⟩ := beside.queue
      refine .inr ⟨rank, le_rfl, sound.step step, ?_⟩
      rw [beside.place, queue]
      exact awaits.behind more
  case falls =>
    rintro rank program seen after loops ⟨sound, awaits⟩
    exact lowers loops sound awaits

/-! ## Responses -/

omit [Scalar F] [DecidableEq (OskState F)] [Platform F] in
theorem not_client_controller (before after : Program P F) (event : Option (DeviceEvent F))
    (sighting : Ipc.Sighting (OskState F)) :
    .client sighting ∉ Program.controller before after event := by
  unfold Program.controller
  cases event <;> split <;> simp

/-- A command is answered where the loop has performed all its effects. -/
theorem answered_event (step : program.Step fromStr seen after) {command : Ipc.ControlCommand}
    {response : Response} (answered : .client (.answered command response) ∈ seen) :
    program.place.left = false ∧ after.server.events =
      program.server.events ++ [.response command.client response] := by
  cases step with
  | game => cases answered
  | @socket server sightings step =>
    obtain ⟨sighting, member, same⟩ := List.mem_map.mp answered
    cases same
    have none : (command, response) ∈ sightings.filterMap Ipc.Sighting.answered? :=
      List.mem_filterMap.mpr ⟨_, member, rfl⟩
    rw [step.threaded.answered] at none
    cases none
  | loop advanced =>
    cases Program.advance_kind advanced with
    | answers taken other given place =>
      cases given with
      | none => cases answered
      | some given =>
        cases List.mem_singleton.mp answered
        rw [place]
        exact ⟨rfl, rfl⟩
    | rumbles _ rumbled =>
      cases rumbled with
      | keeps => cases answered
      | sends =>
        refine absurd ((List.mem_cons.mp answered).resolve_left (by simp)) ?_
        exact not_client_controller _ _ _ _
    | carries =>
      refine absurd ((List.mem_cons.mp answered).resolve_left (by simp)) ?_
      exact not_client_controller _ _ _ _
    | quiet => exact absurd answered (not_client_controller _ _ _ _)
    | handles =>
      rw [List.mem_append] at answered
      refine absurd (answered.resolve_right (by simp)) ?_
      exact not_client_controller _ _ _ _
    | moves | takes | leaves | loses | ends => simp at answered

/-- The channel of the events grows behind, and its end is the end of the loop. -/
theorem Program.step_events (step : program.Step fromStr seen after) :
    program.Delivers seen after ∨ ∃ more,
      after.server.events = program.server.events ++ more ∧
        (.shutdown ∈ more → after.place = .ended) := by
  have none : ∀ {after : Program P F}, after.server.events = program.server.events → ∃ more,
      after.server.events = program.server.events ++ more ∧
        (.shutdown ∈ more → after.place = .ended) :=
    fun same => ⟨[], by rw [same, List.append_nil], fun impossible => by cases impossible⟩
  cases step with
  | game => exact .inr (none rfl)
  | socket step =>
    cases step.events with
    | inl same => exact .inr (none same)
    | inr delivers =>
      obtain ⟨whole, rfl, rfl⟩ := delivers
      exact .inl ⟨whole, rfl, rfl⟩
  | loop advanced =>
    rename_i world
    right
    cases Program.advance_kind advanced with
    | @carries effect =>
      apply none
      show (program.perform world.transport effect).server.events = _
      rcases Program.perform_server program world.transport effect with same | ⟨_, _, published⟩
      · rw [same]
      · rw [published, Ipc.System.publishOsk]
        split <;> rfl
    | answers taken command response =>
      cases response with
      | none => exact none rfl
      | some response =>
        refine ⟨[.response command.client response], rfl, fun impossible => ?_⟩
        cases List.mem_singleton.mp impossible
    | rumbles place rumbled => exact none (congrArg Ipc.System.events (rumbled_turn rumbled).2)
    | ends => exact ⟨[.shutdown], rfl, fun _ => rfl⟩
    | _ => exact none rfl

/-- A loop that has ended stays where it is. -/
theorem Program.step_ended (step : program.Step fromStr seen after)
    (ended : program.place = .ended) : after.place = .ended := by
  cases Program.step_goes step with
  | inl loops =>
    obtain ⟨world, advanced⟩ := loops
    have goes := Program.advance_goes advanced
    rw [ended] at goes
    generalize after.place = next at goes
    generalize program.server.commands.queue = queue at goes
    generalize after.server.commands.queue = rest at goes
    cases goes
    rfl
  | inr beside => rw [beside.place, ended]

/-- The end of the loop is the last event, and no command is left behind. -/
structure Program.Open (program : Program P F) : Prop where
  sound : program.Sound
  running : program.place ≠ .ended → .shutdown ∉ program.server.events
  drained : program.place = .ended → program.server.commands.queue = []

theorem Program.Open.step (holds : program.Open) (step : program.Step fromStr seen after) :
    after.Open where
  sound := holds.sound.step step
  running := by
    intro running
    have before : program.place ≠ .ended := fun ended => running (Program.step_ended step ended)
    cases Program.step_events step with
    | inl delivers =>
      obtain ⟨whole, _, rfl⟩ := delivers
      intro member
      refine holds.running before ?_
      revert member
      simp only [Ipc.System.deliver]
      split
      · next none => exact id
      · next shut =>
        rw [shut]
        exact List.mem_cons_of_mem _
      · next responds =>
        rw [responds]
        split <;> exact List.mem_cons_of_mem _
    | inr grows =>
      obtain ⟨more, events, last⟩ := grows
      rw [events, List.mem_append]
      rintro (old | new)
      · exact holds.running before old
      · exact running (last new)
  drained := by
    intro ended
    cases Program.step_goes step with
    | inl loops =>
      obtain ⟨world, advanced⟩ := loops
      have goes := Program.advance_goes advanced
      rw [ended] at goes
      generalize from_ : program.place = place at goes
      generalize queued : program.server.commands.queue = queue at goes
      generalize after.server.commands.queue = rest at goes
      cases goes with
      | ends => rfl
      | polled next => simp at next
      | rests =>
        rw [← queued]
        exact holds.drained from_
    | inr beside =>
      have place : program.place = .ended := by rw [← beside.place, ended]
      have closed : program.server.commands.receiver = false := by
        rw [holds.sound.receiver, place]
        rfl
      rw [beside.closed closed]
      exact holds.drained place

theorem Program.Open.start {config : Config F} (accepted : config.Accepted) {world : World P}
    {start : Program P F} (started : Program.start config world = .ok start) : start.Open where
  sound := .start accepted started
  running := by
    obtain ⟨main, _, rest⟩ := bind_ok started
    obtain ⟨gamepad, _, done⟩ := bind_ok rest
    cases done
    have empty : ((Ipc.System.bind OskState.default).publishOsk main.keyboard).events = [] := by
      unfold Ipc.System.publishOsk
      split <;> rfl
    intro _ member
    rw [empty] at member
    cases member
  drained := by
    obtain ⟨main, _, rest⟩ := bind_ok started
    obtain ⟨gamepad, _, done⟩ := bind_ok rest
    cases done
    intro ended
    cases ended

/-! ## The event loop of the server -/

/-- The response is written, or its client has gone. -/
def Program.Serves (client : Nat) (response : Response) (program : Program P F)
    (seen : List (Occurrence F)) : Prop :=
  (∃ whole, .client (.wrote client (.response response) whole) ∈ seen) ∨
    program.server.state.clients.get? client = none

/-- The response stands in the channel, and the end of the loop is not before it. -/
def Program.Responds (client : Nat) (response : Response) (rank : Nat) (program : Program P F) :
    Prop :=
  ∃ ahead behind, program.server.events = ahead ++ .response client response :: behind ∧
    ahead.length = rank ∧ .shutdown ∉ ahead

omit [Scalar F] [DecidableEq (OskState F)] [Platform F] in
theorem delivers_lowers {client : Nat} {response : Response} {rank : Nat}
    (delivers : program.Delivers seen after) (responds : program.Responds client response rank) :
    program.Serves client response seen ∨
      ∃ lower, lower < rank ∧ after.Responds client response lower := by
  obtain ⟨whole, rfl, rfl⟩ := delivers
  obtain ⟨ahead, behind, events, length, before⟩ := responds
  cases ahead with
  | nil =>
    left
    simp only [Ipc.System.deliver, events, List.nil_append, Program.Serves]
    cases found : program.server.state.clients.get? client with
    | none => exact .inr rfl
    | some connection => exact .inl ⟨whole, by simp⟩
  | cons first ahead =>
    right
    refine ⟨ahead.length, by simp [← length], ahead, behind, ?_, rfl, ?_⟩
    · simp only [Ipc.System.deliver, events, List.cons_append]
      cases first with
      | shutdown => exact absurd List.mem_cons_self before
      | response other given =>
        dsimp only
        split <;> rfl
    · exact fun member => before (List.mem_cons_of_mem _ member)

theorem responses_ranking (client : Nat) (response : Response) :
    Ranking (Program.Step (P := P) (F := F) fromStr) Program.Delivers
      (fun program seen _ => program.Serves client response seen)
      (Program.Responds client response) where
  kept := by
    intro rank program seen after step responds
    cases Program.step_events step with
    | inl delivers =>
      cases delivers_lowers delivers responds with
      | inl serves => exact .inl serves
      | inr lower =>
        obtain ⟨lower, below, next⟩ := lower
        exact .inr ⟨lower, below.le, next⟩
    | inr grows =>
      obtain ⟨more, events, _⟩ := grows
      obtain ⟨ahead, behind, stands, length, before⟩ := responds
      refine .inr ⟨rank, le_rfl, ahead, behind ++ more, ?_, length, before⟩
      rw [events, stands, List.append_assoc, List.cons_append]
  falls := by
    intro rank program seen after delivers responds
    exact delivers_lowers delivers responds

/-! ## Turns of the loop -/

/-- How far the loop is from polling the controller: a turn takes 32 commands at most. -/
def Place.distance {F : Type} : Place F → ℕ ×ₗ (ℕ ×ₗ ℕ)
  | .commands taken => toLex (1, toLex (2 * (32 - taken) + 1, 0))
  | .answering taken _ _ effects => toLex (1, toLex (2 * (32 - taken), effects.length))
  | .top => toLex (2, toLex (0, 0))
  | .rumbling => toLex (3, toLex (0, 0))
  | .refreshing => toLex (4, toLex (0, 0))
  | .handling effects => toLex (5, toLex (0, effects.length))
  | .polling | .leaving | .ended => toLex (0, toLex (0, 0))

def Place.Bounded {F : Type} : Place F → Prop
  | .answering taken _ _ _ => taken < 32
  | _ => True

/-- The turn has polled the controller, or the loop has been left. -/
def Place.past {F : Type} : Place F → Bool
  | .handling _ | .refreshing | .rumbling | .top | .leaving | .ended => true
  | .commands _ | .answering _ _ _ _ | .polling => false

/-- If the loop takes this step, it is in a world in which the flag of its end is set. -/
def Program.FlagSet (program : Program P F) (seen : List (Occurrence F)) (after : Program P F) :
    Prop :=
  program.Loops seen after → ∃ world, world.terminated = true ∧
    program.advance world = .ok (after, seen)

/-- A step that polls the controller. -/
def Program.Polls (program : Program P F) (seen : List (Occurrence F)) (after : Program P F) :
    Prop := program.place = .polling ∧ program.Loops seen after

section

omit [Scalar F] [DecidableEq (OskState F)] [Platform F]

variable {place next : Place F} {queue rest : List Ipc.ControlCommand}

theorem Place.Goes.bounded (goes : place.Goes queue seen next rest) (bounded : place.Bounded) :
    next.Bounded := by
  cases goes with
  | takes below => exact below
  | performs => exact bounded
  | polled next => obtain rfl | ⟨effects, rfl⟩ := next <;> trivial
  | _ => trivial

theorem Place.Goes.closer (goes : place.Goes queue seen next rest) (bounded : place.Bounded)
    (inLoop : place.left = false) :
    place = .polling ∨ next.left = true ∨ next.distance < place.distance := by
  cases goes with
  | polled => exact .inl rfl
  | leaves => exact .inr (.inl rfl)
  | loses | ends | rests => cases inLoop
  | @answers taken =>
    have below : taken < 32 := bounded
    right
    right
    simp [Place.distance, Prod.Lex.toLex_lt_toLex]
    omega
  | polls => simp [Place.distance, Prod.Lex.toLex_lt_toLex]
  | _ => simp [Place.distance, Prod.Lex.toLex_lt_toLex]

/-- The only way on from behind the poll is through the top of the loop. -/
theorem Place.Goes.past (goes : place.Goes queue seen next rest) (past : place.past = true)
    (flag : place = .top → next ≠ .commands 0) : next.past = true := by
  cases goes with
  | enters => exact absurd rfl (flag rfl)
  | takes | performs | answers | polls | polled => cases past
  | _ => rfl

end

/-- The flag is read at the top of the loop only. -/
theorem advance_terminated (world : World P) (place : program.place ≠ .top) :
    program.advance { world with terminated := true } = program.advance world := by
  unfold Program.advance
  split
  · next top => exact absurd top place
  all_goals rfl

theorem flagSet_of_ne (place : program.place = .top → after.place = .top) :
    program.FlagSet seen after := by
  rintro ⟨world, advanced⟩
  refine ⟨{ world with terminated := true }, rfl, ?_⟩
  by_cases top : program.place = .top
  · -- no step of the loop stays at the top
    have goes := Program.advance_goes advanced
    rw [top, place top] at goes
    nomatch goes
  · rw [advance_terminated world top, advanced]

/-- With the flag set, the top of the loop is not passed. -/
theorem Program.FlagSet.past (flag : program.FlagSet seen after)
    (step : program.Step fromStr seen after) (past : program.place.past = true) :
    after.place.past = true := by
  cases Program.step_goes step with
  | inr beside => rwa [beside.place]
  | inl loops =>
    obtain ⟨world, set, advanced⟩ := flag loops
    refine (Program.advance_goes advanced).past past fun top => ?_
    simp only [Program.advance, top, set, if_true] at advanced
    cases advanced
    simp

theorem polls_ranking : Ranking (Program.Step (P := P) (F := F) fromStr) Program.Loops
    (fun program seen after => program.Polls seen after ∨ after.place.left = true)
    fun rank program => program.place.Bounded ∧ program.place.left = false ∧
      program.place.distance = rank := by
  have closer : ∀ {rank : ℕ ×ₗ (ℕ ×ₗ ℕ)} {program after : Program P F}
      {seen : List (Occurrence F)}, program.Loops seen after → program.place.Bounded →
      program.place.left = false → program.place.distance = rank →
      (program.Polls seen after ∨ after.place.left = true) ∨ ∃ lower, lower < rank ∧
        after.place.Bounded ∧ after.place.left = false ∧ after.place.distance = lower := by
    rintro rank program after seen loops bounded inLoop rfl
    obtain ⟨world, advanced⟩ := loops
    have goes := Program.advance_goes advanced
    cases left : after.place.left with
    | true => exact .inl (.inr rfl)
    | false =>
      rcases goes.closer bounded inLoop with polling | gone | nearer
      · exact .inl (.inl ⟨polling, world, advanced⟩)
      · rw [left] at gone
        cases gone
      · exact .inr ⟨_, nearer, goes.bounded bounded, rfl, rfl⟩
  constructor
  case kept =>
    rintro rank program seen after step ⟨bounded, inLoop, rfl⟩
    cases Program.step_goes step with
    | inl loops =>
      cases closer loops bounded inLoop rfl with
      | inl met => exact .inl met
      | inr lower =>
        obtain ⟨lower, below, next⟩ := lower
        exact .inr ⟨lower, below.le, next⟩
    | inr beside =>
      rw [beside.place]
      exact .inr ⟨_, le_rfl, bounded, inLoop, rfl⟩
  case falls =>
    rintro rank program seen after loops ⟨bounded, inLoop, same⟩
    exact closer loops bounded inLoop same

/-- A loop that has been left drops what is still in the channel, and ends. -/
theorem ends_ranking : Ranking (Program.Step (P := P) (F := F) fromStr) Program.Loops
    (fun _ _ after => after.place = .ended)
    fun rank program => program.Sound ∧ program.place = .leaving ∧
      program.server.commands.queue.length = rank := by
  have falls : ∀ {rank : Nat} {program after : Program P F} {seen : List (Occurrence F)},
      program.Loops seen after → program.Sound → program.place = .leaving →
      program.server.commands.queue.length = rank →
      after.place = .ended ∨ ∃ lower, lower < rank ∧ after.Sound ∧ after.place = .leaving ∧
        after.server.commands.queue.length = lower := by
    rintro rank program after seen ⟨world, advanced⟩ sound leaving rfl
    have step : program.Step fromStr seen after := .loop advanced
    have next : after.Sound := sound.step step
    have goes := Program.advance_goes advanced
    rw [leaving] at goes
    generalize program.server.commands.queue = queue at goes
    generalize after.place = place at goes
    generalize after.server.commands.queue = rest at goes
    cases goes with
    | loses =>
      exact .inr ⟨_, by simp, next, rfl, rfl⟩
    | ends => exact .inl rfl
  constructor
  case kept =>
    rintro rank program seen after step ⟨sound, leaving, rfl⟩
    cases Program.step_goes step with
    | inl loops =>
      cases falls loops sound leaving rfl with
      | inl met => exact .inl met
      | inr lower =>
        obtain ⟨lower, below, next⟩ := lower
        exact .inr ⟨lower, below.le, next⟩
    | inr beside =>
      have closed : program.server.commands.receiver = false := by
        rw [sound.receiver, leaving]
        rfl
      rw [beside.place, beside.closed closed]
      exact .inr ⟨_, le_rfl, sound.step step, leaving, rfl⟩
  case falls =>
    rintro rank program seen after loops ⟨sound, leaving, same⟩
    exact falls loops sound leaving same

/-! ## Fair executions -/

theorem Program.step_bounded {program after : Program P F} {seen : List (Occurrence F)}
    (step : program.Step fromStr seen after) (bounded : program.place.Bounded) :
    after.place.Bounded := by
  cases Program.step_goes step with
  | inl loops =>
    obtain ⟨world, advanced⟩ := loops
    exact (Program.advance_goes advanced).bounded bounded
  | inr beside => rwa [beside.place]

/-- After a poll the loop goes through its turn before it polls again. -/
theorem Program.Polls.past {program after : Program P F} {seen : List (Occurrence F)}
    (polls : program.Polls seen after) : after.place.past = true := by
  obtain ⟨polling, world, advanced⟩ := polls
  have goes := Program.advance_goes advanced
  rw [polling] at goes
  generalize after.place = next at goes
  generalize program.server.commands.queue = queue at goes
  generalize after.server.commands.queue = rest at goes
  cases goes with
  | polled next => obtain rfl | ⟨effects, rfl⟩ := next <;> rfl

section

variable {execution : Execution (Program.Step (P := P) (F := F) fromStr)} {time : Nat}

/-- A loop that has been left comes to its end and stays there. -/
theorem ends_for_good (sound : ∀ time, (execution.state time).Sound)
    (loops : execution.Often Program.Loops) (left : (execution.state time).place.left = true) :
    ∃ time, ∀ later, time ≤ later → (execution.state later).place = .ended := by
  have reached : ∃ time, (execution.state time).place = .ended := by
    cases place : (execution.state time).place with
    | ended => exact ⟨time, place⟩
    | leaving =>
      obtain ⟨later, _, ended⟩ := ends_ranking.leads_to (fun _ => loops _)
        ⟨sound time, place, rfl⟩
      exact ⟨later + 1, ended⟩
    | _ =>
      rw [place] at left
      cases left
  obtain ⟨time, ended⟩ := reached
  refine ⟨time, fun later after => ?_⟩
  induction later, after using Nat.le_induction with
  | base => exact ended
  | succ later _ inductionHypothesis =>
    exact Program.step_ended (execution.steps later) inductionHypothesis

/-- A loop that finds the flag set does not come back to the poll. -/
theorem stays_past (flag : ∀ later, time ≤ later → execution.At Program.FlagSet later)
    (past : (execution.state time).place.past = true) {later : Nat} (after : time ≤ later) :
    (execution.state later).place.past = true := by
  induction later, after using Nat.le_induction with
  | base => exact past
  | succ later behind inductionHypothesis =>
    exact (flag later behind).past (execution.steps later) inductionHypothesis

end

/-- In every execution in which the loop goes on, and the event loop of the server comes to a
    response that is due: each command in the channel is answered or, by a daemon that ends,
    dropped; and an answer is written to its client, unless the client has gone. -/
theorem commands_are_answered {config : Config F} (accepted : config.Accepted) {world : World P}
    {execution : Execution (Program.Step (P := P) (F := F) fromStr)}
    (started : Program.start config world = .ok (execution.state 0))
    (loops : execution.Often Program.Loops)
    (delivers : ∀ {time client response rest},
      (execution.state time).server.events = .response client response :: rest →
        ∃ later, time ≤ later ∧ execution.At Program.Delivers later)
    {time : Nat} {command : Ipc.ControlCommand}
    (queued : command ∈ (execution.state time).server.commands.queue) :
    ∃ middle, time ≤ middle ∧
      ((execution.state middle).place = .leaving ∧
          .client (.lost command) ∈ execution.labels middle ∨
        ∃ response, .client (.answered command response) ∈ execution.labels middle ∧
          ∃ later, middle ≤ later ∧
            execution.At (fun program seen _ => program.Serves command.client response seen)
              later) := by
  have holds : ∀ time, (execution.state time).Open :=
    execution.invariant Program.Open (fun step holds => holds.step step) (.start accepted started)
  have running : (execution.state time).place ≠ .ended := by
    intro ended
    rw [(holds time).drained ended] at queued
    cases queued
  obtain ⟨ahead, behind, stands⟩ := List.append_of_mem queued
  have awaits : ∃ rank, (execution.state time).Sound ∧
      (execution.state time).place.Awaits command rank (execution.state time).server.commands.queue
      := by
    rw [stands]
    exact ⟨_, (holds time).sound, .queued running⟩
  obtain ⟨rank, sound, awaits⟩ := awaits
  obtain ⟨middle, after, concludes⟩ :=
    (commands_ranking command).leads_to (fun _ => loops _) ⟨sound, awaits⟩
  refine ⟨middle, after, concludes.imp_right ?_⟩
  rintro ⟨response, answered⟩
  obtain ⟨inLoop, events⟩ := answered_event (execution.steps middle) answered
  have before : .shutdown ∉ (execution.state middle).server.events := by
    apply (holds middle).running
    intro ended
    rw [ended] at inLoop
    cases inLoop
  have responds : (execution.state (middle + 1)).Responds command.client response _ :=
    ⟨_, [], events, rfl, before⟩
  have due : ∀ {rank time}, (execution.state time).Responds command.client response rank →
      ∃ later, time ≤ later ∧ execution.At Program.Delivers later := by
    rintro rank time ⟨ahead, behind, events, _, open_⟩
    cases ahead with
    | nil => exact delivers events
    | cons first ahead =>
      cases first with
      | shutdown => exact absurd List.mem_cons_self open_
      | response => exact delivers events
  obtain ⟨later, behind, serves⟩ :=
    (responses_ranking command.client response).leads_to due responds
  exact ⟨response, answered, later, by omega, serves⟩

/-- In every execution in which the loop goes on: the controller is polled again and again,
    whatever the clients ask for, or the loop ends; and it does end once its steps find the flag
    set. -/
theorem loop_goes_on {config : Config F} (accepted : config.Accepted) {world : World P}
    {execution : Execution (Program.Step (P := P) (F := F) fromStr)}
    (started : Program.start config world = .ok (execution.state 0))
    (loops : execution.Often Program.Loops) :
    (execution.Often Program.Polls ∨
        ∃ time, ∀ later, time ≤ later → (execution.state later).place = .ended) ∧
      ∀ time, (∀ later, time ≤ later → execution.At Program.FlagSet later) →
        ∃ time, ∀ later, time ≤ later → (execution.state later).place = .ended := by
  have sound : ∀ time, (execution.state time).Sound :=
    execution.invariant Program.Sound (fun step sound => sound.step step)
      (.start accepted started)
  have bounded : ∀ time, (execution.state time).place.Bounded := by
    apply execution.invariant (·.place.Bounded) Program.step_bounded
    obtain ⟨main, _, rest⟩ := bind_ok started
    obtain ⟨gamepad, _, done⟩ := bind_ok rest
    rw [← Except.ok.inj done]
    trivial
  have polls : ∀ time, (∃ later, time ≤ later ∧ execution.At Program.Polls later) ∨
      ∃ time, (execution.state time).place.left = true := by
    intro time
    cases left : (execution.state time).place.left with
    | true => exact .inr ⟨time, left⟩
    | false =>
      obtain ⟨later, after, polls | left⟩ :=
        polls_ranking.leads_to (fun _ => loops _) ⟨bounded time, left, rfl⟩
      · exact .inl ⟨later, after, polls⟩
      · exact .inr ⟨later + 1, left⟩
  by_cases left : ∃ time, (execution.state time).place.left = true
  · obtain ⟨time, left⟩ := left
    have ends := ends_for_good sound loops left
    exact ⟨.inr ends, fun _ _ => ends⟩
  · refine ⟨.inl fun time => (polls time).resolve_right left, fun time flag => ?_⟩
    -- the loop polls once more, and then cannot come back to the poll
    obtain ⟨first, after, polled⟩ := (polls time).resolve_right left
    obtain ⟨second, behind, polling, _⟩ := (polls (first + 1)).resolve_right left
    have impossible := stays_past (fun later behind => flag later (by omega)) polled.past behind
    rw [polling] at impossible
    cases impossible

/-- The loop can always go on, and so can the event loop of the server.  In a world in which the
    flag is set, no other step is needed. -/
theorem Program.Sound.fair_execution (sound : program.Sound)
    (fromStr : List UInt8 → Option Request) (world : World P) :
    ∃ execution : Execution (Program.Step (P := P) (F := F) fromStr),
      execution.state 0 = program ∧ execution.Often Program.Loops ∧
        execution.Often Program.Delivers ∧
          (world.terminated = true → ∀ time, execution.At Program.FlagSet time) := by
  have turns : ∀ program : Program P F, program.Sound → ∃ seen after,
      program.Step fromStr seen after ∧ program.advance world = .ok (after, seen) ∧
        after.Sound := by
    intro program sound
    obtain ⟨⟨after, seen⟩, advanced⟩ := sound.advance_returns world
    have step : program.Step fromStr seen after := .loop advanced
    exact ⟨seen, after, step, advanced, sound.step step⟩
  have events : ∀ program : Program P F, program.Sound → ∃ seen after,
      program.Step fromStr seen after ∧ program.Delivers seen after ∧ after.Sound := by
    intro program sound
    have step : program.Step fromStr ((program.server.deliver true).2.map .client)
        { program with server := (program.server.deliver true).1 } := .socket .deliver
    exact ⟨_, _, step, ⟨true, rfl, rfl⟩, sound.step step⟩
  obtain ⟨execution, begins, loops, delivers, kinds⟩ :=
    Execution.exists_alternating Program.Sound turns events sound
  refine ⟨execution, begins, fun time => ?_, delivers, fun set time => ?_⟩
  · obtain ⟨later, after, advanced⟩ := loops time
    exact ⟨later, after, world, advanced⟩
  · cases kinds time with
    | inl advanced => exact fun _ => ⟨world, set, advanced⟩
    | inr delivered =>
      obtain ⟨whole, _, next⟩ := delivered
      exact flagSet_of_ne fun top => by rw [next, top]

/-- A client of the example asks for the next mode. -/
theorem commands_are_answered_asked :
    ∃ execution : Execution (Program.Step (P := Unit) (F := ℚ) Ipc.parseLine), ∃ middle,
      (execution.state middle).place = .leaving ∧
          .client (.lost ⟨.modeNext, 1⟩) ∈ execution.labels middle ∨
        ∃ response, .client (.answered ⟨.modeNext, 1⟩ response) ∈ execution.labels middle ∧
          ∃ later, execution.At (fun program seen _ => program.Serves 1 response seen) later := by
  have started : Program.start exampleConfig quietWorld = .ok quietStart := rfl
  have queued := acceptedStart_run.snoc (.socket
    (@Ipc.ThreadStep.ready _ _ _ 0 _ ⟨Ipc.modeNextLine, .wouldBlock⟩ true _ rfl rfl rfl))
  obtain ⟨sound, _⟩ := Program.Run.composed queued (Program.Sound.start example_accepted started)
  obtain ⟨fair, begins, loops, delivers, _⟩ :=
    sound.fair_execution Ipc.parseLine quietWorld
  obtain ⟨execution, starts, ⟨shift, same⟩, often⟩ := Execution.exists_after queued fair begins
  have stands : ⟨.modeNext, 1⟩ ∈ (execution.state (0 + shift)).server.commands.queue := by
    rw [(same 0).1, begins]
    exact List.mem_cons_self
  obtain ⟨middle, _, concludes⟩ := commands_are_answered example_accepted
    (starts ▸ started) (often _ loops) (fun _ => often _ delivers _) stands
  refine ⟨execution, middle, concludes.imp_right ?_⟩
  rintro ⟨response, answered, later, _, serves⟩
  exact ⟨response, answered, later, serves⟩

/-- A client has connected and a controller holds a key when the flag is set: the loop ends. -/
theorem loop_goes_on_pressing :
    ∃ (execution : Execution (Program.Step (P := Unit) (F := ℚ) Ipc.parseLine)) (time : Nat),
      execution.state 0 = quietStart ∧ (execution.state time).device.active = some 0 ∧
        (execution.state time).outputs.keyboard = [⟨⟨48⟩, 1⟩] ∧
        ∃ time, ∀ later, time ≤ later → (execution.state later).place = .ended := by
  have started : Program.start exampleConfig quietWorld = .ok quietStart := rfl
  obtain ⟨seen, pressing, run, active, pressed, _⟩ := exists_pressing
  obtain ⟨sound, _⟩ := Program.Run.composed run (Program.Sound.start example_accepted started)
  obtain ⟨fair, begins, loops, _, flag⟩ :=
    sound.fair_execution Ipc.parseLine { quietWorld with terminated := true }
  obtain ⟨execution, starts, ⟨shift, same⟩, often⟩ := Execution.exists_after run fair begins
  have set : ∀ later, shift ≤ later → execution.At Program.FlagSet later := by
    intro later behind
    obtain ⟨time, rfl⟩ := Nat.exists_eq_add_of_le' behind
    have next : execution.state (time + shift + 1) = fair.state (time + 1) := by
      rw [show time + shift + 1 = time + 1 + shift by omega, (same _).1]
    unfold Execution.At
    rw [next, (same time).1, (same time).2]
    exact flag rfl time
  have stands : execution.state shift = pressing := by
    rw [← begins, ← (same 0).1, Nat.zero_add]
  refine ⟨execution, shift, starts, stands ▸ active, stands ▸ pressed, ?_⟩
  exact (loop_goes_on example_accepted (starts ▸ started) (often _ loops)).2 shift set

end

end Scd.Daemon
