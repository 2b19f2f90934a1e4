import Scd.Verified.ClientSteps

/-! # The protocol of the socket

What holds of the whole server, read off the lives of its clients: a client has one command
outstanding at most, a response goes once and to the client that asked, an OSK client asks
for nothing else, and a client that was refused or closed hears nothing more.
-/

namespace Scd.Daemon.Ipc

open Scd.Core Scd.Foundation

section

variable {S : Type} {fromStr : List UInt8 → Option Request} {client : Nat}
  {stage start finish : Stage} {sighting : Sighting S} {past rest sightings : List (Sighting S)}

/-! ## Stages that are final -/

/-- Nothing more is written in these. -/
def Stage.Final (stage : Stage) : Prop := stage = .leaving ∨ stage = .gone

theorem final_next {after : Stage} (final : stage.Final)
    (allowed : Stage.next client stage sighting = some after) : after.Final := by
  rw [Stage.next] at allowed
  split at allowed
  · rcases final with rfl | rfl
    · cases sighting <;> simp [Stage.react] at allowed
      exact .inr allowed.symm
    · cases sighting <;> simp [Stage.react] at allowed
  · cases allowed
    exact final

theorem final_silent (final : stage.Final) (accepts : Accepts (Stage.next client) stage rest finish)
    (sent : Sent S) (whole : Bool) : .wrote client sent whole ∉ rest := by
  intro member
  obtain ⟨before, after, final, allowed⟩ := accepts.within final_next final member
  rw [next_wrote] at allowed
  rcases final with rfl | rfl <;> simp [Stage.react] at allowed

/-- Behind a sighting that leads to a final stage nothing is written. -/
theorem silent_after (accepts : Accepts (Stage.next client) start (past ++ sighting :: rest) finish)
    (final : ∀ before after, Stage.next client before sighting = some after → after.Final)
    (sent : Sent S) (whole : Bool) : .wrote client sent whole ∉ rest := by
  obtain ⟨before, after, _, allowed, late⟩ := accepts.around
  exact final_silent (final before after allowed) late sent whole

theorem closed_final {before after : Stage}
    (allowed : Stage.next client before (.closed client : Sighting S) = some after) :
    after.Final := by
  rw [next_closed] at allowed
  cases before <;> simp [Stage.react] at allowed <;> exact .inr allowed.symm

theorem rejection_final {message : String} {whole : Bool} {before after : Stage}
    (allowed : Stage.next client before (.wrote client (.rejection message) whole : Sighting S) =
      some after) : after.Final := by
  rw [next_wrote] at allowed
  cases before <;> simp [Stage.react] at allowed <;> exact .inl allowed.symm

/-- A response is written in one stage only. -/
theorem response_allowed {response : Response} {whole : Bool} {before after : Stage}
    (allowed : Stage.next client before (.wrote client (.response response) whole : Sighting S) =
      some after) : (∃ command, before = .answered command response) ∧ after = .leaving := by
  rw [next_wrote] at allowed
  cases before with
  | answered command expected =>
    simp only [Stage.react, Option.ite_none_right_eq_some, Option.some.injEq] at allowed
    obtain ⟨rfl, rfl⟩ := allowed
    exact ⟨⟨command, rfl⟩, rfl⟩
  | _ => simp [Stage.react] at allowed

/-! ## Stages of an OSK client -/

/-- No command is queued in these. -/
def Stage.Passive (stage : Stage) : Prop := stage = .subscribed ∨ stage.Final

theorem passive_next {after : Stage} (passive : stage.Passive)
    (allowed : Stage.next client stage sighting = some after) : after.Passive := by
  rcases passive with rfl | final
  · rw [Stage.next] at allowed
    split at allowed
    · cases sighting with
      | subscribed => exact .inl (Option.some.inj allowed).symm
      | closed => exact .inr (.inr (Option.some.inj allowed).symm)
      | wrote client sent whole =>
        cases sent with
        | osk =>
          cases whole with
          | true => exact .inl (Option.some.inj allowed).symm
          | false => exact .inr (.inl (Option.some.inj allowed).symm)
        | rejection => exact .inr (.inl (Option.some.inj allowed).symm)
        | response => cases allowed
      | _ => cases allowed
    · cases allowed
      exact .inl rfl
  · exact .inr (final_next final allowed)

theorem passive_unqueued (passive : stage.Passive)
    (accepts : Accepts (Stage.next client) stage rest finish) {command : ControlCommand}
    (member : .queued command ∈ rest) : command.client ≠ client := by
  intro same
  have own : (.queued command : Sighting S).client = client := same
  obtain ⟨before, after, passive, allowed⟩ := accepts.within passive_next passive member
  rw [Stage.next_own own] at allowed
  rcases passive with rfl | rfl | rfl <;> simp [Stage.react] at allowed

/-! ## What a stage remembers -/

/-- What has been seen of a client in a stage. -/
def Remembers (client : Nat) (past : List (Sighting S)) : Stage → Prop
  | .absent | .reading => ∀ command, .queued command ∈ past → command.client ≠ client
  | .subscribed =>
    .subscribed client ∈ past ∧ ∀ command, .queued command ∈ past → command.client ≠ client
  | .waiting command => command.client = client ∧ .queued command ∈ past
  | .answered command response =>
    command.client = client ∧ .queued command ∈ past ∧ .answered command response ∈ past
  | _ => True

/-- A sighting that queues nothing for the client. -/
theorem unqueued_snoc
    (unqueued : ∀ command, .queued command ∈ past → command.client ≠ client)
    (other : ∀ command, sighting = .queued command → command.client ≠ client) :
    ∀ command, .queued command ∈ past ++ [sighting] → command.client ≠ client := by
  intro command member
  rw [List.mem_append, List.mem_singleton] at member
  rcases member with member | rfl
  · exact unqueued command member
  · exact other command rfl

theorem remembers_next {after : Stage} (remembers : Remembers client past stage)
    (allowed : Stage.next client stage sighting = some after) :
    Remembers client (past ++ [sighting]) after := by
  rw [Stage.next] at allowed
  split at allowed
  · next own =>
    -- the automaton refuses every other sighting, so its next stage is read off case by case
    cases stage with
    | absent =>
      cases sighting with
      | accepted =>
        cases allowed
        exact unqueued_snoc remembers (by simp)
      | refused => cases allowed; trivial
      | _ => cases allowed
    | reading =>
      cases sighting with
      | subscribed client =>
        cases allowed
        cases own
        exact ⟨by simp [Sighting.client], unqueued_snoc remembers (by simp)⟩
      | queued command =>
        cases allowed
        exact ⟨own, by simp⟩
      | closed => cases allowed; trivial
      | wrote client sent whole =>
        cases sent with
        | rejection => cases allowed; trivial
        | _ => cases allowed
      | _ => cases allowed
    | subscribed =>
      obtain ⟨marked, unqueued⟩ := remembers
      have kept : .subscribed client ∈ past ++ [sighting] := List.mem_append_left _ marked
      cases sighting with
      | subscribed =>
        cases allowed
        exact ⟨kept, unqueued_snoc unqueued (by simp)⟩
      | closed => cases allowed; trivial
      | wrote client sent whole =>
        cases sent with
        | osk =>
          cases whole with
          | true =>
            cases allowed
            exact ⟨kept, unqueued_snoc unqueued (by simp)⟩
          | false => cases allowed; trivial
        | rejection => cases allowed; trivial
        | response => cases allowed
      | _ => cases allowed
    | waiting command =>
      obtain ⟨asked, queued⟩ := remembers
      cases sighting with
      | answered command' response =>
        simp only [Stage.react, Option.ite_none_right_eq_some, Option.some.injEq] at allowed
        obtain ⟨rfl, rfl⟩ := allowed
        exact ⟨asked, List.mem_append_left _ queued, by simp⟩
      | lost command' =>
        simp only [Stage.react, Option.ite_none_right_eq_some, Option.some.injEq] at allowed
        obtain ⟨_, rfl⟩ := allowed
        trivial
      | _ => cases allowed
    | answered command response =>
      cases sighting with
      | wrote client sent whole =>
        cases sent with
        | response response' =>
          simp only [Stage.react, Option.ite_none_right_eq_some, Option.some.injEq] at allowed
          obtain ⟨_, rfl⟩ := allowed
          trivial
        | _ => cases allowed
      | _ => cases allowed
    | leaving =>
      cases sighting with
      | closed => cases allowed; trivial
      | _ => cases allowed
    | mute | gone => cases sighting <;> cases allowed
  -- a sighting of another client adds to the past only
  · next other =>
    cases allowed
    have foreign : ∀ command, sighting = .queued command → command.client ≠ client := by
      rintro command rfl
      exact other
    cases stage with
    | absent | reading => exact unqueued_snoc remembers foreign
    | subscribed =>
      exact ⟨List.mem_append_left _ remembers.1, unqueued_snoc remembers.2 foreign⟩
    | waiting => exact ⟨remembers.1, List.mem_append_left _ remembers.2⟩
    | answered =>
      exact ⟨remembers.1, List.mem_append_left _ remembers.2.1,
        List.mem_append_left _ remembers.2.2⟩
    | mute | leaving | gone => trivial

end

/-! ## Runs -/

section

variable {S : Type} {fromStr : List UInt8 → Option Request} {client : Nat}

theorem bind_stands (osk : S) (client : Nat) :
    At fromStr client ((System.bind osk).standing client) (Stage.start client) := by
  rw [Stage.start]
  split
  · next zero =>
    subst zero
    exact .gone
  · next positive =>
    have unknown : decide (client < 1) = false := decide_eq_false (by omega)
    show At fromStr client ⟨decide (client < 1), none, none, 0, []⟩ .absent
    rw [unknown]
    exact .absent

theorem bind_sound (osk : S) : Sound fromStr (System.bind osk) :=
  ⟨fun _ _ => by simp [System.tokenOf, System.readerOf, System.bind],
    fun client => ⟨_, bind_stands osk client⟩⟩

/-- Every client is somewhere in its life, in every run. -/
theorem run_accepts [DecidableEq S] (delimited : OskDelimited fromStr) {osk : S} {system : System S}
    {sightings : List (Sighting S)}
    (path : Path (Step fromStr) (System.bind osk) sightings system) (client : Nat) :
    Sound fromStr system ∧ ∃ stage, At fromStr client (system.standing client) stage ∧
      Accepts (Stage.next client) (Stage.start client) sightings stage := by
  -- the life of the client is simulated along the run, under the invariant of the server
  refine path.simulates (Sound fromStr)
    (fun system stage => At fromStr client (system.standing client) stage)
    (fun step sound => ?_) (bind_sound osk) (bind_stands osk client)
  have moves := step_moves delimited step sound
  exact ⟨moves.sound sound, fun stands => moves.2 client _ stands⟩

theorem start_remembers : Remembers client ([] : List (Sighting S)) (Stage.start client) := by
  rw [Stage.start]
  split
  · trivial
  · intro command member
    cases member

theorem At.outstanding_le {standing : Standing} {stage : Stage}
    (stands : At fromStr client standing stage) :
    standing.commands.card + standing.responses.length ≤ 1 := by
  cases stands <;> simp

/-- What the server has kept to in a run that ends in `system`. -/
structure Protocol (fromStr : List UInt8 → Option Request) (sightings : List (Sighting S))
    (system : System S) : Prop where
  /-- An enabled source has its entry. -/
  registered : ∀ {token source}, system.sources.get? token = some source → source.enabled = true →
    ∃ connection, system.state.clients.get? source.reader.client = some connection ∧
      connection.registration = token
  /-- The callback of an enabled source does not panic. -/
  returns : ∀ {token source}, system.sources.get? token = some source → source.enabled = true →
    ∀ arrived whole, ∃ result,
      source.reader.ready fromStr arrived whole system.state system.commands = .ok result
  /-- One command at most is queued, with the daemon, or answered and not delivered. -/
  outstanding : ∀ client,
    (system.commandsOf client).card + (system.responsesOf client).length ≤ 1
  /-- A response goes to the client whose command it answers, and no other goes there. -/
  responded : ∀ {past client response whole rest},
    sightings = past ++ .wrote client (.response response) whole :: rest →
      (∃ command, command.client = client ∧ .queued command ∈ past ∧
        .answered command response ∈ past) ∧
      ∀ response' whole', .wrote client (.response response') whole' ∉ past ++ rest
  /-- A client that is marked has subscribed. -/
  marked : ∀ {client connection}, system.state.clients.get? client = some connection →
    connection.osk = true → .subscribed client ∈ sightings
  /-- A client that has subscribed has no command queued, before or after. -/
  subscribed : ∀ {client}, .subscribed client ∈ sightings →
    ∀ command, .queued command ∈ sightings → command.client ≠ client
  /-- Nothing is written behind a rejection. -/
  rejected : ∀ {past client message whole rest},
    sightings = past ++ .wrote client (.rejection message) whole :: rest →
      ∀ sent whole', .wrote client sent whole' ∉ rest
  /-- Nothing is written to a client that is closed. -/
  closed : ∀ {past client rest}, sightings = past ++ .closed client :: rest →
    ∀ sent whole, .wrote client sent whole ∉ rest

variable {sightings past rest : List (Sighting S)} {start finish : Stage}

theorem subscribed_unqueued
    (accepts : Accepts (Stage.next client) start (past ++ .subscribed client :: rest) finish)
    (initial : Remembers client ([] : List (Sighting S)) start) {command : ControlCommand}
    (member : .queued command ∈ past ++ .subscribed client :: rest) : command.client ≠ client := by
  obtain ⟨before, after, early, allowed, late⟩ := accepts.around
  have remembers := early.history remembers_next initial
  rw [next_subscribed] at allowed
  have passive : after = .subscribed ∧ ∀ command, .queued command ∈ past → command.client ≠ client := by
    cases before with
    | reading => exact ⟨(Option.some.inj allowed).symm, remembers⟩
    | subscribed => exact ⟨(Option.some.inj allowed).symm, remembers.2⟩
    | _ => cases allowed
  rw [List.mem_append, List.mem_cons] at member
  rcases member with member | member | member
  · exact passive.2 command member
  · cases member
  · exact passive_unqueued (.inl passive.1) late member

theorem response_answered {response : Response} {whole : Bool}
    (accepts : Accepts (Stage.next client) start
      (past ++ .wrote client (.response response) whole :: rest) finish)
    (initial : Remembers client ([] : List (Sighting S)) start) :
    ∃ command, command.client = client ∧ .queued command ∈ past ∧
      .answered command response ∈ past := by
  obtain ⟨before, after, early, allowed, _⟩ := accepts.around
  have remembers := early.history remembers_next initial
  obtain ⟨⟨command, rfl⟩, _⟩ := response_allowed allowed
  exact ⟨command, remembers⟩

theorem response_last {response : Response} {whole : Bool}
    (accepts : Accepts (Stage.next client) start
      (past ++ .wrote client (.response response) whole :: rest) finish)
    (sent : Sent S) (whole' : Bool) : .wrote client sent whole' ∉ rest :=
  silent_after accepts (fun _ _ allowed => .inl (response_allowed allowed).2) sent whole'

/-- Two responses to one client would stand one behind the other. -/
theorem response_once {response : Response} {whole : Bool}
    (accepts : Accepts (Stage.next client) start
      (past ++ .wrote client (.response response) whole :: rest) finish)
    (response' : Response) (whole' : Bool) :
    .wrote client (.response response') whole' ∉ past ++ rest := by
  intro member
  rcases List.mem_append.mp member with early | late
  · obtain ⟨first, second, rfl⟩ := List.append_of_mem early
    rw [List.append_assoc, List.cons_append] at accepts
    exact response_last accepts _ _ (List.mem_append_right _ List.mem_cons_self)
  · exact response_last accepts _ _ late

/-- Whatever the clients, the daemon and the sockets do, the server keeps to the protocol. -/
theorem server_keeps_protocol [DecidableEq S] (delimited : OskDelimited fromStr) {osk : S}
    {system : System S} {sightings : List (Sighting S)}
    (path : Path (Step fromStr) (System.bind osk) sightings system) :
    Protocol fromStr sightings system := by
  have sound := (run_accepts delimited path 0).1
  have lives := fun client => (run_accepts delimited path client).2
  constructor
  case registered =>
    intro token source found _
    exact sound.matched.entry found
  case returns =>
    intro token source found enabled arrived whole
    obtain ⟨connection, entry, _, within⟩ := sound.listens found enabled
    exact (ready_spec within entry arrived whole system.commands).exists_ok
  case outstanding =>
    intro client
    obtain ⟨stage, stands, _⟩ := lives client
    exact stands.outstanding_le
  case responded =>
    rintro past client response whole rest rfl
    obtain ⟨stage, _, accepts⟩ := lives client
    exact ⟨response_answered accepts start_remembers, response_once accepts⟩
  case marked =>
    intro client connection entry osk
    obtain ⟨stage, stands, accepts⟩ := lives client
    rw [standing_entry entry] at stands
    obtain ⟨rfl, _⟩ := stands.marked osk
    have remembers := accepts.history remembers_next start_remembers
    exact remembers.1
  case subscribed =>
    intro client member command queued
    obtain ⟨past, rest, rfl⟩ := List.append_of_mem member
    obtain ⟨stage, _, accepts⟩ := lives client
    exact subscribed_unqueued accepts start_remembers queued
  case rejected =>
    rintro past client message whole rest rfl
    obtain ⟨stage, _, accepts⟩ := lives client
    exact silent_after accepts fun _ _ => rejection_final
  case closed =>
    rintro past client rest rfl
    obtain ⟨stage, _, accepts⟩ := lives client
    exact silent_after accepts fun _ _ => closed_final

end

/-! ## A run -/

def modeNextLine : List UInt8 := "\x7b\"command\":\"mode-next\"\x7d\n".toUTF8.data.toList

def oskLine : List UInt8 := "\x7b\"command\":\"osk\"\x7d\n".toUTF8.data.toList

/-- The parser on two lines. -/
def parseLine (text : List UInt8) : Option Request :=
  if text = modeNextLine then some .modeNext else if text = oskLine then some .osk else none

theorem parseLine_delimited : OskDelimited parseLine := by
  intro text more parsed osk longer
  have same : text = oskLine := by
    rw [parseLine] at osk
    split at osk
    · cases osk
    · split at osk
      · assumption
      · cases osk
  subst same
  rw [parseLine] at longer
  split at longer
  · next other =>
    have start : oskLine <+: modeNextLine := other ▸ List.prefix_append ..
    exact absurd start (by decide)
  · split at longer
    · exact (Option.some.inj longer).symm
    · cases longer

/-- What is left when the first of two clients is answered and the second has subscribed. -/
def served : System Unit where
  state := { clients := ⟨[(2, ⟨1, true⟩)], by simp⟩, nextClient := 3, osk := () }
  sources := ⟨[(1, ⟨⟨2, oskLine⟩, true⟩)], by simp⟩
  commands := ⟨[], true⟩
  held := []
  events := []
  oskCurrent := ()
  published := none

/-- A client that asks for the next mode, and one that subscribes before it is answered. -/
theorem server_keeps_protocol_served :
    Protocol parseLine
      [.accepted 1, .accepted 2, .queued ⟨.modeNext, 1⟩, .subscribed 2, .wrote 2 (.osk ()) true,
        .answered ⟨.modeNext, 1⟩ .done, .wrote 1 (.response .done) true, .closed 1] served := by
  have path : Path (Step parseLine) (System.bind ()) _ served :=
    .snoc (.snoc (.snoc (.snoc (.snoc (.snoc (.snoc .refl
      (.accept (fun _ member => Option.some.inj member ▸ rfl : ∀ token ∈ some 0, _) rfl))
      (.accept (fun _ member => Option.some.inj member ▸ rfl : ∀ token ∈ some 1, _) rfl))
      (@Step.ready _ _ _ _ 0 _ ⟨modeNextLine, .wouldBlock⟩ true _ rfl rfl rfl))
      (@Step.ready _ _ _ _ 1 _ ⟨oskLine, .wouldBlock⟩ true _ rfl rfl rfl))
      (.receive rfl))
      (@Step.respond _ _ _ _ ⟨.modeNext, 1⟩ .done List.mem_cons_self))
      (@Step.deliver _ _ _ _ true)
  exact server_keeps_protocol parseLine_delimited path

end Scd.Daemon.Ipc
