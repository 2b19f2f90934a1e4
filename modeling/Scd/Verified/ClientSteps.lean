import Scd.Verified.Clients

/-! # The steps of the socket's clients

Every step of the system moves each client along its life, whatever the other clients and
the daemon do.  A callback of a client's source is described first (`ready_spec`), then each
kind of step is a change to one client, and `step_moves` is the result.

The parser is asked for one thing: behind an OSK subscription, which stays in the buffer of
the reader, it finds no other request (`OskDelimited`).
-/

namespace Scd.Daemon.Ipc

open Scd.Core Scd.Foundation

/-! ## What a callback of a client's source does -/

/-- A text that is read as an OSK subscription is never the beginning of another request. -/
def OskDelimited (fromStr : List UInt8 → Option Request) : Prop :=
  ∀ text more parsed, fromStr text = some .osk → fromStr (text ++ more) = some parsed →
    parsed = .osk

variable {S : Type} {fromStr : List UInt8 → Option Request}

theorem readLine_prefix {request after : List UInt8} {limit : Nat} {arrived : Arrived}
    {result : Except ReadError Nat} (line : readLine request limit arrived = (after, result)) :
    request <+: after := by
  rw [readLine] at line
  split at line
  split at line
  · cases line
    exact List.prefix_append ..
  · cases line
    exact List.prefix_rfl

theorem readUntil_wouldBlock {bytes : List UInt8} {limit : Nat} {arrived : Arrived}
    (blocked : readUntil limit arrived = (bytes, .error .wouldBlock)) : bytes.length < limit := by
  rw [readUntil] at blocked
  split at blocked
  · cases blocked
  · split at blocked
    · cases blocked
    · split at blocked
      · cases blocked
        simp
        omega
      · cases blocked
      · cases blocked

/-- As long as more is to come there is room for it. -/
theorem readLine_wouldBlock {request after : List UInt8} {limit : Nat} {arrived : Arrived}
    (room : 0 < limit) (blocked : readLine request limit arrived = (after, .error .wouldBlock)) :
    after.length < request.length + limit := by
  rw [readLine] at blocked
  split at blocked
  next bytes result raw =>
  cases result with
  | ok value => split at blocked <;> cases blocked
  | error error =>
    split at blocked
    · cases blocked
      rw [List.length_append]
      have short := readUntil_wouldBlock raw
      omega
    · cases blocked
      omega

/-- A read returns, keeps what was there, and leaves room or is done. -/
theorem read_spec {request : List UInt8} (within : request.length ≤ maxRequestSize)
    (arrived : Arrived) :
    Returns (read fromStr request arrived) fun result =>
      request <+: result.1 ∧ (result.2 = .more → result.1.length ≤ maxRequestSize) ∧
        ∀ parsed, result.2 = .request parsed →
          result.1.length ≤ maxRequestSize ∧ fromStr result.1 = some parsed := by
  rw [read, if_neg (by omega)]
  cases line : readLine request (maxRequestSize + 1 - request.length) arrived with
  | mk after result =>
    have kept := readLine_prefix line
    simp only [line]
    split
    · have room := readLine_wouldBlock (by omega) line
      exact .ok ⟨kept, fun _ => by dsimp only; omega, by simp⟩
    · exact .ok ⟨kept, by simp, by simp⟩
    · exact .ok ⟨kept, by simp, by simp⟩
    · split
      · exact .ok ⟨kept, by simp, by simp⟩
      · split
        · exact .ok ⟨kept, by simp, by simp⟩
        · next small _ =>
          split
          · next parsed accepted =>
            refine .ok ⟨kept, by simp, fun parsed' same => ?_⟩
            cases same
            exact ⟨by dsimp only; omega, accepted⟩
          · exact .ok ⟨kept, by simp, by simp⟩

/-- The ways in which a callback of a client's source ends. -/
inductive Readied (fromStr : List UInt8 → Option Request) (reader : ClientReader)
    (state : IpcState S) (commands : Commands) : Ready S → Prop where
  | more {request : List UInt8} : reader.request <+: request → request.length ≤ maxRequestSize →
      Readied fromStr reader state commands
        { reader := { reader with request }, action := .continues, state, commands
          sightings := [] }
  | rejected {request : List UInt8} {message : String} {whole : Bool} :
      Readied fromStr reader state commands
        (({ reader with request } : ClientReader).reject state commands message whole)
  | closed {request : List UInt8} :
      Readied fromStr reader state commands
        (({ reader with request } : ClientReader).closeAfter state commands [])
  | subscribed {request : List UInt8} {connection : ClientConnection} :
      reader.request <+: request → request.length ≤ maxRequestSize →
      fromStr request = some .osk → state.clients.get? reader.client = some connection →
      Readied fromStr reader state commands
        { reader := { reader with request }, action := .continues
          state := { state with
            clients := state.clients.insert reader.client { connection with osk := true } }
          commands
          sightings := [.subscribed reader.client, .wrote reader.client (.osk state.osk) true] }
  | left {request : List UInt8} {connection : ClientConnection} :
      state.clients.get? reader.client = some connection →
      Readied fromStr reader state commands
        (({ reader with request } : ClientReader).closeAfter
          { state with
            clients := state.clients.insert reader.client { connection with osk := true } }
          commands
          [.subscribed reader.client, .wrote reader.client (.osk state.osk) false])
  | queued {request : List UInt8} {parsed : Request} :
      reader.request <+: request → fromStr request = some parsed → parsed ≠ .osk →
      Readied fromStr reader state commands
        { reader := { reader with request }, action := .disable, state
          commands := { commands with
            queue := commands.queue ++ [⟨parsed, reader.client⟩] }
          sightings := [.queued ⟨parsed, reader.client⟩] }

theorem trySend_cases (commands : Commands) (command : ControlCommand) :
    commands.trySend command = .ok { commands with queue := commands.queue ++ [command] } ∨
      commands.trySend command = .error .full ∨
        commands.trySend command = .error .disconnected := by
  rw [Commands.trySend]
  split
  · exact .inr (.inr rfl)
  · split
    · exact .inr (.inl rfl)
    · exact .inl rfl

/-- A callback of a client that has its entry returns. -/
theorem ready_spec {reader : ClientReader} {state : IpcState S} {connection : ClientConnection}
    (within : reader.request.length ≤ maxRequestSize)
    (registered : state.clients.get? reader.client = some connection) (arrived : Arrived)
    (whole : Bool) (commands : Commands) :
    Returns (reader.ready fromStr arrived whole state commands)
      (Readied fromStr reader state commands) := by
  rw [ClientReader.ready]
  refine (read_spec within arrived).bind ?_
  rintro ⟨request, line⟩ ⟨kept, room, accepted⟩
  dsimp only at kept room accepted ⊢
  cases line with
  | more => exact .ok (.more kept (room rfl))
  | rejected message => exact .ok .rejected
  | closed => exact .ok .closed
  | request parsed =>
    obtain ⟨small, accepted⟩ := accepted parsed rfl
    by_cases osk : parsed = .osk
    · subst osk
      simp only [registered]
      cases whole with
      | true => exact .ok (.subscribed kept small accepted registered)
      | false => exact .ok (.left registered)
    · rcases trySend_cases commands ⟨parsed, reader.client⟩ with sent | sent | sent
      · cases parsed with
        | osk => exact absurd rfl osk
        | _ =>
          simp only [sent]
          exact .ok (.queued kept accepted osk)
      · cases parsed with
        | osk => exact absurd rfl osk
        | _ =>
          simp only [sent]
          exact .ok .rejected
      · cases parsed with
        | osk => exact absurd rfl osk
        | _ =>
          simp only [sent]
          exact .ok .closed

/-! ## The steps -/

section

variable {system : System S} {client token : Nat} {connection : ClientConnection} {source : Source}
  {known : Bool} {commands : Multiset ControlCommand} {responses : List Response} {stage : Stage}

/-- A client whose source is enabled. -/
theorem At.listening
    (stands : At fromStr client ⟨known, some connection, some source, commands, responses⟩ stage)
    (enabled : source.enabled = true) :
    known = true ∧ commands = 0 ∧ responses = [] ∧
      source.reader.request.length ≤ maxRequestSize ∧
      (stage = .reading ∧ connection.osk = false ∨
        stage = .subscribed ∧ connection.osk = true ∧
          ∃ text, text <+: source.reader.request ∧ fromStr text = some .osk) := by
  cases stands with
  | reading osk within => exact ⟨rfl, rfl, rfl, within, .inl ⟨rfl, osk⟩⟩
  | subscribed osk within begins accepted =>
    exact ⟨rfl, rfl, rfl, within, .inr ⟨rfl, osk, _, begins, accepted⟩⟩
  | waiting | answered | mute => cases enabled

/-- A client that is marked as an OSK client. -/
theorem At.marked {source : Option Source}
    (stands : At fromStr client ⟨known, some connection, source, commands, responses⟩ stage)
    (osk : connection.osk = true) :
    stage = .subscribed ∧ known = true ∧ commands = 0 ∧ responses = [] := by
  cases stands with
  | subscribed => exact ⟨rfl, rfl, rfl, rfl⟩
  | reading plain | waiting plain | answered plain | mute plain =>
    rw [osk] at plain
    cases plain

theorem tokenOf_entry (entry : system.state.clients.get? client = some connection) :
    system.tokenOf client = some connection.registration := by
  rw [System.tokenOf, entry]
  rfl

theorem System.Matched.entry (matched : system.Matched)
    (found : system.sources.get? token = some source) :
    ∃ connection, system.state.clients.get? source.reader.client = some connection ∧
      connection.registration = token := by
  have read : system.readerOf token = some source.reader.client := by
    rw [System.readerOf, found]
    rfl
  rw [← matched] at read
  exact Option.map_eq_some_iff.mp read

theorem standing_entry (entry : system.state.clients.get? client = some connection) :
    system.standing client = ⟨decide (client < system.state.nextClient), some connection,
      system.sources.get? connection.registration, system.commandsOf client,
      system.responsesOf client⟩ := by
  rw [System.standing, tokenOf_entry entry, entry, Option.bind_some]

theorem standing_eq (entry : system.state.clients.get? client = some connection)
    (found : system.sources.get? connection.registration = some source) :
    system.standing client = ⟨decide (client < system.state.nextClient), some connection,
      some source, system.commandsOf client, system.responsesOf client⟩ := by
  rw [standing_entry entry, found]

/-- An enabled source belongs to a client with an entry, and its buffer is within the limit. -/
theorem Sound.listens (sound : Sound fromStr system)
    (found : system.sources.get? token = some source) (enabled : source.enabled = true) :
    ∃ connection, system.state.clients.get? source.reader.client = some connection ∧
      connection.registration = token ∧ source.reader.request.length ≤ maxRequestSize := by
  obtain ⟨connection, entry, rfl⟩ := sound.matched.entry found
  obtain ⟨stage, stands⟩ := sound.stands source.reader.client
  rw [standing_eq entry found] at stands
  exact ⟨connection, entry, rfl, (stands.listening enabled).2.2.2.1⟩

/-! ### A source that is ready -/

/-- The source closes, in what the callback leaves and after what it has let be seen. -/
theorem closeAfter_moves (sound : Sound fromStr system)
    (found : system.sources.get? token = some source) (enabled : source.enabled = true)
    {reader : ClientReader} {state : IpcState S} {seen : List (Sighting S)}
    (reads : reader.client = source.reader.client)
    (next : state.nextClient = system.state.nextClient)
    (entries : ∀ other, other ≠ reader.client →
      state.clients.get? other = system.state.clients.get? other)
    (own : ∀ sighting ∈ seen, sighting.client = reader.client)
    (moves : ∀ stage, stage = .reading ∨ stage = .subscribed →
      Accepts (Stage.next reader.client) stage (seen ++ [.closed reader.client]) .gone) :
    Moves fromStr system (seen ++ [.closed reader.client])
      (system.apply token (reader.closeAfter state system.commands seen)) := by
  obtain ⟨connection, entry, rfl⟩ := sound.matched.entry found
  rw [← reads] at entry
  have touches : Touches reader.client connection.registration system
      (system.apply connection.registration (reader.closeAfter state system.commands seen)) := by
    refine ⟨fun other _ => ?_, fun other differs => ?_, fun other differs => ?_, fun _ _ => rfl,
      fun _ _ => rfl⟩
    · show other < state.nextClient ↔ _
      rw [next]
    · show (state.clients.shiftRemove reader.client).get? other = _
      rw [IndexMap.get?_shiftRemove_other _ differs, entries other differs]
    · show (system.sources.shiftRemove connection.registration).get? other = _
      rw [IndexMap.get?_shiftRemove_other _ differs]
  apply touches.unlinked sound.matched (tokenOf_entry entry)
  · show (state.clients.shiftRemove reader.client).get? reader.client = none
    rw [IndexMap.get?_shiftRemove_self]
  · show (system.sources.shiftRemove connection.registration).get? connection.registration = none
    rw [IndexMap.get?_shiftRemove_self]
  · intro sighting member
    rw [List.mem_append, List.mem_singleton] at member
    rcases member with member | rfl
    · exact own sighting member
    · rfl
  · intro stage stands
    rw [standing_eq entry found] at stands
    obtain ⟨isKnown, none, silent, _, listening⟩ := stands.listening enabled
    refine ⟨.gone, ?_, moves stage (listening.imp And.left And.left)⟩
    show At fromStr reader.client ⟨decide (reader.client < state.nextClient), Option.none, Option.none,
      system.commandsOf reader.client,
      system.responsesOf reader.client⟩ .gone
    rw [next, isKnown, none, silent]
    exact .gone

/-- The source stays, with another buffer or switched off. -/
theorem stays_moves (sound : Sound fromStr system)
    (found : system.sources.get? token = some source) {result : Ready S} {enabled : Bool}
    {connection : ClientConnection} (reads : result.reader.client = source.reader.client)
    (kept : (system.apply token result).sources =
      system.sources.insert token ⟨result.reader, enabled⟩)
    (next : result.state.nextClient = system.state.nextClient)
    (entries : ∀ other, other ≠ source.reader.client →
      result.state.clients.get? other = system.state.clients.get? other)
    (entry : result.state.clients.get? source.reader.client = some connection)
    (names : connection.registration = token)
    (others : ∀ other, other ≠ source.reader.client →
      (system.apply token result).commandsOf other =
        system.commandsOf other)
    (own : ∀ sighting ∈ result.sightings, sighting.client = source.reader.client)
    (moves : ∀ stage, At fromStr source.reader.client (system.standing source.reader.client) stage →
      ∃ stage', At fromStr source.reader.client
          ⟨decide (source.reader.client < system.state.nextClient), some connection,
            some ⟨result.reader, enabled⟩,
            (system.apply token result).commandsOf source.reader.client,
            system.responsesOf source.reader.client⟩ stage' ∧
        Accepts (Stage.next source.reader.client) stage result.sightings stage') :
    Moves fromStr system result.sightings (system.apply token result) := by
  obtain ⟨before, entryBefore, rfl⟩ := sound.matched.entry found
  have touches : Touches source.reader.client before.registration system
      (system.apply before.registration result) := by
    refine ⟨fun other _ => ?_, entries, fun other differs => ?_, others, fun _ _ => rfl⟩
    · show other < result.state.nextClient ↔ _
      rw [next]
    · rw [kept, IndexMap.get?_insert_other _ _ differs]
  have after : (system.apply before.registration result).sources.get? before.registration =
      some ⟨result.reader, enabled⟩ := by rw [kept, IndexMap.get?_insert_self]
  apply touches.linked sound.matched (.inl (tokenOf_entry entryBefore)) entry names after reads own
  show ∀ stage, _ → ∃ stage', At fromStr source.reader.client
    ⟨decide (source.reader.client < result.state.nextClient), _, _, _, _⟩ stage' ∧ _
  rw [next]
  exact moves

theorem ready_moves (delimited : OskDelimited fromStr) (sound : Sound fromStr system)
    (found : system.sources.get? token = some source) (enabled : source.enabled = true)
    {arrived : Arrived} {whole : Bool} {result : Ready S}
    (returned : source.reader.ready fromStr arrived whole system.state system.commands =
      .ok result) : Moves fromStr system result.sightings (system.apply token result) := by
  obtain ⟨connection, entry, names, within⟩ := sound.listens found enabled
  -- the source is enabled, so the client is one that the server still listens to
  have standing : ∀ stage, At fromStr source.reader.client (system.standing source.reader.client)
      stage → _ := fun stage stands => by
    rw [standing_eq entry (names ▸ found)] at stands
    exact stands.listening enabled
  -- one case for each way in which the callback ends
  cases (ready_spec within entry arrived whole system.commands).of_ok returned with
  | more begins small =>
    refine stays_moves sound found rfl rfl rfl (fun _ _ => rfl) entry names (fun _ _ => rfl)
      (by simp) fun stage stands => ?_
    obtain ⟨isKnown, none, silent, _, listening⟩ := standing stage stands
    show ∃ stage', At fromStr source.reader.client ⟨_, _, _,
      system.commandsOf source.reader.client, _⟩ stage' ∧ _
    rw [isKnown, none, silent]
    refine ⟨stage, ?_, Accepts.nil_iff.mpr rfl⟩
    rcases listening with ⟨rfl, osk⟩ | ⟨rfl, osk, text, first, accepted⟩
    · exact .reading osk small
    · exact .subscribed osk small (first.trans begins) accepted
  | rejected =>
    apply closeAfter_moves sound found enabled
    · rfl
    · rfl
    · intro other _
      rfl
    · simp [Sighting.client]
    · rintro stage (rfl | rfl) <;> simp [Accepts, Stage.next, Stage.react, Sighting.client]
  | closed =>
    apply closeAfter_moves sound found enabled
    · rfl
    · rfl
    · intro other _
      rfl
    · simp
    · rintro stage (rfl | rfl) <;> simp [Accepts, Stage.next, Stage.react, Sighting.client]
  | left found' =>
    apply closeAfter_moves sound found enabled
    · rfl
    · rfl
    · intro other differs
      exact IndexMap.get?_insert_other _ _ differs
    · simp [Sighting.client]
    · rintro stage (rfl | rfl) <;> simp [Accepts, Stage.next, Stage.react, Sighting.client]
  | subscribed begins small accepted found' =>
    cases entry.symm.trans found'
    have marked : ({ connection with osk := true } : ClientConnection).registration = token := names
    refine stays_moves sound found rfl rfl rfl (fun other differs => ?_) ?_ marked (fun _ _ => rfl)
      (by simp [Sighting.client]) fun stage stands => ?_
    · exact IndexMap.get?_insert_other _ _ differs
    · exact IndexMap.get?_insert_self ..
    · obtain ⟨isKnown, none, silent, _, listening⟩ := standing stage stands
      show ∃ stage', At fromStr source.reader.client
        ⟨_, _, _, system.commandsOf source.reader.client, _⟩ stage' ∧ _
      rw [isKnown, none, silent]
      refine ⟨.subscribed, .subscribed rfl small List.prefix_rfl accepted, ?_⟩
      rcases listening with ⟨rfl, _⟩ | ⟨rfl, _⟩ <;>
        simp [Accepts, Stage.next, Stage.react, Sighting.client]
  | @queued request parsed begins accepted other =>
    let command : ControlCommand := ⟨parsed, source.reader.client⟩
    have grown : (system.apply token {
        reader := { source.reader with request }, action := .disable, state := system.state
        commands := { system.commands with queue := system.commands.queue ++ [command] }
        sightings := [.queued command] }).outstanding = command ::ₘ system.outstanding :=
      System.outstanding_queue system.commands.queue system.held command
    refine stays_moves sound found rfl rfl rfl (fun _ _ => rfl) entry names
      (fun _ => System.commandsOf_cons_other grown) (by simp [Sighting.client])
      fun stage stands => ?_
    obtain ⟨isKnown, none, silent, _, listening⟩ := standing stage stands
    rcases listening with ⟨rfl, osk⟩ | ⟨rfl, osk, text, first, subscription⟩
    · have own := System.commandsOf_cons grown
      rw [none] at own
      rw [own, isKnown, silent]
      exact ⟨_, .waiting osk, Accepts.single (Stage.next_own rfl)⟩
    · -- the buffer still begins with the subscription
      obtain ⟨more, rfl⟩ := first.trans begins
      exact absurd (delimited text more _ subscription accepted) other

/-! ### A new client -/

theorem Sound.newcomer (sound : Sound fromStr system) :
    system.standing system.state.nextClient = ⟨false, none, none, 0, []⟩ := by
  obtain ⟨stage, stands⟩ := sound.stands system.state.nextClient
  have unknown : (system.standing system.state.nextClient).known = false :=
    decide_eq_false (Nat.lt_irrefl _)
  revert stands unknown
  generalize system.standing system.state.nextClient = standing
  intro stands unknown
  cases stands with
  | absent => rfl
  | _ => cases unknown

theorem acceptClient_moves (sound : Sound fromStr system) {registration : Option Nat}
    (fresh : ∀ token ∈ registration, system.sources.get? token = none) {after : System S}
    {sightings : List (Sighting S)}
    (accepted : system.acceptClient registration = .ok (after, sightings)) :
    Moves fromStr system sightings after := by
  -- nobody has been given the next number yet
  have newcomer := sound.newcomer
  have entry : system.state.clients.get? system.state.nextClient = none :=
    congrArg Standing.entry newcomer
  have commands : system.commandsOf system.state.nextClient = 0 :=
    congrArg Standing.commands newcomer
  have responses : system.responsesOf system.state.nextClient = [] :=
    congrArg Standing.responses newcomer
  have others : ∀ other, other ≠ system.state.nextClient →
      (other < system.state.nextClient + 1 ↔ other < system.state.nextClient) := by omega
  have isKnown : decide (system.state.nextClient < system.state.nextClient + 1) = true := by simp
  have unnamed : system.tokenOf system.state.nextClient = none := by
    rw [System.tokenOf, entry]
    rfl
  rw [System.acceptClient] at accepted
  split at accepted
  · cases accepted
  · cases registration with
    -- the event loop refuses the source: only the number is used up
    | none =>
      cases accepted
      have own : ∀ sighting ∈ [(.refused system.state.nextClient : Sighting S)],
          sighting.client = system.state.nextClient := List.forall_mem_singleton.mpr rfl
      refine .one sound.matched (fun other differs => ?_) own fun stage stands => ?_
      · simp only [System.standing, decide_eq_decide.mpr (others other differs)]
        rfl
      · rw [newcomer] at stands
        cases stands
        show ∃ stage', At fromStr _ ⟨decide _, system.state.clients.get? _,
          (system.tokenOf system.state.nextClient).bind _, system.commandsOf _,
          system.responsesOf _⟩ stage' ∧ _
        rw [isKnown, entry, unnamed, commands, responses]
        exact ⟨.gone, .gone, Accepts.single (Stage.next_own rfl)⟩
    -- the new entry and the new source name each other
    | some token =>
      cases accepted
      have free : system.readerOf token = none := by
        rw [System.readerOf, fresh token rfl]
        rfl
      have touches : Touches system.state.nextClient token system
          { system with
            state := { system.state with
              nextClient := system.state.nextClient + 1
              clients := system.state.clients.insert system.state.nextClient ⟨token, false⟩ }
            sources := system.sources.insert token ⟨⟨system.state.nextClient, []⟩, true⟩ } := by
        refine ⟨others, fun other differs => ?_, fun other differs => ?_, fun _ _ => rfl,
          fun _ _ => rfl⟩
        · exact IndexMap.get?_insert_other _ _ differs
        · exact IndexMap.get?_insert_other _ _ differs
      refine touches.linked sound.matched (.inr ⟨unnamed, free⟩)
        (IndexMap.get?_insert_self ..) rfl
        (IndexMap.get?_insert_self ..) rfl (List.forall_mem_singleton.mpr rfl)
        fun stage stands => ?_
      rw [newcomer] at stands
      cases stands
      show ∃ stage', At fromStr _ ⟨decide _, _, _, system.commandsOf _, system.responsesOf _⟩
        stage' ∧ _
      rw [isKnown, commands, responses]
      exact ⟨.reading, .reading rfl (Nat.zero_le _), Accepts.single (Stage.next_own rfl)⟩

/-! ### An entry that goes with its source -/

theorem touches_unregister (system : System S) (client : Nat) (connection : ClientConnection) :
    Touches client connection.registration system (system.unregister client connection) := by
  refine ⟨fun _ _ => .rfl, fun other differs => ?_, fun other differs => ?_, fun _ _ => rfl,
    fun _ _ => rfl⟩
  · exact IndexMap.get?_shiftRemove_other _ differs
  · exact IndexMap.get?_shiftRemove_other _ differs

/-- A client of which nothing is outstanding is taken off the tables. -/
theorem unregister_moves (matched : system.Matched)
    (entry : system.state.clients.get? client = some connection) {sightings : List (Sighting S)}
    (own : ∀ sighting ∈ sightings, sighting.client = client)
    (moves : ∀ stage, At fromStr client (system.standing client) stage →
      client < system.state.nextClient ∧ system.commandsOf client = 0 ∧
        system.responsesOf client = [] ∧ Accepts (Stage.next client) stage sightings .gone) :
    Moves fromStr system sightings (system.unregister client connection) := by
  refine (touches_unregister system client connection).unlinked matched (tokenOf_entry entry)
    (IndexMap.get?_shiftRemove_self ..)
    (IndexMap.get?_shiftRemove_self ..) own fun stage stands => ?_
  obtain ⟨isKnown, none, silent, accepts⟩ := moves stage stands
  refine ⟨.gone, ?_, accepts⟩
  show At fromStr client ⟨decide (client < system.state.nextClient), _, _,
    system.commandsOf client, system.responsesOf client⟩ .gone
  rw [decide_eq_true isKnown, none, silent]
  exact .gone

theorem pushTo_moves (matched : system.Matched) (whole : Nat → Bool) (client : Nat) :
    Moves fromStr system (system.pushTo whole client).2 (system.pushTo whole client).1 := by
  rw [System.pushTo]
  split
  · exact .same matched fun _ => rfl
  · next connection entry =>
    split
    · exact .same matched fun _ => rfl
    · next osk =>
      rw [Bool.not_eq_true', Bool.not_eq_false] at osk
      split
      · have own : ∀ sighting ∈ [(.wrote client (.osk system.state.osk) true : Sighting S)],
            sighting.client = client := List.forall_mem_singleton.mpr rfl
        refine .one matched (fun _ _ => rfl) own fun stage stands => ?_
        refine ⟨stage, stands, ?_⟩
        rw [standing_entry entry] at stands
        obtain ⟨rfl, _⟩ := stands.marked osk
        exact Accepts.single (Stage.next_own rfl)
      · refine unregister_moves matched entry (by simp [Sighting.client]) fun stage stands => ?_
        rw [standing_entry entry] at stands
        obtain ⟨rfl, isKnown, none, silent⟩ := stands.marked osk
        refine ⟨of_decide_eq_true isKnown, none, silent, ?_⟩
        simp [Accepts, Stage.next, Stage.react, Sighting.client]

theorem pushAll_moves (matched : system.Matched) (whole : Nat → Bool) (order : List Nat) :
    Moves fromStr system (system.pushAll whole order).2 (system.pushAll whole order).1 := by
  induction order generalizing system with
  | nil => exact .same matched fun _ => rfl
  | cons client order inductionHypothesis =>
    have first : Moves fromStr system _ _ := pushTo_moves matched whole client
    exact first.trans (inductionHypothesis first.1)

theorem push_moves (matched : system.Matched) (order : List Nat) (whole : Nat → Bool) :
    Moves fromStr system (system.push order whole).2 (system.push order whole).1 := by
  rw [System.push]
  split
  · exact .same matched fun _ => rfl
  · next next _ =>
    have shown : Moves fromStr system [] { system with
        state := { system.state with osk := next }
        published := none } := .same matched fun _ => rfl
    exact shown.trans (pushAll_moves shown.1 whole order)

theorem responsesOf_cons {response : Response} {events : List IpcEvent}
    (queued : system.events = .response client response :: events) :
    system.responsesOf client =
      response :: ({ system with events } : System S).responsesOf client := by
  rw [System.responsesOf, queued, List.filterMap_cons]
  simp [IpcEvent.responseFor, System.responsesOf]

theorem responsesOf_cons_other {response : Response} {events : List IpcEvent}
    (queued : system.events = .response client response :: events) {other : Nat}
    (differs : other ≠ client) :
    ({ system with events } : System S).responsesOf other = system.responsesOf other := by
  rw [System.responsesOf, System.responsesOf, queued, List.filterMap_cons]
  simp [IpcEvent.responseFor, Ne.symm differs]

theorem standing_events {events : List IpcEvent}
    (same : ({ system with events } : System S).responsesOf client = system.responsesOf client) :
    ({ system with events } : System S).standing client = system.standing client := by
  rw [System.standing, System.standing, same]
  rfl

/-- A client to which a response is on its way. -/
theorem At.answering {entry : Option ClientConnection} {source : Option Source}
    {response : Response}
    (stands : At fromStr client ⟨known, entry, source, commands, response :: responses⟩ stage) :
    entry.isSome ∧ known = true ∧ commands = 0 ∧ responses = [] ∧
      ∃ command, stage = .answered command response := by
  cases stands with
  | answered => exact ⟨rfl, rfl, rfl, rfl, _, rfl⟩

theorem deliver_moves (matched : system.Matched) (whole : Bool) :
    Moves fromStr system (system.deliver whole).2 (system.deliver whole).1 := by
  rw [System.deliver]
  split
  · exact .same matched fun _ => rfl
  · next events queued =>
    refine .same matched fun client => standing_events ?_
    rw [System.responsesOf, System.responsesOf, queued, List.filterMap_cons]
    rfl
  · next client response events queued =>
    have arriving := responsesOf_cons queued
    dsimp only
    split
    · next absent =>
      have own : ∀ sighting ∈ ([] : List (Sighting S)), sighting.client = client := by simp
      refine .one matched (fun other differs => ?_) own fun stage stands => ?_
      · exact standing_events (responsesOf_cons_other queued differs)
      · rw [System.standing, arriving, absent] at stands
        -- a client to which a response is on its way has its entry
        cases stands.answering.1
    · next connection entry =>
      have kept := touches_unregister system client connection
      have touches : Touches client connection.registration system
          (({ system with events } : System S).unregister client connection) :=
        ⟨kept.known, kept.entries, kept.sources, fun _ _ => rfl,
          fun _ => responsesOf_cons_other queued⟩
      refine touches.unlinked matched (tokenOf_entry entry)
        (IndexMap.get?_shiftRemove_self ..)
        (IndexMap.get?_shiftRemove_self ..) (by simp [Sighting.client])
        fun stage stands => ?_
      rw [System.standing, arriving] at stands
      obtain ⟨_, isKnown, none, silent, command, rfl⟩ := stands.answering
      refine ⟨.gone, ?_, by simp [Accepts, Stage.next, Stage.react, Sighting.client]⟩
      show At fromStr client ⟨decide (client < system.state.nextClient), _, _,
        system.commandsOf client, ({ system with events } : System S).responsesOf client⟩ .gone
      rw [isKnown, none, silent]
      exact .gone

/-! ### Commands that leave the queue or the daemon -/

/-- A client of which a command is outstanding. -/
theorem At.holding {entry : Option ClientConnection} {source : Option Source}
    {command : ControlCommand}
    (stands : At fromStr client ⟨known, entry, source, command ::ₘ commands, responses⟩ stage) :
    ∃ connection reader, entry = some connection ∧ source = some ⟨reader, false⟩ ∧
      connection.osk = false ∧ known = true ∧ commands = 0 ∧ responses = [] ∧
        stage = .waiting command := by
  -- no other stage has a command outstanding
  generalize held : command ::ₘ commands = all at stands
  cases stands with
  | @waiting connection reader command' plain =>
    obtain ⟨rfl, rfl⟩ := (Multiset.singleton_eq_cons_iff _).mp held.symm
    exact ⟨connection, reader, rfl, rfl, plain, rfl, rfl, rfl, rfl⟩
  | _ => exact absurd held Multiset.cons_ne_zero

/-- A command is taken from the system, and a response to it may be on its way. -/
theorem taken_moves (matched : system.Matched) {after : System S} {command : ControlCommand}
    (state : after.state = system.state) (sources : after.sources = system.sources)
    (taken : system.outstanding = command ::ₘ after.outstanding)
    (others : ∀ other, other ≠ command.client → after.responsesOf other = system.responsesOf other)
    {sighting : Sighting S} (own : sighting.client = command.client)
    (moves : ∀ connection reader, connection.osk = false →
      system.responsesOf command.client = [] →
      ∃ stage', At fromStr command.client
          ⟨true, some connection, some ⟨reader, false⟩, 0, after.responsesOf command.client⟩ stage' ∧
        Stage.react (.waiting command) sighting = some stage') :
    Moves fromStr system [sighting] after := by
  have tokens : after.tokenOf = system.tokenOf := by
    funext client
    rw [System.tokenOf, System.tokenOf, state]
  have same : ∀ client, after.standing client = ⟨(system.standing client).known,
      (system.standing client).entry, (system.standing client).source,
      after.commandsOf client, after.responsesOf client⟩ := by
    intro client
    rw [System.standing, tokens, state, sources]
    rfl
  have readers : after.readerOf = system.readerOf := by
    funext token
    rw [System.readerOf, System.readerOf, sources]
  have matchedAfter : after.Matched := by
    rw [System.Matched, tokens, readers]
    exact matched
  refine .one matchedAfter (fun other differs => ?_) (List.forall_mem_singleton.mpr own)
    fun stage stands => ?_
  · rw [same, others other differs, ← System.commandsOf_cons_other taken differs]
    rfl
  · rw [System.standing, System.commandsOf_cons taken] at stands
    obtain ⟨connection, reader, entry, source, plain, isKnown, none, silent, rfl⟩ := stands.holding
    obtain ⟨stage', stands', reacted⟩ := moves connection reader plain silent
    refine ⟨stage', ?_, Accepts.single ((Stage.next_own own).trans reacted)⟩
    rw [same, System.standing]
    dsimp only
    rw [entry, source, isKnown, none]
    exact stands'

end

/-! ### Any step -/

theorem outstanding_held {system : System S} {command : ControlCommand}
    (held : command ∈ system.held) :
    system.outstanding = command ::ₘ ({ system with held := system.held.erase command } :
      System S).outstanding := by
  have split : (system.held : Multiset ControlCommand) = command ::ₘ (system.held.erase command) := by
    rw [Multiset.cons_coe, Multiset.coe_eq_coe]
    exact List.perm_cons_erase held
  rw [System.outstanding, System.outstanding, split, Multiset.add_cons]

theorem outstanding_received {system : System S} {command : ControlCommand}
    {queue : List ControlCommand} (commands : system.commands = ⟨command :: queue, true⟩) :
    ({ system with commands := ⟨queue, true⟩, held := system.held ++ [command] } :
      System S).outstanding = system.outstanding := by
  rw [System.outstanding, System.outstanding, commands]
  rw [Multiset.coe_add, Multiset.coe_add, Multiset.coe_eq_coe, ← List.append_assoc]
  exact List.perm_append_singleton ..

/-- A command without an answer. -/
theorem lost_moves {system after : System S} (matched : system.Matched) {command : ControlCommand}
    (state : after.state = system.state) (sources : after.sources = system.sources)
    (events : after.events = system.events)
    (taken : system.outstanding = command ::ₘ after.outstanding) :
    Moves fromStr system [.lost command] after := by
  have responses : after.responsesOf = system.responsesOf := by
    funext client
    rw [System.responsesOf, System.responsesOf, events]
  have own : (.lost command : Sighting S).client = command.client := rfl
  have reacted : Stage.react (.waiting command) (.lost command : Sighting S) = some .mute :=
    if_pos rfl
  refine taken_moves matched state sources taken (fun other _ => congrFun responses other) own
    fun connection reader plain silent => ⟨_, ?_, reacted⟩
  rw [responses, silent]
  exact .mute plain

theorem respond_moves {system : System S} (matched : system.Matched) {command : ControlCommand}
    (held : command ∈ system.held) (response : Response) :
    Moves fromStr system [.answered command response] (system.respond command response) := by
  have own : (.answered command response : Sighting S).client = command.client := rfl
  have reacted : Stage.react (.waiting command) (.answered command response : Sighting S) =
      some (.answered command response) := if_pos rfl
  have state : (system.respond command response).state = system.state := rfl
  refine taken_moves matched state rfl (outstanding_held held) (fun other differs => ?_) own
    fun connection reader plain silent => ⟨_, ?_, reacted⟩
  · rw [System.responsesOf, System.respond, List.filterMap_append]
    simp [IpcEvent.responseFor, Ne.symm differs, System.responsesOf]
  · rw [System.responsesOf] at silent
    rw [System.responsesOf, System.respond, List.filterMap_append, silent]
    simpa [IpcEvent.responseFor] using At.answered plain

theorem step_moves [DecidableEq S] (delimited : OskDelimited fromStr) {before after : System S}
    {sightings : List (Sighting S)} (step : Step fromStr before sightings after)
    (sound : Sound fromStr before) : Moves fromStr before sightings after := by
  have matched := sound.matched
  cases step with
  | accept fresh accepted => exact acceptClient_moves sound fresh accepted
  | ready found enabled returned => exact ready_moves delimited sound found enabled returned
  | deliver => exact deliver_moves matched _
  | push => exact push_moves matched _ _
  | receive commands =>
    refine .same matched fun client => ?_
    rw [System.standing, System.standing, System.commandsOf, System.commandsOf,
      outstanding_received commands]
    rfl
  | respond held => exact respond_moves matched held _
  | abandon held => exact lost_moves matched rfl rfl rfl (outstanding_held held)
  | hangUp => exact .same matched fun _ => rfl
  | discard commands =>
    refine lost_moves matched rfl rfl rfl ?_
    rw [System.outstanding, System.outstanding, commands, ← Multiset.cons_coe, Multiset.cons_add]
  | publish =>
    rw [System.publishOsk]
    split <;> exact .same matched fun _ => rfl
  | shutdown =>
    refine .same matched fun client => standing_events ?_
    rw [System.responsesOf, System.responsesOf, List.filterMap_append]
    simp [IpcEvent.responseFor]

end Scd.Daemon.Ipc
