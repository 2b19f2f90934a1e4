import Mathlib.Data.Multiset.Filter
import Scd.Daemon.Ipc
import Scd.Foundation.Matching
import Scd.Foundation.Monitor

/-! # The clients of the socket

A client's entry and its source go in four places, and its command is answered by another
thread.  `Stage` is the life of one client as it is seen from outside, and `At` says what
the system holds of a client in each stage.  `Moves` is what every step is to show: each
client goes along its life.  A step that changes one client and one token (`Touches`) shows
it with `Touches.linked` or `Touches.unlinked`.
-/

namespace Scd.Daemon.Ipc

open Scd.Core Scd.Foundation

/-! ## The life of a client -/

inductive Stage where
  | absent
  | reading
  | subscribed
  | waiting (command : ControlCommand)
  | answered (command : ControlCommand) (response : Response)
  /-- The daemon has lost the command. -/
  | mute
  /-- Something final was written. -/
  | leaving
  | gone
  deriving DecidableEq

/-- Whom a sighting is about. -/
def Sighting.client {S : Type} : Sighting S → Nat
  | .accepted client | .refused client | .subscribed client => client
  | .queued command | .answered command _ | .lost command => command.client
  | .wrote client _ _ | .closed client => client

/-- What may be seen of a client in a stage, and the stage after it. -/
def Stage.react {S : Type} : Stage → Sighting S → Option Stage
  | .absent, .accepted _ => some .reading
  | .absent, .refused _ => some .gone
  | .reading, .subscribed _ => some .subscribed
  | .reading, .queued command => some (.waiting command)
  | .reading, .wrote _ (.rejection _) _ => some .leaving
  | .reading, .closed _ => some .gone
  | .subscribed, .subscribed _ => some .subscribed
  | .subscribed, .wrote _ (.osk _) whole => some (if whole then .subscribed else .leaving)
  | .subscribed, .wrote _ (.rejection _) _ => some .leaving
  | .subscribed, .closed _ => some .gone
  | .waiting command, .answered command' response =>
    if command' = command then some (.answered command response) else none
  | .waiting command, .lost command' => if command' = command then some .mute else none
  | .answered _ response, .wrote _ (.response response') _ =>
    if response' = response then some .leaving else none
  | .leaving, .closed _ => some .gone
  | _, _ => none

/-- The sightings of other clients are passed over. -/
def Stage.next {S : Type} (client : Nat) (stage : Stage) (sighting : Sighting S) : Option Stage :=
  if sighting.client = client then stage.react sighting else some stage

/-- No client has the number 0. -/
def Stage.start (client : Nat) : Stage := if client = 0 then .gone else .absent

section

variable {S : Type} {client : Nat} {stage : Stage}

theorem Stage.next_own {sighting : Sighting S} (own : sighting.client = client) :
    Stage.next client stage sighting = stage.react sighting := if_pos own

@[simp] theorem next_wrote (sent : Sent S) (whole : Bool) :
    Stage.next client stage (.wrote client sent whole) = stage.react (.wrote client sent whole) :=
  if_pos rfl

@[simp] theorem next_closed :
    Stage.next client stage (.closed client : Sighting S) = stage.react (.closed client : Sighting S) :=
  if_pos rfl

@[simp] theorem next_subscribed :
    Stage.next client stage (.subscribed client : Sighting S) =
      stage.react (.subscribed client : Sighting S) := if_pos rfl

theorem accepts_others {sightings : List (Sighting S)}
    (others : ∀ sighting ∈ sightings, sighting.client ≠ client) :
    Accepts (Stage.next client) stage sightings stage := by
  induction sightings with
  | nil => exact Accepts.nil_iff.mpr rfl
  | cons sighting sightings inductionHypothesis =>
    rw [List.forall_mem_cons] at others
    exact Accepts.cons_iff.mpr ⟨stage, if_neg others.1, inductionHypothesis others.2⟩

end

/-! ## What the system holds of a client -/

structure Standing where
  known : Bool
  entry : Option ClientConnection
  source : Option Source
  commands : Multiset ControlCommand
  responses : List Response

/-- The response of an event for the client. -/
def IpcEvent.responseFor (client : Nat) : IpcEvent → Option Response
  | .response client' answer => if client' = client then some answer else none
  | .shutdown => none

namespace System

variable {S : Type}

def outstanding (system : System S) : Multiset ControlCommand :=
  system.commands.queue + system.held

/-- The token that the entry of a client names. -/
def tokenOf (system : System S) (client : Nat) : Option Nat :=
  (system.state.clients.get? client).map (·.registration)

/-- The client that the source of a token reads. -/
def readerOf (system : System S) (token : Nat) : Option Nat :=
  (system.sources.get? token).map (·.reader.client)

/-- The commands of a client, in the queue or with the daemon. -/
def commandsOf (system : System S) (client : Nat) : Multiset ControlCommand :=
  system.outstanding.filter (·.client = client)

/-- The responses that are on their way to a client. -/
def responsesOf (system : System S) (client : Nat) : List Response :=
  system.events.filterMap (IpcEvent.responseFor client)

def standing (system : System S) (client : Nat) : Standing where
  known := decide (client < system.state.nextClient)
  entry := system.state.clients.get? client
  source := (system.tokenOf client).bind system.sources.get?
  commands := system.commandsOf client
  responses := system.responsesOf client

/-- There is one more command. -/
theorem commandsOf_cons {before after : System S} {command : ControlCommand}
    (grown : after.outstanding = command ::ₘ before.outstanding) :
    after.commandsOf command.client = command ::ₘ before.commandsOf command.client := by
  rw [commandsOf, commandsOf, grown, Multiset.filter_cons_of_pos]
  rfl

theorem commandsOf_cons_other {before after : System S} {command : ControlCommand}
    (grown : after.outstanding = command ::ₘ before.outstanding) {client : Nat}
    (differs : client ≠ command.client) : after.commandsOf client = before.commandsOf client := by
  rw [commandsOf, commandsOf, grown, Multiset.filter_cons_of_neg]
  exact Ne.symm differs

/-- A command that is queued behind the others. -/
theorem outstanding_queue (queue held : List ControlCommand) (command : ControlCommand) :
    ((queue ++ [command] : List ControlCommand) + held : Multiset ControlCommand) =
      command ::ₘ (queue + held) := by
  rw [Multiset.coe_add, Multiset.coe_add, Multiset.cons_coe, Multiset.coe_eq_coe,
    List.append_assoc, List.singleton_append]
  exact List.perm_middle

/-- The entries and the sources name each other. -/
def Matched (system : System S) : Prop := Matching system.tokenOf system.readerOf

end System

/-- What is held of a client in a stage. -/
inductive At (fromStr : List UInt8 → Option Request) (client : Nat) : Standing → Stage → Prop where
  | absent : At fromStr client ⟨false, none, none, 0, []⟩ .absent
  | reading {connection : ClientConnection} {reader : ClientReader} :
      connection.osk = false → reader.request.length ≤ maxRequestSize →
      At fromStr client ⟨true, some connection, some ⟨reader, true⟩, 0, []⟩ .reading
  | subscribed {connection : ClientConnection} {reader : ClientReader} {text : List UInt8} :
      connection.osk = true → reader.request.length ≤ maxRequestSize →
      text <+: reader.request → fromStr text = some .osk →
      At fromStr client ⟨true, some connection, some ⟨reader, true⟩, 0, []⟩ .subscribed
  | waiting {connection : ClientConnection} {reader : ClientReader} {command : ControlCommand} :
      connection.osk = false →
      At fromStr client ⟨true, some connection, some ⟨reader, false⟩, {command}, []⟩
        (.waiting command)
  | answered {connection : ClientConnection} {reader : ClientReader} {command : ControlCommand}
      {response : Response} : connection.osk = false →
      At fromStr client ⟨true, some connection, some ⟨reader, false⟩, 0, [response]⟩
        (.answered command response)
  | mute {connection : ClientConnection} {reader : ClientReader} : connection.osk = false →
      At fromStr client ⟨true, some connection, some ⟨reader, false⟩, 0, []⟩ .mute
  | gone : At fromStr client ⟨true, none, none, 0, []⟩ .gone

/-- The invariant. -/
structure Sound {S : Type} (fromStr : List UInt8 → Option Request) (system : System S) : Prop where
  matched : system.Matched
  stands : ∀ client, ∃ stage, At fromStr client (system.standing client) stage

/-- Each client moves along its life. -/
def Moves {S : Type} (fromStr : List UInt8 → Option Request) (before : System S)
    (sightings : List (Sighting S)) (after : System S) : Prop :=
  after.Matched ∧ ∀ client stage, At fromStr client (before.standing client) stage →
    ∃ stage', At fromStr client (after.standing client) stage' ∧
      Accepts (Stage.next client) stage sightings stage'

section

variable {S : Type} {fromStr : List UInt8 → Option Request} {before mid after : System S}
  {sightings more : List (Sighting S)}

namespace Moves

theorem sound (moves : Moves fromStr before sightings after) (sound : Sound fromStr before) :
    Sound fromStr after := by
  refine ⟨moves.1, fun client => ?_⟩
  obtain ⟨stage, stands⟩ := sound.stands client
  obtain ⟨stage', stands', _⟩ := moves.2 client stage stands
  exact ⟨stage', stands'⟩

theorem trans (first : Moves fromStr before sightings mid) (second : Moves fromStr mid more after) :
    Moves fromStr before (sightings ++ more) after := by
  refine ⟨second.1, fun client stage stands => ?_⟩
  obtain ⟨stage', stands', early⟩ := first.2 client stage stands
  obtain ⟨stage'', stands'', late⟩ := second.2 client stage' stands'
  exact ⟨stage'', stands'', Accepts.append_iff.mpr ⟨stage', early, late⟩⟩

/-- Nothing that concerns a client has changed. -/
theorem same (matched : after.Matched) (same : ∀ client, after.standing client = before.standing client) :
    Moves fromStr before [] after := by
  refine ⟨matched, fun client stage stands => ?_⟩
  rw [same]
  exact ⟨stage, stands, Accepts.nil_iff.mpr rfl⟩

/-- One client moves. -/
theorem one {client : Nat} (matched : after.Matched)
    (others : ∀ other, other ≠ client → after.standing other = before.standing other)
    (own : ∀ sighting ∈ sightings, sighting.client = client)
    (moves : ∀ stage, At fromStr client (before.standing client) stage →
      ∃ stage', At fromStr client (after.standing client) stage' ∧
        Accepts (Stage.next client) stage sightings stage') :
    Moves fromStr before sightings after := by
  refine ⟨matched, fun other stage stands => ?_⟩
  by_cases same : other = client
  · subst same
    exact moves stage stands
  · rw [others other same]
    refine ⟨stage, stands, accepts_others fun sighting member => ?_⟩
    rw [own sighting member]
    exact Ne.symm same

end Moves

end

/-! ## Changes to one client -/

variable {S : Type} {fromStr : List UInt8 → Option Request}

/-- Nothing but one client, and the source of one token, has changed. -/
structure Touches (client token : Nat) (before after : System S) : Prop where
  known : ∀ other, other ≠ client →
    (other < after.state.nextClient ↔ other < before.state.nextClient)
  entries : ∀ other, other ≠ client →
    after.state.clients.get? other = before.state.clients.get? other
  sources : ∀ other, other ≠ token → after.sources.get? other = before.sources.get? other
  commands : ∀ other, other ≠ client →
    after.commandsOf other = before.commandsOf other
  responses : ∀ other, other ≠ client →
    after.responsesOf other =
      before.responsesOf other

/-- The token is the client's, or it is nobody's and the client has none. -/
def Tied (system : System S) (client token : Nat) : Prop :=
  system.tokenOf client = some token ∨ system.tokenOf client = none ∧ system.readerOf token = none

section

variable {before after : System S} {client token : Nat}

/-- No other client has the token. -/
theorem Tied.other (tied : Tied before client token) (matched : before.Matched) {other : Nat}
    (differs : other ≠ client) : before.tokenOf other ≠ some token := by
  intro found
  rcases tied with own | ⟨_, free⟩
  · exact differs (matched.injective found own)
  · rw [matched, free] at found
    cases found

theorem Touches.tokenOf (touches : Touches client token before after) {other : Nat}
    (differs : other ≠ client) : after.tokenOf other = before.tokenOf other :=
  congrArg (Option.map _) (touches.entries other differs)

theorem Touches.readerOf (touches : Touches client token before after) {other : Nat}
    (differs : other ≠ token) : after.readerOf other = before.readerOf other :=
  congrArg (Option.map _) (touches.sources other differs)

theorem Touches.standing (touches : Touches client token before after) (matched : before.Matched)
    (tied : Tied before client token) {other : Nat} (differs : other ≠ client) :
    after.standing other = before.standing other := by
  have token : (after.tokenOf other).bind after.sources.get? =
      (before.tokenOf other).bind before.sources.get? := by
    rw [touches.tokenOf differs]
    cases found : before.tokenOf other with
    | none => rfl
    | some token' =>
      have elsewhere : token' ≠ token := by
        intro same
        exact tied.other matched differs (same ▸ found)
      exact touches.sources token' elsewhere
  rw [System.standing, System.standing, token, touches.entries other differs,
    touches.commands other differs, touches.responses other differs,
    decide_eq_decide.mpr (touches.known other differs)]

variable {connection : ClientConnection} {source : Source} {sightings : List (Sighting S)}

/-- A client has an entry and a source afterwards. -/
theorem Touches.linked (touches : Touches client token before after) (matched : before.Matched)
    (tied : Tied before client token) (entry : after.state.clients.get? client = some connection)
    (names : connection.registration = token) (found : after.sources.get? token = some source)
    (reads : source.reader.client = client)
    (own : ∀ sighting ∈ sightings, sighting.client = client)
    (moves : ∀ stage, At fromStr client (before.standing client) stage →
      ∃ stage', At fromStr client
          ⟨decide (client < after.state.nextClient), some connection, some source,
            after.commandsOf client,
            after.responsesOf client⟩ stage' ∧
        Accepts (Stage.next client) stage sightings stage') :
    Moves fromStr before sightings after := by
  have named : after.tokenOf client = some token := by rw [System.tokenOf, entry, ← names]; rfl
  have read : after.readerOf token = some client := by rw [System.readerOf, found, ← reads]; rfl
  have standing : after.standing client = ⟨decide (client < after.state.nextClient),
      some connection, some source, after.commandsOf client,
      after.responsesOf client⟩ := by
    rw [System.standing, named, entry, Option.bind_some, found]
  refine .one ?_ (fun other => touches.standing matched tied) own ?_
  · apply Matching.link matched tied
    · intro other
      split
      · next same => rw [same, named]
      · next differs => exact touches.tokenOf differs
    · intro other
      split
      · next same => rw [same, read]
      · next differs => exact touches.readerOf differs
  · rw [standing]
    exact moves

/-- A client that had an entry and a source has neither afterwards. -/
theorem Touches.unlinked (touches : Touches client token before after) (matched : before.Matched)
    (linked : before.tokenOf client = some token)
    (entry : after.state.clients.get? client = none) (found : after.sources.get? token = none)
    (own : ∀ sighting ∈ sightings, sighting.client = client)
    (moves : ∀ stage, At fromStr client (before.standing client) stage →
      ∃ stage', At fromStr client
          ⟨decide (client < after.state.nextClient), none, none,
            after.commandsOf client,
            after.responsesOf client⟩ stage' ∧
        Accepts (Stage.next client) stage sightings stage') :
    Moves fromStr before sightings after := by
  have unnamed : after.tokenOf client = none := by rw [System.tokenOf, entry]; rfl
  have unread : after.readerOf token = none := by rw [System.readerOf, found]; rfl
  have standing : after.standing client = ⟨decide (client < after.state.nextClient),
      none, none, after.commandsOf client,
      after.responsesOf client⟩ := by
    rw [System.standing, unnamed, entry, Option.bind_none]
  refine .one ?_ (fun other => touches.standing matched (.inl linked)) own ?_
  · apply Matching.unlink matched linked
    · intro other
      split
      · next same => rw [same, unnamed]
      · next differs => exact touches.tokenOf differs
    · intro other
      split
      · next same => rw [same, unread]
      · next differs => exact touches.readerOf differs
  · rw [standing]
    exact moves

end

end Scd.Daemon.Ipc
