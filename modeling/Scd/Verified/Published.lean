import Scd.Foundation.Feed
import Scd.Verified.Composition

/-! # What the clients see of the keyboard

The daemon publishes the keyboard, the thread of the server takes over what is published last,
and writes it to the clients that have subscribed.  A client may miss states, but it sees them
in their order, and when nothing is on the way it has the one of the daemon.
-/

namespace Scd.Daemon

open Scd.Core Scd.Foundation

namespace Ipc

section

variable {S : Type} {fromStr : List UInt8 → Option Request} {feed : List S}
  {past sightings : List (Ipc.Sighting S)} {system before after : System S}

/-- A state that is written to the client as a whole. -/
def Sighting.received? (client : Nat) : Ipc.Sighting S → Option S
  | .wrote other (.osk state) true => if other = client then some state else none
  | _ => none

def receivedBy (client : Nat) (sightings : List (Ipc.Sighting S)) : List S :=
  sightings.filterMap (Sighting.received? client)

@[simp] theorem receivedBy_nil (client : Nat) :
    receivedBy client ([] : List (Ipc.Sighting S)) = [] := rfl

@[simp] theorem receivedBy_append (client : Nat) (sightings more : List (Ipc.Sighting S)) :
    receivedBy client (sightings ++ more) = receivedBy client sightings ++ receivedBy client more :=
  List.filterMap_append

/-- The server and its clients, against the states that were published. -/
structure View (feed : List S) (past : List (Ipc.Sighting S)) (system : System S) : Prop where
  current : feed.getLast? = some system.oskCurrent
  unread : ∀ state, system.published = some state → state = system.oskCurrent
  read : system.published = none → system.state.osk = system.oskCurrent
  shown : ∃ position, feed[position]? = some system.state.osk ∧
    ∀ client, Reads feed position (receivedBy client past)
  subscribed : ∀ {client connection}, system.state.clients.get? client = some connection →
    connection.osk = true → (receivedBy client past).getLast? = some system.state.osk

/-- No client has subscribed, and none is shown another state. -/
structure Unseen (before : System S) (sightings : List (Ipc.Sighting S)) (after : System S) :
    Prop where
  osk : after.state.osk = before.state.osk
  published : after.published = before.published
  oskCurrent : after.oskCurrent = before.oskCurrent
  received : ∀ client, receivedBy client sightings = []
  entries : ∀ {client connection}, after.state.clients.get? client = some connection →
    connection.osk = true → before.state.clients.get? client = some connection

theorem View.unseen (view : View feed past before) (unseen : Unseen before sightings after) :
    View feed (past ++ sightings) after where
  current := by rw [unseen.oskCurrent]; exact view.current
  unread := by rw [unseen.published, unseen.oskCurrent]; exact view.unread
  read := by rw [unseen.published, unseen.oskCurrent, unseen.osk]; exact view.read
  shown := by
    obtain ⟨position, found, reads⟩ := view.shown
    refine ⟨position, by rw [unseen.osk]; exact found, fun client => ?_⟩
    rw [receivedBy_append, unseen.received, List.append_nil]
    exact reads client
  subscribed := by
    intro client connection entry osk
    rw [receivedBy_append, unseen.received, List.append_nil, unseen.osk]
    exact view.subscribed (unseen.entries entry osk) osk

theorem get?_of_shiftRemove {clients : IndexMap Nat ClientConnection} {client other : Nat}
    {connection : ClientConnection}
    (entry : (clients.shiftRemove other).get? client = some connection) :
    clients.get? client = some connection := by
  rw [IndexMap.get?_shiftRemove] at entry
  split at entry
  · cases entry
  · exact entry

/-- Publishing adds to the feed. -/
theorem View.publish [DecidableEq S] (view : View feed past system) (next : S) :
    View (feed ++ [next]) past (system.publishOsk next) := by
  have grows : feed <+: feed ++ [next] := List.prefix_append ..
  have shown : ∃ position, (feed ++ [next])[position]? = some system.state.osk ∧
      ∀ client, Reads (feed ++ [next]) position (receivedBy client past) := by
    obtain ⟨position, found, reads⟩ := view.shown
    have inside := (List.getElem?_eq_some_iff.mp found).1
    exact ⟨position, (List.getElem?_append_left inside).trans found,
      fun client => (reads client).grows grows⟩
  by_cases differs : system.oskCurrent ≠ next
  · rw [System.publishOsk, if_pos differs]
    exact ⟨by simp, fun state same => (Option.some.inj same).symm,
      (fun impossible => by cases impossible), shown, view.subscribed⟩
  · rw [System.publishOsk, if_neg differs]
    have same : system.oskCurrent = next := not_not.mp differs
    exact ⟨by simp [same], view.unread, view.read, shown, view.subscribed⟩

/-! ## Pushing -/

theorem pushTo_osk (whole : Nat → Bool) (system : System S) (client : Nat) :
    (system.pushTo whole client).1.state.osk = system.state.osk ∧
      (system.pushTo whole client).1.published = system.published := by
  unfold System.pushTo
  split
  · exact ⟨rfl, rfl⟩
  · split
    · exact ⟨rfl, rfl⟩
    · split <;> exact ⟨rfl, rfl⟩

/-- Only clients to whom the write fails are removed. -/
theorem pushTo_entries {whole : Nat → Bool} {client other : Nat} {connection : ClientConnection}
    (entry : (system.pushTo whole other).1.state.clients.get? client = some connection) :
    system.state.clients.get? client = some connection := by
  unfold System.pushTo at entry
  split at entry
  · exact entry
  · split at entry
    · exact entry
    · split at entry
      · exact entry
      · exact get?_of_shiftRemove entry

theorem pushTo_received {whole : Nat → Bool} {client other : Nat} {state : S}
    (member : state ∈ receivedBy client (system.pushTo whole other).2) :
    state = system.state.osk := by
  unfold System.pushTo at member
  split at member
  · cases member
  · split at member
    · cases member
    · split at member
      · by_cases same : other = client <;>
          simp [receivedBy, Sighting.received?, same] at member
        exact member
      · simp [receivedBy, Sighting.received?] at member

/-- Who is still there with a subscription has received the state. -/
theorem pushTo_own {whole : Nat → Bool} {client : Nat} {connection : ClientConnection}
    (entry : (system.pushTo whole client).1.state.clients.get? client = some connection)
    (osk : connection.osk = true) : receivedBy client (system.pushTo whole client).2 ≠ [] := by
  have earlier := pushTo_entries entry
  unfold System.pushTo at entry ⊢
  rw [earlier] at entry ⊢
  simp only [osk, Bool.not_true, Bool.false_eq_true, if_false] at entry ⊢
  split at entry
  · next taken =>
    rw [if_pos taken]
    simp [receivedBy, Sighting.received?]
  · rw [System.unregister, IndexMap.get?_shiftRemove_self] at entry
    cases entry

theorem pushAll_osk (whole : Nat → Bool) (order : List Nat) (system : System S) :
    (system.pushAll whole order).1.state.osk = system.state.osk ∧
      (system.pushAll whole order).1.published = system.published := by
  induction order generalizing system with
  | nil => exact ⟨rfl, rfl⟩
  | cons client order inductionHypothesis =>
    obtain ⟨osk, published⟩ := inductionHypothesis (system.pushTo whole client).1
    obtain ⟨first, unread⟩ := pushTo_osk whole system client
    exact ⟨osk.trans first, published.trans unread⟩

theorem pushAll_entries {whole : Nat → Bool} {order : List Nat} {client : Nat}
    {connection : ClientConnection}
    (entry : (system.pushAll whole order).1.state.clients.get? client = some connection) :
    system.state.clients.get? client = some connection := by
  induction order generalizing system with
  | nil => exact entry
  | cons other order inductionHypothesis => exact pushTo_entries (inductionHypothesis entry)

theorem pushAll_received {whole : Nat → Bool} {order : List Nat} {client : Nat} {state : S}
    (member : state ∈ receivedBy client (system.pushAll whole order).2) :
    state = system.state.osk := by
  induction order generalizing system with
  | nil => cases member
  | cons other order inductionHypothesis =>
    simp only [System.pushAll, receivedBy_append, List.mem_append] at member
    rcases member with first | rest
    · exact pushTo_received first
    · exact (inductionHypothesis rest).trans (pushTo_osk whole system other).1

theorem pushAll_own {whole : Nat → Bool} {order : List Nat} {client : Nat}
    {connection : ClientConnection} (listed : client ∈ order)
    (entry : (system.pushAll whole order).1.state.clients.get? client = some connection)
    (osk : connection.osk = true) : receivedBy client (system.pushAll whole order).2 ≠ [] := by
  induction order generalizing system with
  | nil => cases listed
  | cons other order inductionHypothesis =>
    simp only [System.pushAll, receivedBy_append, ne_eq, List.append_eq_nil_iff,
      not_and]
    intro nothing
    by_cases again : client ∈ order
    · exact inductionHypothesis again entry
    · -- the client is the first of the order, and has received the state at once
      obtain rfl : client = other := by
        rcases List.mem_cons.mp listed with same | late
        · exact same
        · exact absurd late again
      exact absurd nothing (pushTo_own (pushAll_entries entry) osk)

/-! ## Steps of the thread -/

/-- A state that has been published is taken over, and written to everybody. -/
theorem View.push (view : View feed past system) {order : List Nat} (whole : Nat → Bool)
    (listed : order.Perm system.state.clients.keys) :
    View feed (past ++ (system.push order whole).2) (system.push order whole).1 := by
  cases published : system.published with
  | none =>
    have nothing : system.push order whole = (system, []) := by rw [System.push, published]
    rw [nothing, List.append_nil]
    exact view
  | some next =>
    have pushed : system.push order whole = { system with
        state := { system.state with osk := next }, published := none }.pushAll whole order := by
      rw [System.push, published]
    obtain rfl : next = system.oskCurrent := view.unread next published
    rw [pushed]
    generalize taken : ({ system with
      state := { system.state with osk := system.oskCurrent }, published := none } : System S) =
        shown
    have entries : shown.state.clients = system.state.clients := by rw [← taken]
    have osk : shown.state.osk = system.oskCurrent := by rw [← taken]
    have unread : shown.published = none := by rw [← taken]
    have oskCurrent : (shown.pushAll whole order).1.oskCurrent = system.oskCurrent := by
      rw [(pushAll_threaded whole shown order).oskCurrent, ← taken]
    obtain ⟨sameOsk, samePublished⟩ := pushAll_osk whole order shown
    constructor
    case current => rw [oskCurrent]; exact view.current
    case unread =>
      rw [samePublished, unread]
      exact fun state impossible => by cases impossible
    case read =>
      rw [sameOsk, osk, oskCurrent]
      exact fun _ => rfl
    case shown =>
      obtain ⟨position, found, reads⟩ := view.shown
      have last : feed[feed.length - 1]? = some system.oskCurrent := by
        rw [← List.getLast?_eq_getElem?]
        exact view.current
      have behind : position ≤ feed.length - 1 :=
        Nat.le_sub_one_of_lt (List.getElem?_eq_some_iff.mp found).1
      refine ⟨feed.length - 1, by rw [sameOsk, osk]; exact last, fun client => ?_⟩
      rw [receivedBy_append]
      refine ((reads client).ahead behind).repeats fun state member => ?_
      rw [pushAll_received member, osk]
      exact last
    case subscribed =>
      intro client connection entry subscribed
      have earlier : system.state.clients.get? client = some connection := by
        rw [← entries]
        exact pushAll_entries entry
      have member : client ∈ order :=
        listed.mem_iff.mpr (IndexMap.mem_keys_iff_get?.mpr ⟨connection, earlier⟩)
      -- everything that the client receives is the state that was taken over
      have some := pushAll_own member entry subscribed
      rw [receivedBy_append, List.getLast?_append_of_ne_nil _ some, List.getLast?_eq_getLast_of_ne_nil some,
        sameOsk]
      exact congrArg _ (pushAll_received (List.getLast_mem some))

/-- Only a subscription changes an entry, and it comes with the state. -/
theorem View.ready (view : View feed past system) {reader : ClientReader} {result : Ready S}
    (ended : result.Ended reader system.state system.commands) (registration : Nat) :
    View feed (past ++ result.sightings) (system.apply registration result) := by
  cases ended with
  | more => exact view.unseen ⟨rfl, rfl, rfl, fun _ => rfl, fun entry _ => entry⟩
  | queued => exact view.unseen ⟨rfl, rfl, rfl, fun _ => rfl, fun entry _ => entry⟩
  | rejected =>
    exact view.unseen ⟨rfl, rfl, rfl, fun _ => rfl, fun entry _ => get?_of_shiftRemove entry⟩
  | closed =>
    exact view.unseen ⟨rfl, rfl, rfl, fun _ => rfl, fun entry _ => get?_of_shiftRemove entry⟩
  | left request found =>
    refine view.unseen ⟨rfl, rfl, rfl, fun _ => rfl, fun {client connection} entry _ => ?_⟩
    change IndexMap.get? (IndexMap.shiftRemove _ reader.client) client = _ at entry
    by_cases own : client = reader.client
    · subst own
      rw [IndexMap.get?_shiftRemove_self] at entry
      cases entry
    · have kept := get?_of_shiftRemove entry
      rwa [IndexMap.get?_insert_other _ _ own] at kept
  | subscribed request found =>
    have received : ∀ client, receivedBy client
        [.subscribed reader.client, .wrote reader.client (.osk system.state.osk) true] =
          if reader.client = client then [system.state.osk] else [] := by
      intro client
      by_cases own : reader.client = client <;>
        simp [receivedBy, List.filterMap_cons, Sighting.received?, own]
    constructor
    case current => exact view.current
    case unread => exact view.unread
    case read => exact view.read
    case shown =>
      obtain ⟨position, current, reads⟩ := view.shown
      refine ⟨position, current, fun client => ?_⟩
      rw [receivedBy_append]
      refine (reads client).repeats fun state member => ?_
      rw [received] at member
      split at member
      · rw [List.mem_singleton.mp member]
        exact current
      · cases member
    case subscribed =>
      intro client connection entry osk
      show (receivedBy client (past ++ [_, _])).getLast? = some system.state.osk
      rw [receivedBy_append, received]
      by_cases own : reader.client = client
      · rw [if_pos own]
        exact List.getLast?_concat
      · rw [if_neg own, List.append_nil]
        change IndexMap.get? (IndexMap.insert _ reader.client _) client = _ at entry
        rw [IndexMap.get?_insert_other _ _ (Ne.symm own)] at entry
        exact view.subscribed entry osk

theorem View.thread (view : View feed past before)
    (step : ThreadStep fromStr before sightings after) : View feed (past ++ sightings) after := by
  cases step with
  | accept fresh accepted =>
    unfold System.acceptClient at accepted
    dsimp only at accepted
    split at accepted
    · cases accepted
    · split at accepted
      · cases accepted
        exact view.unseen ⟨rfl, rfl, rfl, fun _ => rfl, fun entry _ => entry⟩
      · cases accepted
        refine view.unseen ⟨rfl, rfl, rfl, fun _ => rfl, fun {client connection} entry osk => ?_⟩
        change IndexMap.get? (IndexMap.insert _ _ _) client = _ at entry
        rw [IndexMap.get?_insert] at entry
        split at entry
        · -- a new client has not subscribed
          cases entry
          cases osk
        · exact entry
  | ready found enabled returned => exact view.ready (ready_ended returned) _
  | deliver =>
    unfold System.deliver
    split
    · exact view.unseen ⟨rfl, rfl, rfl, fun _ => rfl, fun entry _ => entry⟩
    · exact view.unseen ⟨rfl, rfl, rfl, fun _ => rfl, fun entry _ => entry⟩
    · dsimp only
      split
      · exact view.unseen ⟨rfl, rfl, rfl, fun _ => rfl, fun entry _ => entry⟩
      · exact view.unseen ⟨rfl, rfl, rfl, fun _ => rfl, fun entry _ => get?_of_shiftRemove entry⟩
  | @push order whole listed => exact view.push whole listed

end

end Ipc

/-! ## What the loop publishes -/

section

variable {P F : Type} [Scalar F]

def Effect.published? : Effect F → Option (OskState F)
  | .publish keyboard => some keyboard
  | _ => none

def publishesOf (effects : List (Effect F)) : List (OskState F) :=
  effects.filterMap Effect.published?

omit [Scalar F] in
@[simp] theorem publishesOf_append (effects more : List (Effect F)) :
    publishesOf (effects ++ more) = publishesOf effects ++ publishesOf more :=
  List.filterMap_append

omit [Scalar F] in
@[simp] theorem publishesOf_publish (keyboard : OskState F) :
    publishesOf [.publish keyboard] = [keyboard] := rfl

/-- A turn publishes the keyboard that it leaves, or leaves it as it was. -/
def Turn.Publishes (turn : Turn F) (keyboard : OskState F) : Prop :=
  (publishesOf turn.effects).getLast?.getD keyboard = turn.main.keyboard

omit [Scalar F] in
theorem publishes_last {turn : Turn F} {effects : List (Effect F)} (keyboard : OskState F)
    (last : turn.effects = effects ++ [.publish turn.main.keyboard]) : turn.Publishes keyboard := by
  rw [Turn.Publishes, last, publishesOf_append, publishesOf_publish, List.getLast?_concat,
    Option.getD_some]

theorem carryOut_publishes {main : MainLoop F} {result : Mapper F × Log F} {turn : Turn F}
    (carried : main.carryOut result = .ok turn) :
    ∃ effects, turn.effects = effects ++ [.publish turn.main.keyboard] := by
  obtain ⟨emitted, _, done⟩ := bind_ok carried
  cases done
  exact ⟨emitted.effects, rfl⟩

theorem handle_publishes {main : MainLoop F} {event : DeviceEvent F} {now : Nat} {turn : Turn F}
    (handled : main.handle event now = .ok turn) : turn.Publishes main.keyboard := by
  cases event with
  | state state =>
    obtain ⟨⟨mapper, log⟩, _, rest⟩ := bind_ok handled
    obtain ⟨touchpad, _, rest⟩ := bind_ok rest
    obtain ⟨emitted, _, done⟩ := bind_ok rest
    cases done
    exact publishes_last _ (List.cons_append ..).symm
  | battery percent charging =>
    cases handled
    rfl
  | disconnected =>
    obtain ⟨gamepad, _, rest⟩ := bind_ok handled
    obtain ⟨⟨mapper, log⟩, _, rest⟩ := bind_ok rest
    obtain ⟨emitted, _, done⟩ := bind_ok rest
    cases done
    exact publishes_last _ rfl

variable [Platform F]

theorem respond_publishes {main : MainLoop F} {request : Request} {device : DeviceInfo} {now : Nat}
    {turn : Turn F} (responded : main.respond request device now = .ok turn) :
    turn.Publishes main.keyboard := by
  cases respond_answered responded with
  | reply => rfl
  | haptic => rfl
  | key => rfl
  | switch _ _ _ carries =>
    obtain ⟨effects, last⟩ := carryOut_publishes carries
    exact publishes_last _ last
  | @reload _ _ carried config _ _ carries =>
    obtain ⟨effects, last⟩ := carryOut_publishes carries
    have whole : .clickPressure config.clickPressure :: carried.effects =
        (.clickPressure config.clickPressure :: effects) ++ [.publish carried.main.keyboard] := by
      rw [last]
      rfl
    exact publishes_last _ whole
  | hide => exact publishes_last _ rfl

/-! ## Runs -/

variable [DecidableEq (OskState F)] {program after : Program P F}
  {fromStr : List UInt8 → Option Request} {seen : List (Occurrence F)}

/-- The server has, or will be given, the keyboard of the loop. -/
def Program.Publishes (program : Program P F) : Prop :=
  (publishesOf program.place.pending).getLast?.getD program.server.oskCurrent =
    program.main.keyboard

omit [Scalar F] [Platform F] in
theorem publishOsk_current (system : Ipc.System (OskState F)) (keyboard : OskState F) :
    (system.publishOsk keyboard).oskCurrent = keyboard := by
  rw [Ipc.System.publishOsk]
  split
  · rfl
  · next same => exact not_not.mp same

omit [Scalar F] [DecidableEq (OskState F)] [Platform F] in
theorem Program.Publishes.rest (publishes : program.Publishes) (nothing : program.place.pending = [])
    (main : after.main = program.main) (same : after.server.oskCurrent = program.server.oskCurrent)
    (rest : after.place.pending = []) : after.Publishes := by
  rw [Program.Publishes, nothing] at publishes
  rw [Program.Publishes, rest, same, main]
  exact publishes

omit [Scalar F] [DecidableEq (OskState F)] [Platform F] in
theorem Program.Publishes.turn {turn : Turn F} (publishes : program.Publishes)
    (nothing : program.place.pending = []) (turned : turn.Publishes program.main.keyboard)
    (main : after.main = turn.main) (same : after.server.oskCurrent = program.server.oskCurrent)
    (pending : after.place.pending = turn.effects) : after.Publishes := by
  rw [Program.Publishes, nothing] at publishes
  have current : program.server.oskCurrent = program.main.keyboard := publishes
  rw [Program.Publishes, pending, same, main, current]
  exact turned

omit [Platform F] in
theorem Program.Publishes.carries (publishes : program.Publishes) (transport : Transport P)
    {effect : Effect F} {effects : List (Effect F)} {place : Place F}
    (pending : program.place.pending = effect :: effects) (rest : place.pending = effects) :
    (program.carry transport effect place).1.Publishes := by
  show (publishesOf place.pending).getLast?.getD
    (program.perform transport effect).server.oskCurrent =
      (program.perform transport effect).main.keyboard
  rw [Program.perform_main, rest]
  rw [Program.Publishes, pending] at publishes
  have current : (program.perform transport effect).server.oskCurrent =
      effect.published?.getD program.server.oskCurrent := by
    cases effect with
    | publish keyboard => exact publishOsk_current program.server keyboard
    | _ => rfl
  rw [current, ← publishes, publishesOf, publishesOf, List.filterMap_cons]
  cases effect.published? with
  | none => rfl
  | some keyboard =>
    dsimp only
    cases effects.filterMap Effect.published? with
    | nil => rfl
    | cons first more =>
      rw [List.getLast?_cons_cons, List.getLast?_cons]
      rfl

theorem Program.Publishes.step (publishes : program.Publishes)
    (step : program.Step fromStr seen after) : after.Publishes := by
  cases step with
  | socket step =>
    rw [Program.Publishes] at publishes ⊢
    rw [step.threaded.oskCurrent]
    exact publishes
  | game => exact publishes
  | @loop _ world _ advanced =>
    cases Program.advance_kind advanced with
    | moves _ _ nothing rest => exact publishes.rest nothing rfl rfl rest
    | takes taken now place _ responded =>
      exact publishes.turn (by rw [place]; rfl) (respond_publishes responded) rfl rfl rfl
    | carries place pending rest => exact publishes.carries world.transport pending rest
    | answers taken command response place =>
      cases response <;> exact publishes.rest (by rw [place]; rfl) rfl rfl rfl
    | quiet place => exact publishes.rest (by rw [place]; rfl) rfl rfl rfl
    | handles now place _ handled =>
      exact publishes.turn (by rw [place]; rfl) (handle_publishes handled) rfl rfl rfl
    | rumbles place rumbled =>
      cases rumbled <;> exact publishes.rest (by rw [place]; rfl) rfl rfl rfl
    | leaves place => exact publishes.rest (by rw [place]; rfl) rfl rfl rfl
    | loses place => exact publishes.rest (by rw [place]; rfl) rfl rfl (by rw [place]; rfl)
    | ends place => exact publishes.rest (by rw [place]; rfl) rfl rfl rfl

/-- The view of the server, carried through one step of the daemon. -/
theorem view_step {feed : List (OskState F)} {past : List (Ipc.Sighting (OskState F))}
    (view : Ipc.View feed past program.server) (step : program.Step fromStr seen after) :
    Ipc.View (feed ++ publishesOf (performedOf seen)) (past ++ clientsOf seen) after.server := by
  -- a step that publishes nothing and lets no client receive anything
  have aside : ∀ {sightings : List (Ipc.Sighting (OskState F))} {server : Ipc.System (OskState F)},
      performedOf seen = [] → clientsOf seen = sightings → Ipc.Unseen program.server sightings server →
        Ipc.View (feed ++ publishesOf (performedOf seen)) (past ++ clientsOf seen) server := by
    intro sightings server nothing clients unseen
    rw [nothing, clients]
    simpa [publishesOf] using view.unseen unseen
  have same : ∀ {sightings : List (Ipc.Sighting (OskState F))} {server : Ipc.System (OskState F)},
      server.state = program.server.state → server.published = program.server.published →
        server.oskCurrent = program.server.oskCurrent →
          (∀ client, Ipc.receivedBy client sightings = []) →
            Ipc.Unseen program.server sightings server :=
    fun state published current received => ⟨by rw [state], published, current, received,
      fun entry _ => by rw [← state]; exact entry⟩
  cases step with
  | @socket server sightings step =>
    have clients : clientsOf (sightings.map (Occurrence.client (F := F))) = sightings := by
      rw [clientsOf, List.filterMap_map]
      exact List.filterMap_some
    have performed : performedOf (sightings.map (Occurrence.client (F := F))) = [] := by
      rw [performedOf, List.filterMap_map]
      exact List.filterMap_eq_nil_iff.mpr fun _ _ => rfl
    rw [clients, performed]
    simpa [publishesOf] using view.thread step
  | game => exact aside rfl rfl (same rfl rfl rfl fun _ => rfl)
  | @loop _ world _ advanced =>
    cases Program.advance_kind advanced with
    | moves => exact aside rfl rfl (same rfl rfl rfl fun _ => rfl)
    | takes => exact aside rfl rfl (same rfl rfl rfl fun _ => rfl)
    | @carries effect effects place =>
      have clients : clientsOf (program.carry world.transport effect place).2 = [] :=
        filterMap_controller program (program.carry world.transport effect place).1 none
          Occurrence.client? rfl fun _ => rfl
      have performed : performedOf (program.carry world.transport effect place).2 = [effect] :=
        congrArg _ (filterMap_controller program (program.carry world.transport effect place).1 none
          Occurrence.performed? rfl fun _ => rfl)
      rw [clients, performed, List.append_nil]
      cases effect with
      | publish keyboard => exact view.publish keyboard
      | _ =>
        show Ipc.View (feed ++ []) past program.server
        rw [List.append_nil]
        exact view
    | answers taken command response =>
      cases response <;> exact aside rfl rfl (same rfl rfl rfl fun _ => rfl)
    | quiet =>
      exact aside (filterMap_controller _ _ _ _ rfl fun _ => rfl)
        (filterMap_controller _ _ _ _ rfl fun _ => rfl)
        (same rfl rfl rfl Ipc.receivedBy_nil)
    | handles =>
      refine aside ?_ ?_ (same rfl rfl rfl Ipc.receivedBy_nil)
      · rw [performedOf, List.filterMap_append, filterMap_controller _ _ _ _ rfl fun _ => rfl]
        rfl
      · rw [clientsOf, List.filterMap_append, filterMap_controller _ _ _ _ rfl fun _ => rfl]
        rfl
    | rumbles _ rumbled =>
      cases rumbled with
      | keeps => exact aside rfl rfl (same rfl rfl rfl fun _ => rfl)
      | sends rumble =>
        exact aside (filterMap_controller _ _ _ Occurrence.performed? rfl fun _ => rfl)
          (filterMap_controller _ _ _ Occurrence.client? rfl fun _ => rfl)
          (same rfl rfl rfl Ipc.receivedBy_nil)
    | leaves => exact aside rfl rfl (same rfl rfl rfl fun _ => rfl)
    | loses => exact aside rfl rfl (same rfl rfl rfl fun _ => rfl)
    | ends => exact aside rfl rfl (same rfl rfl rfl fun _ => rfl)

/-- The keyboard as the clients see it, from the one that is published before the loop. -/
structure Program.KeyboardShown (initial : OskState F) (seen : List (Occurrence F))
    (program : Program P F) : Prop where
  /-- A client receives states that were published, and never goes back. -/
  ordered : ∀ client, ∃ positions : List Nat, positions.Pairwise (· ≤ ·) ∧
    (Ipc.receivedBy client (clientsOf seen)).map some = positions.map
      ((OskState.default :: initial :: publishesOf (performedOf seen))[·]?)
  /-- When nothing is on the way, whoever has subscribed and is still there has the keyboard. -/
  current : publishesOf program.place.pending = [] → program.server.published = none →
    ∀ {client connection}, program.server.state.clients.get? client = some connection →
      connection.osk = true →
        (Ipc.receivedBy client (clientsOf seen)).getLast? = some program.main.keyboard

omit [Platform F] in
theorem start_shows {config : Config F} {world : World P} {start : Program P F}
    (started : Program.start config world = .ok start) : start.Publishes ∧
      Ipc.View [OskState.default, start.main.keyboard] [] start.server := by
  obtain ⟨main, begins, rest⟩ := bind_ok started
  obtain ⟨gamepad, _, done⟩ := bind_ok rest
  cases done
  have bound : Ipc.View [OskState.default] []
      (Ipc.System.bind (OskState.default : OskState F)) := by
    constructor
    case current => rfl
    case unread => exact fun state impossible => by cases impossible
    case read => exact fun _ => rfl
    case shown => exact ⟨0, rfl, fun _ => .start⟩
    case subscribed => exact fun impossible => by cases impossible
  exact ⟨publishOsk_current _ _, bound.publish main.keyboard⟩

theorem clients_follow_keyboard {config : Config F} {world : World P} {start final : Program P F}
    (started : Program.start config world = .ok start) (run : start.Run fromStr seen final) :
    Program.KeyboardShown start.main.keyboard seen final := by
  obtain ⟨publishes, view⟩ := start_shows started
  let shows := fun (past : List (Occurrence F)) (program : Program P F) => program.Publishes ∧
    Ipc.View (OskState.default :: start.main.keyboard :: publishesOf (performedOf past))
      (clientsOf past) program.server
  have kept : ∀ {past : List (Occurrence F)} {program after : Program P F}
      {seen : List (Occurrence F)}, program.Step fromStr seen after → shows past program →
        shows (past ++ seen) after := by
    intro past program after seen step holds
    refine ⟨holds.1.step step, ?_⟩
    rw [performedOf, clientsOf, List.filterMap_append, List.filterMap_append, publishesOf_append]
    exact view_step holds.2 step
  have initial : shows [] start := ⟨publishes, view⟩
  obtain ⟨publishes, view⟩ : shows seen final := run.history shows kept initial
  constructor
  case ordered =>
    intro client
    obtain ⟨position, _, reads⟩ := view.shown
    obtain ⟨positions, sorted, _, same⟩ := (reads client).positions
    exact ⟨positions, sorted, same⟩
  case current =>
    intro pending read client connection entry osk
    rw [Program.Publishes, pending] at publishes
    have same : final.server.state.osk = final.main.keyboard := (view.read read).trans publishes
    rw [← same]
    exact view.subscribed entry osk

/-- A client of the example connects and subscribes. -/
theorem clients_follow_keyboard_subscribed :
    ∃ (keyboard : OskState ℚ) (final : Program Unit ℚ),
      Program.KeyboardShown quietStart.main.keyboard
        [.client (.accepted 1), .client (.subscribed 1), .client (.wrote 1 (.osk keyboard) true)]
        final := by
  have started : Program.start exampleConfig quietWorld = .ok quietStart := rfl
  have subscribed := acceptedStart_run.snoc (.socket
    (@Ipc.ThreadStep.ready _ _ _ 0 _ ⟨Ipc.oskLine, .wouldBlock⟩ true _ rfl rfl rfl))
  exact ⟨_, _, clients_follow_keyboard started subscribed⟩

end

end Scd.Daemon
