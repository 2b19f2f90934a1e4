import Scd.Osk.Window
import Scd.Verified.Coalescing

/-! # Typing across connections

The on-screen keyboard follows a daemon whose states it sees one after the other, but not all
of them; the connection breaks and comes back, and the daemon may start anew in between.
Through all of it a click is typed at most once, in the order of the clicks, and under the
session in which it was recorded: the daemon refuses a key of any other session.
-/

namespace Scd.Osk

open Scd.Core Scd.Foundation

section

variable {F : Type} [Scalar F]

/-! ## What a state is typed from -/

/-- The clicks that `update` hands to its loop. -/
def Keyboard.accepts (keyboard : Keyboard F) (state : OskState F) :
    Checked (List (OskClick F)) := do
  let clicks ← (state.clicksSince keyboard.clickCursor).toList
  return clicks.filter fun _ => keyboard.initialized && (state.visible || keyboard.visible)

theorem Keyboard.update_accepts {keyboard next : Keyboard F} {state : OskState F}
    {sent : List KeyboardOutput} {changed : Bool} {clicks : List (OskClick F)}
    (accepts : keyboard.accepts state = .ok clicks)
    (updates : keyboard.update state = .ok (next, sent, changed)) :
    (∃ typing stopped, typeClicks state.session ⟨keyboard.page, keyboard.shifted, []⟩ clicks =
        .ok (typing, stopped) ∧ sent = typing.sent) ∧
      next.initialized = true ∧ next.clickCursor = state.clickCursor := by
  obtain ⟨read, reads, kept⟩ := bind_ok accepts
  cases kept
  obtain ⟨again, readsAgain, rest⟩ := bind_ok updates
  cases reads.symm.trans readsAgain
  obtain ⟨⟨typing, stopped⟩, typed, done⟩ := bind_ok rest
  cases done
  exact ⟨⟨typing, stopped, typed, rfl⟩, rfl, rfl⟩

def KeyboardOutput.session : KeyboardOutput → UInt64
  | .key _ _ session | .hide session => session

/-- A click sends at most one output, under the session of the state. -/
theorem click_sends {session : UInt64} {typing next : Typing} {click : OskClick F} {stopped : Bool}
    (clicked : typing.click session click = .ok (next, stopped)) :
    ∃ sent, next.sent = typing.sent ++ sent ∧
      (sent.map KeyboardOutput.session).Sublist [session] := by
  obtain ⟨found, _, rest⟩ := bind_ok clicked
  cases found with
  | none =>
    cases rest
    exact ⟨[], by simp, List.nil_sublist _⟩
  | some slot =>
    obtain ⟨row, _, rest⟩ := bind_ok rest
    obtain ⟨key, _, rest⟩ := bind_ok rest
    cases action : key.action with
    | key code shift =>
      simp only [action, Typing.act] at rest
      cases rest
      exact ⟨[.key code.code (shift.applies typing.shifted click.shiftHeld) session], rfl, .refl _⟩
    | shift | page =>
      simp only [action, Typing.act] at rest
      cases rest
      exact ⟨[], by simp, List.nil_sublist _⟩
    | close =>
      simp only [action, Typing.act] at rest
      cases rest
      exact ⟨[.hide session], rfl, .refl _⟩

theorem typeClicks_sends {session : UInt64} {typing next : Typing} {clicks : List (OskClick F)}
    {stopped : Bool} (typed : typeClicks session typing clicks = .ok (next, stopped)) :
    ∃ sent, next.sent = typing.sent ++ sent ∧
      (sent.map KeyboardOutput.session).Sublist (clicks.map fun _ => session) := by
  induction clicks generalizing typing with
  | nil =>
    cases typed
    exact ⟨[], by simp, .refl _⟩
  | cons click clicks inductionHypothesis =>
    obtain ⟨⟨mid, left⟩, clicked, rest⟩ := bind_ok typed
    obtain ⟨first, sends, one⟩ := click_sends clicked
    cases left with
    | true =>
      cases rest
      exact ⟨first, sends, one.trans (List.singleton_sublist.mpr List.mem_cons_self)⟩
    | false =>
      obtain ⟨more, sendsRest, others⟩ := inductionHypothesis rest
      refine ⟨first ++ more, by rw [sendsRest, sends, List.append_assoc], ?_⟩
      rw [List.map_append]
      exact one.append others

/-! ## What is read after any number of clicks -/

omit [Scalar F] in
theorem sinceOpened_le (past : List (OskEvent F)) : sinceOpened past ≤ (recorded past).length := by
  induction past using List.reverseRecOn with
  | nil => exact le_rfl
  | append_singleton past event inductionHypothesis =>
    cases event with
    | opened => simp [sinceOpened_opened]
    | clicked click => simpa [sinceOpened_clicked] using inductionHypothesis

omit [Scalar F] in
/-- Any cursor can be read, also one of another daemon: what is read are the newest clicks of
    this one, and none from before the keyboard was last opened. -/
theorem reads_newest {past : List (OskEvent F)} {state : OskState F}
    (remembers : Remembers past state) (cursor : UInt64) :
    ∃ count, (state.clicksSince cursor).toList =
        .ok ((recorded past).drop ((recorded past).length - count)) ∧
      count ≤ sinceOpened past ∧ count ≤ (state.clickSequence - cursor).toNat := by
  let available := (min state.clickHistoryLen (UInt8.ofNat oskClickHistoryLen)).toUInt64
  have room : available.toNat = min (sinceOpened past) oskClickHistoryLen := by
    simp only [available]
    rw [UInt8.toNat_toUInt64, UInt8.toNat_min, remembers.length]
    simp [oskClickHistoryLen]
  let requested := state.clickSequence - cursor
  let count := min requested.toNat available.toNat
  have capacity : oskClickHistoryLen = 16 := rfl
  have within : count ≤ (recorded past).length := by
    have opened := sinceOpened_le past
    omega
  have behind : cursor + requested = state.clickSequence := by
    simp only [requested]
    rw [UInt64.add_comm, UInt64.sub_add_cancel]
  -- the reader starts as many clicks before the end as it reads
  have starts : (state.clicksSince cursor).sequence =
      UInt64.ofNat ((recorded past).length - count) := by
    have whole : (state.clicksSince cursor).sequence + UInt64.ofNat count =
        state.clickSequence := by
      show cursor + (if requested ≤ available then 0 else requested - available) + _ = _
      split
      · next le =>
        have all : count = requested.toNat := min_eq_left (UInt64.le_iff_toNat_le.mp le)
        rw [all, UInt64.ofNat_toNat, UInt64.add_zero, behind]
      · next gt =>
        have some : count = available.toNat :=
          min_eq_right (Nat.le_of_not_le fun le => gt (UInt64.le_iff_toNat_le.mpr le))
        rw [some, UInt64.ofNat_toNat, UInt64.add_assoc, UInt64.sub_add_cancel, behind]
    have placed : UInt64.ofNat ((recorded past).length - count) + UInt64.ofNat count =
        state.clickSequence := by
      rw [remembers.sequence, ← UInt64.ofNat_add, Nat.sub_add_cancel within]
    rw [← UInt64.add_sub_cancel (state.clicksSince cursor).sequence (.ofNat count), whole,
      ← placed, UInt64.add_sub_cancel]
  have remaining : (state.clicksSince cursor).remaining.toNat = count := by
    show (min requested available).toUInt8.toNat = count
    rw [UInt64.toNat_toUInt8, UInt64.toNat_min]
    exact Nat.mod_eq_of_lt (by omega)
  refine ⟨count, ?_, by omega, Nat.min_le_left _ _⟩
  rw [OskClicks.toList, remaining]
  exact remembers.take count rfl starts remaining (Nat.sub_add_cancel within) (by omega)

/-! ## The keyboard and its daemon -/

/-- The state of the daemon, and the keyboard that follows it. -/
structure Following (F : Type) where
  state : OskState F
  keyboard : Keyboard F

def Following.start : Following F := ⟨.default, .default⟩

inductive Heard (F : Type) where
  /-- The daemon records a click, in this session. -/
  | recorded (session : UInt64) (click : OskClick F)
  /-- The keyboard takes the click, in a state of this session. -/
  | accepted (session : UInt64) (click : OskClick F)
  | sent (output : KeyboardOutput)

/-- A state on its way reaches the keyboard in order and before the end of its stream, so that
    it may as well be taken when it is published. -/
inductive FollowStep : Following F → List (Heard F) → Following F → Prop where
  | daemon {following : Following F} {events : List (OskEvent F)} {next : OskState F} :
      OskStep following.state events next →
      FollowStep following ((recorded events).map (.recorded following.state.session))
        { following with state := next }
  | deliver {following : Following F} {next : Keyboard F} {clicks : List (OskClick F)}
      {sent : List KeyboardOutput} {changed : Bool} :
      following.keyboard.accepts following.state = .ok clicks →
      following.keyboard.update following.state = .ok (next, sent, changed) →
      FollowStep following
        (clicks.map (.accepted following.state.session) ++ sent.map .sent)
        { following with keyboard := next }
  /-- The stream ends. -/
  | disconnect {following : Following F} :
      FollowStep following [] { following with keyboard := following.keyboard.disconnect }
  /-- The keyboard knows the end of the old stream before it has a new one. -/
  | restart {following : Following F} : following.keyboard.initialized = false →
      FollowStep following [] { following with state := .default }

omit [Scalar F] in
def recordedOf (heard : List (Heard F)) : List (UInt64 × OskClick F) :=
  heard.filterMap fun
    | .recorded session click => some (session, click)
    | _ => none

omit [Scalar F] in
def acceptedOf (heard : List (Heard F)) : List (UInt64 × OskClick F) :=
  heard.filterMap fun
    | .accepted session click => some (session, click)
    | _ => none

omit [Scalar F] in
def sentOf (heard : List (Heard F)) : List KeyboardOutput :=
  heard.filterMap fun
    | .sent output => some output
    | _ => none

omit [Scalar F] in
@[simp] theorem recordedOf_append (heard more : List (Heard F)) :
    recordedOf (heard ++ more) = recordedOf heard ++ recordedOf more := List.filterMap_append

omit [Scalar F] in
@[simp] theorem acceptedOf_append (heard more : List (Heard F)) :
    acceptedOf (heard ++ more) = acceptedOf heard ++ acceptedOf more := List.filterMap_append

omit [Scalar F] in
@[simp] theorem sentOf_append (heard more : List (Heard F)) :
    sentOf (heard ++ more) = sentOf heard ++ sentOf more := List.filterMap_append

omit [Scalar F] in
theorem recorded_labels (session : UInt64) (clicks : List (OskClick F)) :
    recordedOf (clicks.map (.recorded session)) = clicks.map (fun click => (session, click)) ∧
      acceptedOf (clicks.map (.recorded session)) = [] ∧
      sentOf (clicks.map (.recorded session)) = [] := by
  refine ⟨?_, ?_, ?_⟩
  · rw [recordedOf, List.filterMap_map, ← List.filterMap_eq_map]
    rfl
  · simp [acceptedOf, List.filterMap_map]
  · simp [sentOf, List.filterMap_map]

omit [Scalar F] in
theorem accepted_labels (session : UInt64) (clicks : List (OskClick F)) :
    recordedOf (clicks.map (.accepted session)) = [] ∧
      acceptedOf (clicks.map (.accepted session)) = clicks.map (fun click => (session, click)) ∧
      sentOf (clicks.map (.accepted session)) = [] := by
  refine ⟨?_, ?_, ?_⟩
  · simp [recordedOf, List.filterMap_map]
  · rw [acceptedOf, List.filterMap_map, ← List.filterMap_eq_map]
    rfl
  · simp [sentOf, List.filterMap_map]

omit [Scalar F] in
theorem sent_labels (sent : List KeyboardOutput) :
    recordedOf (sent.map (.sent (F := F))) = [] ∧ acceptedOf (sent.map (.sent (F := F))) = [] ∧
      sentOf (sent.map (.sent (F := F))) = sent := by
  refine ⟨?_, ?_, ?_⟩
  · simp [recordedOf, List.filterMap_map]
  · simp [acceptedOf, List.filterMap_map]
  · rw [sentOf, List.filterMap_map]
    exact List.filterMap_some

/-! ## The clicks and their sessions -/

omit [Scalar F] in
/-- The clicks of a daemon with their sessions: those that can still be read are of the session
    that is on. -/
structure Tagged (tagged : List (UInt64 × OskClick F)) (past : List (OskEvent F))
    (state : OskState F) : Prop where
  remembers : Remembers past state
  clicks : tagged.map Prod.snd = recorded past
  session : ∀ pair ∈ tagged.drop (tagged.length - sinceOpened past), pair.1 = state.session

theorem Tagged.start : Tagged [] [] (OskState.default : OskState F) where
  remembers := .start
  clicks := rfl
  session := by simp

namespace Tagged

variable {tagged : List (UInt64 × OskClick F)} {past : List (OskEvent F)} {state next : OskState F}

omit [Scalar F] in
theorem length (holds : Tagged tagged past state) : tagged.length = (recorded past).length := by
  rw [← holds.clicks, List.length_map]

theorem step (holds : Tagged tagged past state) {events : List (OskEvent F)}
    (stepped : OskStep state events next) :
    Tagged (tagged ++ (recorded events).map fun click => (state.session, click)) (past ++ events)
      next := by
  refine ⟨holds.remembers.step stepped, ?_, ?_⟩
  · rw [List.map_append, holds.clicks, recorded_append, List.map_map]
    exact congrArg _ (List.map_id _)
  · have kinds : events = [] ∨ events = [.opened] ∨ ∃ click, events = [.clicked click] := by
      cases stepped with
      | op op =>
        cases op with
        | setVisible visible =>
          by_cases opens : (visible && !state.visible) <;> simp [OskOp.events, opens]
        | updatePad side pad recordRisingEdge =>
          simp only [OskOp.events]
          split <;> simp
        | _ => simp [OskOp.events]
    have kept (closed : NotOpened events) : next.session = state.session :=
      session_unchanged (.single stepped) closed
    rcases kinds with rfl | rfl | ⟨click, rfl⟩
    · have silent : recorded ([] : List (OskEvent F)) = [] := rfl
      rw [kept (by simp [NotOpened])]
      simpa [silent] using holds.session
    · -- the clicks before the opening cannot be read any more
      rw [sinceOpened_opened]
      simp
    · rw [kept (by simp [NotOpened]), sinceOpened_clicked]
      intro pair member
      simp only [recorded_clicked, List.map_cons, List.map_nil, List.length_append,
        List.length_singleton, Nat.add_sub_add_right] at member
      rw [List.drop_append_of_le_length (Nat.sub_le _ _), List.mem_append] at member
      cases member with
      | inl old => exact holds.session pair old
      | inr new =>
        rw [List.mem_singleton.mp new]

omit [Scalar F] in
/-- What the keyboard reads, with the session of the state, are the newest clicks with their
    own sessions. -/
theorem reads (holds : Tagged tagged past state) {cursor : Nat} (le : cursor ≤ tagged.length)
    {clicks : List (OskClick F)}
    (read : (state.clicksSince (UInt64.ofNat cursor)).toList = .ok clicks) :
    (clicks.map fun click => (state.session, click)).Sublist (tagged.drop cursor) := by
  obtain ⟨count, newest, opened, since⟩ := reads_newest holds.remembers (.ofNat cursor)
  cases read.symm.trans newest
  rw [← holds.length]
  have own : ((recorded past).drop (tagged.length - count)).map
      (fun click => (state.session, click)) = tagged.drop (tagged.length - count) := by
    rw [← holds.clicks, ← List.map_drop, List.map_map]
    refine (List.map_congr_left ?_).trans (List.map_id _)
    intro pair member
    have current : pair.1 = state.session :=
      holds.session pair ((List.drop_sublist_drop_left _ (by omega)).subset member)
    rw [Function.comp_apply, ← current]
    rfl
  have near : count ≤ tagged.length - cursor := by
    rw [holds.remembers.sequence, ← holds.length, ← UInt64.ofNat_sub le,
      UInt64.toNat_ofNat'] at since
    exact since.trans (Nat.mod_le _ _)
  rw [own]
  exact List.drop_sublist_drop_left _ (by omega)

end Tagged

/-! ## Runs -/

/-- While the keyboard is connected, what it has accepted came before its cursor; while it is
    not, it accepts nothing more of what there is. -/
structure InOrder (heard : List (Heard F)) (following : Following F) : Prop where
  tagged : ∃ tagged past, Tagged tagged past following.state ∧
    (following.keyboard.initialized = true → ∃ cursor front,
      following.keyboard.clickCursor = UInt64.ofNat cursor ∧ cursor ≤ tagged.length ∧
      recordedOf heard = front ++ tagged.drop cursor ∧ (acceptedOf heard).Sublist front) ∧
    (following.keyboard.initialized = false → (acceptedOf heard).Sublist (recordedOf heard))
  sent : ((sentOf heard).map KeyboardOutput.session).Sublist ((acceptedOf heard).map Prod.fst)

namespace InOrder

variable {heard more : List (Heard F)} {following after : Following F}

omit [Scalar F] in
theorem accepted (ordered : InOrder heard following) :
    (acceptedOf heard).Sublist (recordedOf heard) := by
  obtain ⟨tagged, past, _, connected, closed⟩ := ordered.tagged
  cases initialized : following.keyboard.initialized with
  | false => exact closed initialized
  | true =>
    obtain ⟨cursor, front, _, _, recorded, accepted⟩ := connected initialized
    rw [recorded]
    exact accepted.trans (List.sublist_append_left _ _)

omit [Scalar F] in
/-- A keyboard that takes no state yet. -/
theorem start {tagged : List (UInt64 × OskClick F)} {past : List (OskEvent F)}
    (holds : Tagged tagged past following.state)
    (disconnected : following.keyboard.initialized = false) : InOrder [] following where
  tagged := by
    refine ⟨tagged, past, holds, ?_, fun _ => .refl _⟩
    rw [disconnected]
    intro connected
    cases connected
  sent := .refl _

theorem daemon (ordered : InOrder heard following) {events : List (OskEvent F)} {next : OskState F}
    (stepped : OskStep following.state events next) :
    InOrder (heard ++ (recorded events).map (.recorded following.state.session))
      { following with state := next } := by
  obtain ⟨tagged, past, holds, connected, closed⟩ := ordered.tagged
  obtain ⟨recorded, accepted, sent⟩ := recorded_labels following.state.session (recorded events)
  constructor
  case tagged =>
    refine ⟨_, _, holds.step stepped, ?_, ?_⟩
    · intro initialized
      obtain ⟨cursor, front, place, le, split, before⟩ := connected initialized
      refine ⟨cursor, front, place, le.trans (by simp), ?_, ?_⟩
      · rw [recordedOf_append, recorded, split, List.append_assoc,
          List.drop_append_of_le_length le]
      · rwa [acceptedOf_append, accepted, List.append_nil]
    · intro disconnected
      rw [acceptedOf_append, accepted, List.append_nil, recordedOf_append]
      exact (closed disconnected).trans (List.sublist_append_left _ _)
  case sent =>
    rw [sentOf_append, sent, List.append_nil, acceptedOf_append, accepted, List.append_nil]
    exact ordered.sent

/-- What a connected keyboard accepts lies behind its cursor, and one that has just been
    connected accepts nothing. -/
theorem deliver (ordered : InOrder heard following) {next : Keyboard F} {clicks : List (OskClick F)}
    {sent : List KeyboardOutput} {changed : Bool}
    (accepts : following.keyboard.accepts following.state = .ok clicks)
    (updates : following.keyboard.update following.state = .ok (next, sent, changed)) :
    InOrder (heard ++ (clicks.map (.accepted following.state.session) ++ sent.map .sent))
      { following with keyboard := next } := by
  obtain ⟨⟨typing, stopped, typed, sends⟩, initialized, cursor⟩ :=
    Keyboard.update_accepts accepts updates
  obtain ⟨tagged, past, holds, connected, closed⟩ := ordered.tagged
  obtain ⟨recordedBy, acceptedBy, sentBy⟩ := accepted_labels following.state.session clicks
  obtain ⟨recordedAs, acceptedAs, sentAs⟩ := sent_labels (F := F) sent
  have taken : (acceptedOf heard ++
      clicks.map fun click => (following.state.session, click)).Sublist (recordedOf heard) := by
    obtain ⟨read, reads, kept⟩ := bind_ok accepts
    cases kept
    cases before : following.keyboard.initialized with
    | false => simpa using closed before
    | true =>
      obtain ⟨place, front, isPlace, le, split, earlier⟩ := connected before
      rw [isPlace] at reads
      rw [split]
      exact earlier.append ((List.filter_sublist.map _).trans (holds.reads le reads))
  constructor
  case tagged =>
    refine ⟨tagged, past, holds, fun _ => ?_, fun closed => ?_⟩
    · refine ⟨tagged.length, recordedOf heard, ?_, le_rfl, ?_, ?_⟩
      · rw [cursor, OskState.clickCursor, holds.remembers.sequence, holds.length]
      · simp [recordedBy, recordedAs]
      · simpa [acceptedBy, acceptedAs] using taken
    · rw [initialized] at closed
      cases closed
  case sent =>
    obtain ⟨given, sendsAll, each⟩ := typeClicks_sends typed
    have own : (sent.map KeyboardOutput.session).Sublist
        (clicks.map fun _ => following.state.session) := by
      rw [sends, sendsAll]
      exact each
    simp only [sentOf_append, acceptedOf_append, sentBy, sentAs, acceptedBy, acceptedAs,
      List.nil_append, List.append_nil, List.map_append, List.map_map]
    exact ordered.sent.append own

theorem step (ordered : InOrder heard following) (stepped : FollowStep following more after) :
    InOrder (heard ++ more) after := by
  cases stepped with
  | daemon stepped => exact ordered.daemon stepped
  | deliver accepts updates => exact ordered.deliver accepts updates
  | disconnect =>
    obtain ⟨tagged, past, holds, _⟩ := ordered.tagged
    rw [List.append_nil]
    refine ⟨⟨tagged, past, holds, ?_, fun _ => ordered.accepted⟩, ordered.sent⟩
    intro initialized
    cases initialized
  | restart disconnected =>
    rw [List.append_nil]
    refine ⟨⟨[], [], .start, ?_, fun _ => ordered.accepted⟩, ordered.sent⟩
    intro initialized
    rw [disconnected] at initialized
    cases initialized

/-- Whatever the keyboard has seen before, it takes the next state. -/
theorem takes (ordered : InOrder heard following) :
    ∃ next sent changed clicks, following.keyboard.accepts following.state = .ok clicks ∧
      following.keyboard.update following.state = .ok (next, sent, changed) := by
  obtain ⟨tagged, past, holds, _⟩ := ordered.tagged
  obtain ⟨count, reads, _⟩ := reads_newest holds.remembers following.keyboard.clickCursor
  obtain ⟨accepted, kept⟩ : ∃ accepted,
      ((recorded past).drop ((recorded past).length - count)).filter
        (fun _ => following.keyboard.initialized &&
          (following.state.visible || following.keyboard.visible)) = accepted := ⟨_, rfl⟩
  obtain ⟨⟨typing, stopped⟩, typed, _⟩ := typeClicks_returns
    ⟨following.keyboard.page, following.keyboard.shifted, []⟩ (List.forall_mem_nil _)
    following.state.session accepted
  have accepts : following.keyboard.accepts following.state = .ok accepted := by
    rw [Keyboard.accepts, reads, ← kept]
    rfl
  have updates : ∃ result, following.keyboard.update following.state = .ok result := by
    rw [typeClicks] at typed
    rw [Keyboard.update, reads, ok_bind]
    simp only [kept, typed, ok_bind]
    exact ⟨_, rfl⟩
  obtain ⟨⟨next, sent, changed⟩, updated⟩ := updates
  exact ⟨next, sent, changed, accepted, accepts, updated⟩

end InOrder

/-- In every run of the keyboard and the daemon that it follows, through ends of the stream
    and new daemons: from where the keyboard is not connected on, the clicks that it accepts
    are clicks recorded from there on, each at most once, in their order, and under the session
    in which they were recorded; each output belongs to one of them; and the keyboard takes
    every state. -/
theorem clicks_act_once {past more : List (Heard F)} {middle final : Following F}
    (first : Path FollowStep .start past middle)
    (disconnected : middle.keyboard.initialized = false)
    (second : Path FollowStep middle more final) :
    (acceptedOf more).Sublist (recordedOf more) ∧
      ((sentOf more).map KeyboardOutput.session).Sublist ((acceptedOf more).map Prod.fst) ∧
      ∃ next sent changed clicks, final.keyboard.accepts final.state = .ok clicks ∧
        final.keyboard.update final.state = .ok (next, sent, changed) := by
  have preserved : ∀ {heard following more after}, FollowStep following more after →
      InOrder heard following → InOrder (heard ++ more) (after : Following F) :=
    fun stepped ordered => ordered.step stepped
  have before : InOrder ([] ++ past) middle :=
    first.history InOrder preserved (InOrder.start Tagged.start rfl)
  obtain ⟨tagged, events, holds, _⟩ := before.tagged
  have ordered : InOrder ([] ++ more) final :=
    second.history InOrder preserved (InOrder.start holds disconnected)
  rw [List.nil_append] at ordered
  exact ⟨ordered.accepted, ordered.sent, ordered.takes⟩

/-- The keyboard is opened, takes that state, and then one click. -/
theorem clicks_act_once_opened : ∃ heard : List (Heard ℚ),
    acceptedOf heard = [(1, ⟨0, .left, (0, 0), false⟩)] ∧
      (acceptedOf heard).Sublist (recordedOf heard) := by
  let shown : OskState ℚ := OskState.default.setVisible true
  have opens : FollowStep .start [] ⟨shown, .default⟩ :=
    FollowStep.daemon (.op (.setVisible true))
  obtain ⟨-, -, first, sent, changed, taken, accepts, updates⟩ :=
    clicks_act_once .refl rfl (Path.single opens)
  obtain ⟨-, initialized, cursor⟩ := Keyboard.update_accepts accepts updates
  have connects := (Path.single opens).snoc (FollowStep.deliver accepts updates)
  have clicks := connects.snoc (FollowStep.daemon (OskStep.op (.recordClick .left (0, 0))))
  obtain ⟨-, -, second, sent', changed', taken', accepts', updates'⟩ :=
    clicks_act_once .refl rfl clicks
  have types := clicks.snoc (FollowStep.deliver accepts' updates')
  refine ⟨_, ?_, (clicks_act_once .refl rfl types).1⟩
  have read : ((((OskState.default : OskState ℚ).setVisible true).recordClick .left
      (0, 0)).clicksSince 0).toList = .ok [⟨0, .left, (0, 0), false⟩] := by with_unfolding_all rfl
  have nothing : taken = [] := by
    obtain ⟨_, _, kept⟩ := bind_ok accepts
    cases kept
    simp [Keyboard.default]
  have one : taken' = [⟨0, .left, (0, 0), false⟩] := by
    obtain ⟨_, reads, kept⟩ := bind_ok accepts'
    rw [cursor] at reads
    cases read.symm.trans reads
    cases kept
    simp only [initialized]
    rfl
  subst nothing one
  simp only [List.map_nil, List.nil_append, acceptedOf_append, accepted_labels, sent_labels,
    recorded_labels]
  rfl

end

end Scd.Osk
