import Scd.Osk.Keyboard
import Scd.Verified.Clicks

/-! # Coalesced states of the on-screen keyboard

The daemon's channel keeps only the newest state, so the keyboard may miss some of them.
What is typed does not depend on which: the clicks of a session, taken together, are typed
in the same way however they are split over the states that do arrive.

`keyboard_updates` says what a list of states types, in terms of the clicks between the
first and the last one alone; that two lists with the same last state agree follows.
-/

namespace Scd.Osk

open Scd.Core Scd.Foundation

section

variable {F : Type} [Scalar F]

/-! ## No click makes the keyboard panic -/

omit [Scalar F] in
theorem rows_length (page : Page) : (rows page).length = 5 := by cases page <;> rfl

theorem hitKey_lt {target boundary : F} {position hit : Nat} {keys : List Key}
    (found : hitKey target boundary position keys = some hit) : hit < position + keys.length := by
  induction keys generalizing boundary position with
  | nil => cases found
  | cons key keys inductionHypothesis =>
    rw [hitKey] at found
    split at found
    · cases found
      simp
    · have := inductionHypothesis found
      rw [List.length_cons]
      omega

theorem index_ok {α : Type} {items : List α} {position : Nat} (lt : position < items.length) :
    index items position = .ok items[position] := by
  rw [index, List.getElem?_eq_getElem lt]

/-- A slot that is hit is a key of the page. -/
theorem hitSlot_returns (page : Page) (half : Half) (position : F × F) :
    Returns (hitSlot page half position) fun result => ∀ slot, result = some slot →
      ∃ row, (rows page)[slot.row]? = some row ∧ slot.key < row.length := by
  unfold hitSlot
  cases half.project position with
  | none =>
    refine .ok ?_
    intro slot found
    cases found
  | some place =>
    obtain ⟨x, y⟩ := place
    have lt := Scalar.toInt_min_lt
      (Scalar.floor (y * (Scalar.ofInt ((rows page).length : Int) : F))) (rows page).length
      (by simp [rows_length]) (by simp [rows_length])
    simp only
    rw [index_ok lt, ok_bind]
    refine .ok ?_
    intro slot found
    obtain ⟨hit, isHit, rfl⟩ := Option.map_eq_some_iff.mp found
    refine ⟨_, List.getElem?_eq_getElem lt, ?_⟩
    simpa using hitKey_lt isHit

/-! ## One click -/

/-- The outputs up to and including the first `Hide`. -/
def throughHide : List KeyboardOutput → List KeyboardOutput
  | [] => []
  | .hide session :: _ => [.hide session]
  | .key code shift session :: rest => .key code shift session :: throughHide rest

def isHide : KeyboardOutput → Bool
  | .hide _ => true
  | .key _ _ _ => false

/-- No key after a `Hide`: the outputs of a loop that was left at its first `Hide`, when
    there is one. -/
def Closed (sent : List KeyboardOutput) (stopped : Bool) : Prop :=
  if stopped then ∃ keys session, sent = keys ++ [.hide session] ∧ ∀ output ∈ keys, isHide output = false
  else ∀ output ∈ sent, isHide output = false

def Typing.after (before : List KeyboardOutput) (typing : Typing) : Typing :=
  { typing with sent := before ++ typing.sent }

/-- What has been sent does not change what a click does. -/
theorem click_after (session : UInt64) (before : List KeyboardOutput) (typing : Typing)
    (click : OskClick F) :
    (typing.after before).click session click =
      (typing.click session click).map fun result => (result.1.after before, result.2) := by
  unfold Typing.click
  simp only [Typing.after]
  generalize hitSlot typing.page _ click.position = hit
  cases hit with
  | error panic => rfl
  | ok found =>
    cases found with
    | none => rfl
    | some slot =>
      simp only [ok_bind]
      cases index (rows typing.page) slot.row with
      | error panic => rfl
      | ok row =>
        simp only [ok_bind]
        cases index row slot.key with
        | error panic => rfl
        | ok key =>
          simp only [ok_bind]
          cases key.action <;> simp [Typing.act, Except.map, pure, Except.pure]

theorem act_closed {typing : Typing} (open_ : ∀ output ∈ typing.sent, isHide output = false)
    (session : UInt64) (shiftHeld : Bool) (action : Action) :
    Closed (typing.act session shiftHeld action).1.sent (typing.act session shiftHeld action).2 := by
  cases action with
  | key code shift =>
    intro output member
    simp only [Typing.act, List.mem_append, List.mem_singleton] at member
    rcases member with old | rfl
    · exact open_ output old
    · rfl
  | shift => exact open_
  | page page => exact open_
  | close => exact ⟨typing.sent, session, rfl, open_⟩

theorem click_returns {typing : Typing} (open_ : ∀ output ∈ typing.sent, isHide output = false)
    (session : UInt64) (click : OskClick F) :
    Returns (typing.click session click) fun result => Closed result.1.sent result.2 := by
  unfold Typing.click
  refine (hitSlot_returns _ _ _).bind ?_
  intro found inPage
  cases found with
  | none => exact .pure open_
  | some slot =>
    obtain ⟨row, rowFound, lt⟩ := inPage slot rfl
    simp only [index, rowFound, ok_bind, List.getElem?_eq_getElem lt]
    exact .pure (act_closed open_ session click.shiftHeld _)

/-! ## A list of clicks -/

/-- The loop over the clicks of a state. -/
abbrev typeClicks (session : UInt64) (typing : Typing) (clicks : List (OskClick F)) :
    Checked (Typing × Bool) := loop (Typing.click session) typing clicks

theorem typeClicks_append (session : UInt64) (typing : Typing) (clicks more : List (OskClick F)) :
    typeClicks session typing (clicks ++ more) = typeClicks session typing clicks >>= fun result =>
      if result.2 then .ok (result.1, true) else typeClicks session result.1 more :=
  loop_append ..

theorem typeClicks_returns (typing : Typing) (open_ : ∀ output ∈ typing.sent, isHide output = false)
    (session : UInt64) (clicks : List (OskClick F)) :
    Returns (typeClicks session typing clicks) fun result => Closed result.1.sent result.2 := by
  induction clicks generalizing typing with
  | nil => exact .ok open_
  | cons click clicks inductionHypothesis =>
    rw [typeClicks, loop]
    refine (click_returns open_ session click).bind ?_
    rintro ⟨next, stopped⟩ closed
    cases stopped with
    | true => exact .ok closed
    | false => exact inductionHypothesis next closed

theorem typeClicks_after (session : UInt64) (before : List KeyboardOutput) (typing : Typing)
    (clicks : List (OskClick F)) :
    typeClicks session (typing.after before) clicks =
      (typeClicks session typing clicks).map fun result => (result.1.after before, result.2) := by
  induction clicks generalizing typing with
  | nil => rfl
  | cons click clicks inductionHypothesis =>
    simp only [typeClicks, loop, click_after]
    cases typing.click session click with
    | error panic => rfl
    | ok result =>
      obtain ⟨next, stopped⟩ := result
      cases stopped with
      | true => rfl
      | false => exact inductionHypothesis next

theorem throughHide_keys {keys : List KeyboardOutput} (open_ : ∀ output ∈ keys, isHide output = false)
    (rest : List KeyboardOutput) : throughHide (keys ++ rest) = keys ++ throughHide rest := by
  induction keys with
  | nil => rfl
  | cons output keys inductionHypothesis =>
    cases output with
    | hide session => exact absurd (open_ (.hide session) (List.mem_cons_self ..)) (by simp [isHide])
    | key code shift session =>
      rw [List.cons_append, throughHide,
        inductionHypothesis fun output member => open_ output (List.mem_cons_of_mem _ member)]
      rfl

theorem throughHide_closed {sent : List KeyboardOutput} (closed : Closed sent true)
    (rest : List KeyboardOutput) : throughHide (sent ++ rest) = sent := by
  obtain ⟨keys, session, rfl, open_⟩ := closed
  rw [List.append_assoc, throughHide_keys open_]
  rfl

/-! ## States of one session -/

/-- A published state, with the clicks recorded since the first one of the session. -/
structure Snapshot (F : Type) where
  state : OskState F
  clicks : List (OskClick F)

def NotOpened (events : List (OskEvent F)) : Prop := ∀ event ∈ events, event ≠ .opened

/-- `later` was published after `earlier`, and the keyboard was not opened in between. -/
def Follows (earlier later : Snapshot F) : Prop :=
  ∃ events, Path OskStep earlier.state events later.state ∧ NotOpened events ∧
    later.clicks = earlier.clicks ++ recorded events

theorem Follows.refl (snapshot : Snapshot F) : Follows snapshot snapshot := by
  refine ⟨[], .refl, ?_, (List.append_nil _).symm⟩
  intro event member
  cases member

theorem Follows.trans {first second third : Snapshot F} (early : Follows first second)
    (late : Follows second third) : Follows first third := by
  obtain ⟨events, path, closed, clicks⟩ := early
  obtain ⟨more, path', closed', clicks'⟩ := late
  refine ⟨events ++ more, path.trans path', ?_, ?_⟩
  · intro event member
    exact (List.mem_append.mp member).elim (closed event) (closed' event)
  · rw [clicks', clicks, recorded_append, List.append_assoc]

instance : Trans (Follows (F := F)) Follows Follows := ⟨Follows.trans⟩

omit [Scalar F] in
theorem sinceOpened_notOpened (past : List (OskEvent F)) {events : List (OskEvent F)}
    (closed : NotOpened events) :
    sinceOpened (past ++ events) = sinceOpened past + (recorded events).length := by
  induction events using List.reverseRecOn with
  | nil => simp [recorded]
  | append_singleton events event inductionHypothesis =>
    have before := inductionHypothesis fun event member => closed event (List.mem_append_left _ member)
    cases event with
    | opened => exact absurd rfl (closed .opened (by simp))
    | clicked click =>
      rw [← List.append_assoc, sinceOpened_clicked, before]
      simp [Nat.add_assoc]

theorem session_unchanged {state next : OskState F} {events : List (OskEvent F)}
    (path : Path OskStep state events next) (closed : NotOpened events) :
    next.session = state.session := by
  induction path with
  | refl => rfl
  | snoc path last inductionHypothesis =>
    rw [← inductionHypothesis fun event member => closed event (List.mem_append_left _ member)]
    cases last with
    | op op =>
      cases op with
      | setVisible visible =>
        cases opens : (visible && !OskState.visible _) with
        | true =>
          refine absurd rfl (closed .opened (List.mem_append_right _ ?_))
          rw [OskOp.events, if_pos opens]
          exact List.mem_singleton_self _
        | false => simp [OskOp.apply, OskState.setVisible, opens]
      | updatePad side pad recordRisingEdge =>
        simp only [OskOp.apply, OskState.updatePad]
        split <;> cases side <;> rfl
      | recordClick pad position => rfl
      | setShiftHeld shiftHeld => rfl
      | setBindings bindings => rfl
      | setActiveBindings inputs => rfl

/-- The clicks that a keyboard reads when it takes `later` after `earlier`. -/
theorem clicks_between {past : List (OskEvent F)} {earlier later : Snapshot F}
    (reached : Path OskStep OskState.default past earlier.state) (follows : Follows earlier later)
    (few : later.clicks.length ≤ earlier.clicks.length + oskClickHistoryLen) :
    (later.state.clicksSince earlier.state.clickCursor).toList =
      .ok (later.clicks.drop earlier.clicks.length) := by
  obtain ⟨events, path, closed, clicks⟩ := follows
  have capacity : oskClickHistoryLen = 16 := rfl
  have count : (recorded events).length ≤ oskClickHistoryLen := by
    rw [clicks, List.length_append] at few
    omega
  have all := ((Remembers.start.run reached).clicksAfter path (by omega)).1
  have opened := sinceOpened_notOpened ([] ++ past) closed
  have none_missed : (recorded events).length - min (recorded events).length
      (min (sinceOpened ([] ++ past ++ events)) oskClickHistoryLen) = 0 := by omega
  rw [none_missed, List.drop_zero] at all
  rw [all, clicks, List.drop_left]

/-! ## What a list of states types -/

/-- One state: its clicks are typed, and the keyboard stands where they leave it. -/
theorem update_types {keyboard : Keyboard F} {state : OskState F} {clicks : List (OskClick F)}
    (initialized : keyboard.initialized = true) (visible : keyboard.visible = true)
    (read : (state.clicksSince keyboard.clickCursor).toList = .ok clicks) {typing : Typing}
    {stopped : Bool} (typed : typeClicks state.session ⟨keyboard.page, keyboard.shifted, []⟩ clicks =
      .ok (typing, stopped)) :
    ∃ next changed, keyboard.update state = .ok (next, typing.sent, changed) ∧
      next.page = typing.page ∧ next.shifted = typing.shifted ∧
      next.clickCursor = state.clickCursor ∧ next.visible = state.visible ∧
      next.initialized = true := by
  simp only [Keyboard.update, read, ok_bind, initialized, visible, Bool.or_true, Bool.and_true,
    List.filter_true, typed]
  exact ⟨_, _, rfl, rfl, rfl, rfl, rfl, rfl⟩

theorem follows_last {first : Snapshot F} {rest : List (Snapshot F)}
    (ordered : (first :: rest).Pairwise Follows) : Follows first (rest.getLastD first) := by
  cases rest using List.reverseRecOn with
  | nil => exact .refl first
  | append_singleton rest last =>
    rw [List.getLastD_concat]
    exact (List.pairwise_cons.mp ordered).1 last (by simp)

/-- The clicks up to the last state split at any state before it. -/
theorem drop_split {first second last : Snapshot F} (early : Follows first second)
    (late : Follows second last) :
    last.clicks.drop first.clicks.length =
      second.clicks.drop first.clicks.length ++ last.clicks.drop second.clicks.length := by
  obtain ⟨_, _, _, clicks⟩ := early
  obtain ⟨_, _, _, clicks'⟩ := late
  rw [clicks', List.drop_left, clicks, List.append_assoc, List.drop_left, List.drop_left]

/-- What the keyboard has typed, and where it stands, after a list of states: `typing` and
    `stopped` are the outcome of typing all clicks at once. -/
structure Typed (next : Keyboard F) (sent : List KeyboardOutput) (typing : Typing)
    (stopped : Bool) : Prop where
  closed : Closed typing.sent stopped
  throughHide : throughHide sent = typing.sent
  all : stopped = false → sent = typing.sent ∧ next.page = typing.page ∧
    next.shifted = typing.shifted

omit [Scalar F] in
/-- Without a `Hide` the loop over all clicks was not left. -/
theorem Typed.running {next : Keyboard F} {sent : List KeyboardOutput} {typing : Typing}
    {stopped : Bool} (typed : Typed next sent typing stopped)
    (noHide : ∀ output ∈ sent, isHide output = false) : stopped = false := by
  cases stopped with
  | false => rfl
  | true =>
    obtain ⟨keys, session, equal, _⟩ := typed.closed
    have whole := throughHide_keys noHide []
    rw [List.append_nil, typed.throughHide, equal, Osk.throughHide, List.append_nil] at whole
    have hides := noHide (.hide session) (by simp [← whole])
    cases hides

/-- The clicks of the first state, then those of the others. -/
theorem Typed.cons {session : UInt64} {middle next : Keyboard F} {typing rest final : Typing}
    {stopped restStopped finalStopped : Bool} {sent : List KeyboardOutput}
    {clicks more : List (OskClick F)} {page : Page} {shifted : Bool}
    (closed : Closed typing.sent stopped) (page_eq : middle.page = typing.page)
    (shifted_eq : middle.shifted = typing.shifted)
    (typed : typeClicks session ⟨page, shifted, []⟩ clicks = .ok (typing, stopped))
    (typedRest : typeClicks session ⟨middle.page, middle.shifted, []⟩ more =
      .ok (rest, restStopped))
    (after : Typed next sent rest restStopped)
    (typedAll : typeClicks session ⟨page, shifted, []⟩ (clicks ++ more) =
      .ok (final, finalStopped)) :
    Typed next (typing.sent ++ sent) final finalStopped := by
  rw [typeClicks_append, typed, ok_bind] at typedAll
  -- a hide in the first state ends what is counted; the rest is not typed
  cases stopped with
  | true =>
    cases typedAll
    refine ⟨closed, throughHide_closed closed sent, ?_⟩
    intro contradiction
    cases contradiction
  | false =>
    -- otherwise the rest is typed from the page and the Shift that the first state leaves
    have resumed := typeClicks_after session typing.sent ⟨middle.page, middle.shifted, []⟩ more
    have start : Typing.after typing.sent ⟨middle.page, middle.shifted, []⟩ = typing := by
      simp [Typing.after, page_eq, shifted_eq]
    rw [start, typedRest] at resumed
    simp only [Bool.false_eq_true, if_false] at typedAll
    rw [resumed] at typedAll
    cases typedAll
    have closedRest := after.closed
    refine ⟨?_, ?_, ?_⟩
    · cases restStopped with
      | true =>
        obtain ⟨keys, last, equal, open_⟩ := closedRest
        refine ⟨typing.sent ++ keys, last, ?_, ?_⟩
        · simp [Typing.after, equal]
        · intro output member
          exact (List.mem_append.mp member).elim (closed output) (open_ output)
      | false =>
        intro output member
        exact (List.mem_append.mp member).elim (closed output) (closedRest output)
    · rw [throughHide_keys closed, after.throughHide]
      rfl
    · intro notStopped
      obtain ⟨equal, page, shifted⟩ := after.all notStopped
      exact ⟨by rw [equal]; rfl, page, shifted⟩

/-- States in order, with at most sixteen clicks from each to the next. -/
structure Batches (first : Snapshot F) (rest : List (Snapshot F)) : Prop where
  ordered : (first :: rest).Pairwise Follows
  few : (first :: rest).IsChain fun earlier later =>
    later.clicks.length ≤ earlier.clicks.length + oskClickHistoryLen
  visible : ∀ snapshot ∈ rest.dropLast, snapshot.state.visible = true

theorem keyboard_updates {past : List (OskEvent F)} {first : Snapshot F}
    {rest : List (Snapshot F)} (reached : Path OskStep OskState.default past first.state)
    (batches : Batches first rest) {keyboard : Keyboard F}
    (initialized : keyboard.initialized = true) (visible : rest ≠ [] → keyboard.visible = true)
    (cursor : keyboard.clickCursor = first.state.clickCursor) :
    ∃ next sent typing stopped,
      keyboard.updates (rest.map Snapshot.state) = .ok (next, sent) ∧
      typeClicks first.state.session ⟨keyboard.page, keyboard.shifted, []⟩
          ((rest.getLastD first).clicks.drop first.clicks.length) = .ok (typing, stopped) ∧
      Typed next sent typing stopped ∧
      next.clickCursor = (rest.getLastD first).state.clickCursor := by
  induction rest generalizing past first keyboard with
  | nil =>
    have none_left : ((([] : List (Snapshot F)).getLastD first).clicks.drop first.clicks.length) =
        [] := List.drop_length
    rw [none_left]
    refine ⟨keyboard, [], ⟨keyboard.page, keyboard.shifted, []⟩, false, rfl, rfl, ?_, cursor⟩
    exact ⟨List.forall_mem_nil _, rfl, fun _ => ⟨rfl, rfl, rfl⟩⟩
  | cons second rest inductionHypothesis =>
    -- the clicks between two states are read in full, since the history holds sixteen
    have ordered := List.pairwise_cons.mp batches.ordered
    have follows := ordered.1 second (List.mem_cons_self ..)
    obtain ⟨few, fewRest⟩ := List.isChain_cons_cons.mp batches.few
    have read := clicks_between reached follows few
    rw [← cursor] at read
    obtain ⟨events, path, notOpened, _⟩ := id follows
    have session := session_unchanged path notOpened
    obtain ⟨⟨typing, stopped⟩, typed, closed⟩ := typeClicks_returns
      ⟨keyboard.page, keyboard.shifted, []⟩ (List.forall_mem_nil _) second.state.session (second.clicks.drop first.clicks.length)
    obtain ⟨middle, changed, updated, page, shifted, cursor', visible', initialized'⟩ :=
      update_types initialized (visible (by simp)) read typed
    have batches' : Batches second rest := by
      refine ⟨ordered.2, fewRest, ?_⟩
      intro snapshot member
      refine batches.visible snapshot ?_
      cases rest with
      | nil => cases member
      | cons third rest => exact List.mem_cons_of_mem _ member
    have visibleMiddle : rest ≠ [] → middle.visible = true := by
      intro more
      rw [visible']
      refine batches.visible second ?_
      cases rest with
      | nil => exact absurd rfl more
      | cons third rest => exact List.mem_cons_self ..
    obtain ⟨next, sent, typingRest, stoppedRest, updatedRest, typedRest, after, cursorLast⟩ :=
      inductionHypothesis (reached.trans path) batches' initialized' visibleMiddle cursor'
    -- the clicks up to the last state are those of the second state and the ones after it
    have split := drop_split follows (follows_last batches'.ordered)
    obtain ⟨⟨final, finalStopped⟩, typedAll, _⟩ := typeClicks_returns
      ⟨keyboard.page, keyboard.shifted, []⟩ (List.forall_mem_nil _) second.state.session (second.clicks.drop first.clicks.length ++
        (rest.getLastD second).clicks.drop second.clicks.length)
    refine ⟨next, typing.sent ++ sent, final, finalStopped, ?_, ?_, ?_, ?_⟩
    · rw [List.map_cons, Keyboard.updates, updated, ok_bind]
      simp only [updatedRest, ok_bind]
      rfl
    · rw [List.getLastD_cons, split, ← session]
      exact typedAll
    · exact .cons closed page shifted typed typedRest after typedAll
    · rw [List.getLastD_cons]
      exact cursorLast

/-! ## Dropping states -/

theorem Follows.length_le {earlier later : Snapshot F} (follows : Follows earlier later) :
    earlier.clicks.length ≤ later.clicks.length := by
  obtain ⟨_, _, _, clicks⟩ := follows
  rw [clicks, List.length_append]
  exact Nat.le_add_right ..

/-- The states that were dropped lie between states that were delivered, and so have no more
    clicks between them. -/
theorem few_of_delivered {first : Snapshot F} {all delivered : List (Snapshot F)}
    (sublist : delivered.Sublist all) (ordered : (first :: all).Pairwise Follows)
    (newest : ∀ snapshot ∈ all, snapshot.clicks.length ≤ (delivered.getLastD first).clicks.length)
    (few : (first :: delivered).IsChain fun earlier later =>
      later.clicks.length ≤ earlier.clicks.length + oskClickHistoryLen) :
    (first :: all).IsChain fun earlier later =>
      later.clicks.length ≤ earlier.clicks.length + oskClickHistoryLen := by
  induction sublist generalizing first with
  | slnil => exact few
  | @cons delivered all dropped sublist inductionHypothesis =>
    obtain ⟨fromFirst, orderedRest⟩ := List.pairwise_cons.mp ordered
    have later := (fromFirst dropped (List.mem_cons_self ..)).length_le
    cases delivered with
    | nil =>
      have last := newest dropped (List.mem_cons_self ..)
      rw [List.getLastD_nil] at last
      refine List.isChain_cons_cons.mpr ⟨by omega, inductionHypothesis orderedRest ?_ (by simp)⟩
      intro snapshot member
      have := newest snapshot (List.mem_cons_of_mem _ member)
      rw [List.getLastD_nil] at this ⊢
      omega
    | cons next delivered =>
      obtain ⟨near, fewRest⟩ := List.isChain_cons_cons.mp few
      have between := ((List.pairwise_cons.mp orderedRest).1 next
        (sublist.subset (List.mem_cons_self ..))).length_le
      refine List.isChain_cons_cons.mpr ⟨by omega, inductionHypothesis orderedRest ?_ ?_⟩
      · intro snapshot member
        have older := newest snapshot (List.mem_cons_of_mem _ member)
        rw [List.getLastD_cons] at older ⊢
        exact older
      · exact List.isChain_cons_cons.mpr ⟨by omega, fewRest⟩
  | cons_cons kept sublist inductionHypothesis =>
    obtain ⟨near, fewRest⟩ := List.isChain_cons_cons.mp few
    refine List.isChain_cons_cons.mpr
      ⟨near, inductionHypothesis (List.pairwise_cons.mp ordered).2 ?_ fewRest⟩
    intro snapshot member
    have older := newest snapshot (List.mem_cons_of_mem _ member)
    rwa [List.getLastD_cons] at older

/-- The newest state has the most clicks. -/
theorem length_le_newest {all : List (Snapshot F)} (ordered : all.Pairwise Follows)
    {snapshot : Snapshot F} (member : snapshot ∈ all) (first : Snapshot F) :
    snapshot.clicks.length ≤ (all.getLastD first).clicks.length := by
  obtain ⟨before, after, rfl⟩ := List.append_of_mem member
  have follows := follows_last (List.pairwise_append.mp ordered).2.1
  have newest : (before ++ snapshot :: after).getLastD first = after.getLastD snapshot := by
    rw [List.getLastD_eq_getLast?, List.getLast?_append, List.getLast?_cons, Option.some_or,
      Option.getD_some, ← List.getLastD_eq_getLast?]
  rw [newest]
  exact follows.length_le

theorem sublist_dropLast {α : Type} {left right : List α} (sublist : left.Sublist right) :
    left.dropLast.Sublist right.dropLast := by
  have reversed := (List.reverse_sublist.mpr sublist).tail
  rw [List.tail_reverse, List.tail_reverse] at reversed
  exact List.reverse_sublist.mp reversed

theorem pairwise_cons_of_sublist {first : Snapshot F} {rest delivered : List (Snapshot F)}
    (ordered : (first :: rest).Pairwise Follows) (sublist : delivered.Sublist (first :: rest)) :
    (first :: delivered).Pairwise Follows := by
  refine List.pairwise_cons.mpr ⟨?_, ordered.sublist sublist⟩
  intro snapshot member
  cases List.mem_cons.mp (sublist.subset member) with
  | inl same => exact same ▸ .refl first
  | inr later => exact (List.pairwise_cons.mp ordered).1 snapshot later

/-- Any states of a session that include the newest one, with at most sixteen clicks between
    those delivered, type what all of them together type. -/
theorem coalesced_states_type_the_same {past : List (OskEvent F)} {first : Snapshot F}
    {rest delivered : List (Snapshot F)} {keyboard : Keyboard F}
    (reached : Path OskStep OskState.default past first.state)
    (session : (first :: rest).IsChain Follows)
    (visible : ∀ snapshot ∈ (first :: rest).dropLast, snapshot.state.visible = true)
    (subsequence : delivered.Sublist (first :: rest))
    (newest : delivered.getLast? = (first :: rest).getLast?)
    (few : (first :: delivered).IsChain fun earlier later =>
      later.clicks.length ≤ earlier.clicks.length + oskClickHistoryLen)
    (initialized : keyboard.initialized = true) (visibleKeyboard : keyboard.visible = true)
    (cursor : keyboard.clickCursor = first.state.clickCursor) :
    ∃ all sentAll some sentSome,
      keyboard.updates ((first :: rest).map Snapshot.state) = .ok (all, sentAll) ∧
      keyboard.updates (delivered.map Snapshot.state) = .ok (some, sentSome) ∧
      throughHide sentSome = throughHide sentAll ∧
      ((∀ output ∈ sentAll, isHide output = false) →
        sentSome = sentAll ∧ some.page = all.page ∧ some.shifted = all.shifted ∧
          some.clickCursor = all.clickCursor) := by
  have ordered : (first :: rest).Pairwise Follows := List.isChain_iff_pairwise.mp session
  -- both deliveries end in the same state, so that they have the same clicks to type
  have last : delivered.getLastD first = (first :: rest).getLastD first := by
    rw [List.getLastD_eq_getLast?, newest, ← List.getLastD_eq_getLast?]
  have lastLength : ∀ snapshot ∈ first :: rest,
      snapshot.clicks.length ≤ (delivered.getLastD first).clicks.length := by
    intro snapshot member
    rw [last]
    exact length_le_newest ordered member first
  have orderedSome := pairwise_cons_of_sublist ordered subsequence
  have orderedAll := pairwise_cons_of_sublist ordered (List.Sublist.refl _)
  have batchesSome : Batches first delivered := by
    refine ⟨orderedSome, few, ?_⟩
    intro snapshot member
    exact visible snapshot ((sublist_dropLast subsequence).subset member)
  have batchesAll : Batches first (first :: rest) :=
    ⟨orderedAll, few_of_delivered subsequence orderedAll lastLength few, visible⟩
  obtain ⟨all, sentAll, typing, stopped, updatedAll, typedAll, afterAll, cursorAll⟩ :=
    keyboard_updates reached batchesAll initialized (fun _ => visibleKeyboard) cursor
  obtain ⟨some, sentSome, typing', stopped', updatedSome, typedSome, afterSome, cursorSome⟩ :=
    keyboard_updates reached batchesSome initialized (fun _ => visibleKeyboard) cursor
  -- typing is a function of the clicks, so that both type the same
  rw [last, typedAll] at typedSome
  cases typedSome
  refine ⟨all, sentAll, some, sentSome, updatedAll, updatedSome, ?_, ?_⟩
  · rw [afterSome.throughHide, afterAll.throughHide]
  · intro noHide
    have running := afterAll.running noHide
    obtain ⟨equalAll, pageAll, shiftedAll⟩ := afterAll.all running
    obtain ⟨equalSome, pageSome, shiftedSome⟩ := afterSome.all running
    exact ⟨by rw [equalSome, equalAll], by rw [pageSome, pageAll], by rw [shiftedSome, shiftedAll],
      by rw [cursorSome, cursorAll, last]⟩

end

/-- Two clicks; the state between them is dropped. -/
theorem coalesced_two_clicks :
    let opened := (OskState.default : OskState ℚ).setVisible true
    let one := opened.recordClick .left (0, 0)
    let two := one.recordClick .right (0, 0)
    let keyboard : Keyboard ℚ := { Keyboard.default with visible := true, initialized := true }
    ∃ all sentAll some sentSome,
      keyboard.updates [opened, one, two] = .ok (all, sentAll) ∧
      keyboard.updates [two] = .ok (some, sentSome) ∧
      throughHide sentSome = throughHide sentAll ∧
      ((∀ output ∈ sentAll, isHide output = false) →
        sentSome = sentAll ∧ some.page = all.page ∧ some.shifted = all.shifted ∧
          some.clickCursor = all.clickCursor) := by
  intro opened one two keyboard
  have reached : Path OskStep (OskState.default : OskState ℚ) [.opened] opened :=
    .single (.op (.setVisible true))
  have first : Follows ⟨opened, []⟩ ⟨one, [⟨0, .left, (0, 0), false⟩]⟩ :=
    ⟨_, .single (.op (.recordClick .left (0, 0))), by simp [NotOpened, OskOp.events], rfl⟩
  have second : Follows ⟨one, [⟨0, .left, (0, 0), false⟩]⟩
      ⟨two, [⟨0, .left, (0, 0), false⟩, ⟨1, .right, (0, 0), false⟩]⟩ :=
    ⟨_, .single (.op (.recordClick .right (0, 0))), by simp [NotOpened, OskOp.events], rfl⟩
  refine @coalesced_states_type_the_same ℚ _ _ ⟨opened, []⟩
    [⟨one, [⟨0, .left, (0, 0), false⟩]⟩,
      ⟨two, [⟨0, .left, (0, 0), false⟩, ⟨1, .right, (0, 0), false⟩]⟩]
    [⟨two, [⟨0, .left, (0, 0), false⟩, ⟨1, .right, (0, 0), false⟩]⟩] keyboard reached ?_ ?_ ?_ rfl
    ?_ rfl rfl rfl
  · exact .cons_cons first (.cons_cons second (.singleton _))
  · intro snapshot member
    simp only [List.dropLast, List.mem_cons, List.not_mem_nil, or_false] at member
    cases member with
    | inl isFirst => rw [isFirst]; rfl
    | inr isSecond => rw [isSecond]; rfl
  · exact .cons _ (.cons _ (.refl _))
  · exact .cons_cons (by simp [oskClickHistoryLen]) (.singleton _)

end Scd.Osk
