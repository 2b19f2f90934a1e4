import Scd.Verified.Turns

/-! # Sessions of the on-screen keyboard

Clients name the session they talk to.  The daemon hides the keyboard, or types a key, only
for the session that was opened last, and types keys only while that session is on the
screen or for a second after the controller has closed it.

Session numbers count the openings from 1 to `2 ^ 64 - 1` and start over (`sessionNumber`).
`Tracks` ties the loop's variables to the openings and closings of the run so far.
-/

namespace Scd.Daemon

open Scd.Core Scd.Foundation

/-! ## Session numbers -/

/-- The number of the session that is opened after `count` others. -/
def sessionNumber (count : Nat) : UInt64 := UInt64.ofNat (count % (2 ^ 64 - 1) + 1)

theorem sessionNumber_toNat (count : Nat) :
    (sessionNumber count).toNat = count % (2 ^ 64 - 1) + 1 := by
  have small : count % (2 ^ 64 - 1) < 2 ^ 64 - 1 := Nat.mod_lt _ (by decide)
  rw [sessionNumber, UInt64.toNat_ofNat']
  exact Nat.mod_eq_of_lt (by omega)

theorem nextSession_zero : OskState.nextSession 0 = sessionNumber 0 := by decide

theorem nextSession_sessionNumber (count : Nat) :
    OskState.nextSession (sessionNumber count) = sessionNumber (count + 1) := by
  have small : count % (2 ^ 64 - 1) < 2 ^ 64 - 1 := Nat.mod_lt _ (by decide)
  have next : (sessionNumber count + 1).toNat = (count % (2 ^ 64 - 1) + 2) % 2 ^ 64 := by
    rw [UInt64.toNat_add, sessionNumber_toNat]
    rfl
  apply UInt64.toNat_inj.mp
  rw [OskState.nextSession, sessionNumber_toNat]
  split
  · next wraps =>
    -- the last number before zero: the count is one less than a multiple of `2 ^ 64 - 1`
    rw [wraps, UInt64.toNat_zero] at next
    rw [UInt64.toNat_one]
    omega
  · next more =>
    have nonzero : (sessionNumber count + 1).toNat ≠ 0 := by
      intro zero
      exact more (UInt64.toNat_inj.mp zero)
    rw [next] at nonzero ⊢
    omega

theorem sessionNumber_ne_zero (count : Nat) : sessionNumber count ≠ 0 := by
  intro zero
  have := sessionNumber_toNat count
  rw [zero, UInt64.toNat_zero] at this
  omega

/-- Openings that are close to each other have different numbers. -/
theorem sessionNumber_injective {earlier later : Nat} (le : earlier ≤ later)
    (near : later < earlier + (2 ^ 64 - 1)) (same : sessionNumber earlier = sessionNumber later) :
    earlier = later := by
  have equal := congrArg UInt64.toNat same
  rw [sessionNumber_toNat, sessionNumber_toNat] at equal
  omega

/-! ## The openings and closings of a run -/

section

variable {F : Type}

/-- The keyboard appears. -/
def Transition.opens (transition : Transition F) : Bool :=
  !transition.before.keyboard.visible && transition.turn.main.keyboard.visible

/-- The time at which a frame of the controller closes the keyboard. -/
def Transition.closesAt (transition : Transition F) : Option Nat :=
  match transition.input with
  | .event (.state _) now =>
    if transition.before.keyboard.visible && !transition.turn.main.keyboard.visible then some now
    else none
  | _ => none

/-- A client's request to hide the keyboard is accepted. -/
def Transition.hides (transition : Transition F) : Bool :=
  match transition.input with
  | .request (.oskHide _) _ _ => transition.turn.response = some .done
  | _ => false

def Transition.disconnects (transition : Transition F) : Bool :=
  match transition.input with
  | .event .disconnected _ => true
  | _ => false

/-- The sessions of a run, in the order of their openings. -/
def sessions (turns : List (Transition F)) : List UInt64 :=
  turns.filterMap fun transition =>
    if transition.opens then some transition.turn.main.keyboard.session else none

/-- The controller closed the keyboard at this time, and since then it was not opened, nor
    hidden by a client, nor was the controller disconnected. -/
def ClosedAt (turns : List (Transition F)) (closed : Nat) : Prop :=
  ∃ before transition after, turns = before ++ transition :: after ∧
    transition.closesAt = some closed ∧
    ∀ later ∈ after, later.opens = false ∧ later.hides = false ∧ later.disconnects = false

theorem ClosedAt.snoc {turns : List (Transition F)} {closed : Nat} (just : ClosedAt turns closed)
    {transition : Transition F} (quiet : transition.opens = false ∧ transition.hides = false ∧
      transition.disconnects = false) : ClosedAt (turns ++ [transition]) closed := by
  obtain ⟨before, closing, after, rfl, closes, quietAfter⟩ := just
  refine ⟨before, closing, after ++ [transition], by simp, closes, ?_⟩
  intro later member
  cases List.mem_append.mp member with
  | inl old => exact quietAfter later old
  | inr new => exact List.mem_singleton.mp new ▸ quiet

theorem sessions_snoc (turns : List (Transition F)) (transition : Transition F) :
    sessions (turns ++ [transition]) = sessions turns ++
      if transition.opens then [transition.turn.main.keyboard.session] else [] := by
  rw [sessions, List.filterMap_append]
  congr 1
  cases opens : transition.opens <;> simp [opens]

/-- What the loop's variables know of the run. -/
structure Tracks (turns : List (Transition F)) (main : MainLoop F) : Prop where
  numbered : sessions turns = (List.range (sessions turns).length).map sessionNumber
  session : main.keyboard.session = (sessions turns).getLastD 0
  closed : ∀ closed, main.keyboardClosedAt = some closed → ClosedAt turns closed

/-- The number that the next opening gives. -/
theorem Tracks.nextSession {turns : List (Transition F)} {main : MainLoop F}
    (tracks : Tracks turns main) :
    OskState.nextSession main.keyboard.session = sessionNumber (sessions turns).length := by
  rw [tracks.session]
  cases count : (sessions turns).length with
  | zero =>
    rw [List.eq_nil_of_length_eq_zero count]
    exact nextSession_zero
  | succ before =>
    have numbered := tracks.numbered
    rw [count, List.range_succ, List.map_append] at numbered
    rw [numbered, List.map_singleton, List.getLastD_concat]
    exact nextSession_sessionNumber before

/-- A turn that does not open the keyboard. -/
theorem Tracks.unopened {turns : List (Transition F)} {main : MainLoop F}
    (tracks : Tracks turns main) {transition : Transition F} (unopened : transition.opens = false)
    (session : transition.turn.main.keyboard.session = main.keyboard.session)
    (closed : ∀ closed, transition.turn.main.keyboardClosedAt = some closed →
      ClosedAt (turns ++ [transition]) closed) :
    Tracks (turns ++ [transition]) transition.turn.main := by
  have same : sessions (turns ++ [transition]) = sessions turns := by
    rw [sessions_snoc, unopened]
    exact List.append_nil _
  exact ⟨same.symm ▸ tracks.numbered, by rw [session, same, tracks.session], closed⟩

/-- A turn that opens the keyboard gives it the next number. -/
theorem Tracks.opened {turns : List (Transition F)} {main : MainLoop F}
    (tracks : Tracks turns main) {transition : Transition F} (opened : transition.opens = true)
    (session : transition.turn.main.keyboard.session =
      OskState.nextSession main.keyboard.session)
    (closed : transition.turn.main.keyboardClosedAt = none) :
    Tracks (turns ++ [transition]) transition.turn.main := by
  rw [tracks.nextSession] at session
  have added : sessions (turns ++ [transition]) =
      sessions turns ++ [sessionNumber (sessions turns).length] := by
    rw [sessions_snoc, opened, session]
    rfl
  refine ⟨?_, ?_, ?_⟩
  · rw [added, List.length_append, List.length_singleton, List.range_succ, List.map_append,
      ← tracks.numbered]
    rfl
  · rw [added, List.getLastD_concat, session]
  · intro time found
    rw [closed] at found
    cases found

end

/-! ## Every turn keeps track -/

section

variable {F : Type} [Scalar F] [Platform F]

omit [Scalar F] [Platform F] in
theorem setVisible_session (keyboard : OskState F) (visible : Bool) :
    (keyboard.setVisible visible).session =
      if visible && !keyboard.visible then OskState.nextSession keyboard.session
      else keyboard.session := by
  cases opens : (visible && !keyboard.visible) <;> simp [OskState.setVisible, opens]

theorem Tracks.step {turns : List (Transition F)} {main : MainLoop F} (tracks : Tracks turns main)
    {input : Input F} {turn : Turn F} (kind : TurnKind main input turn) :
    Tracks (turns ++ [⟨main, input, turn⟩]) turn.main := by
  cases kind with
  | idle noFrame noDisconnect noHide _ _ keyboard closed =>
    have unopened : Transition.opens ⟨main, input, turn⟩ = false := by
      simp [Transition.opens, keyboard]
    refine tracks.unopened unopened (by rw [keyboard]) ?_
    intro time found
    refine (tracks.closed time (closed ▸ found)).snoc ⟨unopened, ?_, ?_⟩
    · unfold Transition.hides
      split
      · next session device now equal => exact decide_eq_false (noHide session device now equal)
      · rfl
    · unfold Transition.disconnects
      split
      · next now equal => exact absurd equal (noDisconnect now)
      · rfl
  | @switch request device now turn mode noHide switches session closed =>
    have unopened : Transition.opens ⟨main, .request request device now, turn⟩ = false := by
      simp [Transition.opens, session.visible]
    refine tracks.unopened unopened session.session ?_
    intro time found
    refine (tracks.closed time (closed ▸ found)).snoc ⟨unopened, ?_, rfl⟩
    unfold Transition.hides
    split
    · next equal =>
      cases equal
      exact absurd rfl (noHide _)
    · rfl
  | @reload source device now turn config accepted reloads session closed =>
    have unopened :
        Transition.opens ⟨main, .request (.configApply source) device now, turn⟩ = false := by
      simp [Transition.opens, session.visible]
    refine tracks.unopened unopened session.session ?_
    intro time found
    exact (tracks.closed time (closed ▸ found)).snoc ⟨unopened, rfl, rfl⟩
  | hide nonzero same visible _ hidden session closed _ =>
    refine tracks.unopened (by simp [Transition.opens, hidden]) session ?_
    intro time found
    rw [closed] at found
    cases found
  | disconnect _ hidden session closed =>
    refine tracks.unopened (by simp [Transition.opens, hidden]) session ?_
    intro time found
    rw [closed] at found
    cases found
  | @frame state now turn mapper log processes mapperEq logEq session closed =>
    have visible := session.visible
    have sessionEq := session.session
    -- a frame without a toggle leaves the keyboard and its session as they were
    have still (same : turn.main.keyboard.visible = main.keyboard.visible)
        (own : turn.main.keyboard.session = main.keyboard.session) :
        Tracks (turns ++ [⟨main, .event (.state state) now, turn⟩]) turn.main := by
      have unopened : Transition.opens ⟨main, .event (.state state) now, turn⟩ = false := by
        simp [Transition.opens, same]
      refine tracks.unopened unopened own ?_
      intro time found
      have kept : main.keyboardClosedAt = some time := by
        rw [closed, same] at found
        cases before : main.keyboard.visible <;> simpa [before, closedAt] using found
      exact (tracks.closed time kept).snoc ⟨unopened, rfl, rfl⟩
    cases toggles : log.toggles with
    | false =>
      simp only [toggles, Bool.false_eq_true, if_false] at visible sessionEq
      exact still visible sessionEq
    | true =>
      -- was the keyboard visible before the frame?
      cases before : main.keyboard.visible with
      | false =>
        simp only [toggles, if_true, before, Bool.not_false, setVisible_session, Bool.and_self]
          at visible sessionEq
        refine tracks.opened ?_ sessionEq ?_
        · simp [Transition.opens, visible, before, OskState.setVisible]
        · rw [closed, visible, before]
          rfl
      | true =>
        simp only [toggles, if_true, before, Bool.not_true, setVisible_session, Bool.false_and,
          Bool.false_eq_true, if_false] at visible sessionEq
        have hidden : turn.main.keyboard.visible = false := by
          rw [visible]
          rfl
        have unopened : Transition.opens ⟨main, .event (.state state) now, turn⟩ = false := by
          simp [Transition.opens, before]
        refine tracks.unopened unopened sessionEq ?_
        intro time found
        rw [closed, hidden, before] at found
        cases found
        refine ⟨turns, _, [], rfl, ?_, List.forall_mem_nil _⟩
        simp [Transition.closesAt, before, hidden]

omit [Platform F] in
theorem Tracks.start {config : Config F} {start : MainLoop F}
    (started : MainLoop.start config = .ok start) : Tracks [] start := by
  obtain ⟨mapper, _, done⟩ := bind_ok started
  cases done
  refine ⟨rfl, ?_, ?_⟩
  · exact (sameSession_sync mapper _).session
  · intro time found
    cases found

theorem Tracks.run {config : Config F} {start main : MainLoop F} {turns : List (Transition F)}
    (started : MainLoop.start config = .ok start) (run : start.Run turns main) :
    Tracks turns main := by
  refine run.history Tracks ?_ (Tracks.start started)
  intro past before more after turned tracks
  cases turned with
  | turn stepped => exact tracks.step (step_kind stepped)

/-! ## Requests that are accepted -/

omit [Scalar F] [Platform F] in
theorem Tracks.mem_sessions {turns : List (Transition F)} {main : MainLoop F}
    (tracks : Tracks turns main) {session : UInt64} (member : session ∈ sessions turns) :
    session ≠ 0 := by
  rw [tracks.numbered] at member
  obtain ⟨count, _, rfl⟩ := List.mem_map.mp member
  exact sessionNumber_ne_zero count

omit [Scalar F] [Platform F] in
/-- The current session, when it is not zero, is the one opened last. -/
theorem Tracks.getLast {turns : List (Transition F)} {main : MainLoop F}
    (tracks : Tracks turns main) (nonzero : main.keyboard.session ≠ 0) :
    (sessions turns).getLast? = some main.keyboard.session := by
  have session := tracks.session
  rw [List.getLastD_eq_getLast?] at session
  cases last : (sessions turns).getLast? with
  | none =>
    rw [last] at session
    exact absurd session nonzero
  | some found =>
    rw [last] at session
    exact congrArg some session.symm

omit [Scalar F] [Platform F] in
/-- Consecutive openings, up to `2 ^ 64 - 1` of them, have different numbers. -/
theorem Tracks.window_nodup {turns : List (Transition F)} {main : MainLoop F}
    (tracks : Tracks turns main) {window : List UInt64} (consecutive : window <:+: sessions turns)
    (near : window.length ≤ 2 ^ 64 - 1) : window.Nodup := by
  obtain ⟨before, after, split⟩ := consecutive
  have counts : window = (List.range' before.length window.length).map sessionNumber := by
    have dropped : window = ((sessions turns).drop before.length).take window.length := by
      rw [← split, List.append_assoc, List.drop_left, List.take_left]
    have total := congrArg List.length split
    rw [List.length_append, List.length_append] at total
    conv_lhs => rw [dropped, tracks.numbered]
    rw [← List.map_drop, ← List.map_take, List.range_eq_range', List.drop_range',
      List.take_range'_of_length_ge (by omega)]
    simp
  rw [counts]
  refine List.Nodup.map_on ?_ List.nodup_range'
  intro left leftMember right rightMember same
  rw [List.mem_range'_1] at leftMember rightMember
  rcases Nat.le_total left right with le | le
  · exact sessionNumber_injective le (by omega) same
  · exact (sessionNumber_injective le (by omega) same.symm).symm

omit [Scalar F] [Platform F] in
/-- When a key is typed for a client. -/
theorem acceptsKey_iff {main : MainLoop F} {session : UInt64} {now : Nat} :
    main.acceptsKey session now = true ↔
      session ≠ 0 ∧ session = main.keyboard.session ∧
        (main.keyboard.visible = true ∨
          ∃ closed, main.keyboardClosedAt = some closed ∧ now - closed < closedGrace) := by
  cases visible : main.keyboard.visible <;> cases closed : main.keyboardClosedAt <;>
    simp [MainLoop.acceptsKey, visible, closed, and_assoc]

theorem key_done {main : MainLoop F} {code : UInt16} {shift : Bool} {session : UInt64}
    {device : DeviceInfo} {now : Nat} {turn : Turn F}
    (stepped : main.step (.request (.key code shift session) device now) = .ok turn)
    (accepted : turn.response = some .done) : main.acceptsKey session now = true := by
  cases stepped
  unfold MainLoop.key at accepted
  split at accepted
  · cases accepted
  · next accepts => simpa using accepts

theorem hide_done {main : MainLoop F} {session : UInt64} {device : DeviceInfo} {now : Nat}
    {turn : Turn F} (stepped : main.step (.request (.oskHide session) device now) = .ok turn)
    (accepted : turn.response = some .done) :
    session ≠ 0 ∧ session = main.keyboard.session ∧ main.keyboard.visible = true := by
  cases step_kind stepped with
  | idle _ _ refused _ _ _ _ => exact absurd accepted (refused session device now rfl)
  | switch mode noHide _ _ _ => exact absurd rfl (noHide session)
  | hide nonzero same visible _ _ _ _ _ => exact ⟨nonzero, same, visible⟩

/-- A request for `session` that the loop answers with `Done`. -/
inductive Accepts (main : MainLoop F) (session : UInt64) : Prop where
  | key {code : UInt16} {shift : Bool} {device : DeviceInfo} {now : Nat} {turn : Turn F} :
      main.step (.request (.key code shift session) device now) = .ok turn →
      turn.response = some .done → Accepts main session
  | hide {device : DeviceInfo} {now : Nat} {turn : Turn F} :
      main.step (.request (.oskHide session) device now) = .ok turn →
      turn.response = some .done → Accepts main session

theorem Accepts.current {main : MainLoop F} {session : UInt64} (accepts : Accepts main session) :
    session ≠ 0 ∧ session = main.keyboard.session := by
  cases accepts with
  | key stepped accepted =>
    obtain ⟨nonzero, same, _⟩ := acceptsKey_iff.mp (key_done stepped accepted)
    exact ⟨nonzero, same⟩
  | hide stepped accepted =>
    obtain ⟨nonzero, same, _⟩ := hide_done stepped accepted
    exact ⟨nonzero, same⟩

/-- In every run of the loop: a request is accepted only for the session opened last, and
    then the keyboard is visible, or (for a key) was closed by the controller less than a
    second ago; no request is accepted for a session after which another was opened; and
    fewer than `2 ^ 64 - 1` consecutive openings have different session numbers, none zero. -/
theorem requests_of_current_session {config : Config F} {start main : MainLoop F}
    {turns : List (Transition F)} (started : MainLoop.start config = .ok start)
    (run : start.Run turns main) :
    (∀ session, Accepts main session →
      session ≠ 0 ∧ (sessions turns).getLast? = some session) ∧
    (∀ code shift session device now turn,
      main.step (.request (.key code shift session) device now) = .ok turn →
      turn.response = some .done →
      main.keyboard.visible = true ∨
        ∃ closed, ClosedAt turns closed ∧ now - closed < closedGrace) ∧
    (∀ session device now turn,
      main.step (.request (.oskHide session) device now) = .ok turn →
      turn.response = some .done → main.keyboard.visible = true) ∧
    (∀ session newer, session :: newer <:+ sessions turns → newer ≠ [] →
      (session :: newer).length < 2 ^ 64 - 1 → ¬ Accepts main session) ∧
    (∀ window, window <:+: sessions turns → window.length < 2 ^ 64 - 1 →
      window.Nodup ∧ 0 ∉ window) := by
  have tracks := Tracks.run started run
  have currentIsLast : ∀ session, Accepts main session →
      session ≠ 0 ∧ (sessions turns).getLast? = some session := by
    intro session accepts
    obtain ⟨nonzero, same⟩ := accepts.current
    exact ⟨nonzero, same ▸ tracks.getLast (same ▸ nonzero)⟩
  refine ⟨currentIsLast, ?_, ?_, ?_, ?_⟩
  · intro code shift session device now turn stepped accepted
    obtain ⟨_, _, visible | ⟨closed, found, recent⟩⟩ := acceptsKey_iff.mp (key_done stepped accepted)
    · exact .inl visible
    · exact .inr ⟨closed, tracks.closed closed found, recent⟩
  · intro session device now turn stepped accepted
    exact (hide_done stepped accepted).2.2
  · intro session newer suffix more near accepts
    have distinct := tracks.window_nodup suffix.isInfix (by omega)
    obtain ⟨before, split⟩ := suffix
    have last := (currentIsLast session accepts).2
    rw [← split, List.getLast?_append_of_ne_nil _ (List.cons_ne_nil _ _),
      List.getLast?_cons_of_ne_nil more] at last
    exact (List.nodup_cons.mp distinct).1 (List.mem_of_getLast? last)
  · intro window consecutive near
    refine ⟨tracks.window_nodup consecutive (by omega), ?_⟩
    intro member
    exact tracks.mem_sessions (consecutive.subset member) rfl

end

/-- A single mode in which the Steam button toggles the keyboard. -/
def toggleConfig : Config ℚ where
  defaultMode := ⟨0⟩
  modeSwitchHaptic := none
  clickPressure := 25
  oskBindings := .empty
  globalBindings := [⟨.ofList [.steam], .steam, .keyboardToggle⟩]
  modeNames := IndexMap.empty.insert "desktop" ⟨0⟩
  modes := [⟨.none, none, [], [], []⟩]

/-- A frame in which these buttons are down. -/
def framed (buttons : List Button) (now : Nat) : Input ℚ :=
  .event (.state (.withButtons (.ofList buttons))) now

/-- The keyboard is opened, closed, and opened again. -/
theorem requests_of_second_session :
    ∃ start turns main, MainLoop.start toggleConfig = .ok start ∧ start.Run turns main ∧
      sessions turns = [1, 2] ∧ main.acceptsKey 2 0 = true ∧
      (∀ session, Accepts main session →
        session ≠ 0 ∧ (sessions turns).getLast? = some session) := by
  obtain ⟨⟨start, turns, main⟩, runs, facts⟩ := map_ok
    (show (MainLoop.runsFrom toggleConfig
        [framed [.steam] 0, framed [] 1, framed [.steam] 2, framed [] 3, framed [.steam] 4]).map
          (fun run => (sessions run.2.1, run.2.2.acceptsKey 2 0)) = .ok ([1, 2], true) by
      decide +kernel)
  obtain ⟨started, run⟩ := runsFrom_run runs
  exact ⟨start, turns, main, started, run, congrArg Prod.fst facts, congrArg Prod.snd facts,
    (requests_of_current_session started run).1⟩

end Scd.Daemon
