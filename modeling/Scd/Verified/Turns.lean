import Scd.Daemon.Loop

/-! # The turns of the main loop

`step_kind` is the inversion of `MainLoop.step`: a turn is one of six kinds, and each kind
says what happened to the mapper, to its log, and to the part of the keyboard's state that
the loop decides on (its visibility, its session, and when it was closed).  Everything the
later modules prove about runs of the loop starts from this case analysis.
-/

namespace Scd.Daemon

open Scd.Core Scd.Foundation

section

variable {F : Type} [Scalar F]

/-! ## Logs without a keyboard toggle -/

omit [Scalar F] in
@[simp] theorem outputs_append (left right : Log F) :
    Log.outputs (left ++ right) = Log.outputs left ++ Log.outputs right := List.filterMap_append

omit [Scalar F] in
@[simp] theorem outputs_nil : Log.outputs ([] : Log F) = [] := rfl

omit [Scalar F] in
@[simp] theorem outputs_note (note : Note) (log : Log F) :
    Log.outputs (.note note :: log) = Log.outputs log := rfl

omit [Scalar F] in
@[simp] theorem outputs_output (output : Output F) (log : Log F) :
    Log.outputs (.output output :: log) = output :: Log.outputs log := rfl

/-- The log asks for a toggle of the keyboard. -/
def Log.toggles (log : Log F) : Bool := log.outputs.any Output.isToggle

omit [Scalar F] in
@[simp] theorem toggles_append (left right : Log F) :
    (left ++ right : Log F).toggles = (left.toggles || right.toggles) := by
  simp [Log.toggles]

omit [Scalar F] in
@[simp] theorem toggles_nil : Log.toggles ([] : Log F) = false := rfl

omit [Scalar F] in
@[simp] theorem toggles_note (note : Note) (log : Log F) :
    Log.toggles (.note note :: log) = Log.toggles log := rfl

omit [Scalar F] in
@[simp] theorem toggles_output (output : Output F) (log : Log F) :
    Log.toggles (.output output :: log) = (output.isToggle || Log.toggles log) := rfl

theorem toggles_setGamepadAxes (value : GamepadAxis → F) (axes : List GamepadAxis)
    (mapper : Mapper F) : (Mapper.setGamepadAxes value axes mapper).2.toggles = false := by
  induction axes generalizing mapper with
  | nil => rfl
  | cons axis axes inductionHypothesis =>
    have first : (mapper.setGamepadAxis axis (value axis)).2.toggles = false := by
      unfold Mapper.setGamepadAxis
      split <;> rfl
    simp only [Mapper.setGamepadAxes, toggles_append, first, inductionHypothesis, Bool.or_self]

theorem toggles_releaseOutputs (mapper : Mapper F) : mapper.releaseOutputs.2.toggles = false := by
  have releases : ∀ entries : List (HeldOutput × Nat),
      Log.toggles (entries.map fun entry => (Entry.output (entry.1.output false) : Entry F)) =
        false := by
    intro entries
    induction entries with
    | nil => rfl
    | cons entry entries inductionHypothesis =>
      rw [List.map_cons, toggles_output, inductionHypothesis]
      obtain ⟨held, count⟩ := entry
      cases held <;> rfl
  simp only [Mapper.releaseOutputs, List.cons_append, toggles_note, toggles_append, releases,
    toggles_setGamepadAxes, Bool.or_self]

/-- A mode switch either does nothing or releases everything and reports the new mode. -/
theorem switchMode_cases {mapper next : Mapper F} {mode : ModeId} {log : Log F}
    (switched : mapper.switchMode mode = .ok (next, log)) :
    (mapper.activeMode = mode ∧ next = mapper ∧ log = []) ∨
      (mapper.activeMode ≠ mode ∧ ∃ changed,
        Mapper.resetRuntime { mapper.releaseOutputs.1 with activeMode := mode } = .ok next ∧
        next.modeChanged = .ok changed ∧
        log = mapper.releaseOutputs.2 ++ [.output changed]) := by
  unfold Mapper.switchMode at switched
  split at switched
  · next same =>
    cases switched
    exact .inl ⟨same, rfl, rfl⟩
  · next differs =>
    obtain ⟨reset, resets, rest⟩ := bind_ok switched
    obtain ⟨changed, changes, done⟩ := bind_ok rest
    cases done
    exact .inr ⟨differs, changed, resets, changes, rfl⟩

omit [Scalar F] in
theorem modeChanged_isToggle {mapper : Mapper F} {changed : Output F}
    (changes : mapper.modeChanged = .ok changed) : changed.isToggle = false := by
  obtain ⟨name, _, done⟩ := bind_ok changes
  cases done
  rfl

theorem toggles_switchMode {mapper next : Mapper F} {mode : ModeId} {log : Log F}
    (switched : mapper.switchMode mode = .ok (next, log)) : log.toggles = false := by
  rcases switchMode_cases switched with ⟨_, _, rfl⟩ | ⟨_, changed, _, changes, rfl⟩
  · rfl
  · simp [toggles_releaseOutputs, modeChanged_isToggle changes]

theorem reload_cases {mapper next : Mapper F} {config : Config F} {log : Log F}
    (reloaded : mapper.reload config = .ok (next, log)) :
    ∃ name changed, mapper.activeModeName = .ok name ∧
      Mapper.resetRuntime { mapper.releaseOutputs.1 with
        activeMode := (config.modeId name).getD config.defaultMode
        config := config } = .ok next ∧
      next.modeChanged = .ok changed ∧ log = mapper.releaseOutputs.2 ++ [.output changed] := by
  obtain ⟨name, named, rest⟩ := bind_ok reloaded
  obtain ⟨reset, resets, rest⟩ := bind_ok rest
  obtain ⟨changed, changes, done⟩ := bind_ok rest
  cases done
  exact ⟨name, changed, named, resets, changes, rfl⟩

theorem toggles_reload {mapper next : Mapper F} {config : Config F} {log : Log F}
    (reloaded : mapper.reload config = .ok (next, log)) : log.toggles = false := by
  obtain ⟨name, changed, _, _, changes, rfl⟩ := reload_cases reloaded
  simp [toggles_releaseOutputs, modeChanged_isToggle changes]

theorem releaseAll_cases {mapper next : Mapper F} {log : Log F}
    (released : mapper.releaseAll = .ok (next, log)) :
    ∃ reset, mapper.releaseOutputs.1.resetRuntime = .ok reset ∧
      next = { reset with previous := none } ∧ log = mapper.releaseOutputs.2 := by
  obtain ⟨reset, resets, done⟩ := bind_ok released
  cases done
  exact ⟨reset, resets, rfl, rfl⟩

/-! ## Emitting -/

/-- The keyboard shows the same session. -/
structure SameSession (before after : OskState F) : Prop where
  visible : after.visible = before.visible
  session : after.session = before.session

omit [Scalar F] in
theorem SameSession.refl (keyboard : OskState F) : SameSession keyboard keyboard := ⟨rfl, rfl⟩

omit [Scalar F] in
theorem SameSession.trans {first second third : OskState F} (early : SameSession first second)
    (late : SameSession second third) : SameSession first third :=
  ⟨late.visible.trans early.visible, late.session.trans early.session⟩

omit [Scalar F] in
theorem sameSession_sync (mapper : Mapper F) (keyboard : OskState F) :
    SameSession keyboard (syncKeyboard mapper keyboard) := by
  unfold syncKeyboard
  split
  · exact ⟨rfl, rfl⟩
  · exact .refl keyboard

theorem sameSession_updatePad (keyboard : OskState F) (side : OskPadSide) (pad : OskPad F)
    (recordRisingEdge : Bool) :
    SameSession keyboard (keyboard.updatePad side pad recordRisingEdge) := by
  unfold OskState.updatePad
  simp only
  split <;> cases side <;> exact ⟨rfl, rfl⟩

theorem sameSession_updateKeyboard (mapper : Mapper F) (keyboard : OskState F)
    (state : ControllerState F) (wasVisible : Bool) :
    SameSession keyboard (updateKeyboard mapper keyboard state wasVisible) := by
  unfold updateKeyboard
  split
  · exact (sameSession_sync mapper keyboard).trans
      ((sameSession_updatePad _ _ _ _).trans (sameSession_updatePad _ _ _ _))
  · exact .refl keyboard

/-- What `emit` leaves when the log asks for a toggle. -/
theorem emit_toggles {main : MainLoop F} {log : Log F} {turn : Turn F} (toggles : log.toggles = true)
    (emitted : main.emit log = .ok turn) :
    turn.main = { main with
      mapper := main.mapper.suspend.1
      keyboard := main.keyboard.setVisible (!main.keyboard.visible) } ∧
      turn.log = log ++ main.mapper.suspend.2 ∧ turn.response = none := by
  unfold MainLoop.emit at emitted
  rw [show log.outputs.any Output.isToggle = true from toggles] at emitted
  obtain ⟨effects, _, done⟩ := bind_ok emitted
  cases done
  exact ⟨rfl, rfl, rfl⟩

/-- Without a toggle `emit` only emits. -/
theorem emit_untoggled {main : MainLoop F} {log : Log F} {turn : Turn F}
    (untoggled : log.toggles = false) (emitted : main.emit log = .ok turn) :
    turn.main = main ∧ turn.log = log ∧ turn.response = none := by
  unfold MainLoop.emit at emitted
  rw [show log.outputs.any Output.isToggle = false from untoggled] at emitted
  obtain ⟨effects, _, done⟩ := bind_ok emitted
  cases done
  exact ⟨rfl, List.append_nil _, rfl⟩

/-- A request that runs an operation of the mapper. -/
theorem carryOut_inv {main : MainLoop F} {mapper : Mapper F} {log : Log F} {turn : Turn F}
    (untoggled : log.toggles = false) (carried : main.carryOut (mapper, log) = .ok turn) :
    turn.main.mapper = mapper ∧ turn.log = log ∧
      SameSession main.keyboard turn.main.keyboard ∧
      turn.main.keyboardClosedAt = main.keyboardClosedAt := by
  obtain ⟨emitted, emits, done⟩ := bind_ok carried
  obtain ⟨mainEq, logEq, _⟩ := emit_untoggled untoggled emits
  cases done
  refine ⟨?_, ?_, ?_, ?_⟩
  · show emitted.main.mapper = mapper
    rw [mainEq]
  · exact logEq
  · show SameSession main.keyboard (syncKeyboard emitted.main.mapper emitted.main.keyboard)
    rw [mainEq]
    exact sameSession_sync _ _
  · show emitted.main.keyboardClosedAt = _
    rw [mainEq]

/-! ## Kinds of turns -/

variable [Platform F]

inductive TurnKind (main : MainLoop F) : Input F → Turn F → Prop where
  /-- Nothing happens to the mapper or to the keyboard. -/
  | idle {input : Input F} {turn : Turn F} :
      (∀ state now, input ≠ .event (.state state) now) →
      (∀ now, input ≠ .event .disconnected now) →
      (∀ session device now, input = .request (.oskHide session) device now →
        turn.response ≠ some .done) →
      turn.main.mapper = main.mapper → turn.log = [] →
      turn.main.keyboard = main.keyboard →
      turn.main.keyboardClosedAt = main.keyboardClosedAt → TurnKind main input turn
  | switch {request : Request} {device : DeviceInfo} {now : Nat} {turn : Turn F} (mode : ModeId) :
      (∀ session, request ≠ .oskHide session) →
      main.mapper.switchMode mode = .ok (turn.main.mapper, turn.log) →
      SameSession main.keyboard turn.main.keyboard →
      turn.main.keyboardClosedAt = main.keyboardClosedAt →
      TurnKind main (.request request device now) turn
  | reload {source : String} {device : DeviceInfo} {now : Nat} {turn : Turn F} (config : Config F) :
      config.Accepted →
      main.mapper.reload config = .ok (turn.main.mapper, turn.log) →
      SameSession main.keyboard turn.main.keyboard →
      turn.main.keyboardClosedAt = main.keyboardClosedAt →
      TurnKind main (.request (.configApply source) device now) turn
  | hide {session : UInt64} {device : DeviceInfo} {now : Nat} {turn : Turn F} :
      session ≠ 0 → session = main.keyboard.session → main.keyboard.visible = true →
      (turn.main.mapper, turn.log) = main.mapper.suspend →
      turn.main.keyboard.visible = false →
      turn.main.keyboard.session = main.keyboard.session →
      turn.main.keyboardClosedAt = none → turn.response = some .done →
      TurnKind main (.request (.oskHide session) device now) turn
  | frame {state : ControllerState F} {now : Nat} {turn : Turn F} {mapper : Mapper F}
      {log : Log F} :
      main.mapper.process state main.keyboard.visible = .ok (mapper, log) →
      turn.main.mapper = (if log.toggles then mapper.suspend.1 else mapper) →
      turn.log = log ++ (if log.toggles then mapper.suspend.2 else []) →
      SameSession
        (if log.toggles then main.keyboard.setVisible (!main.keyboard.visible) else main.keyboard)
        turn.main.keyboard →
      turn.main.keyboardClosedAt =
        closedAt main.keyboard.visible turn.main.keyboard.visible now main.keyboardClosedAt →
      TurnKind main (.event (.state state) now) turn
  | disconnect {now : Nat} {turn : Turn F} :
      main.mapper.releaseAll = .ok (turn.main.mapper, turn.log) →
      turn.main.keyboard.visible = false →
      turn.main.keyboard.session = main.keyboard.session →
      turn.main.keyboardClosedAt = none →
      TurnKind main (.event .disconnected now) turn

omit [Scalar F] [Platform F] in
theorem setVisible_false (keyboard : OskState F) :
    (keyboard.setVisible false).visible = false ∧
      (keyboard.setVisible false).session = keyboard.session := by
  simp [OskState.setVisible]

omit [Platform F] in
theorem suspend_untoggled (mapper : Mapper F) : mapper.suspend.2.toggles = false :=
  toggles_releaseOutputs mapper

theorem parse_accepted {source : String} {config : Config F}
    (parsed : Config.parse source = .ok config) : config.Accepted := by
  unfold Config.parse at parsed
  split at parsed
  · cases parsed
  · next document _ =>
    split at parsed
    · next accepted =>
      cases parsed
      exact ⟨document, accepted⟩
    · cases parsed

/-- The ways in which a request is answered. -/
inductive Answered (main : MainLoop F) : Request → Turn F → Prop where
  | reply {request : Request} {response : Response} :
      (∀ session, request = .oskHide session → response ≠ .done) →
      Answered main request (main.reply response)
  | haptic (haptic : Haptic) :
      Answered main (.haptic haptic) { main.reply .done with effects := [.haptic haptic] }
  | key {session : UInt64} (code : UInt16) (shift : Bool) :
      Answered main (.key code shift session)
        { main.reply .done with effects := [.key ⟨code⟩ shift] }
  | switch {request : Request} {result : Mapper F × Log F} {turn : Turn F} (mode : ModeId) :
      (∀ session, request ≠ .oskHide session) → main.mapper.switchMode mode = .ok result →
      main.carryOut result = .ok turn → Answered main request turn
  | reload {source : String} {result : Mapper F × Log F} {carried : Turn F} (config : Config F) :
      config.Accepted → main.mapper.reload config = .ok result →
      { main with keyboard := main.keyboard.setBindings config.oskBindings.entries }.carryOut
        result = .ok carried →
      Answered main (.configApply source)
        { carried with effects := .clickPressure config.clickPressure :: carried.effects }
  | hide {session : UInt64} {emitted : Turn F} :
      session ≠ 0 → session = main.keyboard.session → main.keyboard.visible = true →
      { main with mapper := main.mapper.suspend.1 }.emit main.mapper.suspend.2 = .ok emitted →
      Answered main (.oskHide session)
        { Turn.publish { emitted with main := { emitted.main with
            keyboard := emitted.main.keyboard.setVisible false
            keyboardClosedAt := none } } with response := some .done }

theorem respond_answered {main : MainLoop F} {request : Request} {device : DeviceInfo} {now : Nat}
    {turn : Turn F} (responded : main.respond request device now = .ok turn) :
    Answered main request turn := by
  cases request with
  | status =>
    obtain ⟨mode, _, done⟩ := bind_ok responded
    cases done
    exact .reply (by simp)
  | modeSet name =>
    simp only [MainLoop.respond] at responded
    obtain ⟨result, sets, rest⟩ := bind_ok responded
    cases result with
    | error message =>
      cases rest
      exact .reply (by simp)
    | ok result =>
      unfold Mapper.setMode at sets
      split at sets
      · cases sets
      · next mode _ =>
        obtain ⟨switched, switches, done⟩ := bind_ok sets
        cases done
        exact .switch mode (by simp) switches rest
  | modeNext =>
    simp only [MainLoop.respond] at responded
    obtain ⟨result, nexts, rest⟩ := bind_ok responded
    obtain ⟨mode, _, switches⟩ := bind_ok nexts
    exact .switch mode (by simp) switches rest
  | haptic haptic =>
    cases responded
    exact .haptic haptic
  | configApply source =>
    simp only [MainLoop.respond] at responded
    split at responded
    · cases responded
      exact .reply (by simp)
    · next config parsed =>
      obtain ⟨result, reloads, rest⟩ := bind_ok responded
      obtain ⟨carried, carries, done⟩ := bind_ok rest
      cases done
      exact .reload config (parse_accepted parsed) reloads carries
  | osk => cases responded
  | oskHide session =>
    simp only [MainLoop.respond, MainLoop.oskHide] at responded
    split at responded
    · cases responded
      exact .reply (by simp [sessionInactive])
    · next accepted =>
      -- a hide passes the three checks: a session, the current one, and a visible keyboard
      simp only [not_or, Bool.not_eq_true', not_not, Bool.not_eq_false] at accepted
      obtain ⟨nonzero, same, visible⟩ := accepted
      obtain ⟨emitted, emits, done⟩ := bind_ok responded
      cases done
      exact .hide nonzero same visible emits
  | key code shift session =>
    cases responded
    unfold MainLoop.key
    split
    · exact .reply (by simp)
    · split
      · exact .reply (by simp)
      · exact .key code shift

theorem respond_kind {main : MainLoop F} {request : Request} {device : DeviceInfo} {now : Nat}
    {turn : Turn F} (responded : main.respond request device now = .ok turn) :
    TurnKind main (.request request device now) turn := by
  cases respond_answered responded with
  | @reply _ response refused =>
    refine .idle (by simp) (by simp) ?_ rfl rfl rfl rfl
    rintro session device now equal done
    cases equal
    exact refused session rfl (Option.some.inj done)
  | haptic => exact .idle (by simp) (by simp) (by simp) rfl rfl rfl rfl
  | key => exact .idle (by simp) (by simp) (by simp) rfl rfl rfl rfl
  | @switch _ result _ mode notHide switches carries =>
    -- a switch toggles nothing, so that carrying it out leaves the main loop as it is
    obtain ⟨mapper, log⟩ := result
    obtain ⟨rfl, rfl, session, closed⟩ := carryOut_inv (toggles_switchMode switches) carries
    exact .switch mode notHide switches session closed
  | @reload _ result carried config accepted reloads carries =>
    obtain ⟨mapper, log⟩ := result
    obtain ⟨mapperEq, logEq, session, closed⟩ := carryOut_inv (toggles_reload reloads) carries
    -- the new bindings of the keyboard belong to the same session
    have bindings : SameSession main.keyboard
        (main.keyboard.setBindings config.oskBindings.entries) := ⟨rfl, rfl⟩
    refine .reload config accepted ?_ (bindings.trans session) closed
    rw [reloads, ← mapperEq, ← logEq]
  | @hide session emitted nonzero same visible emits =>
    obtain ⟨mainEq, logEq, _⟩ := emit_untoggled (suspend_untoggled _) emits
    have hidden := setVisible_false emitted.main.keyboard
    have synced := sameSession_sync emitted.main.mapper (emitted.main.keyboard.setVisible false)
    refine .hide nonzero same visible ?_ (synced.visible.trans hidden.1) ?_ rfl rfl
    · simp only [Turn.publish, mainEq, logEq]
    · refine (synced.session.trans hidden.2).trans ?_
      rw [mainEq]

theorem frame_kind {main : MainLoop F} {state : ControllerState F} {now : Nat} {turn : Turn F}
    (framed : main.frame state now = .ok turn) :
    TurnKind main (.event (.state state) now) turn := by
  obtain ⟨⟨mapper, log⟩, processes, rest⟩ := bind_ok framed
  obtain ⟨touchpad, _, rest⟩ := bind_ok rest
  obtain ⟨emitted, emits, done⟩ := bind_ok rest
  cases done
  cases toggles : log.toggles with
  | true =>
    obtain ⟨mainEq, logEq, _⟩ := emit_toggles toggles emits
    refine .frame processes ?_ ?_ ?_ ?_
    · simp only [mainEq, toggles, if_true]
    · simp only [logEq, toggles, if_true]
    · simp only [mainEq, toggles, if_true]
      exact sameSession_updateKeyboard _ _ _ _
    · rw [(sameSession_updateKeyboard _ _ _ _).visible]
  | false =>
    obtain ⟨mainEq, logEq, _⟩ := emit_untoggled toggles emits
    refine .frame processes ?_ ?_ ?_ ?_
    · simp only [mainEq, toggles, Bool.false_eq_true, if_false]
    · simp only [logEq, toggles, Bool.false_eq_true, if_false, List.append_nil]
    · simp only [mainEq, toggles, Bool.false_eq_true, if_false]
      exact sameSession_updateKeyboard _ _ _ _
    · rw [(sameSession_updateKeyboard _ _ _ _).visible]

theorem disconnect_kind {main : MainLoop F} {now : Nat} {turn : Turn F}
    (disconnected : main.disconnect = .ok turn) :
    TurnKind main (.event .disconnected now) turn := by
  obtain ⟨gamepad, _, rest⟩ := bind_ok disconnected
  obtain ⟨⟨mapper, log⟩, releases, rest⟩ := bind_ok rest
  obtain ⟨emitted, emits, done⟩ := bind_ok rest
  have untoggled : log.toggles = false := by
    obtain ⟨_, _, _, rfl⟩ := releaseAll_cases releases
    exact toggles_releaseOutputs _
  obtain ⟨mainEq, logEq, _⟩ := emit_untoggled untoggled emits
  cases done
  have hidden := setVisible_false emitted.main.keyboard
  have synced := sameSession_sync emitted.main.mapper (emitted.main.keyboard.setVisible false)
  refine .disconnect ?_ (synced.visible.trans hidden.1) ?_ rfl
  · simp only [Turn.publish, mainEq, logEq, releases]
  · refine (synced.session.trans hidden.2).trans ?_
    rw [mainEq]

theorem step_kind {main : MainLoop F} {input : Input F} {turn : Turn F}
    (stepped : main.step input = .ok turn) : TurnKind main input turn := by
  cases input with
  | request request device now => exact respond_kind stepped
  | event event now =>
    cases event with
    | state state => exact frame_kind stepped
    | battery percent charging =>
      cases stepped
      exact .idle (by simp) (by simp) (by simp) rfl rfl rfl rfl
    | disconnected => exact disconnect_kind stepped

/-! ## Runs -/

theorem runs_run {main final : MainLoop F} {inputs : List (Input F)} {turns : List (Transition F)}
    (runs : main.runs inputs = .ok (turns, final)) : main.Run turns final := by
  induction inputs generalizing main turns with
  | nil =>
    cases runs
    exact .refl
  | cons input inputs inductionHypothesis =>
    obtain ⟨turn, steps, rest⟩ := bind_ok runs
    obtain ⟨⟨more, last⟩, runsRest, done⟩ := bind_ok rest
    cases done
    exact (Path.single (.turn steps)).trans (inductionHypothesis runsRest)

/-- What a run does up to some turn is a run. -/
theorem run_prefix {start final : MainLoop F} {turns before : List (Transition F)}
    (run : start.Run turns final) (initial : before <+: turns) : ∃ mid, start.Run before mid := by
  induction run with
  | refl =>
    rw [List.prefix_nil.mp initial]
    exact ⟨start, .refl⟩
  | snoc path turned inductionHypothesis =>
    cases turned with
    | turn stepped =>
      rcases List.prefix_concat_iff.mp initial with whole | earlier
      · exact ⟨_, whole ▸ path.snoc (.turn stepped)⟩
      · exact inductionHypothesis earlier

/-- The last turn of a run is a step from where the turns before it end. -/
theorem run_snoc {start final : MainLoop F} {turns : List (Transition F)} {transition : Transition F}
    (run : start.Run (turns ++ [transition]) final) :
    start.Run turns transition.before ∧
      transition.before.step transition.input = .ok transition.turn ∧
      final = transition.turn.main := by
  generalize labels : turns ++ [transition] = all at run
  cases run with
  | refl => simp at labels
  | snoc path turned =>
    cases turned with
    | turn stepped =>
      obtain ⟨rfl, last⟩ := List.append_inj' labels rfl
      cases last
      exact ⟨path, stepped, rfl⟩

theorem runsFrom_run {config : Config F} {start final : MainLoop F} {inputs : List (Input F)}
    {turns : List (Transition F)}
    (runs : MainLoop.runsFrom config inputs = .ok (start, turns, final)) :
    MainLoop.start config = .ok start ∧ start.Run turns final := by
  obtain ⟨start, started, rest⟩ := bind_ok runs
  obtain ⟨⟨more, last⟩, runsRest, done⟩ := bind_ok rest
  cases done
  exact ⟨started, runs_run runsRest⟩

end

end Scd.Daemon
