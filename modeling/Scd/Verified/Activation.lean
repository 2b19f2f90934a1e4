import Scd.Core.Rounded
import Scd.Foundation.Hysteresis
import Scd.Verified.AxisValues
import Scd.Verified.Sessions

/-! # Activations

The flag of an axis mapping after a run, in terms of the frames since the flags were last
cleared.  Whatever cuts a frame short before the axes are reached clears the flags, so a frame
that counts has set all of them; and the position of a flag is that of its mapping, since the
flags are made anew with every mode and configuration.
-/

namespace Scd.Daemon

open Scd.Core Scd.Foundation

section

variable {F : Type} [Scalar F]

/-! ## The frames that count -/

omit [Scalar F] in
/-- The activations are cleared: another mode is entered or a configuration loaded, the keyboard
    is toggled or hidden, or the controller is disconnected. -/
def Transition.clears (transition : Transition F) : Bool :=
  transition.turn.log.changesMode || transition.turn.log.toggles || transition.hides ||
    transition.disconnects

/-- The frames since the activations were cleared, after one more turn. -/
def framesAfter (frames : List (ControllerState F)) (transition : Transition F) :
    List (ControllerState F) :=
  if transition.clears then []
  else match transition.input with
    | .event (.state state) _ => frames ++ [state]
    | _ => frames

/-- The frames of a run that were processed since its start, and since the activations were
    cleared for the last time. -/
def framesSince (turns : List (Transition F)) : List (ControllerState F) :=
  turns.foldl framesAfter []

omit [Scalar F] in
theorem framesSince_snoc (turns : List (Transition F)) (transition : Transition F) :
    framesSince (turns ++ [transition]) = framesAfter (framesSince turns) transition := by
  simp [framesSince]

/-- The flag of a mapping after some frames. -/
def flagAfter (frames : List (ControllerState F)) (mapping : AxisMapping F) : Bool :=
  frames.foldl (isActive mapping) false

/-- The flags of the mapper are those of its own mode after these frames. -/
def Flagged (mapper : Mapper F) (frames : List (ControllerState F)) : Prop :=
  ∀ mode, mapper.mode = .ok mode → mapper.axisActive = mode.axes.map (flagAfter frames)

theorem flagged_cleared {mapper : Mapper F} (cleared : Cleared mapper) : Flagged mapper [] := by
  intro mode found
  obtain ⟨own, foundOwn, flags⟩ := cleared.flags
  cases found.symm.trans foundOwn
  rw [flags]
  exact List.map_const'.symm

theorem flagged_suspend {mapper : Mapper F} (wf : mapper.Wf) : Flagged mapper.suspend.1 [] := by
  intro mode found
  rw [Mapper.suspend, releaseOutputs_eq] at found ⊢
  rw [wf.axisActive mode found]
  exact List.map_const'.symm

/-- One more frame. -/
theorem flagAfter_snoc (frames : List (ControllerState F)) (state : ControllerState F)
    (mapping : AxisMapping F) : flagAfter (frames ++ [state]) mapping =
      isActive mapping (flagAfter frames mapping) state := by
  simp [flagAfter]

theorem nextFlags_flagAfter (frames : List (ControllerState F)) (state : ControllerState F)
    (axes : List (AxisMapping F)) : nextFlags (axes.zip (axes.map (flagAfter frames))) state =
      axes.map (flagAfter (frames ++ [state])) := by
  rw [nextFlags, List.map_zip_eq_zipWith, List.zipWith_map_right, List.zipWith_self]
  apply List.map_congr_left
  intro mapping _
  exact (flagAfter_snoc frames state mapping).symm

/-! ## Frames -/

/-- A frame that is cut short changes the mode or toggles the keyboard. -/
theorem FrameKind.cut {mapper : Mapper F} {state : ControllerState F} {visible : Bool}
    {pass : Pass F} (kind : FrameKind mapper state visible pass true) :
    pass.log.changesMode = true ∨ pass.log.toggles = true := by
  cases kind with
  | globalsCut cut =>
    obtain ⟨_, _, _, _, _, _, _, _, _, step⟩ := cut
    cases step with
    | toggle =>
      right
      simp [GlobalPass.append, Output.isToggle]
    | switch _ _ _ _ changed =>
      obtain ⟨name, haptic, logged⟩ := changed.log
      left
      simp [GlobalPass.append, logged, Log.changesMode, Output.isModeChange]
  | startsCut _ _ _ _ cut =>
    obtain ⟨_, _, _, _, _, _, step⟩ := cut
    cases step with
    | switch _ _ changed =>
      obtain ⟨name, haptic, logged⟩ := changed.log
      left
      simp [logged, Log.changesMode, Output.isModeChange]

/-- A frame with the keyboard hidden that neither changes the mode nor toggles the keyboard has
    set the flag of every mapping. -/
theorem flagged_frame {mapper next : Mapper F} {state : ControllerState F} {log : Log F}
    {frames : List (ControllerState F)} (wf : mapper.Wf) (flagged : Flagged mapper frames)
    (processed : mapper.process state false = .ok (next, log)) (unchanged : log.changesMode = false)
    (untoggled : log.toggles = false) : Flagged next (frames ++ [state]) := by
  obtain ⟨⟨pass, stopped⟩, framed, done⟩ := bind_ok processed
  cases done
  cases stopped with
  | true =>
    have cut := ((processFrame_kind wf state false).of_ok framed).cut
    rw [unchanged, untoggled] at cut
    simp at cut
  | false =>
    obtain ⟨mode, _, _, _, completed⟩ := completed_frame wf framed
    intro found foundMode
    have same : pass.mapper.mode = mapper.mode := by
      rw [Mapper.mode, Mapper.mode, completed.config, completed.activeMode]
    cases (foundMode.symm.trans same).trans completed.found
    rw [completed.flags, flagged mode completed.found]
    exact nextFlags_flagAfter frames state mode.axes

/-- A frame with the keyboard hidden that goes on to its end does neither. -/
theorem FrameKind.whole {mapper : Mapper F} {state : ControllerState F} {pass : Pass F}
    (kind : FrameKind mapper state false pass false) :
    pass.log.changesMode = false ∧ pass.log.toggles = false := by
  obtain ⟨more, logged, moves⟩ := kind.advances
  obtain rfl : pass.log = more := logged
  refine ⟨Moves.changesMode moves, ?_⟩
  cases kind with
  | keyboard visible => cases visible
  | bindings _ all ended _ starts aside =>
    have ofGlobals := GlobalsDone.untoggled all
    have ofRoutes := RoutesReleased.untoggled ended
    rw [aside.toggles]
    simp [ofGlobals, ofRoutes, starts.untoggled]

/-! ## Turns -/

variable [LawfulScalar F] [Platform F]

/-- With the keyboard hidden, the flags after a run are those of the frames that count. -/
structure Activated (turns : List (Transition F)) (main : MainLoop F) : Prop where
  valid : main.mapper.config.Valid
  flagged : main.keyboard.visible = false → Flagged main.mapper (framesSince turns)

theorem TurnKind.valid {main : MainLoop F} {input : Input F} {turn : Turn F}
    (kind : TurnKind main input turn) (wf : main.mapper.Wf) (valid : main.mapper.config.Valid) :
    turn.main.mapper.config.Valid := by
  cases kind with
  | idle _ _ _ same =>
    rw [same]
    exact valid
  | switch _ _ switches =>
    rw [(switchMode_kept switches).1]
    exact valid
  | reload config accepted reloads =>
    obtain ⟨document, parses⟩ := accepted
    rw [(cleared_reload reloads).2.1]
    exact parsed_valid parses
  | hide _ _ _ suspends =>
    have same : turn.main.mapper = main.mapper.suspend.1 := congrArg Prod.fst suspends
    rw [same, Mapper.suspend, releaseOutputs_eq]
    exact valid
  | frame processes same =>
    obtain ⟨_, kind⟩ := process_kind wf processes
    rw [same]
    split
    · rw [Mapper.suspend, releaseOutputs_eq]
      exact kind.config ▸ valid
    · exact kind.config ▸ valid
  | disconnect released =>
    rw [(cleared_releaseAll released).2.1]
    exact valid

omit [Scalar F] [LawfulScalar F] [Platform F] in
theorem changesMode_modeChanged {mapper : Mapper F} {changed : Output F} (log : Log F)
    (changes : mapper.modeChanged = .ok changed) :
    Log.changesMode (log ++ [.output changed]) = true := by
  obtain ⟨name, _, done⟩ := bind_ok changes
  cases done
  exact changesMode_of_mem (List.mem_append_right log List.mem_cons_self)

omit [Scalar F] [LawfulScalar F] [Platform F] in
theorem framesAfter_clears {frames : List (ControllerState F)} {transition : Transition F}
    (clears : transition.clears = true) : framesAfter frames transition = [] := by
  rw [framesAfter, if_pos clears]

omit [LawfulScalar F] in
/-- What a turn does to the flags. -/
theorem TurnKind.flagged {main : MainLoop F} {input : Input F} {turn : Turn F}
    {frames : List (ControllerState F)} (kind : TurnKind main input turn) (wf : main.mapper.Wf)
    (flagged : main.keyboard.visible = false → Flagged main.mapper frames)
    (hidden : turn.main.keyboard.visible = false) :
    Flagged turn.main.mapper (framesAfter frames ⟨main, input, turn⟩) := by
  cases kind with
  | idle noFrame connected unhidden same log keyboard =>
    -- no other input clears the frames or adds one
    have keeps : framesAfter frames ⟨main, input, turn⟩ = frames := by
      cases input with
      | event event now =>
        cases event with
        | state state => exact absurd rfl (noFrame state now)
        | battery => simp [framesAfter, Transition.clears, Transition.hides,
            Transition.disconnects, log, Log.changesMode]
        | disconnected => exact absurd rfl (connected now)
      | request request device now =>
        cases request with
        | oskHide session =>
          have refused := unhidden session device now rfl
          simp [framesAfter, Transition.clears, Transition.hides, Transition.disconnects, log,
            Log.changesMode, refused]
        | _ => simp [framesAfter, Transition.clears, Transition.hides, Transition.disconnects, log,
            Log.changesMode]
    rw [keeps, same]
    exact flagged (keyboard ▸ hidden)
  | @switch request device now turn mode notHide switches session =>
    -- only a switch to another mode starts the count of frames again
    rcases switchMode_cases switches with ⟨_, same, log⟩ | ⟨other, changed, _, changes, log⟩
    · have keeps : framesAfter frames ⟨main, .request request device now, turn⟩ = frames := by
        cases request with
        | oskHide session => exact absurd rfl (notHide session)
        | _ => simp [framesAfter, Transition.clears, Transition.hides, Transition.disconnects, log,
            Log.changesMode]
      rw [keeps, same]
      exact flagged (session.visible ▸ hidden)
    · have clears : Transition.clears ⟨main, .request request device now, turn⟩ = true := by
        simp [Transition.clears, log, changesMode_modeChanged _ changes]
      rw [framesAfter_clears clears]
      exact flagged_cleared (cleared_switchMode switches other)
  | @reload source device now turn config accepted reloads =>
    obtain ⟨_, _, _, _, changes, log⟩ := reload_cases reloads
    have clears : Transition.clears ⟨main, .request (.configApply source) device now, turn⟩ = true := by
      simp [Transition.clears, log, changesMode_modeChanged _ changes]
    rw [framesAfter_clears clears]
    exact flagged_cleared (cleared_reload reloads).1
  | @hide session device now turn _ _ _ suspends _ _ _ done =>
    have same : turn.main.mapper = main.mapper.suspend.1 := congrArg Prod.fst suspends
    have clears : Transition.clears ⟨main, .request (.oskHide session) device now, turn⟩ = true := by
      simp [Transition.clears, Transition.hides, done]
    rw [framesAfter_clears clears, same]
    exact flagged_suspend wf
  | @frame state now turn mapper log processes same logged session =>
    have processed : Steps main.mapper log mapper :=
      (process_steps wf state main.keyboard.visible).of_ok processes
    cases toggles : log.toggles with
    | true =>
      have clears : Transition.clears ⟨main, .event (.state state) now, turn⟩ = true := by
        simp [Transition.clears, logged, toggles]
      -- the suspension after the frame clears the flags that the frame has set
      rw [framesAfter_clears clears, same, toggles, if_pos rfl]
      exact flagged_suspend (processed.wf wf)
    | false =>
      simp only [toggles, Bool.false_eq_true, if_false, List.append_nil] at same logged session
      rw [same]
      -- a frame that changes the mode leaves cleared flags; any other is one more frame
      cases changes : log.changesMode with
      | true =>
        have clears : Transition.clears ⟨main, .event (.state state) now, turn⟩ = true := by
          simp [Transition.clears, logged, changes]
        rw [framesAfter_clears clears]
        have performed : main.mapper.perform (.process state main.keyboard.visible) =
          .ok (mapper, log) := processes
        exact flagged_cleared (perform_cleared wf performed changes)
      | false =>
        have before : main.keyboard.visible = false := session.visible ▸ hidden
        have kept : framesAfter frames ⟨main, .event (.state state) now, turn⟩ =
            frames ++ [state] := by
          simp [framesAfter, Transition.clears, Transition.hides, Transition.disconnects, logged,
            toggles, changes]
        rw [before] at processes
        rw [kept]
        exact flagged_frame wf (flagged before) processes changes toggles
  | disconnect released =>
    rw [framesAfter_clears (by simp [Transition.clears, Transition.disconnects])]
    exact flagged_cleared (cleared_releaseAll released).1

/-! ## Runs -/

theorem activated_run {config : Config F} {start final : MainLoop F} {turns : List (Transition F)}
    (accepted : config.Accepted) (started : MainLoop.start config = .ok start)
    (run : start.Run turns final) : Activated turns final := by
  have initial : Activated [] start := by
    obtain ⟨mapper, news, done⟩ := bind_ok started
    cases done
    obtain ⟨document, parses⟩ := accepted
    refine ⟨?_, fun _ => flagged_cleared (cleared_new news)⟩
    obtain ⟨_, _, done⟩ := bind_ok news
    cases done
    exact parsed_valid parses
  induction run with
  | refl => exact initial
  | snoc path turned inductionHypothesis =>
    cases turned with
    | turn stepped =>
      have wf := (Reached.run accepted started path).wf
      have kind := step_kind stepped
      refine ⟨kind.valid wf inductionHypothesis.valid, ?_⟩
      intro hidden
      rw [framesSince_snoc]
      exact kind.flagged wf inductionHypothesis.flagged hidden

omit [LawfulScalar F] in
/-- A frame that goes on to its end with the keyboard hidden counts. -/
theorem completed_turn {start final before : MainLoop F} {earlier : List (Transition F)}
    {state : ControllerState F} {now : Nat} {turn : Turn F} {pass : Pass F} (wf : before.mapper.Wf)
    (run : start.Run (earlier ++ [⟨before, .event (.state state) now, turn⟩]) final)
    (hidden : before.keyboard.visible = false)
    (framed : before.mapper.processFrame state false = .ok (pass, false)) :
    final.keyboard.visible = false ∧
      framesSince (earlier ++ [⟨before, .event (.state state) now, turn⟩]) =
        framesSince earlier ++ [state] := by
  obtain ⟨_, stepped, rfl⟩ := run_snoc run
  obtain ⟨unchanged, untoggled⟩ := ((processFrame_kind wf state false).of_ok framed).whole
  cases step_kind stepped with
  | idle noFrame => exact absurd rfl (noFrame state now)
  | @frame _ _ _ mapper log processes same logged session =>
    have processed : before.mapper.process state before.keyboard.visible = .ok (pass.mapper, pass.log) := by
      rw [hidden, Mapper.process, framed]
      rfl
    cases processes.symm.trans processed
    simp only [untoggled, Bool.false_eq_true, if_false, List.append_nil] at logged session
    constructor
    · exact session.visible.trans hidden
    · rw [framesSince_snoc]
      simp [framesAfter, Transition.clears, Transition.hides, Transition.disconnects, logged,
        unchanged, untoggled]

/-- With the keyboard hidden, the mapping at this position of the active mode has a trigger
    activation. -/
structure Armed (main : MainLoop F) (position : Nat) (trigger : Core.Trigger) (engage release : F) :
    Prop where
  hidden : main.keyboard.visible = false
  mapping : ∃ mode mapping, main.mapper.mode = .ok mode ∧ mode.axes[position]? = some mapping ∧
    mapping.axisOptions.activation = some (.trigger trigger engage release)

/-- The trigger was pulled to `engage` in some frame, and was above `release` ever since. -/
def Pulled (trigger : Core.Trigger) (engage release : F) (frames : List (ControllerState F)) : Prop :=
  ∃ early state late, frames = early ++ state :: late ∧ triggerValue trigger state ≥ engage ∧
    ∀ other ∈ late, triggerValue trigger other > release

omit [LawfulScalar F] [Platform F] in
/-- The flag of a mapping with a trigger activation is a switch with a hysteresis. -/
theorem flagAfter_iff [ScalarOrder F] {mapping : AxisMapping F} {trigger : Core.Trigger}
    {engage release : F}
    (activation : mapping.axisOptions.activation = some (.trigger trigger engage release))
    (thresholds : release < engage) (frames : List (ControllerState F)) :
    flagAfter frames mapping = true ↔ Pulled trigger engage release frames := by
  have switches : isActive mapping = fun on state =>
      if on then decide (triggerValue trigger state > release)
      else decide (triggerValue trigger state ≥ engage) := by
    funext on state
    simp only [isActive, activation, Option.all_some, activationHolds]
  have more : ∀ state : ControllerState F, decide (triggerValue trigger state ≥ engage) = true →
      decide (triggerValue trigger state > release) = true := by
    intro state engaged
    exact decide_eq_true (ScalarOrder.lt_of_lt_of_le _ _ _ thresholds (of_decide_eq_true engaged))
  have latch := switchAfter_iff more frames
  unfold switchAfter at latch
  rw [flagAfter, switches, latch]
  simp [EngagedSince, Pulled]

omit [LawfulScalar F] [Platform F] in
theorem armed_flag [ScalarOrder F] {final : MainLoop F} {turns : List (Transition F)}
    {position : Nat} {trigger : Core.Trigger} {engage release : F} (activated : Activated turns final)
    (armed : Armed final position trigger engage release) :
    ∃ active, final.mapper.axisActive[position]? = some active ∧
      (active = true ↔ Pulled trigger engage release (framesSince turns)) := by
  obtain ⟨mode, mapping, found, present, activation⟩ := armed.mapping
  have member : mode ∈ final.mapper.config.modes :=
    List.mem_of_getElem? (index_ok_iff.mp found)
  have valid := ((activated.valid.modes mode member).axes mapping (List.mem_of_getElem? present)).options
  have same : mapping.options = mapping.axisOptions := by cases mapping <;> rfl
  have thresholds := (valid.activation _ (same ▸ activation)).thresholds trigger engage release rfl
  refine ⟨flagAfter (framesSince turns) mapping, ?_, ?_⟩
  · rw [activated.flagged armed.hidden mode found, List.getElem?_map, present]
    rfl
  · exact flagAfter_iff activation thresholds.2.1 _

/-- After each frame that goes on to its end with the keyboard hidden, and as long as the keyboard
    stays hidden, a mapping with a trigger activation is active if and only if since the last clear
    there was a frame with the trigger at `engage` or above, and in every frame after it the
    trigger was above `release`.  No other mapping and no other mode has a part in it: in any run
    with the same frames since the last clear, a mapping with the same activation is active as
    well. -/
theorem activation_hysteresis [ScalarOrder F] {config : Config F} {start final : MainLoop F}
    {turns : List (Transition F)} (accepted : config.Accepted)
    (started : MainLoop.start config = .ok start) (run : start.Run turns final) :
    (∀ earlier before state now turn pass,
      turns = earlier ++ [⟨before, .event (.state state) now, turn⟩] →
      before.keyboard.visible = false →
      before.mapper.processFrame state false = .ok (pass, false) →
        final.keyboard.visible = false ∧ framesSince turns = framesSince earlier ++ [state]) ∧
    ∀ position trigger engage release, Armed final position trigger engage release →
      ∃ active, final.mapper.axisActive[position]? = some active ∧
        (active = true ↔ ∃ early state late, framesSince turns = early ++ state :: late ∧
          triggerValue trigger state ≥ engage ∧
          ∀ other ∈ late, triggerValue trigger other > release) ∧
        ∀ config' start' final' turns' position', Config.Accepted (F := F) config' →
          MainLoop.start config' = .ok start' → start'.Run turns' final' →
          Armed final' position' trigger engage release → framesSince turns' = framesSince turns →
            final'.mapper.axisActive[position']? = some active := by
  refine ⟨?_, ?_⟩
  · rintro earlier before state now turn pass rfl hidden framed
    obtain ⟨path, _⟩ := run_snoc run
    exact completed_turn (Reached.run accepted started path).wf run hidden framed
  · intro position trigger engage release armed
    obtain ⟨active, flag, pulled⟩ := armed_flag (activated_run accepted started run) armed
    refine ⟨active, flag, pulled, ?_⟩
    intro config' start' final' turns' position' accepted' started' run' armed' same
    obtain ⟨active', flag', pulled'⟩ := armed_flag (activated_run accepted' started' run') armed'
    rw [same, ← pulled, ← Bool.eq_iff_iff] at pulled'
    rw [flag', pulled']

end

/-! ## An example -/

/-- One mode, in which the left trigger activates the gyro. -/
def gyroDocument : KdlDocument ℚ where
  nodes := [
    .mk "version" [⟨none, .integer 1, ⟨0, 0⟩⟩] [] ⟨0, 0⟩,
    wordNode "default-mode" ["desk"] [],
    wordNode "mode" ["desk"] [
      wordNode "axis" ["right-stick", "gamepad-right-stick"] [],
      wordNode "axis" ["gyro", "gamepad-right-stick"] [
        wordNode "components" ["z", "x"] [],
        .mk "trigger" [⟨none, .string "left-trigger", ⟨0, 0⟩⟩,
          ⟨some "engage", .float (3 / 20), ⟨0, 0⟩⟩, ⟨some "release", .float (1 / 10), ⟨0, 0⟩⟩] []
          ⟨0, 0⟩]]]
  span := ⟨0, 0⟩

def gyroMapping : AxisMapping ℚ :=
  .gyro (.z, .x) .gamepadRightStick
    ⟨⟨some (.trigger .left (3 / 20) (1 / 10)), 0.0, 1.0, 1.0⟩, false, false, false⟩

def gyroConfig : Config ℚ :=
  { sticksConfig with modes := [⟨.none, none, [], [
    .stick .right .gamepadRightStick ⟨⟨none, 0.0, 1.0, 1.0⟩, false, false, false⟩, gyroMapping], []⟩] }

theorem gyro_accepted : gyroConfig.Accepted := ⟨gyroDocument, by with_unfolding_all rfl⟩

/-- A frame with the left trigger at this value. -/
def pulled (value : ℚ) : ControllerState ℚ :=
  { ControllerState.withButtons (.ofList []) with triggers := (value, 0) }

/-- The trigger of an activation, with its thresholds. -/
def AxisActivation.thresholds? {F : Type} : AxisActivation F → Option (Core.Trigger × F × F)
  | .trigger trigger engage release => some (trigger, engage, release)
  | .buttons _ => none

/-- A trigger that is pulled to the upper threshold and then falls between the two. -/
theorem example_activation :
    ∃ start turns final early state late, MainLoop.start gyroConfig = .ok start ∧
      start.Run turns final ∧ framesSince turns = early ++ state :: late ∧
      early.map (·.triggers.1) = [7 / 50] ∧ state.triggers.1 = 3 / 20 ∧
      late.map (·.triggers.1) = [11 / 100] ∧ final.mapper.axisActive[1]? = some true := by
  obtain ⟨⟨start, turns, final⟩, runs, facts⟩ := map_ok
    (show (MainLoop.runsFrom gyroConfig [.event (.state (pulled (7 / 50))) 0,
        .event (.state (pulled (3 / 20))) 1, .event (.state (pulled (11 / 100))) 2]).map
        (fun run => (run.2.2.keyboard.visible, (framesSince run.2.1).map (·.triggers.1),
          (run.2.2.mapper.mode.toOption.bind fun mode => mode.axes[1]?.bind fun mapping =>
            mapping.axisOptions.activation.bind AxisActivation.thresholds?))) =
        .ok (false, [7 / 50, 3 / 20, 11 / 100], some (.left, 3 / 20, 1 / 10)) by
      decide +kernel)
  obtain ⟨started, run⟩ := runsFrom_run runs
  simp only [Prod.mk.injEq] at facts
  obtain ⟨hidden, triggers, thresholds⟩ := facts
  have armed : Armed final 1 .left (3 / 20) (1 / 10) := by
    refine ⟨hidden, ?_⟩
    obtain ⟨mode, found, axes⟩ := Option.bind_eq_some_iff.mp thresholds
    obtain ⟨mapping, present, options⟩ := Option.bind_eq_some_iff.mp axes
    obtain ⟨activation, active, isTrigger⟩ := Option.bind_eq_some_iff.mp options
    refine ⟨mode, mapping, ?_, present, ?_⟩
    · cases isMode : final.mapper.mode with
      | ok other =>
        rw [isMode] at found
        cases found
        rfl
      | error => simp [isMode, Except.toOption] at found
    · cases activation with
      | trigger => cases isTrigger; exact active
      | buttons => cases isTrigger
  obtain ⟨first, rest, frames, isFirst, others⟩ := List.map_eq_cons_iff.mp triggers
  obtain ⟨second, rest, rfl, isSecond, others⟩ := List.map_eq_cons_iff.mp others
  obtain ⟨third, rest, rfl, isThird, others⟩ := List.map_eq_cons_iff.mp others
  obtain rfl := List.map_eq_nil_iff.mp others
  obtain ⟨active, flag, engaged, _⟩ :=
    (activation_hysteresis gyro_accepted started run).2 1 .left (3 / 20) (1 / 10) armed
  have isActive : active = true := by
    refine engaged.mpr ⟨[first], second, [third], frames, ?_, ?_⟩
    · exact le_of_eq isSecond.symm
    · intro other member
      rw [List.mem_singleton.mp member, gt_iff_lt, triggerValue, isThird]
      decide +kernel
  refine ⟨start, turns, final, [first], second, [third], started, run, frames, by simp [isFirst],
    isSecond, by simp [isThird], ?_⟩
  rw [flag, isActive]

end Scd.Daemon
