import Scd.Verified.GlobalLoop
import Scd.Verified.HoldLoops
import Scd.Verified.StartLoop

/-! # Frames

`processFrame_kind` says what a whole call of `Mapper::process` does: a frame is cut short
by a global binding or by a mode or layer binding, or it goes on to its end, with the
keyboard visible or hidden.  Axes and trackpad haptics take no part in this.
-/

namespace Scd.Daemon

open Scd.Core Scd.Foundation

section

variable {F : Type} [Scalar F]

/-! ## Axes and trackpad haptics -/

/-- Motion, scrolling and haptics: outputs that nothing is held by. -/
def Entry.isMotion {F : Type} : Entry F → Bool
  | .output (.mouseMotion _ _) | .output (.scroll _ _) | .output (.trackpadHaptic _) => true
  | _ => false

omit [Scalar F] in
def Log.Motion (log : Log F) : Prop := ∀ entry ∈ log, entry.isMotion = true

omit [Scalar F] in
theorem Log.Motion.silent {log : Log F} (motion : log.Motion) : log.Silent := by
  intro entry member
  have := motion entry member
  cases entry with
  | note ghost => cases this
  | output output => cases output <;> first | rfl | cases this

omit [Scalar F] in
theorem Log.Motion.notes {log : Log F} (motion : log.Motion) : log.notes = [] := by
  refine List.filterMap_eq_nil_iff.mpr ?_
  intro entry member
  have := motion entry member
  cases entry with
  | note ghost => cases this
  | output output => rfl

omit [Scalar F] in
theorem Log.Motion.untoggled {log : Log F} (motion : log.Motion) : log.toggles = false := by
  rw [Log.toggles, List.any_eq_false]
  intro output member
  obtain ⟨entry, found, isOutput⟩ := List.mem_filterMap.mp member
  have := motion entry found
  cases entry with
  | note ghost => cases this
  | output pushed =>
    cases isOutput
    cases output <;> first | exact Bool.false_ne_true | cases this

omit [Scalar F] in
theorem Log.Motion.append {first second : Log F} (early : first.Motion) (late : second.Motion) :
    Log.Motion (first ++ second) := by
  intro entry member
  rcases List.mem_append.mp member with old | new
  · exact early entry old
  · exact late entry new

omit [Scalar F] in
theorem motion_nil : Log.Motion ([] : Log F) := by
  intro entry member
  cases member

omit [Scalar F] in
theorem motion_singleton {entry : Entry F} (motion : entry.isMotion = true) :
    Log.Motion [entry] := by
  intro other member
  cases List.mem_singleton.mp member
  exact motion

omit [Scalar F] in
theorem motion_ite {condition : Prop} [Decidable condition] {entry : Entry F}
    (motion : entry.isMotion = true) : Log.Motion (if condition then [entry] else []) := by
  split
  · exact motion_singleton motion
  · exact motion_nil

/-- A piece of a frame that neither holds outputs nor starts or ends anything. -/
structure Aside (before after : Pass F) : Prop where
  advances : Advances false before after
  frame : after.mapper = { before.mapper with
    gamepadAxes := after.mapper.gamepadAxes
    axisActive := after.mapper.axisActive
    trackpadHaptics := after.mapper.trackpadHaptics }
  notes : after.log.notes = before.log.notes
  toggles : after.log.toggles = before.log.toggles

theorem Aside.trans {first second third : Pass F} (early : Aside first second)
    (late : Aside second third) : Aside first third where
  advances := early.advances.trans late.advances
  frame := by rw [late.frame, early.frame]
  notes := late.notes.trans early.notes
  toggles := late.toggles.trans early.toggles

theorem padHaptic_motion {mapper next : Mapper F} {state : ControllerState F}
    {previousButtons : Buttons} {pad : Trackpad} {padState : TouchpadState F} {click : Button}
    {log : Log F} (padded : mapper.padHaptic state previousButtons pad padState click = (next, log)) :
    log.Motion ∧ ∃ haptics, next = { mapper with trackpadHaptics := haptics } := by
  unfold Mapper.padHaptic at padded
  split at padded
  · cases padded
    exact ⟨motion_singleton rfl, _, rfl⟩
  · cases padded
    exact ⟨motion_ite rfl, _, rfl⟩

/-- The haptics of the left trackpad, and then those of the right one. -/
theorem processTrackpadHaptics_pads {mapper next : Mapper F} {state : ControllerState F}
    {previousButtons : Buttons} {log : Log F}
    (processed : mapper.processTrackpadHaptics state previousButtons = (next, log)) :
    ∃ mid left right,
      mapper.padHaptic state previousButtons .left state.leftPad .leftPadClick = (mid, left) ∧
      mid.padHaptic state previousButtons .right state.rightPad .rightPadClick = (next, right) ∧
      log = left ++ right := by
  cases processed
  exact ⟨_, _, _, rfl, rfl, rfl⟩

theorem processTrackpadHaptics_aside {mapper next : Mapper F} {state : ControllerState F}
    {previousButtons : Buttons} {haptics : Log F} (log : Log F)
    (processed : mapper.processTrackpadHaptics state previousButtons = (next, haptics)) :
    Aside ⟨mapper, log⟩ ⟨next, log ++ haptics⟩ := by
  obtain ⟨mid, leftLog, rightLog, left, right, rfl⟩ := processTrackpadHaptics_pads processed
  obtain ⟨leftMotion, _, rfl⟩ := padHaptic_motion left
  obtain ⟨rightMotion, _, rfl⟩ := padHaptic_motion right
  have motion := leftMotion.append rightMotion
  exact ⟨.quiet rfl ⟨rfl, rfl, rfl, rfl⟩ rfl rfl motion.silent, rfl, by simp [motion.notes],
    by simp [motion.untoggled]⟩

theorem contribute_motion (mapping : AxisMapping F) (state : ControllerState F)
    (previous : Option (ControllerState F)) (gamepad : GamepadAxis → F) :
    (contribute mapping state previous gamepad).2.Motion := by
  unfold contribute
  split
  · exact motion_nil
  · unfold deliver
    split
    · exact motion_nil
    · exact motion_nil
    · exact motion_ite rfl
    · exact motion_ite rfl

/-- The axis mappings read so far have set their flags and nothing else. -/
structure AxesDone (start : Mapper F) (pass : AxisPass F) : Prop where
  motion : pass.log.Motion
  frame : pass.mapper = { start with axisActive := pass.mapper.axisActive }
  length : pass.mapper.axisActive.length = start.axisActive.length

theorem axes_done {mapper : Mapper F} {mode : Mode F} (found : mapper.mode = .ok mode)
    (wf : mapper.Wf) (state : ControllerState F) (previous : Option (ControllerState F)) :
    Returns (loop (Mapper.axisMapping state previous) ⟨⟨mapper, []⟩, fun _ => 0.0⟩ mode.axes.zipIdx)
      fun result => AxesDone mapper result.1 := by
  have looped : Returns (loop (Mapper.axisMapping state previous) ⟨⟨mapper, []⟩, fun _ => 0.0⟩
      mode.axes.zipIdx) fun result => if result.2 then False else AxesDone mapper result.1 := by
    refine Returns.loop (fun _ => AxesDone mapper) (fun _ => False) ⟨motion_nil, rfl, rfl⟩ ?_
    rintro done ⟨mapping, position⟩ rest pass split past
    obtain ⟨place, present⟩ := zipIdx_split split
    obtain rfl : position = done.length := place
    have lt : done.length < pass.mapper.axisActive.length := by
      rw [past.length, wf.axisActive mode found]
      exact (List.getElem?_eq_some_iff.mp present).1
    have frame : ∀ flags, { pass.mapper with axisActive := flags } =
        { mapper with axisActive := flags } := fun flags =>
      congrArg (fun base : Mapper F => { base with axisActive := flags }) past.frame
    unfold Mapper.axisMapping
    simp only [index_of_lt lt, ok_bind]
    split
    · exact .pure ⟨past.motion, frame _, by simpa using past.length⟩
    · exact .pure ⟨past.motion.append (contribute_motion _ _ _ _), frame _, by simpa using past.length⟩
  refine looped.mono ?_
  rintro ⟨pass, stopped⟩ result
  cases stopped with
  | true => exact result.elim
  | false => exact result

theorem setGamepadAxes_advances (value : GamepadAxis → F) (axes : List GamepadAxis)
    (mapper : Mapper F) (log : Log F) :
    Advances false ⟨mapper, log⟩ ⟨(Mapper.setGamepadAxes value axes mapper).1,
      log ++ (Mapper.setGamepadAxes value axes mapper).2⟩ := by
  induction axes generalizing mapper log with
  | nil => exact ⟨[], rfl, .refl⟩
  | cons axis axes inductionHypothesis =>
    have rest := inductionHypothesis (mapper.setGamepadAxis axis (value axis)).1
      (log ++ (mapper.setGamepadAxis axis (value axis)).2)
    rw [List.append_assoc] at rest
    exact Advances.trans (.move rfl (.axis axis (value axis))) rest

theorem setGamepadAxes_aside {value : GamepadAxis → F} {axes : List GamepadAxis}
    {mapper next : Mapper F} {set : Log F} (log : Log F)
    (sets : Mapper.setGamepadAxes value axes mapper = (next, set)) :
    Aside ⟨mapper, log⟩ ⟨next, log ++ set⟩ := by
  have advances := setGamepadAxes_advances value axes mapper log
  have frame := setGamepadAxes_eq value axes mapper
  have notes := notes_setGamepadAxes value axes mapper
  have toggles := toggles_setGamepadAxes value axes mapper
  rw [sets] at advances frame notes toggles
  obtain ⟨gamepadAxes, rfl⟩ : ∃ axes, next = { mapper with gamepadAxes := axes } := ⟨_, frame⟩
  refine ⟨advances, rfl, ?_, ?_⟩
  · rw [notes_append, notes, List.append_nil]
  · rw [toggles_append, toggles, Bool.or_false]

theorem processAxes_aside {mapper : Mapper F} (wf : mapper.Wf) (state : ControllerState F)
    (previous : Option (ControllerState F)) (log : Log F) :
    Returns (mapper.processAxes state previous) fun result =>
      Aside ⟨mapper, log⟩ ⟨result.1, log ++ result.2⟩ := by
  obtain ⟨mode, found⟩ := wf.mode_ok
  unfold Mapper.processAxes
  rw [found, ok_bind]
  refine (axes_done found wf state previous).bind ?_
  rintro ⟨pass, stopped⟩ done
  dsimp only
  generalize sets : Mapper.setGamepadAxes (clampAxis pass.gamepad) GamepadAxis.all pass.mapper = set
  obtain ⟨next, set⟩ := set
  refine .pure ?_
  have mapped : Aside ⟨mapper, log⟩ ⟨pass.mapper, log ++ pass.log⟩ := by
    have frame := done.frame
    refine ⟨.quiet rfl ?_ (by rw [frame]) (by rw [frame]) done.motion.silent, ?_, ?_, ?_⟩
    · exact ⟨by rw [frame], by rw [frame], by rw [frame], done.length⟩
    · rw [frame]
    · simp [done.motion.notes]
    · simp [done.motion.untoggled]
  rw [← List.append_assoc]
  exact mapped.trans (setGamepadAxes_aside (log ++ pass.log) sets)

/-! ## Whole frames -/

/-- The mapper at the beginning of a frame. -/
def Mapper.receive (mapper : Mapper F) (state : ControllerState F) : Mapper F :=
  { mapper with previous := some state }

omit [Scalar F] in
/-- The mapper before the routes of earlier frames end. -/
def Mapper.settle (mapper : Mapper F) (buttons : Buttons) : Mapper F :=
  { mapper with quarantined := mapper.quarantined.removeInactive buttons }

/-- The global bindings have been visited and have not cut the frame short. -/
abbrev AllGlobals (mapper : Mapper F) (state : ControllerState F) (globals : GlobalPass F) : Prop :=
  GlobalsDone (mapper.receive state) state.buttons mapper.previousButtons
    mapper.config.globalBindings.zipIdx globals

/-- With the keyboard hidden, the routes of earlier frames have ended. -/
abbrev RoutesEnded (state : ControllerState F) (globals : GlobalPass F) (released : Pass F) : Prop :=
  RoutesReleased (globals.mapper.settle state.buttons) state.buttons globals.reserved
    globals.captured 0 released

inductive FrameKind (mapper : Mapper F) (state : ControllerState F) (visible : Bool) :
    Pass F → Bool → Prop where
  | globalsCut {globals : GlobalPass F} :
      GlobalsCut (mapper.receive state) state.buttons mapper.previousButtons globals →
      FrameKind mapper state visible globals.toPass true
  | keyboard {globals : GlobalPass F} {osk final : Pass F} : visible = true →
      AllGlobals mapper state globals →
      OskDone globals.mapper state.buttons globals.reserved
        globals.mapper.config.oskBindings.entries osk →
      Aside ⟨osk.mapper, globals.log ++ osk.log⟩ final →
      FrameKind mapper state visible final false
  | startsCut {globals : GlobalPass F} {released started : Pass F} {mode : Mode F} :
      visible = false → AllGlobals mapper state globals → RoutesEnded state globals released →
      released.mapper.mode = .ok mode →
      StartsCut released.mapper state.buttons mapper.previousButtons
        (candidates mode state.buttons globals.reserved) started →
      FrameKind mapper state visible
        ⟨started.mapper, globals.log ++ (released.log ++ started.log)⟩ true
  | bindings {globals : GlobalPass F} {released started final : Pass F} {mode : Mode F} :
      visible = false → AllGlobals mapper state globals → RoutesEnded state globals released →
      released.mapper.mode = .ok mode →
      StartsDone released.mapper state.buttons mapper.previousButtons
        (candidates mode state.buttons globals.reserved) started →
      Aside ⟨started.mapper, globals.log ++ (released.log ++ started.log)⟩ final →
      FrameKind mapper state visible final false

theorem Advances.prepend {stopped : Bool} {before after : Mapper F} {log : Log F}
    (advances : Advances stopped ⟨before, []⟩ ⟨after, log⟩) (past : Log F) :
    Advances stopped ⟨before, past⟩ ⟨after, past ++ log⟩ := by
  obtain ⟨more, equal, steps⟩ := advances
  have same : log = more := equal
  subst same
  exact ⟨log, rfl, steps⟩

theorem receive_advances (mapper : Mapper F) (state : ControllerState F) :
    Advances false ⟨mapper, []⟩ ⟨mapper.receive state, []⟩ :=
  .quiet rfl ⟨rfl, rfl, rfl, rfl⟩ rfl rfl silent_nil

theorem settle_advances (mapper : Mapper F) (buttons : Buttons) (log : Log F) :
    Advances false ⟨mapper, log⟩ ⟨mapper.settle buttons, log⟩ :=
  .quiet (List.append_nil _).symm ⟨rfl, rfl, rfl, rfl⟩ rfl rfl silent_nil

theorem GlobalsCut.advances {start : Mapper F} {buttons previousButtons : Buttons}
    {result : GlobalPass F} (cut : GlobalsCut start buttons previousButtons result) :
    Advances true ⟨start, []⟩ result.toPass := by
  obtain ⟨done, binding, position, rest, pass, runtime, _, _, past, step⟩ := cut
  exact past.advances.trans step.advances

theorem StartsCut.advances {start : Mapper F} {buttons previousButtons : Buttons}
    {items : List Candidate} {result : Pass F}
    (cut : StartsCut start buttons previousButtons items result) :
    Advances true ⟨start, []⟩ result := by
  obtain ⟨done, candidate, rest, pass, _, past, step⟩ := cut
  exact past.advances.trans step.advances

theorem AllGlobals.advances {mapper : Mapper F} {state : ControllerState F} {globals : GlobalPass F}
    (all : AllGlobals mapper state globals) : Advances false ⟨mapper, []⟩ globals.toPass :=
  (receive_advances mapper state).trans (GlobalsDone.advances all)

theorem RoutesEnded.advances {state : ControllerState F} {globals : GlobalPass F} {released : Pass F}
    (ended : RoutesEnded state globals released) :
    Advances false globals.toPass ⟨released.mapper, globals.log ++ released.log⟩ :=
  (settle_advances globals.mapper state.buttons globals.log).trans
    (Advances.prepend (RoutesReleased.advances ended) globals.log)

/-- A frame moves, and changes the mode only where it is cut short. -/
theorem FrameKind.advances {mapper : Mapper F} {state : ControllerState F} {visible stopped : Bool}
    {pass : Pass F} (kind : FrameKind mapper state visible pass stopped) :
    Advances stopped ⟨mapper, []⟩ pass := by
  cases kind with
  | globalsCut cut => exact (receive_advances mapper state).trans cut.advances
  | @keyboard globals osk final _ all done aside =>
    exact (AllGlobals.advances all).trans ((done.advances.prepend globals.log).trans aside.advances)
  | @startsCut globals released started mode _ all ended _ cut =>
    have started := cut.advances.prepend (globals.log ++ released.log)
    rw [List.append_assoc] at started
    exact (AllGlobals.advances all).trans ((RoutesEnded.advances ended).trans started)
  | @bindings globals released started final mode _ all ended _ done aside =>
    have started := done.advances.prepend (globals.log ++ released.log)
    rw [List.append_assoc] at started
    exact (AllGlobals.advances all).trans
      ((RoutesEnded.advances ended).trans (started.trans aside.advances))

theorem processKeyboard_done {mapper : Mapper F} (wf : mapper.Wf) (state : ControllerState F)
    (previousButtons reserved : Buttons) (log : Log F) :
    Returns (mapper.processKeyboard state previousButtons reserved) fun result =>
      ∃ osk, OskDone mapper state.buttons reserved mapper.config.oskBindings.entries osk ∧
        Aside ⟨osk.mapper, log ++ osk.log⟩ ⟨result.1, log ++ result.2⟩ := by
  unfold Mapper.processKeyboard
  refine (oskBindings_done wf state.buttons reserved).bind ?_
  intro osk done
  generalize processed : osk.mapper.processTrackpadHaptics state previousButtons = result
  obtain ⟨next, haptics⟩ := result
  refine .pure ⟨osk, done, ?_⟩
  rw [← List.append_assoc]
  exact processTrackpadHaptics_aside (log ++ osk.log) processed

theorem processBindings_done {globals : GlobalPass F} (wf : globals.mapper.Wf)
    (state : ControllerState F) (previous : Option (ControllerState F)) (previousButtons : Buttons) :
    Returns (globals.mapper.processBindings state previous previousButtons globals.reserved
      globals.captured) fun result =>
        ∃ released mode started, RoutesEnded state globals released ∧
          released.mapper.mode = .ok mode ∧
          if result.2 then
            StartsCut released.mapper state.buttons previousButtons
                (candidates mode state.buttons globals.reserved) started ∧
              result.1 = ⟨started.mapper, released.log ++ started.log⟩
          else
            StartsDone released.mapper state.buttons previousButtons
                (candidates mode state.buttons globals.reserved) started ∧
              Aside ⟨started.mapper, globals.log ++ (released.log ++ started.log)⟩
                ⟨result.1.mapper, globals.log ++ result.1.log⟩ := by
  have settled : (globals.mapper.settle state.buttons).Wf :=
    (settle_advances globals.mapper state.buttons globals.log).wf wf
  unfold Mapper.processBindings
  refine (releaseRoutes_done settled state.buttons globals.reserved globals.captured).bind ?_
  intro released ended
  have releasedWf : released.mapper.Wf := ended.advances.wf settled
  refine (startRoutes_done releasedWf state.buttons previousButtons globals.reserved).bind ?_
  rintro ⟨started, interrupted⟩ ⟨mode, found, result⟩
  cases interrupted with
  | true => exact .pure ⟨released, mode, started, ended, found, result, rfl⟩
  | false =>
    have done : StartsDone released.mapper state.buttons previousButtons
      (candidates mode state.buttons globals.reserved) started := result
    have startedWf : started.mapper.Wf := done.advances.wf releasedWf
    refine (processAxes_aside startedWf state previous
      (globals.log ++ (released.log ++ started.log))).bind ?_
    rintro ⟨mapped, axes⟩ axesAside
    dsimp only
    generalize processed : mapped.processTrackpadHaptics state previousButtons = outcome
    obtain ⟨next, haptics⟩ := outcome
    have aside := axesAside.trans (processTrackpadHaptics_aside _ processed)
    refine .pure ⟨released, mode, started, ended, found, done, ?_⟩
    simpa only [List.append_assoc] using aside

theorem processFrame_kind {mapper : Mapper F} (wf : mapper.Wf) (state : ControllerState F)
    (visible : Bool) :
    Returns (mapper.processFrame state visible) fun result =>
      FrameKind mapper state visible result.1 result.2 := by
  have received : (mapper.receive state).Wf := (receive_advances mapper state).wf wf
  unfold Mapper.processFrame
  refine (globalBindings_done received state.buttons mapper.previousButtons).bind ?_
  rintro ⟨globals, interrupted⟩ result
  cases interrupted with
  | true => exact .pure (.globalsCut result)
  | false =>
    have all : AllGlobals mapper state globals := result
    have globalsWf : globals.mapper.Wf := (AllGlobals.advances all).wf wf
    cases visible with
    | true =>
      refine (processKeyboard_done globalsWf state mapper.previousButtons globals.reserved
        globals.log).bind ?_
      rintro ⟨next, log⟩ ⟨osk, done, aside⟩
      exact .pure (.keyboard rfl all done aside)
    | false =>
      refine (processBindings_done globalsWf state mapper.previous mapper.previousButtons).bind ?_
      rintro ⟨rest, interrupted⟩ ⟨released, mode, started, ended, found, outcome⟩
      cases interrupted with
      | true =>
        obtain ⟨cut, rfl⟩ := outcome
        exact .pure (.startsCut rfl all ended found cut)
      | false => exact .pure (.bindings rfl all ended found outcome.1 outcome.2)

end

end Scd.Daemon
