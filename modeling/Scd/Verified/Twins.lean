import Scd.Core.Rounded
import Scd.Foundation.Simulation
import Scd.Verified.AxisPass

/-! # Twins

Two mappers whose axis mappings stand in some likeness and that agree in everything else, but
for the sign of a zero that an axis is at.  Whatever is done to both, they stay twins, and what
they push is alike.
-/

namespace Scd.Daemon

open Scd.Core Scd.Foundation

section

variable {F : Type} [Scalar F]

/-- What may differ between the axis mappings of two mappers, with their flags, and between
    their logs. -/
structure Likeness (F : Type) [Scalar F] where
  flagged : List (AxisMapping F × Bool) → List (AxisMapping F × Bool) → Prop
  logs : Log F → Log F → Prop
  /-- The likeness does not depend on the flags, if the mappings are given theirs alike. -/
  reflag : ∀ {left right} (flag : AxisMapping F × Bool → Bool), flagged left right →
    flagged (left.map fun mapping => (mapping.1, flag mapping))
      (right.map fun mapping => (mapping.1, flag mapping))
  motions : ∀ {left right} (state : ControllerState F) (previous : Option (ControllerState F)),
    flagged left right → logs ((activeMappings left state).flatMap (motion state previous))
      ((activeMappings right state).flatMap (motion state previous))
  axes : ∀ {left right} (state : ControllerState F) (previous : Option (ControllerState F)),
    flagged left right → clampAxis (contributions (activeMappings left state) state previous) =
      clampAxis (contributions (activeMappings right state) state previous)
  refl : ∀ log, logs log log
  append : ∀ {early early' late late'}, logs early early' → logs late late' →
    logs (early ++ late) (early' ++ late')

variable (like : Likeness F)

/-! ## Twin configurations -/

structure TwinMode (mode twin : Mode F) : Prop where
  rest : twin = { mode with axes := twin.axes }
  axes : like.flagged (mode.axes.map fun mapping => (mapping, false))
    (twin.axes.map fun mapping => (mapping, false))

structure TwinConfig (config twin : Config F) : Prop where
  rest : twin = { config with modes := twin.modes }
  modes : List.Forall₂ (TwinMode like) config.modes twin.modes

/-- Twins, but for the flags of the axis mappings. -/
structure TwinState (mapper twin : Mapper F) : Prop where
  config : TwinConfig like mapper.config twin.config
  activeMode : mapper.activeMode = twin.activeMode
  global : mapper.global = twin.global
  routes : mapper.routes = twin.routes
  quarantined : mapper.quarantined = twin.quarantined
  oskActive : mapper.oskActive = twin.oskActive
  held : mapper.held = twin.held
  trackpadHaptics : mapper.trackpadHaptics = twin.trackpadHaptics
  previous : mapper.previous = twin.previous
  /-- Two zeros can differ in their sign. -/
  axes : ∀ axis value, (mapper.gamepadAxes axis == value) = (twin.gamepadAxes axis == value)

/-- The flags of the axis mappings are alike. -/
def TwinFlags (mapper twin : Mapper F) : Prop :=
  ∀ mode mode', mapper.mode = .ok mode → twin.mode = .ok mode' →
    mapper.axisActive.length = mode.axes.length ∧ twin.axisActive.length = mode'.axes.length ∧
      like.flagged (mode.axes.zip mapper.axisActive) (mode'.axes.zip twin.axisActive)

structure Twin (mapper twin : Mapper F) : Prop extends TwinState like mapper twin where
  flags : TwinFlags like mapper twin

structure TwinPass (pass twin : Pass F) : Prop where
  mapper : Twin like pass.mapper twin.mapper
  log : like.logs pass.log twin.log

/-- What two operations return. -/
structure TwinResult (result twin : Mapper F × Log F) : Prop where
  mapper : Twin like result.1 twin.1
  log : like.logs result.2 twin.2

variable {like}

/-- Both logs go on with the same entries. -/
theorem Likeness.more {early early' : Log F} (logs : like.logs early early') (late : Log F) :
    like.logs (early ++ late) (early' ++ late) := like.append logs (like.refl late)

theorem index_alike {α : Type} {related : α → α → Prop} {left right : List α}
    (listed : List.Forall₂ related left right) (position : Nat) :
    Alike related (index left position) (index right position) := by
  induction listed generalizing position with
  | nil => exact .error Panic.indexOutOfBounds
  | cons first _ inductionHypothesis =>
    cases position with
    | zero => exact .ok first
    | succ position => exact inductionHypothesis position

theorem TwinConfig.mode {config twin : Config F} (alike : TwinConfig like config twin) (mode : ModeId) :
    Alike (TwinMode like) (config.mode mode) (twin.mode mode) :=
  index_alike alike.modes mode.index

theorem TwinConfig.modeName {config twin : Config F} (alike : TwinConfig like config twin)
    (mode : ModeId) : config.modeName mode = twin.modeName mode := by
  rw [alike.rest]
  rfl

theorem TwinConfig.nextMode {config twin : Config F} (alike : TwinConfig like config twin)
    (mode : ModeId) : config.nextMode mode = twin.nextMode mode := by
  rw [Config.nextMode, Config.nextMode, alike.modes.length_eq]

variable {mapper twin : Mapper F}

theorem TwinState.mode (alike : TwinState like mapper twin) :
    Alike (TwinMode like) mapper.mode twin.mode := by
  rw [Mapper.mode, Mapper.mode, ← alike.activeMode]
  exact alike.config.mode mapper.activeMode

theorem TwinState.modeChanged (alike : TwinState like mapper twin) :
    mapper.modeChanged = twin.modeChanged := by
  have haptic : mapper.config.modeSwitchHaptic = twin.config.modeSwitchHaptic := by
    rw [alike.config.rest]
  rw [Mapper.modeChanged, Mapper.modeChanged, ← alike.activeMode, alike.config.modeName, haptic]

/-! ## Releasing outputs and switching modes -/

theorem setGamepadAxes_twin (value : GamepadAxis → F) (set : List GamepadAxis)
    (alike : ∀ axis value, (mapper.gamepadAxes axis == value) = (twin.gamepadAxes axis == value)) :
    (Mapper.setGamepadAxes value set mapper).2 = (Mapper.setGamepadAxes value set twin).2 ∧
      ∀ axis other, ((Mapper.setGamepadAxes value set mapper).1.gamepadAxes axis == other) =
        ((Mapper.setGamepadAxes value set twin).1.gamepadAxes axis == other) := by
  induction set generalizing mapper twin with
  | nil => exact ⟨rfl, alike⟩
  | cons first set inductionHypothesis =>
    have one : (mapper.setGamepadAxis first (value first)).2 =
        (twin.setGamepadAxis first (value first)).2 ∧
          ∀ axis other, ((mapper.setGamepadAxis first (value first)).1.gamepadAxes axis == other) =
            ((twin.setGamepadAxis first (value first)).1.gamepadAxes axis == other) := by
      unfold Mapper.setGamepadAxis
      rw [← alike first]
      split
      · exact ⟨rfl, alike⟩
      · refine ⟨rfl, fun axis other => ?_⟩
        by_cases same : axis = first
        · subst same
          simp
        · simp only [Function.update_of_ne same]
          exact alike axis other
    obtain ⟨log, axes⟩ := inductionHypothesis one.2
    simp only [Mapper.setGamepadAxes]
    exact ⟨by rw [one.1, log], axes⟩

/-- Setting axes to the same values. -/
theorem TwinState.setAxes (value : GamepadAxis → F) (set : List GamepadAxis)
    (alike : TwinState like mapper twin) :
    TwinState like (Mapper.setGamepadAxes value set mapper).1
      (Mapper.setGamepadAxes value set twin).1 := by
  have axes := (setGamepadAxes_twin value set alike.axes).2
  rw [setGamepadAxes_eq value set mapper, setGamepadAxes_eq value set twin]
  exact { alike with axes := axes }

/-- What `release_outputs` leaves, without the flags. -/
theorem TwinState.releaseOutputs (alike : TwinState like mapper twin) :
    ∃ freed freed' log, mapper.releaseOutputs = (freed, log) ∧ twin.releaseOutputs = (freed', log) ∧
      TwinState like freed freed' := by
  have cleared : TwinState like
      { mapper with
        routes := [], quarantined := {}, oskActive := {}, held := .empty
        axisActive := List.replicate mapper.axisActive.length false }
      { twin with
        routes := [], quarantined := {}, oskActive := {}, held := .empty
        axisActive := List.replicate twin.axisActive.length false } :=
    { alike with routes := rfl, quarantined := rfl, oskActive := rfl, held := rfl }
  have log : mapper.releaseOutputs.2 = twin.releaseOutputs.2 := by
    rw [Mapper.releaseOutputs, Mapper.releaseOutputs, ← alike.held]
    dsimp only
    rw [(setGamepadAxes_twin _ _ cleared.axes).1]
  refine ⟨mapper.releaseOutputs.1, twin.releaseOutputs.1, mapper.releaseOutputs.2, rfl, ?_, ?_⟩
  · rw [log]
  · exact cleared.setAxes (fun _ => 0.0) GamepadAxis.all

omit [Scalar F] in
theorem zip_replicate (axes : List (AxisMapping F)) :
    axes.zip (List.replicate axes.length false) = axes.map fun mapping => (mapping, false) := by
  induction axes with
  | nil => rfl
  | cons mapping axes inductionHypothesis =>
    rw [List.length_cons, List.replicate_succ, List.zip_cons_cons, List.map_cons, inductionHypothesis]

omit [Scalar F] in
theorem zip_replicate_false {flags : List Bool} {axes : List (AxisMapping F)}
    (fits : flags.length = axes.length) :
    axes.zip (List.replicate flags.length false) =
      (axes.zip flags).map fun mapping => (mapping.1, false) := by
  have unzipped : axes = (axes.zip flags).map Prod.fst := (List.map_fst_zip fits.ge).symm
  rw [fits, zip_replicate]
  conv_lhs => rw [unzipped]
  rw [List.map_map]
  rfl

theorem Twin.suspend (alike : Twin like mapper twin) :
    TwinResult like mapper.suspend twin.suspend := by
  obtain ⟨freed, freed', log, first, second, released⟩ := alike.toTwinState.releaseOutputs
  have frame := releaseOutputs_eq mapper
  have frame' := releaseOutputs_eq twin
  rw [first] at frame
  rw [second] at frame'
  rw [Mapper.suspend, Mapper.suspend, first, second]
  refine ⟨⟨released, ?_⟩, like.refl log⟩
  intro mode mode' found found'
  dsimp only at frame frame' found found' ⊢
  rw [frame] at found ⊢
  rw [frame'] at found' ⊢
  obtain ⟨fits, fits', flags⟩ := alike.flags mode mode' found found'
  dsimp only
  rw [zip_replicate_false fits, zip_replicate_false fits', List.length_replicate,
    List.length_replicate]
  exact ⟨fits, fits', like.reflag _ flags⟩

/-- `reset_runtime` makes the flags alike. -/
theorem TwinState.resetRuntime (alike : TwinState like mapper twin) :
    Alike (Twin like) mapper.resetRuntime twin.resetRuntime := by
  refine alike.mode.bind_ok fun mode mode' found found' modes => .pure ?_
  refine ⟨{ alike with global := ?_, trackpadHaptics := rfl }, ?_⟩
  · dsimp only
    rw [alike.config.rest]
  · intro other other' again again'
    cases found.symm.trans again
    cases found'.symm.trans again'
    dsimp only
    rw [zip_replicate, zip_replicate, List.length_replicate, List.length_replicate]
    exact ⟨rfl, rfl, modes.axes⟩

theorem Twin.switchMode (alike : Twin like mapper twin) (mode : ModeId) :
    Alike (TwinResult like) (mapper.switchMode mode) (twin.switchMode mode) := by
  unfold Mapper.switchMode
  rw [← alike.activeMode]
  split
  · exact .pure ⟨alike, like.refl _⟩
  · obtain ⟨freed, freed', log, first, second, released⟩ := alike.toTwinState.releaseOutputs
    rw [first, second]
    have entered : TwinState like { freed with activeMode := mode }
        { freed' with activeMode := mode } := { released with activeMode := rfl }
    refine entered.resetRuntime.bind fun next next' reset => ?_
    rw [← reset.toTwinState.modeChanged]
    exact .same _ fun changed => .pure ⟨reset, like.refl _⟩

/-- New mappers of twin configurations. -/
theorem TwinConfig.new {config config' : Config F} (configs : TwinConfig like config config') :
    Alike (Twin like) (Mapper.new config) (Mapper.new config') := by
  have defaultMode : config'.defaultMode = config.defaultMode := by rw [configs.rest]
  have globals : config'.globalBindings = config.globalBindings := by rw [configs.rest]
  unfold Mapper.new
  rw [defaultMode, globals]
  refine (configs.mode _).bind_ok fun mode mode' found found' modes => .pure ⟨⟨configs, rfl, rfl, rfl,
    rfl, rfl, rfl, rfl, rfl, fun _ _ => rfl⟩, ?_⟩
  intro other other' again again'
  cases found.symm.trans again
  cases found'.symm.trans again'
  dsimp only
  rw [zip_replicate, zip_replicate, List.length_replicate, List.length_replicate]
  exact ⟨rfl, rfl, modes.axes⟩

/-! ## Holding outputs -/

structure TwinApplied (like : Likeness F) (applied twin : Mapper.Applied F) : Prop where
  mapper : Twin like applied.mapper twin.mapper
  log : like.logs applied.log twin.log
  interrupted : applied.interrupted = twin.interrupted
  held : applied.held = twin.held

theorem Twin.applyAction (alike : Twin like mapper twin) (owner : Owner) (action : Action)
    (active : Bool) :
    Alike (TwinApplied like) (mapper.applyAction owner action active)
      (twin.applyAction owner action active) := by
  unfold Mapper.applyAction
  cases HeldOutput.fromAction action with
  | some output =>
    dsimp only
    rw [← alike.held]
    exact .same _ fun result => .pure ⟨{ alike with held := rfl }, like.refl _, rfl, rfl⟩
  | none =>
    rw [← alike.activeMode, alike.config.nextMode]
    have entered : ∀ mode : ModeId, Alike (TwinApplied like)
        (do
          if mode = mapper.activeMode then return ⟨mapper, [], false, none⟩
          let switched ← mapper.switchMode mode
          return (⟨switched.1, switched.2, true, none⟩ : Mapper.Applied F) :
            Checked (Mapper.Applied F))
        (do
          if mode = mapper.activeMode then return ⟨twin, [], false, none⟩
          let switched ← twin.switchMode mode
          return (⟨switched.1, switched.2, true, none⟩ : Mapper.Applied F) :
            Checked (Mapper.Applied F)) := by
      intro mode
      split
      · exact .pure ⟨alike, like.refl _, rfl, rfl⟩
      · refine (alike.switchMode mode).bind fun result result' switched => ?_
        exact .pure ⟨switched.mapper, switched.log, rfl, rfl⟩
    dsimp only
    split
    · exact .pure ⟨alike, like.refl _, rfl, rfl⟩
    · cases action with
      | modeSet mode => exact entered mode
      | modeNext => exact .same _ entered
      | key code => exact .error _
      | mouse button => exact .error _
      | gamepad button => exact .error _

/-! ## Bindings -/

structure TwinGlobalPass (like : Likeness F) (pass twin : GlobalPass F) : Prop
    extends TwinPass like pass.toPass twin.toPass where
  reserved : pass.reserved = twin.reserved
  captured : pass.captured = twin.captured

theorem globalBinding_twin {pass twin : GlobalPass F} (alike : TwinGlobalPass like pass twin)
    (buttons previousButtons : Buttons) (item : GlobalBinding × Nat) :
    Alike (Stepped (TwinGlobalPass like)) (Mapper.globalBinding buttons previousButtons pass item)
      (Mapper.globalBinding buttons previousButtons twin item) := by
  obtain ⟨binding, position⟩ := item
  unfold Mapper.globalBinding
  dsimp only
  rw [← alike.mapper.global, ← alike.reserved, ← alike.captured]
  refine .same _ fun runtime => ?_
  have set : Twin like
      { pass.mapper with
        global := pass.mapper.global.set position (binding.next runtime buttons previousButtons) }
      { twin.mapper with
        global := pass.mapper.global.set position (binding.next runtime buttons previousButtons) } :=
    { alike.mapper with global := rfl }
  split
  · cases binding.action with
    | action action =>
      refine (set.applyAction (.global position) action _).bind fun applied applied' actions => ?_
      exact .pure ⟨⟨⟨actions.mapper, like.append (like.more alike.log _) actions.log⟩, rfl, rfl⟩,
        actions.interrupted⟩
    | keyboardToggle =>
      exact .pure ⟨⟨⟨set, like.more (like.more alike.log _) _⟩, rfl, rfl⟩, rfl⟩
  · exact .pure ⟨⟨⟨set, alike.log⟩, rfl, rfl⟩, rfl⟩

theorem Twin.globalBindings (alike : Twin like mapper twin) (buttons previousButtons : Buttons) :
    Alike (Stepped (TwinGlobalPass like)) (mapper.globalBindings buttons previousButtons)
      (twin.globalBindings buttons previousButtons) := by
  have bindings : mapper.config.globalBindings = twin.config.globalBindings := by
    rw [alike.config.rest]
  unfold Mapper.globalBindings
  rw [← bindings]
  exact .loop_same (fun _ _ item passes => globalBinding_twin passes buttons previousButtons item) _
    ⟨⟨alike, like.refl []⟩, rfl, rfl⟩

theorem oskBinding_twin {pass twin : Pass F} (alike : TwinPass like pass twin)
    (buttons reserved : Buttons) (item : Button × KeyCode) :
    Alike (Stepped (TwinPass like)) (Mapper.oskBinding buttons reserved pass item)
      (Mapper.oskBinding buttons reserved twin item) := by
  unfold Mapper.oskBinding
  dsimp only
  rw [← alike.mapper.oskActive, ← alike.mapper.held]
  split
  · exact .pure ⟨alike, rfl⟩
  · refine .same _ fun result => .pure ⟨⟨?_, like.more alike.log _⟩, rfl⟩
    exact { alike.mapper with oskActive := rfl, held := rfl }

theorem Twin.oskBindings (alike : Twin like mapper twin) (buttons reserved : Buttons) :
    Alike (TwinPass like) (mapper.oskBindings buttons reserved)
      (twin.oskBindings buttons reserved) := by
  have bindings : mapper.config.oskBindings = twin.config.oskBindings := by rw [alike.config.rest]
  unfold Mapper.oskBindings
  rw [← bindings]
  have started : TwinPass like ⟨mapper, []⟩ ⟨twin, []⟩ := ⟨alike, like.refl []⟩
  refine (Alike.loop_same (fun _ _ item passes => oskBinding_twin passes buttons reserved item) _
    started).bind fun result result' looped => ?_
  exact .pure looped.1

theorem releaseRoute_twin {pass twin : Pass F} (alike : TwinPass like pass twin)
    (buttons reserved captured : Buttons) (position : Nat) :
    Alike (Stepped (TwinPass like)) (Mapper.releaseRoute buttons reserved captured pass position)
      (Mapper.releaseRoute buttons reserved captured twin position) := by
  unfold Mapper.releaseRoute
  dsimp only
  rw [← alike.mapper.routes, ← alike.mapper.quarantined, ← alike.mapper.held]
  refine .same _ fun route => ?_
  split
  · exact .pure ⟨alike, rfl⟩
  · cases route.held with
    | none =>
      refine .pure ⟨⟨?_, alike.log⟩, rfl⟩
      exact { alike.mapper with routes := rfl, quarantined := rfl, held := rfl }
    | some output =>
      refine .same _ fun result => .pure ⟨⟨?_, like.more alike.log _⟩, rfl⟩
      exact { alike.mapper with routes := rfl, quarantined := rfl, held := rfl }

theorem Twin.releaseRoutes (alike : Twin like mapper twin) (buttons reserved captured : Buttons) :
    Alike (TwinPass like) (mapper.releaseRoutes buttons reserved captured)
      (twin.releaseRoutes buttons reserved captured) := by
  unfold Mapper.releaseRoutes
  rw [← alike.routes]
  have started : TwinPass like ⟨mapper, []⟩ ⟨twin, []⟩ := ⟨alike, like.refl []⟩
  refine (Alike.loop_same (fun _ _ position passes =>
    releaseRoute_twin passes buttons reserved captured position) _ started).bind
      fun result result' looped => ?_
  exact .pure looped.1

theorem routeBinding_twin {pass twin : Pass F} (alike : TwinPass like pass twin)
    (hold : Option Button) (buttons previousButtons reserved : Buttons) (binding : Binding) :
    Alike (Stepped (TwinPass like))
      (Mapper.routeBinding hold buttons previousButtons reserved pass binding)
      (Mapper.routeBinding hold buttons previousButtons reserved twin binding) := by
  unfold Mapper.routeBinding
  dsimp only
  rw [← alike.mapper.routes, ← alike.mapper.quarantined]
  split
  · exact .pure ⟨alike, rfl⟩
  · refine (alike.mapper.applyAction _ _ _).bind fun applied applied' actions => ?_
    have log := like.append alike.log (like.append (like.refl [.note (.start binding hold)])
      actions.log)
    rw [← actions.interrupted, ← actions.held, ← actions.mapper.routes]
    split
    · exact .pure ⟨⟨actions.mapper, log⟩, rfl⟩
    · exact .pure ⟨⟨{ actions.mapper with routes := rfl }, log⟩, rfl⟩

theorem Twin.startRoutes (alike : Twin like mapper twin)
    (buttons previousButtons reserved : Buttons) :
    Alike (Stepped (TwinPass like)) (mapper.startRoutes buttons previousButtons reserved)
      (twin.startRoutes buttons previousButtons reserved) := by
  rw [startRoutes_eq, startRoutes_eq]
  refine alike.toTwinState.mode.bind fun mode mode' modes => ?_
  -- the bindings are those of the other mode
  have same : candidates mode' buttons reserved = candidates mode buttons reserved := by
    rw [modes.rest]
    rfl
  have started : TwinPass like ⟨mapper, []⟩ ⟨twin, []⟩ := ⟨alike, like.refl []⟩
  rw [same]
  exact .loop_same (fun _ _ candidate passes => routeBinding_twin passes candidate.hold buttons
    previousButtons candidate.unavailable candidate.binding) _ started

/-! ## Axes and pads -/

omit [Scalar F] in
theorem zip_map_flag (flag : AxisMapping F × Bool → Bool) {flags : List Bool}
    {axes : List (AxisMapping F)} (fits : flags.length = axes.length) :
    axes.zip ((axes.zip flags).map flag) =
      (axes.zip flags).map fun mapping => (mapping.1, flag mapping) := by
  induction axes generalizing flags with
  | nil => rfl
  | cons mapping axes inductionHypothesis =>
    obtain ⟨first, flags, rfl⟩ := List.exists_cons_of_length_eq_add_one fits
    rw [List.zip_cons_cons, List.map_cons, List.map_cons, List.zip_cons_cons,
      inductionHypothesis (by simpa using fits)]

theorem Twin.flagAxes (alike : Twin like mapper twin) (state : ControllerState F) {mode mode' : Mode F}
    (found : mapper.mode = .ok mode) (found' : twin.mode = .ok mode') :
    Twin like (mapper.flagAxes (nextFlags (mode.axes.zip mapper.axisActive) state))
      (twin.flagAxes (nextFlags (mode'.axes.zip twin.axisActive) state)) := by
  obtain ⟨fits, fits', flags⟩ := alike.flags mode mode' found found'
  refine ⟨{ alike.toTwinState with config := alike.config }, ?_⟩
  intro other other' again again'
  cases found.symm.trans again
  cases found'.symm.trans again'
  refine ⟨?_, ?_, ?_⟩
  · simp [Mapper.flagAxes, nextFlags, fits]
  · simp [Mapper.flagAxes, nextFlags, fits']
  · simp only [Mapper.flagAxes, nextFlags]
    rw [zip_map_flag _ fits, zip_map_flag _ fits']
    exact like.reflag _ flags

theorem Twin.processAxes (alike : Twin like mapper twin) (state : ControllerState F)
    (previous : Option (ControllerState F)) :
    Alike (TwinResult like) (mapper.processAxes state previous) (twin.processAxes state previous) := by
  unfold Mapper.processAxes
  refine alike.toTwinState.mode.bind_ok fun mode mode' found found' _ => ?_
  obtain ⟨fits, fits', flags⟩ := alike.flags mode mode' found found'
  have whole := processAxes_eq state previous mapper found fits
  have whole' := processAxes_eq state previous twin found' fits'
  simp only [Mapper.processAxes, found, found', ok_bind] at whole whole'
  rw [whole, whole', ← like.axes state previous flags]
  have flagged := alike.flagAxes state found found'
  refine .ok ⟨⟨flagged.toTwinState.setAxes _ _, ?_⟩, ?_⟩
  · dsimp only
    rw [setGamepadAxes_eq _ _ (mapper.flagAxes _), setGamepadAxes_eq _ _ (twin.flagAxes _)]
    exact flagged.flags
  · dsimp only
    rw [← (setGamepadAxes_twin _ _ flagged.axes).1]
    exact like.more (like.motions state previous flags) _

theorem Twin.padHaptic (alike : Twin like mapper twin) (state : ControllerState F)
    (previousButtons : Buttons) (pad : Trackpad) (padState : TouchpadState F) (click : Button) :
    Twin like (mapper.padHaptic state previousButtons pad padState click).1
        (twin.padHaptic state previousButtons pad padState click).1 ∧
      (mapper.padHaptic state previousButtons pad padState click).2 =
        (twin.padHaptic state previousButtons pad padState click).2 := by
  unfold Mapper.padHaptic
  dsimp only
  rw [← alike.trackpadHaptics]
  split
  · exact ⟨alike, rfl⟩
  · exact ⟨{ alike with trackpadHaptics := rfl }, rfl⟩

theorem Twin.processTrackpadHaptics (alike : Twin like mapper twin) (state : ControllerState F)
    (previousButtons : Buttons) :
    ∃ next next' log, mapper.processTrackpadHaptics state previousButtons = (next, log) ∧
      twin.processTrackpadHaptics state previousButtons = (next', log) ∧ Twin like next next' := by
  obtain ⟨left, leftLog⟩ := alike.padHaptic state previousButtons .left state.leftPad .leftPadClick
  obtain ⟨right, rightLog⟩ :=
    left.padHaptic state previousButtons .right state.rightPad .rightPadClick
  refine ⟨_, _, _, rfl, Prod.ext rfl ?_, right⟩
  exact (congrArg₂ (· ++ ·) leftLog rightLog).symm

/-! ## Whole frames -/

theorem Twin.processKeyboard (alike : Twin like mapper twin) (state : ControllerState F)
    (previousButtons reserved : Buttons) :
    Alike (TwinResult like) (mapper.processKeyboard state previousButtons reserved)
      (twin.processKeyboard state previousButtons reserved) := by
  unfold Mapper.processKeyboard
  refine (alike.oskBindings state.buttons reserved).bind fun pass pass' passes => ?_
  obtain ⟨next, next', log, clicked, clicked', alike⟩ :=
    passes.mapper.processTrackpadHaptics state previousButtons
  rw [clicked, clicked']
  exact .pure ⟨alike, like.more passes.log log⟩

theorem Twin.processBindings (alike : Twin like mapper twin) (state : ControllerState F)
    (previous : Option (ControllerState F)) (previousButtons reserved captured : Buttons) :
    Alike (Stepped (TwinPass like))
      (mapper.processBindings state previous previousButtons reserved captured)
      (twin.processBindings state previous previousButtons reserved captured) := by
  unfold Mapper.processBindings
  dsimp only
  rw [← alike.quarantined]
  have settled : Twin like
      { mapper with quarantined := mapper.quarantined.removeInactive state.buttons }
      { twin with quarantined := mapper.quarantined.removeInactive state.buttons } :=
    { alike with quarantined := rfl }
  refine (settled.releaseRoutes state.buttons reserved captured).bind fun released released' ends => ?_
  refine (ends.mapper.startRoutes state.buttons previousButtons reserved).bind
    fun started started' starts => ?_
  obtain ⟨passes, interrupted⟩ := starts
  rw [← interrupted]
  have log := like.append ends.log passes.log
  split
  · exact .pure ⟨⟨passes.mapper, log⟩, rfl⟩
  · refine (passes.mapper.processAxes state previous).bind fun mapped mapped' maps => ?_
    obtain ⟨next, next', haptics, clicked, clicked', alike⟩ :=
      maps.mapper.processTrackpadHaptics state previousButtons
    rw [clicked, clicked']
    exact .pure ⟨⟨alike, like.more (like.append log maps.log) haptics⟩, rfl⟩

theorem Twin.processFrame (alike : Twin like mapper twin) (state : ControllerState F)
    (visible : Bool) :
    Alike (Stepped (TwinPass like)) (mapper.processFrame state visible)
      (twin.processFrame state visible) := by
  unfold Mapper.processFrame Mapper.previousButtons
  dsimp only
  rw [← alike.previous]
  have received : Twin like { mapper with previous := some state }
      { twin with previous := some state } := { alike with previous := rfl }
  refine (received.globalBindings state.buttons _).bind fun globals globals' bound => ?_
  obtain ⟨passes, interrupted⟩ := bound
  rw [← interrupted, ← passes.reserved, ← passes.captured]
  split
  · exact .pure ⟨passes.toTwinPass, rfl⟩
  split
  · refine (passes.mapper.processKeyboard state _ _).bind fun result result' rest => ?_
    exact .pure ⟨⟨rest.mapper, like.append passes.log rest.log⟩, rfl⟩
  · refine (passes.mapper.processBindings state _ _ _ _).bind fun result result' rest => ?_
    exact .pure ⟨⟨rest.1.mapper, like.append passes.log rest.1.log⟩, rest.2⟩

theorem Twin.process (alike : Twin like mapper twin) (state : ControllerState F) (visible : Bool) :
    Alike (TwinResult like) (mapper.process state visible) (twin.process state visible) :=
  (alike.processFrame state visible).bind fun _ _ passes => .pure ⟨passes.1.mapper, passes.1.log⟩

/-! ## Operations -/

theorem Twin.reload (alike : Twin like mapper twin) {config config' : Config F}
    (configs : TwinConfig like config config') :
    Alike (TwinResult like) (mapper.reload config) (twin.reload config') := by
  have named : mapper.activeModeName = twin.activeModeName := by
    rw [Mapper.activeModeName, Mapper.activeModeName, ← alike.activeMode, alike.config.modeName]
  have mode : ∀ name, (config'.modeId name).getD config'.defaultMode =
      (config.modeId name).getD config.defaultMode := by
    intro name
    rw [configs.rest]
    rfl
  unfold Mapper.reload
  rw [← named]
  refine .same _ fun name => ?_
  obtain ⟨freed, freed', log, first, second, released⟩ := alike.toTwinState.releaseOutputs
  rw [mode, first, second]
  have entered : TwinState like
      { freed with activeMode := (config.modeId name).getD config.defaultMode, config := config }
      { freed' with activeMode := (config.modeId name).getD config.defaultMode, config := config' } :=
    { released with config := configs, activeMode := rfl }
  refine entered.resetRuntime.bind fun next next' reset => ?_
  rw [← reset.toTwinState.modeChanged]
  exact .same _ fun changed => .pure ⟨reset, like.refl _⟩

theorem Twin.releaseAll (alike : Twin like mapper twin) :
    Alike (TwinResult like) mapper.releaseAll twin.releaseAll := by
  obtain ⟨freed, freed', log, first, second, released⟩ := alike.toTwinState.releaseOutputs
  unfold Mapper.releaseAll
  rw [first, second]
  refine released.resetRuntime.bind fun next next' reset => ?_
  exact .pure ⟨{ reset with previous := rfl }, like.refl _⟩

variable [Platform F]

/-- Operations that differ only in the configurations they load. -/
inductive TwinOperation (like : Likeness F) : Operation F → Operation F → Prop where
  | process (state : ControllerState F) (keyboardVisible : Bool) :
      TwinOperation like (.process state keyboardVisible) (.process state keyboardVisible)
  | suspend : TwinOperation like .suspend .suspend
  | setMode (name : String) : TwinOperation like (.setMode name) (.setMode name)
  | nextMode : TwinOperation like .nextMode .nextMode
  | reload {config config' : Config F} : TwinConfig like config config' →
      TwinOperation like (.reload config) (.reload config')
  | releaseAll : TwinOperation like .releaseAll .releaseAll

theorem Twin.perform (alike : Twin like mapper twin) {operation operation' : Operation F}
    (operations : TwinOperation like operation operation') :
    Alike (TwinResult like) (mapper.perform operation) (twin.perform operation') := by
  cases operations with
  | process state visible => exact alike.process state visible
  | suspend => exact .ok alike.suspend
  | setMode name =>
    have known : twin.config.modeId name = mapper.config.modeId name := by
      rw [alike.config.rest]
      rfl
    simp only [Mapper.perform, Mapper.setMode, known]
    cases mapper.config.modeId name with
    | none => exact .pure ⟨alike, like.refl []⟩
    | some mode =>
      simp only [bind_assoc, pure_bind]
      exact (alike.switchMode mode).bind fun result result' switched => .pure switched
  | nextMode =>
    unfold Mapper.perform Mapper.nextMode
    rw [← alike.activeMode, alike.config.nextMode]
    exact .same _ alike.switchMode
  | reload configs => exact alike.reload configs
  | releaseAll => exact alike.releaseAll

theorem Twin.performAll (alike : Twin like mapper twin) {operations operations' : List (Operation F)}
    (performed : List.Forall₂ (TwinOperation like) operations operations') :
    Alike (fun result result' => Twin like result.1 result'.1 ∧
        List.Forall₂ like.logs result.2 result'.2)
      (mapper.performAll operations) (twin.performAll operations') := by
  induction performed generalizing mapper twin with
  | nil => exact .ok ⟨alike, .nil⟩
  | cons first _ inductionHypothesis =>
    refine (alike.perform first).bind fun result result' once => ?_
    refine (inductionHypothesis once.mapper).bind fun rest rest' later => ?_
    exact .pure ⟨later.1, .cons once.log later.2⟩

end

end Scd.Daemon
