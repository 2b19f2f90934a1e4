import Scd.Verified.Capture
import Scd.Verified.Resets
import Scd.Verified.Validation

/-! # The values of the gamepad axes

Over exact arithmetic the value that an axis was last given is the one that the frame alone
determines: what the active mappings give to it, added up and clamped.  Nothing is left of the
frames before it, and the order of the mappings does not matter.
-/

namespace Scd.Daemon

open Scd.Core Scd.Foundation ExactScalar

section

variable {F : Type} [Scalar F]

/-! ## Recomputing the axes -/

def triggerAxis : Core.Trigger → GamepadAxis
  | .left => .leftTrigger
  | .right => .rightTrigger

def GamepadAxis.isTrigger : GamepadAxis → Bool
  | .leftTrigger | .rightTrigger => true
  | .leftX | .leftY | .rightX | .rightY => false

/-- The part of a vector that a target gives to an axis. -/
def stickPart (target : VectorTarget) (axis : GamepadAxis) (moved : F × F) : F :=
  match target, axis with
  | .gamepadLeftStick, .leftX | .gamepadRightStick, .rightX => moved.1
  | .gamepadLeftStick, .leftY | .gamepadRightStick, .rightY => moved.2
  | _, _ => 0.0

/-- What a mapping of a vector gives to a stick, computed from the frame alone. -/
def stickShare (state : ControllerState F) (axis : GamepadAxis) (mapping : AxisMapping F) : F :=
  match source mapping state none with
  | .scalar _ _ => 0.0
  | .vector value sourceScale acceleration target options =>
    stickPart target axis (transform value sourceScale acceleration options state none)

/-- What a mapping of a trigger gives to it. -/
def triggerShare (state : ControllerState F) (axis : GamepadAxis) : AxisMapping F → Option F
  | .trigger source target options =>
    if triggerAxis target = axis then some (scaleAxis (triggerValue source state) options) else none
  | _ => none

/-- The mappings that are active after a frame. -/
def Mapper.activeAxes (mapper : Mapper F) : Checked (List (AxisMapping F)) := do
  let mode ← mapper.mode
  return ((mode.axes.zip mapper.axisActive).filter (·.2)).map (·.1)

variable [ExactScalar F]

/-- The value of an axis in a frame with these active mappings. -/
noncomputable def recomputed (state : ControllerState F) (active : List (AxisMapping F))
    (axis : GamepadAxis) : ℝ :=
  if axis.isTrigger then
    min (max (val ((active.filterMap (triggerShare state axis)).head?.getD 0.0)) 0) 1
  else min (max (active.map fun mapping => val (stickShare state axis mapping)).sum (-1)) 1

/-! ## Contributions -/

theorem transform_none (value : F × F) (sourceScale : F) (options : VectorOptions F)
    (state : ControllerState F) (previous : Option (ControllerState F)) :
    transform value sourceScale 0.0 options state previous =
      transform value sourceScale 0.0 options state none := by
  have still : ¬ (0.0 : F) > 0.0 := LawfulScalar.lt_irrefl 0.0
  unfold transform accelerationGain
  simp only [still, if_false]

theorem deliver_stick (target : VectorTarget) (moved : F × F) (gamepad : GamepadAxis → F)
    (axis : GamepadAxis) :
    val ((deliver target moved gamepad).1 axis) = val (gamepad axis) + val (stickPart target axis moved) := by
  cases target <;> cases axis <;> simp [deliver, addAxes, stickPart, Function.update]

theorem contribute_stick (mapping : AxisMapping F) (state : ControllerState F)
    (previous : Option (ControllerState F)) (gamepad : GamepadAxis → F) {axis : GamepadAxis}
    (stick : axis.isTrigger = false) :
    val ((contribute mapping state previous gamepad).1 axis) =
      val (gamepad axis) + val (stickShare state axis mapping) := by
  cases mapping with
  | trigger source target options =>
    have other : axis ≠ triggerAxis target := by
      cases target <;> cases axis <;> first | decide | cases stick
    have same : (contribute (.trigger source target options) state previous gamepad).1 =
        Function.update gamepad (triggerAxis target) (scaleAxis (triggerValue source state) options) := by
      cases target <;> rfl
    rw [same, Function.update_of_ne other]
    simp [stickShare, Daemon.source]
  | stick source target options =>
    refine (deliver_stick target _ gamepad axis).trans ?_
    rw [transform_none]
    rfl
  | padPosition pad target options =>
    refine (deliver_stick (stickTarget target) _ gamepad axis).trans ?_
    rw [transform_none]
    rfl
  | padMotion pad options acceleration =>
    -- the mouse moves, and no axis
    simp [contribute, stickShare, Daemon.source, deliver, stickPart]
  | circularScroll pad options =>
    simp [contribute, stickShare, Daemon.source, deliver, stickPart]
  | gyro components target options =>
    refine (deliver_stick target _ gamepad axis).trans ?_
    rw [transform_none]
    cases target with
    | gamepadLeftStick => rfl
    | gamepadRightStick => rfl
    | mouseMotion => rfl
    | scroll => rfl

omit [ExactScalar F] in
theorem deliver_trigger (target : VectorTarget) (moved : F × F) (gamepad : GamepadAxis → F)
    {axis : GamepadAxis} (trigger : axis.isTrigger = true) :
    (deliver target moved gamepad).1 axis = gamepad axis := by
  cases axis <;> cases trigger <;> cases target <;> simp [deliver, addAxes]

omit [ExactScalar F] in
theorem contribute_trigger (mapping : AxisMapping F) (state : ControllerState F)
    (previous : Option (ControllerState F)) (gamepad : GamepadAxis → F) {axis : GamepadAxis}
    (trigger : axis.isTrigger = true) :
    (contribute mapping state previous gamepad).1 axis =
      (triggerShare state axis mapping).getD (gamepad axis) := by
  cases mapping with
  | trigger source target options =>
    have same : (contribute (.trigger source target options) state previous gamepad).1 =
        Function.update gamepad (triggerAxis target) (scaleAxis (triggerValue source state) options) := by
      cases target <;> rfl
    rw [same, triggerShare]
    by_cases own : triggerAxis target = axis
    · rw [if_pos own, own, Function.update_self, Option.getD_some]
    · rw [if_neg own, Function.update_of_ne (Ne.symm own), Option.getD_none]
  | stick source target options => exact deliver_trigger target _ gamepad trigger
  | padPosition pad target options => exact deliver_trigger (stickTarget target) _ gamepad trigger
  | padMotion pad options acceleration => exact deliver_trigger .mouseMotion _ gamepad trigger
  | circularScroll pad options => exact deliver_trigger .scroll _ gamepad trigger
  | gyro components target options => exact deliver_trigger target _ gamepad trigger

/-- A stick is given the sum of the shares. -/
theorem addContributions_stick (active : List (AxisMapping F)) (state : ControllerState F)
    (previous : Option (ControllerState F)) (gamepad : GamepadAxis → F) {axis : GamepadAxis}
    (stick : axis.isTrigger = false) :
    val (addContributions gamepad active state previous axis) =
      val (gamepad axis) + (active.map fun mapping => val (stickShare state axis mapping)).sum := by
  induction active generalizing gamepad with
  | nil => simp [addContributions]
  | cons mapping active inductionHypothesis =>
    have rest := inductionHypothesis (contribute mapping state previous gamepad).1
    rw [contribute_stick mapping state previous gamepad stick] at rest
    rw [List.map_cons, List.sum_cons, ← add_assoc]
    exact rest

omit [ExactScalar F] in
/-- A trigger is given the last share. -/
theorem addContributions_trigger (active : List (AxisMapping F)) (state : ControllerState F)
    (previous : Option (ControllerState F)) (gamepad : GamepadAxis → F) {axis : GamepadAxis}
    (trigger : axis.isTrigger = true) :
    addContributions gamepad active state previous axis =
      (active.filterMap (triggerShare state axis)).getLast?.getD (gamepad axis) := by
  induction active generalizing gamepad with
  | nil => rfl
  | cons mapping active inductionHypothesis =>
    have rest := inductionHypothesis (contribute mapping state previous gamepad).1
    rw [contribute_trigger mapping state previous gamepad trigger] at rest
    refine Eq.trans rest ?_
    cases share : triggerShare state axis mapping with
    | none => rw [List.filterMap_cons_none share, Option.getD_none]
    | some value =>
      rw [List.filterMap_cons_some share, List.getLast?_cons, Option.getD_some, Option.getD_some]

/-! ## One mapping for each trigger -/

omit [ExactScalar F] in
theorem triggerShare_some {state : ControllerState F} {axis : GamepadAxis} {mapping : AxisMapping F}
    {value : F} (share : triggerShare state axis mapping = some value) :
    ∃ target, mapping.triggerTarget = some target ∧ triggerAxis target = axis := by
  cases mapping with
  | trigger source target options =>
    refine ⟨target, rfl, ?_⟩
    by_contra other
    rw [triggerShare, if_neg other] at share
    cases share
  | stick source target options => cases share
  | padPosition pad target options => cases share
  | padMotion pad options acceleration => cases share
  | circularScroll pad options => cases share
  | gyro components target options => cases share

omit [ExactScalar F] in
theorem triggerShares_one {axes : List (AxisMapping F)} (apart : axes.Pairwise AxisMapping.Apart)
    (state : ControllerState F) (axis : GamepadAxis) :
    (axes.filterMap (triggerShare state axis)).length ≤ 1 := by
  induction apart with
  | nil => exact Nat.zero_le 1
  | @cons mapping axes others _ inductionHypothesis =>
    cases share : triggerShare state axis mapping with
    | none =>
      rw [List.filterMap_cons_none share]
      exact inductionHypothesis
    | some value =>
      -- the others have another target
      have none : axes.filterMap (triggerShare state axis) = [] := by
        refine List.filterMap_eq_nil_iff.mpr fun other member => ?_
        cases otherShare : triggerShare state axis other with
        | none => rfl
        | some otherValue =>
          obtain ⟨target, own, ownAxis⟩ := triggerShare_some share
          obtain ⟨target', own', ownAxis'⟩ := triggerShare_some otherShare
          obtain rfl : target = target' := by
            cases target <;> cases target' <;> first | rfl | (rw [← ownAxis'] at ownAxis; cases ownAxis)
          exact absurd own' ((others other member).1 target own)
      rw [List.filterMap_cons_some share, none]
      exact Nat.le_refl 1

/-- Clamped, the contributions are the values computed from scratch. -/
theorem contributions_recomputed {active : List (AxisMapping F)}
    (apart : active.Pairwise AxisMapping.Apart) (state : ControllerState F)
    (previous : Option (ControllerState F)) (axis : GamepadAxis) :
    val (clampAxis (contributions active state previous) axis) = recomputed state active axis := by
  unfold recomputed contributions
  cases trigger : axis.isTrigger with
  | true =>
    have clamps : ∀ gamepad : GamepadAxis → F, clampAxis gamepad axis = clamp (gamepad axis) 0.0 1.0 := by
      intro gamepad
      cases axis <;> first | rfl | cases trigger
    have only := triggerShares_one apart state axis
    rw [clamps, addContributions_trigger active state previous _ trigger, val_clamp, val_zero, val_one,
      if_pos rfl]
    match active.filterMap (triggerShare state axis), only with
    | [], _ => rfl
    | [value], _ => rfl
  | false =>
    have clamps : ∀ gamepad : GamepadAxis → F,
        clampAxis gamepad axis = clamp (gamepad axis) (-1.0) 1.0 := by
      intro gamepad
      cases axis <;> first | rfl | cases trigger
    have sum := addContributions_stick active state previous (fun _ => 0.0) trigger
    rw [clamps, val_clamp, sum, val_neg, val_zero, val_one, zero_add, if_neg Bool.false_ne_true]

/-! ## Frames -/

omit [ExactScalar F] in
theorem activeMappings_sublist {axes : List (AxisMapping F)} {flags : List Bool}
    (fits : flags.length = axes.length) (state : ControllerState F) :
    (activeMappings (axes.zip flags) state).Sublist axes := by
  have all : (axes.zip flags).map Prod.fst = axes := List.map_fst_zip fits.ge
  have some := (List.filter_sublist (p := fun mapping : AxisMapping F × Bool =>
    isActive mapping.1 mapping.2 state) (l := axes.zip flags)).map Prod.fst
  rw [all] at some
  exact some

omit [ExactScalar F] in
/-- The mappings that a frame leaves active are those that were active in it. -/
theorem Completed.activeAxes {mapper : Mapper F} {state : ControllerState F} {pass : Pass F}
    {mode : Mode F} {early late : Log F} {before : Mapper F} (wf : mapper.Wf)
    (completed : Completed mapper state pass mode early late before) :
    pass.mapper.activeAxes = .ok (activeMappings (mode.axes.zip mapper.axisActive) state) := by
  have found : pass.mapper.mode = .ok mode := by
    rw [Mapper.mode, completed.config, completed.activeMode]
    exact completed.found
  have fits := wf.axisActive mode completed.found
  rw [Mapper.activeAxes, found, ok_bind, completed.flags, nextFlags, zip_map_flag _ fits]
  simp only [List.filter_map, List.map_map]
  rfl

/-- What a frame caches for an axis is the value computed from scratch. -/
theorem completed_axis {mapper : Mapper F} {state : ControllerState F} {pass : Pass F} (wf : mapper.Wf)
    (valid : mapper.config.Valid) (framed : mapper.processFrame state false = .ok (pass, false)) :
    ∃ active, pass.mapper.activeAxes = .ok active ∧ active.Pairwise AxisMapping.Apart ∧
      ∀ axis, val (pass.mapper.gamepadAxes axis) = recomputed state active axis := by
  obtain ⟨mode, early, late, before, completed⟩ := completed_frame wf framed
  have member : mode ∈ mapper.config.modes :=
    List.mem_of_getElem? (index_ok_iff.mp completed.found)
  have apart := (valid.modes mode member).targets.sublist
    (activeMappings_sublist (wf.axisActive mode completed.found) state)
  refine ⟨_, completed.activeAxes wf, apart, ?_⟩
  intro axis
  have every : axis ∈ GamepadAxis.all := by cases axis <;> decide
  have set := setGamepadAxes_value (clampAxis (contributions
    (activeMappings (mode.axes.zip mapper.axisActive) state) state mapper.previous))
    (fun axis => beq_iff.mpr rfl) (.inl every : axis ∈ GamepadAxis.all ∨
      (before.gamepadAxes axis == _) = true)
  rw [completed.gamepadAxes, beq_iff.mp set]
  exact contributions_recomputed apart state mapper.previous axis

/-! ## The order of the mappings -/

/-- The mapping is one of a trigger. -/
def isTriggerMapping {F : Type} (mapping : AxisMapping F) : Bool := mapping.triggerTarget.isSome

omit [ExactScalar F] in
theorem motions_axis (mappings : List (AxisMapping F)) (state : ControllerState F)
    (previous : Option (ControllerState F)) (axis : GamepadAxis) :
    (Log.outputs (mappings.flatMap (motion state previous))).filterMap (Output.axisValue? axis) = [] := by
  induction mappings with
  | nil => rfl
  | cons mapping mappings inductionHypothesis =>
    have one := (contribute_motion mapping state previous fun _ => 0.0).silent.stream.2.1 axis
    rw [List.flatMap_cons, outputs_append, List.filterMap_append, inductionHypothesis, List.append_nil]
    exact one

omit [ExactScalar F] in
/-- Only the mappings of triggers have shares of them. -/
theorem triggerShares_filter (mappings : List (AxisMapping F × Bool)) (state : ControllerState F)
    (axis : GamepadAxis) :
    (activeMappings mappings state).filterMap (triggerShare state axis) =
      (activeMappings (mappings.filter fun mapping => isTriggerMapping mapping.1) state).filterMap
        (triggerShare state axis) := by
  induction mappings with
  | nil => rfl
  | cons mapping mappings inductionHypothesis =>
    simp only [activeMappings] at inductionHypothesis ⊢
    cases own : isTriggerMapping mapping.1 with
    | true =>
      rw [List.filter_cons_of_pos (p := fun mapping : AxisMapping F × Bool => isTriggerMapping mapping.1)
        own]
      cases active : isActive mapping.1 mapping.2 state with
      | true => simp [active, inductionHypothesis, List.filterMap_cons]
      | false => simp [active, inductionHypothesis]
    | false =>
      have none : triggerShare state axis mapping.1 = none := by
        cases share : triggerShare state axis mapping.1 with
        | none => rfl
        | some value =>
          obtain ⟨target, given, _⟩ := triggerShare_some share
          rw [isTriggerMapping, given] at own
          cases own
      rw [List.filter_cons_of_neg (p := fun mapping : AxisMapping F × Bool => isTriggerMapping mapping.1)
        (by simp [own])]
      cases active : isActive mapping.1 mapping.2 state with
      | true => simp [active, none, inductionHypothesis]
      | false => simp [active, inductionHypothesis]

/-- The mappings of vectors may stand in another order. -/
def shuffled : Likeness F where
  flagged left right := left.Perm right ∧
    (left.filter fun mapping => isTriggerMapping mapping.1) =
      right.filter fun mapping => isTriggerMapping mapping.1
  logs left right := ∀ axis, left.outputs.filterMap (Output.axisValue? axis) =
    right.outputs.filterMap (Output.axisValue? axis)
  reflag := by
    intro left right flag ⟨perm, triggers⟩
    refine ⟨perm.map _, ?_⟩
    rw [List.filter_map, List.filter_map]
    exact congrArg (List.map _) triggers
  motions := by
    intro left right state previous _ axis
    rw [motions_axis, motions_axis]
  axes := by
    intro left right state previous ⟨perm, triggers⟩
    have active : (activeMappings left state).Perm (activeMappings right state) :=
      (perm.filter _).map _
    funext axis
    unfold contributions
    cases trigger : axis.isTrigger with
    | true =>
      have same : addContributions (fun _ => 0.0) (activeMappings left state) state previous axis =
          addContributions (fun _ => 0.0) (activeMappings right state) state previous axis := by
        rw [addContributions_trigger _ state previous _ trigger,
          addContributions_trigger _ state previous _ trigger, triggerShares_filter left,
          triggerShares_filter right, triggers]
      cases axis <;> first | exact congrArg (clamp · 0.0 1.0) same | cases trigger
    | false =>
      have same : addContributions (fun _ => 0.0) (activeMappings left state) state previous axis =
          addContributions (fun _ => 0.0) (activeMappings right state) state previous axis := by
        apply val_injective
        rw [addContributions_stick _ state previous _ trigger,
          addContributions_stick _ state previous _ trigger, (active.map _).sum_eq]
      cases axis <;> first | exact congrArg (clamp · (-1.0) 1.0) same | cases trigger
  refl := fun _ _ => rfl
  append := by
    intro early early' late late' first second axis
    rw [outputs_append, outputs_append, List.filterMap_append, List.filterMap_append, first axis,
      second axis]

/-! ## Configurations -/

variable [Platform F]

/-- The configuration of a mapper has passed the checks, whatever was done to it. -/
theorem perform_valid {mapper next : Mapper F} {operation : Operation F} {log : Log F}
    (wf : mapper.Wf) (accepted : ∀ config, operation = .reload config → config.Accepted)
    (performed : mapper.perform operation = .ok (next, log)) (valid : mapper.config.Valid) :
    next.config.Valid := by
  cases perform_performed performed with
  | frame processed =>
    obtain ⟨_, kind⟩ := process_kind wf processed
    rw [show next.config = mapper.config from kind.config]
    exact valid
  | suspend =>
    rw [Mapper.suspend, releaseOutputs_eq]
    exact valid
  | refused => exact valid
  | switch switched =>
    rw [(switchMode_kept switched).1]
    exact valid
  | reload reloaded =>
    obtain ⟨document, parses⟩ := accepted _ rfl
    rw [(cleared_reload reloaded).2.1]
    exact parsed_valid parses
  | releaseAll released =>
    rw [(cleared_releaseAll released).2.1]
    exact valid

theorem performAll_valid {mapper final : Mapper F} {operations : List (Operation F)}
    {logs : List (Log F)} (wf : mapper.Wf)
    (accepts : ∀ config, .reload config ∈ operations → config.Accepted)
    (performed : mapper.performAll operations = .ok (final, logs)) (valid : mapper.config.Valid) :
    final.config.Valid :=
  performAll_ok (fun _ mapper => mapper.config.Valid) wf accepts performed valid
    fun _ _ _ _ _ stateWf accepted once => perform_valid stateWf accepted once

/-! ## Whole runs -/

omit [Platform F] in
/-- Logs that are alike give the axes the same values. -/
theorem shuffled_axis {left right : List (Log F)} (logs : List.Forall₂ shuffled.logs left right)
    (axis : GamepadAxis) : Log.axis left.flatten axis = Log.axis right.flatten axis := by
  have whole : shuffled.logs left.flatten right.flatten := by
    induction logs with
    | nil => exact shuffled.refl []
    | cons first _ inductionHypothesis => exact shuffled.append first inductionHypothesis
  rw [Log.axis, Log.axis, whole axis]

omit [Platform F] in
theorem releaseOutputs_zero (mapper : Mapper F) (axis : GamepadAxis) :
    val (mapper.releaseOutputs.1.gamepadAxes axis) = 0 := by
  rw [beq_iff.mp (releaseOutputs_axes mapper axis), val_zero]

/-- After a frame that is processed to its end the last value of each axis is the one computed
    from scratch, with one mapping at most for each trigger; after a release, a reload or a mode
    switch it is zero; and another order of the mappings of vectors gives the same values. -/
theorem axis_values_recomputed {config : Config F} (accepted : config.Accepted)
    {operations : List (Operation F)}
    (accepts : ∀ config, .reload config ∈ operations → config.Accepted)
    {start mapper : Mapper F} {logs : List (Log F)} (news : Mapper.new config = .ok start)
    (performed : start.performAll operations = .ok (mapper, logs)) :
    (∀ state pass, mapper.processFrame state false = .ok (pass, false) →
      ∃ active, pass.mapper.activeAxes = .ok active ∧
        (∀ axis, (active.filterMap (triggerShare state axis)).length ≤ 1) ∧
        ∀ axis, val (Log.axis (logs.flatten ++ pass.log) axis) = recomputed state active axis) ∧
    (∀ operation next log, (∀ config, operation = .reload config → config.Accepted) →
      mapper.perform operation = .ok (next, log) →
        (operation = .suspend ∨ operation = .releaseAll ∨ (∃ config, operation = .reload config) ∨
          log.changesMode = true) →
          ∀ axis, val (Log.axis (logs.flatten ++ log) axis) = 0) ∧
    (∀ config' operations' start' mapper' logs', TwinConfig shuffled config config' →
      List.Forall₂ (TwinOperation shuffled) operations operations' →
        Mapper.new config' = .ok start' → start'.performAll operations' = .ok (mapper', logs') →
          ∀ axis, Log.axis logs.flatten axis = Log.axis logs'.flatten axis) := by
  obtain ⟨fresh, newFresh, freshWf⟩ := new_wf accepted.wellFormed
  cases news.symm.trans newFresh
  have wf : mapper.Wf := (performAll_wf freshWf operations accepts).of_ok performed
  obtain ⟨stream, _⟩ := performAll_stream freshWf accepts (new_stream news) performed
  refine ⟨?_, ?_, ?_⟩
  · intro state pass framed
    have valid : start.config.Valid := by
      obtain ⟨document, parses⟩ := accepted
      obtain ⟨_, _, done⟩ := bind_ok news
      cases done
      exact parsed_valid parses
    obtain ⟨active, found, apart, values⟩ :=
      completed_axis wf (performAll_valid freshWf accepts performed valid) framed
    -- the frame is one more operation, and its stream tells the last value of every axis
    have once : mapper.perform (.process state false) = .ok (pass.mapper, pass.log) := by
      simp only [Mapper.perform, Mapper.process, framed, ok_bind]
      rfl
    have steps := (perform_steps wf (.process state false) (by simp)).of_ok once
    refine ⟨active, found, triggerShares_one apart state, fun axis => ?_⟩
    rw [(steps.stream stream).axes axis]
    exact values axis
  · intro operation next log accepted once cleared axis
    have steps := (perform_steps wf operation accepted).of_ok once
    rw [(steps.stream stream).axes axis]
    -- however the axes are cleared, every value of the mapper is then zero
    rcases cleared with rfl | rfl | ⟨config, rfl⟩ | changes
    · have returns : (.ok mapper.suspend : Checked (Mapper F × Log F)) = .ok (next, log) := once
      have left : mapper.releaseOutputs.1 = next := congrArg Prod.fst (Except.ok.inj returns)
      rw [← left, releaseOutputs_zero]
    · rw [beq_iff.mp ((cleared_releaseAll once).1.axes axis), val_zero]
    · rw [beq_iff.mp ((cleared_reload once).1.axes axis), val_zero]
    · rw [beq_iff.mp ((perform_cleared wf once changes).axes axis), val_zero]
  · intro config' operations' start' mapper' logs' configs alike news' performed' axis
    -- mappers that differ in the order of their vectors alone log the same values
    have twins := configs.new
    rw [news, news'] at twins
    have runs := twins.of_ok.performAll alike
    rw [performed, performed'] at runs
    exact shuffled_axis runs.of_ok.2 axis

end

/-! ## An example -/

/-- One mode, in which the left stick and the left pad move the same stick. -/
def sticksDocument : KdlDocument ℚ where
  nodes := [
    .mk "version" [⟨none, .integer 1, ⟨0, 0⟩⟩] [] ⟨0, 0⟩,
    wordNode "default-mode" ["desk"] [],
    wordNode "mode" ["desk"] [
      wordNode "axis" ["left-stick", "gamepad-left-stick"] [],
      wordNode "axis" ["left-pad", "gamepad-left-stick"] [],
      wordNode "axis" ["right-trigger", "gamepad-left-trigger"] []]]
  span := ⟨0, 0⟩

def sticksConfig : Config ℚ where
  defaultMode := ⟨0⟩
  modeSwitchHaptic := none
  clickPressure := 25
  oskBindings := .empty
  globalBindings := []
  modeNames := IndexMap.empty.insert "desk" ⟨0⟩
  modes := [⟨.none, none, [], [
    .stick .left .gamepadLeftStick ⟨⟨none, 0.0, 1.0, 1.0⟩, false, false, false⟩,
    .padPosition .left .left ⟨⟨none, 0.0, 1.0, 1.0⟩, false, false, false⟩,
    .trigger .right .left ⟨none, 0.0, 1.0, 1.0⟩], []⟩]

theorem sticks_accepted : sticksConfig.Accepted := ⟨sticksDocument, by with_unfolding_all rfl⟩

def sticksState : ControllerState ℚ :=
  { ControllerState.withButtons (.ofList []) with
    triggers := (0, 1 / 3), leftStick := (1 / 2, 0), leftPad := ⟨true, false, (1 / 4, 0)⟩ }

/-- Half of the stick and a quarter of the pad make three quarters. -/
theorem example_axis_values :
    ∃ start pass active, Mapper.new sticksConfig = .ok start ∧
      start.processFrame sticksState false = .ok (pass, false) ∧
      pass.mapper.activeAxes = .ok active ∧ Log.axis pass.log .leftX = 3 / 4 ∧
      Log.axis pass.log .leftTrigger = 1 / 3 ∧
      recomputed sticksState active .leftX = (3 / 4 : ℚ) ∧
      recomputed sticksState active .leftTrigger = (1 / 3 : ℚ) := by
  obtain ⟨⟨start, pass, cut⟩, runs, facts⟩ := map_ok
    (show (do
        let start ← Mapper.new sticksConfig
        let frame ← start.processFrame sticksState false
        return (start, frame) : Checked (Mapper ℚ × Pass ℚ × Bool)).map
        (fun run => (Log.axis run.2.1.log .leftX, Log.axis run.2.1.log .leftTrigger, run.2.2)) =
          .ok (3 / 4, 1 / 3, false) by
      decide +kernel)
  obtain ⟨_, news, rest⟩ := bind_ok runs
  obtain ⟨_, framed, done⟩ := bind_ok rest
  cases done
  simp only [Prod.mk.injEq] at facts
  obtain ⟨stick, trigger, rfl⟩ := facts
  have still : start.performAll [] = .ok (start, []) := rfl
  obtain ⟨active, found, _, values⟩ :=
    (axis_values_recomputed sticks_accepted (by simp) news still).1 sticksState pass framed
  refine ⟨start, pass, active, news, framed, found, stick, trigger, ?_, ?_⟩
  · rw [← values .leftX, List.flatten_nil, List.nil_append, stick]
    rfl
  · rw [← values .leftTrigger, List.flatten_nil, List.nil_append, trigger]
    rfl

end Scd.Daemon
