import Scd.Core.Exact
import Scd.Daemon.Outputs
import Scd.Verified.AxisPass

/-! # Pointer motion

Over exact arithmetic no motion of a trackpad is lost and none is invented: what the mouse has
been given in a run and what is still carried add up to the displacement of the finger, however
the path is split into frames.
-/

namespace Scd.Daemon

open Scd.Core Scd.Foundation Evdev ExactScalar

section

variable {F : Type} [Scalar F]

/-! ## The counts of the mouse -/

def relCounts (axis : RelativeAxis) : MouseEvent → ℤ
  | .relative code value => if code = axis then value else 0
  | .key _ _ => 0

/-- The sum of the counts of an axis. -/
def relTotal (axis : RelativeAxis) (events : List MouseEvent) : ℤ :=
  (events.map (relCounts axis)).sum

@[simp] theorem relTotal_nil (axis : RelativeAxis) : relTotal axis [] = 0 := rfl

@[simp] theorem relTotal_append (axis : RelativeAxis) (early late : List MouseEvent) :
    relTotal axis (early ++ late) = relTotal axis early + relTotal axis late := by
  simp [relTotal]

/-- A number that the cast to `i32` does not saturate. -/
def FitsI32 (value : ℝ) : Prop := -2147483648 ≤ value ∧ value ≤ 2147483647

/-- Hand outputs to the devices, one after the other. -/
def Outputs.emitAll (outputs : Outputs F) (pushed : List (Output F)) : Outputs F :=
  pushed.foldl Outputs.emit outputs

def Output.mouseMotion? {F : Type} : Output F → Option (F × F)
  | .mouseMotion x y => some (x, y)
  | _ => none

/-- The motions of the mouse that a log pushes. -/
def Log.motions {F : Type} (log : Log F) : List (F × F) := log.outputs.filterMap Output.mouseMotion?

omit [Scalar F] in
@[simp] theorem motions_append (early late : Log F) :
    Log.motions (early ++ late) = early.motions ++ late.motions := by
  simp [Log.motions]

omit [Scalar F] in
theorem motions_of_none {log : Log F}
    (none : ∀ output, .output output ∈ log → output.mouseMotion? = none) : log.motions = [] := by
  refine List.filterMap_eq_nil_iff.mpr fun output member => ?_
  obtain ⟨entry, found, isOutput⟩ := List.mem_filterMap.mp member
  cases entry with
  | note ghost => cases isOutput
  | output other =>
    cases isOutput
    exact none output found

theorem motions_setGamepadAxes (value : GamepadAxis → F) (axes : List GamepadAxis)
    (mapper : Mapper F) : (Mapper.setGamepadAxes value axes mapper).2.motions = [] := by
  induction axes generalizing mapper with
  | nil => rfl
  | cons axis axes inductionHypothesis =>
    have first : (mapper.setGamepadAxis axis (value axis)).2.motions = [] := by
      unfold Mapper.setGamepadAxis
      split <;> rfl
    rw [Mapper.setGamepadAxes, motions_append, first, inductionHypothesis, List.nil_append]

variable [ExactScalar F]

/-- Nothing is lost: the counts that the mouse has been given make up for this motion, together
    with what is carried. -/
def Moved (before after : Outputs F) (x y : ℝ) : Prop :=
  ∃ emitted, after.mouse = before.mouse ++ emitted ∧
    relTotal .relX emitted + val after.mouseRemainder.1 = val before.mouseRemainder.1 + x ∧
    relTotal .relY emitted + val after.mouseRemainder.2 = val before.mouseRemainder.2 + y

/-- Less than one count is carried on each axis. -/
def Outputs.Carries (outputs : Outputs F) : Prop :=
  |val outputs.mouseRemainder.1| < 1 ∧ |val outputs.mouseRemainder.2| < 1

theorem Moved.refl (outputs : Outputs F) : Moved outputs outputs 0 0 :=
  ⟨[], by simp⟩

theorem Moved.trans {first second third : Outputs F} {x y x' y' : ℝ} (early : Moved first second x y)
    (late : Moved second third x' y') : Moved first third (x + x') (y + y') := by
  obtain ⟨emitted, mouse, sumX, sumY⟩ := early
  obtain ⟨emitted', mouse', sumX', sumY'⟩ := late
  refine ⟨emitted ++ emitted', ?_, ?_, ?_⟩
  · rw [mouse', mouse, List.append_assoc]
  · rw [relTotal_append]
    push_cast
    linarith
  · rw [relTotal_append]
    push_cast
    linarith

/-! ## Carrying -/

/-- What is left of a step that fits, on top of what was carried. -/
theorem carried_lt {carried step : F} (small : |val carried| < 1) (fits : FitsI32 (val step)) :
    |val (carried + step - Scalar.ofInt (Outputs.toI32 (carried + step)))| < 1 := by
  obtain ⟨low, high⟩ := fits
  obtain ⟨above, below⟩ := abs_lt.mp small
  have sum : val (carried + step) = val carried + val step := val_add _ _
  -- so the cast truncates
  have whole : Outputs.toI32 (carried + step) = truncate (val (carried + step)) := by
    have least : -2147483648 ≤ truncate (val (carried + step)) := by
      unfold truncate
      split
      · next nonneg => exact le_trans (by omega) (Int.floor_nonneg.mpr nonneg)
      · have : (-2147483649 : ℤ) < ⌈val (carried + step)⌉ := by
          apply Int.lt_ceil.mpr
          push_cast
          linarith
        omega
    have most : truncate (val (carried + step)) ≤ 2147483647 := by
      unfold truncate
      split
      · have : ⌊val (carried + step)⌋ < (2147483648 : ℤ) := by
          apply Int.floor_lt.mpr
          push_cast
          linarith
        omega
      · next negative =>
        have : ⌈val (carried + step)⌉ ≤ 0 := by
          apply Int.ceil_le.mpr
          push_cast
          linarith
        omega
    rw [Outputs.toI32, toInt_eq, min_eq_right most, max_eq_right least]
  rw [val_sub, val_ofInt, whole]
  exact abs_sub_truncate_lt _

theorem emit_motion (outputs : Outputs F) (x y : F) :
    Moved outputs (outputs.emit (.mouseMotion x y)) (val x) (val y) := by
  unfold Outputs.emit Outputs.emitRelative
  dsimp only
  split
  · next zero =>
    obtain ⟨zeroX, zeroY⟩ := Prod.mk.inj zero
    refine ⟨[], by simp, ?_, ?_⟩
    · simp [zeroX]
    · simp [zeroY]
  · refine ⟨_, rfl, ?_, ?_⟩
    · simp [relTotal, relCounts]
    · simp [relTotal, relCounts]

omit [ExactScalar F] in
theorem emit_motion_remainder (outputs : Outputs F) (x y : F) :
    (outputs.emit (.mouseMotion x y)).mouseRemainder =
      let carried := (outputs.mouseRemainder.1 + x, outputs.mouseRemainder.2 + y)
      (carried.1 - Scalar.ofInt (Outputs.toI32 carried.1),
        carried.2 - Scalar.ofInt (Outputs.toI32 carried.2)) := by
  unfold Outputs.emit Outputs.emitRelative
  dsimp only
  split <;> rfl

theorem emit_motion_carries {outputs : Outputs F} {x y : F} (carries : outputs.Carries)
    (fitsX : FitsI32 (val x)) (fitsY : FitsI32 (val y)) :
    (outputs.emit (.mouseMotion x y)).Carries := by
  rw [Outputs.Carries, emit_motion_remainder]
  exact ⟨carried_lt carries.1 fitsX, carried_lt carries.2 fitsY⟩

/-- Other outputs leave the pointer where it is. -/
theorem emit_still (outputs : Outputs F) {output : Output F} (still : output.mouseMotion? = none) :
    Moved outputs (outputs.emit output) 0 0 ∧
      (outputs.emit output).mouseRemainder = outputs.mouseRemainder := by
  have kept : ∀ next : Outputs F, next.mouse = outputs.mouse →
      next.mouseRemainder = outputs.mouseRemainder →
        Moved outputs next 0 0 ∧ next.mouseRemainder = outputs.mouseRemainder := by
    intro next mouse remainder
    exact ⟨⟨[], by simp [mouse, remainder]⟩, remainder⟩
  cases output with
  | mouseMotion x y => cases still
  | key key pressed =>
    unfold Outputs.emit
    dsimp only
    split
    · exact kept _ rfl rfl
    split
    · exact kept _ rfl rfl
    · exact kept _ rfl rfl
  | mouseButton button pressed =>
    exact ⟨⟨[.key button (Outputs.pressedValue pressed)], rfl,
      by simp [relTotal, relCounts, Outputs.emit], by simp [relTotal, relCounts, Outputs.emit]⟩, rfl⟩
  | scroll x y =>
    unfold Outputs.emit Outputs.emitRelative
    dsimp only
    split
    · exact kept _ (List.append_nil _) rfl
    · exact ⟨⟨_, rfl, by simp [relTotal, relCounts], by simp [relTotal, relCounts]⟩, rfl⟩
  | gamepadButton button pressed => exact kept _ rfl rfl
  | gamepadAxis axis value => exact kept _ rfl rfl
  | trackpadHaptic pad => exact kept _ rfl rfl
  | keyboardToggle => exact kept _ rfl rfl
  | modeChanged name haptic => exact kept _ rfl rfl

/-- All the motions that are pushed count, and nothing else does. -/
theorem emitAll_moved (outputs : Outputs F) (pushed : List (Output F)) :
    let motions := pushed.filterMap Output.mouseMotion?
    Moved outputs (outputs.emitAll pushed) (motions.map fun motion => val motion.1).sum
        (motions.map fun motion => val motion.2).sum ∧
      (outputs.Carries → (∀ motion ∈ motions, FitsI32 (val motion.1) ∧ FitsI32 (val motion.2)) →
        (outputs.emitAll pushed).Carries) := by
  induction pushed generalizing outputs with
  | nil => exact ⟨.refl outputs, fun carries _ => carries⟩
  | cons output pushed inductionHypothesis =>
    obtain ⟨moved, small⟩ := inductionHypothesis (outputs.emit output)
    cases motion : output.mouseMotion? with
    | none =>
      obtain ⟨still, remainder⟩ := emit_still outputs motion
      have moves := still.trans moved
      rw [zero_add, zero_add] at moves
      rw [List.filterMap_cons_none motion]
      constructor
      · exact moves
      · intro carries fits
        exact small (by rwa [Outputs.Carries, remainder]) fits
    | some step =>
      obtain ⟨x, y⟩ := step
      obtain rfl : output = .mouseMotion x y := by
        cases output <;> cases motion
        rfl
      rw [List.filterMap_cons_some motion]
      constructor
      · exact (emit_motion outputs x y).trans moved
      · intro carries fits
        obtain ⟨fitsX, fitsY⟩ := fits (x, y) List.mem_cons_self
        exact small (emit_motion_carries carries fitsX fitsY)
          fun motion member => fits motion (List.mem_cons_of_mem _ member)

/-! ## The motion of one frame -/

/-- The mapping can move the mouse. -/
def movesMouse {F : Type} : AxisMapping F → Bool
  | .stick _ target _ | .gyro _ target _ => target = .mouseMotion
  | .padMotion _ _ _ => true
  | .trigger _ _ _ | .padPosition _ _ _ | .circularScroll _ _ => false

/-- The way of the finger between two states, as the mapping orients it. -/
def displacement (pad : Trackpad) (options : VectorOptions F) (first last : ControllerState F) :
    F × F :=
  orient ((touchpad pad last).position.1 - (touchpad pad first).position.1,
    (touchpad pad last).position.2 - (touchpad pad first).position.2) options

variable {pad : Trackpad} {options : VectorOptions F}

theorem displacement_self (pad : Trackpad) (options : VectorOptions F) (state : ControllerState F) :
    val (displacement pad options state state).1 = 0 ∧
      val (displacement pad options state state).2 = 0 := by
  unfold displacement orient
  cases options.swapXy <;> cases options.invertX <;> cases options.invertY <;> simp

theorem displacement_trans (pad : Trackpad) (options : VectorOptions F)
    (first mid last : ControllerState F) :
    val (displacement pad options first last).1 =
        val (displacement pad options first mid).1 + val (displacement pad options mid last).1 ∧
      val (displacement pad options first last).2 =
        val (displacement pad options first mid).2 + val (displacement pad options mid last).2 := by
  unfold displacement orient
  cases options.swapXy <;> cases options.invertX <;> cases options.invertY <;> simp

theorem orient_zero (options : VectorOptions F) :
    val (orient ((0.0, 0.0) : F × F) options).1 = 0 ∧
      val (orient ((0.0, 0.0) : F × F) options).2 = 0 := by
  unfold orient
  cases options.swapXy <;> cases options.invertX <;> cases options.invertY <;> simp

/-- Without a dead zone and a response curve a vector is only scaled. -/
theorem transform_accelerated (straight : options.axis.deadzone = 0.0)
    (linear : options.axis.exponent = 1.0) (acceleration : F) (value : F × F)
    (state : ControllerState F) (previous : Option (ControllerState F)) :
    let result := transform value 1.0 acceleration options state previous
    let way := orient value options
    let gain := accelerationGain acceleration (Scalar.hypot way.1 way.2) state previous
    val result.1 = val options.axis.sensitivity * val gain * val way.1 ∧
      val result.2 = val options.axis.sensitivity * val gain * val way.2 := by
  unfold transform
  generalize orient value options = way
  have nonneg := hypot_nonneg way.1 way.2
  rw [straight]
  dsimp only
  split
  · next rests =>
    rw [val_le, val_zero] at rests
    obtain ⟨zeroX, zeroY⟩ := (hypot_eq_zero way.1 way.2).mp (le_antisymm rests nonneg)
    simp [zeroX, zeroY]
  · next moves =>
    have positive : val (Scalar.hypot way.1 way.2) ≠ 0 := by
      intro zero
      apply moves
      rw [val_le, val_zero, zero]
    have scale : val (scaleAxis (Scalar.hypot way.1 way.2) options.axis) =
        val (Scalar.hypot way.1 way.2) * val options.axis.sensitivity := by
      rw [scaleAxis, straight, if_neg moves, linear, powf_one]
      simp
    simp only [val_mul, val_div, scale, val_one]
    constructor <;> field_simp

theorem transform_straight (straight : options.axis.deadzone = 0.0)
    (linear : options.axis.exponent = 1.0) (value : F × F) (state : ControllerState F)
    (previous : Option (ControllerState F)) :
    let result := transform value 1.0 0.0 options state previous
    val result.1 = val options.axis.sensitivity * val (orient value options).1 ∧
      val result.2 = val options.axis.sensitivity * val (orient value options).2 := by
  have still : ¬ (0.0 : F) > 0.0 := by
    change ¬ (0.0 : F) < 0.0
    rw [val_lt]
    exact lt_irrefl _
  have scaled := transform_accelerated straight linear 0.0 value state previous
  dsimp only at scaled
  rw [accelerationGain, if_neg still, val_one, mul_one] at scaled
  exact scaled

omit [ExactScalar F] in
theorem motion_still {mapping : AxisMapping F} (still : movesMouse mapping = false)
    (state : ControllerState F) (previous : Option (ControllerState F)) :
    Log.motions (motion state previous mapping) = [] := by
  have other : ∀ (target : VectorTarget) (value : F × F) (gamepad : GamepadAxis → F),
      target ≠ .mouseMotion → Log.motions (deliver target value gamepad).2 = [] := by
    intro target value gamepad elsewhere
    cases target with
    | gamepadLeftStick => rfl
    | gamepadRightStick => rfl
    | mouseMotion => exact absurd rfl elsewhere
    | scroll =>
      unfold deliver
      dsimp only
      split <;> rfl
  cases mapping with
  | trigger source target options => rfl
  | stick source target options => exact other target _ _ (by simpa [movesMouse] using still)
  | padPosition pad target options => cases target <;> exact other _ _ _ (by decide)
  | padMotion pad options acceleration => cases still
  | circularScroll pad options => exact other .scroll _ _ (by decide)
  | gyro components target options => exact other target _ _ (by simpa [movesMouse] using still)

omit [ExactScalar F] in
/-- The motions of some mappings are those of the ones that can move the mouse. -/
theorem motions_flatMap (mappings : List (AxisMapping F)) (state : ControllerState F)
    (previous : Option (ControllerState F)) :
    Log.motions (mappings.flatMap (motion state previous)) =
      (mappings.filter movesMouse).flatMap fun mapping => Log.motions (motion state previous mapping) := by
  induction mappings with
  | nil => rfl
  | cons mapping mappings inductionHypothesis =>
    rw [List.flatMap_cons, motions_append, inductionHypothesis]
    cases moves : movesMouse mapping with
    | true => rw [List.filter_cons_of_pos moves, List.flatMap_cons]
    | false =>
      rw [List.filter_cons_of_neg (by simp [moves]), motion_still moves, List.nil_append]

/-- The last state of the touch before a frame. -/
def lastTouch (pad : Trackpad) (previous : Option (ControllerState F)) : Option (ControllerState F) :=
  previous.filter fun state => (touchpad pad state).touched

/-- The motions of a pad add up to its way since the frame before, times the sensitivity. -/
theorem padMotion_motions (straight : options.axis.deadzone = 0.0)
    (linear : options.axis.exponent = 1.0) {state : ControllerState F}
    (touched : (touchpad pad state).touched = true) (previous : Option (ControllerState F)) :
    let motions := Log.motions (motion state previous (.padMotion pad options 0.0))
    let way := displacement pad options ((lastTouch pad previous).getD state) state
    ∃ x y, (motions = [(x, y)] ∨ motions = [] ∧ val x = 0 ∧ val y = 0) ∧
      val x = val options.axis.sensitivity * val way.1 ∧
      val y = val options.axis.sensitivity * val way.2 := by
  intro motions way
  obtain ⟨scaledX, scaledY⟩ :=
    transform_straight straight linear (padMotion pad state previous) state previous
  refine ⟨(transform (padMotion pad state previous) 1.0 0.0 options state previous).1,
    (transform (padMotion pad state previous) 1.0 0.0 options state previous).2, ?_, ?_⟩
  · have delivered : motion state previous (.padMotion pad options 0.0) =
        (deliver .mouseMotion (transform (padMotion pad state previous) 1.0 0.0 options state previous)
          fun _ => 0.0).2 := rfl
    simp only [motions, delivered, deliver]
    split
    · exact .inl rfl
    · next still =>
      have zero : ∀ value : F, (value != 0.0) = false → val value = 0 := by
        intro value equal
        have zero : (value == 0.0) = true := by simpa [bne] using equal
        rw [(val_beq _ _).mp zero, val_zero]
      obtain ⟨stillX, stillY⟩ := Bool.or_eq_false_iff.mp (Bool.eq_false_iff.mpr still)
      exact .inr ⟨rfl, zero _ stillX, zero _ stillY⟩
  · have moved : val (orient (padMotion pad state previous) options).1 = val way.1 ∧
        val (orient (padMotion pad state previous) options).2 = val way.2 := by
      have rests : lastTouch pad previous = none → padMotion pad state previous = (0.0, 0.0) := by
        intro apart
        cases previous with
        | none => simp [padMotion]
        | some before =>
          have up : (touchpad pad before).touched = false := by simpa [lastTouch] using apart
          simp [padMotion, Option.filter, up]
      cases last : lastTouch pad previous with
      | none =>
        obtain ⟨zeroX, zeroY⟩ := displacement_self pad options state
        obtain ⟨stillX, stillY⟩ := orient_zero options
        simp only [way, last, Option.getD_none, rests last]
        exact ⟨stillX.trans zeroX.symm, stillY.trans zeroY.symm⟩
      | some before =>
        obtain ⟨rfl, down⟩ : previous = some before ∧ (touchpad pad before).touched = true := by
          simpa [lastTouch, Option.filter_eq_some_iff] using last
        simp [way, last, padMotion, Option.filter, touched, down, displacement]
    rw [scaledX, scaledY, moved.1, moved.2]
    exact ⟨rfl, rfl⟩

/-! ## Runs -/

/-- A frame that is processed to its end, in which the pad is touched and this mapping is the
    only active one that moves the mouse.  What the mapper pushes goes to the devices. -/
inductive PointerFrame (pad : Trackpad) (options : VectorOptions F) :
    Mapper F × Outputs F → List (ControllerState F) → Mapper F × Outputs F → Prop where
  | frame {mapper : Mapper F} {outputs : Outputs F} {state : ControllerState F} {pass : Pass F}
      {mode : Mode F} (processed : mapper.processFrame state false = .ok (pass, false))
      (touched : (touchpad pad state).touched = true) (found : mapper.mode = .ok mode)
      (only : (activeMappings (mode.axes.zip mapper.axisActive) state).filter movesMouse =
        [.padMotion pad options 0.0]) :
      PointerFrame pad options (mapper, outputs) [state]
        (pass.mapper, outputs.emitAll pass.log.outputs)

omit [ExactScalar F] in
/-- The mouse is moved by the active mappings alone. -/
theorem completed_motions {mapper : Mapper F} {state : ControllerState F} {pass : Pass F}
    {mode : Mode F} (wf : mapper.Wf) (processed : mapper.processFrame state false = .ok (pass, false))
    (found : mapper.mode = .ok mode) :
    pass.log.motions = Log.motions ((activeMappings (mode.axes.zip mapper.axisActive) state).flatMap
      (motion state mapper.previous)) := by
  obtain ⟨mode', early, late, before, completed⟩ := completed_frame wf processed
  cases found.symm.trans completed.found
  have earlyNone : early.motions = [] := by
    refine motions_of_none fun output member => ?_
    have holds := completed.holds _ member
    cases output <;> first | rfl | cases holds
  have lateNone : late.motions = [] := by
    refine motions_of_none fun output member => ?_
    obtain ⟨pad, clicked⟩ := completed.clicks _ member
    cases clicked
    rfl
  rw [completed.log, motions_append, motions_append, motions_append, earlyNone, lateNone,
    motions_setGamepadAxes, List.nil_append, List.append_nil, List.append_nil]

omit [ExactScalar F] in
/-- Only the mapping pushes motions of the mouse in such a frame. -/
theorem frame_motions {mapper : Mapper F} {state : ControllerState F} {pass : Pass F} {mode : Mode F}
    (wf : mapper.Wf) (processed : mapper.processFrame state false = .ok (pass, false))
    (found : mapper.mode = .ok mode)
    (only : (activeMappings (mode.axes.zip mapper.axisActive) state).filter movesMouse =
      [.padMotion pad options 0.0]) :
    pass.log.motions = Log.motions (motion state mapper.previous (.padMotion pad options 0.0)) := by
  rw [completed_motions wf processed found, motions_flatMap, only]
  simp

/-- The states of a run begin with this one, from which the displacement counts: the one before
    the run if the pad was touched in it, and otherwise the first frame. -/
def touchBegins (pad : Trackpad) (previous : Option (ControllerState F))
    (frames : List (ControllerState F)) : Option (ControllerState F) :=
  (lastTouch pad previous).or frames.head?

/-- The counts of a step. -/
def pointerStep (pad : Trackpad) (options : VectorOptions F) (first last : ControllerState F) :
    ℝ × ℝ :=
  (val options.axis.sensitivity * val (displacement pad options first last).1,
    val options.axis.sensitivity * val (displacement pad options first last).2)

/-- A step whose counts fit. -/
def StepFits (pad : Trackpad) (options : VectorOptions F) (first last : ControllerState F) : Prop :=
  FitsI32 (pointerStep pad options first last).1 ∧ FitsI32 (pointerStep pad options first last).2

theorem frame_moves {start next : Mapper F × Outputs F} {labels : List (ControllerState F)}
    (straight : options.axis.deadzone = 0.0) (linear : options.axis.exponent = 1.0)
    (framed : PointerFrame pad options start labels next) (wf : start.1.Wf) :
    ∃ state, labels = [state] ∧ next.1.Wf ∧ lastTouch pad next.1.previous = some state ∧
      let before := (lastTouch pad start.1.previous).getD state
      Moved start.2 next.2 (pointerStep pad options before state).1
          (pointerStep pad options before state).2 ∧
        (start.2.Carries → StepFits pad options before state → next.2.Carries) := by
  cases framed with
  | @frame mapper outputs state pass mode processed touched found only =>
    have nextWf : pass.mapper.Wf :=
      ((processFrame_kind wf state false).of_ok processed).advances.wf wf
    have previous : pass.mapper.previous = some state := by
      obtain ⟨_, _, _, _, completed⟩ := completed_frame wf processed
      exact completed.previous
    refine ⟨state, rfl, nextWf, ?_, ?_⟩
    · simp [previous, lastTouch, Option.filter, touched]
    · obtain ⟨x, y, motions, countsX, countsY⟩ :=
        padMotion_motions straight linear touched mapper.previous
      obtain ⟨moved, small⟩ := emitAll_moved outputs pass.log.outputs
      have pushed : pass.log.outputs.filterMap Output.mouseMotion? =
          Log.motions (motion state mapper.previous (.padMotion pad options 0.0)) :=
        frame_motions wf processed found only
      rw [pushed] at moved small
      dsimp only
      rw [StepFits, pointerStep, ← countsX, ← countsY]
      cases motions with
      | inl one =>
        rw [one] at moved small
        constructor
        · simpa using moved
        · intro carries fits
          exact small carries (by simpa using fits)
      | inr still =>
        obtain ⟨none, zeroX, zeroY⟩ := still
        rw [none] at moved small
        constructor
        · rw [zeroX, zeroY]
          exact moved
        · intro carries _
          exact small carries (by simp)

theorem run_moves {start final : Mapper F × Outputs F} {frames : List (ControllerState F)}
    (straight : options.axis.deadzone = 0.0) (linear : options.axis.exponent = 1.0)
    (run : Path (PointerFrame pad options) start frames final) (wf : start.1.Wf) :
    final.1.Wf ∧ (touchBegins pad start.1.previous frames = none → final = start ∧ frames = []) ∧
    ∀ first, touchBegins pad start.1.previous frames = some first →
      let last := frames.getLast?.getD first
      lastTouch pad final.1.previous = some last ∧
        Moved start.2 final.2 (pointerStep pad options first last).1
          (pointerStep pad options first last).2 ∧
        (start.2.Carries → List.IsChain (StepFits pad options) (first :: frames) → final.2.Carries) := by
  induction run with
  | refl =>
    refine ⟨wf, fun _ => ⟨rfl, rfl⟩, ?_⟩
    intro first begins
    obtain ⟨zeroX, zeroY⟩ := displacement_self pad options first
    refine ⟨by simpa [touchBegins] using begins, ?_, fun carries _ => carries⟩
    rw [pointerStep, List.getLast?_nil, Option.getD_none, zeroX, zeroY, mul_zero]
    exact .refl start.2
  | @snoc mid final frames labels _ framed inductionHypothesis =>
    obtain ⟨midWf, none, some⟩ := inductionHypothesis
    obtain ⟨state, rfl, finalWf, touched, moved, small⟩ := frame_moves straight linear framed midWf
    have grown : touchBegins pad start.1.previous (frames ++ [state]) =
        (touchBegins pad start.1.previous frames).or (.some state) := by
      cases frames <;> simp [touchBegins]
    refine ⟨finalWf, ?_, ?_⟩
    · intro never
      rw [grown] at never
      simp at never
    · intro first begins
      rw [grown] at begins
      rw [List.getLast?_concat, Option.getD_some]
      refine ⟨touched, ?_⟩
      cases earlier : touchBegins pad start.1.previous frames with
      | none =>
        -- the touch begins with this frame
        obtain ⟨rfl, rfl⟩ := none earlier
        have apart : lastTouch pad mid.1.previous = .none := (Option.or_eq_none_iff.mp earlier).1
        obtain rfl : state = first := by simpa [earlier] using begins
        rw [apart, Option.getD_none] at moved small
        refine ⟨moved, fun carries chain => small carries ?_⟩
        exact (List.isChain_cons_cons.mp chain).1
      | some begun =>
        obtain rfl : begun = first := by simpa [earlier] using begins
        obtain ⟨last, movedBefore, smallBefore⟩ := some begun earlier
        rw [last, Option.getD_some] at moved small
        obtain ⟨sumX, sumY⟩ := displacement_trans pad options begun
          (frames.getLast?.getD begun) state
        constructor
        · rw [pointerStep, sumX, sumY, mul_add, mul_add]
          exact movedBefore.trans moved
        · intro carries chain
          rw [← List.cons_append, List.isChain_append] at chain
          obtain ⟨initial, _, joined⟩ := chain
          refine small (smallBefore carries initial) (joined _ ?_ state rfl)
          rw [List.getLast?_cons, Option.mem_some_iff]

variable [Platform F]

/-- The motion of a pad is lossless: after every frame of a touch, the counts that the mouse has
    been given since its beginning and what is carried add up to the way of the finger, times the
    sensitivity, and less than one count is carried. -/
theorem pointer_motion_lossless {config : Config F} (accepted : config.Accepted)
    {operations : List (Operation F)}
    (accepts : ∀ config, .reload config ∈ operations → config.Accepted)
    {start mapper : Mapper F} {logs : List (Log F)} (news : Mapper.new config = .ok start)
    (performed : start.performAll operations = .ok (mapper, logs)) {outputs : Outputs F}
    (straight : options.axis.deadzone = 0.0) (linear : options.axis.exponent = 1.0)
    {frames : List (ControllerState F)} {final : Mapper F × Outputs F}
    (run : Path (PointerFrame pad options) (mapper, outputs) frames final)
    {first : ControllerState F} (begins : touchBegins pad mapper.previous frames = some first) :
    let step := pointerStep pad options first (frames.getLast?.getD first)
    (∃ emitted, final.2.mouse = outputs.mouse ++ emitted ∧
      relTotal .relX emitted + val final.2.mouseRemainder.1 =
        step.1 + val outputs.mouseRemainder.1 ∧
      relTotal .relY emitted + val final.2.mouseRemainder.2 =
        step.2 + val outputs.mouseRemainder.2) ∧
    (|val outputs.mouseRemainder.1| < 1 ∧ |val outputs.mouseRemainder.2| < 1 →
      List.IsChain (StepFits pad options) (first :: frames) →
        |val final.2.mouseRemainder.1| < 1 ∧ |val final.2.mouseRemainder.2| < 1) := by
  intro step
  obtain ⟨fresh, newFresh, freshWf⟩ := new_wf accepted.wellFormed
  cases news.symm.trans newFresh
  have wf : mapper.Wf := (performAll_wf freshWf operations accepts).of_ok performed
  obtain ⟨_, _, moves⟩ := run_moves straight linear run wf
  obtain ⟨_, ⟨emitted, mouse, sumX, sumY⟩, small⟩ := moves first begins
  refine ⟨⟨emitted, mouse, ?_, ?_⟩, small⟩
  · rw [sumX, add_comm]
  · rw [sumY, add_comm]

end

/-! ## An example -/

/-- One mode, in which the right pad moves the mouse. -/
def pointerDocument : KdlDocument ℚ where
  nodes := [
    .mk "version" [⟨none, .integer 1, ⟨0, 0⟩⟩] [] ⟨0, 0⟩,
    wordNode "default-mode" ["desk"] [],
    wordNode "mode" ["desk"] [
      .mk "axis" [⟨none, .string "right-pad", ⟨0, 0⟩⟩, ⟨none, .string "mouse-motion", ⟨0, 0⟩⟩,
        ⟨some "sensitivity", .integer 3, ⟨0, 0⟩⟩] [] ⟨0, 0⟩]]
  span := ⟨0, 0⟩

def pointerOptions : VectorOptions ℚ := ⟨⟨none, 0.0, Scalar.ofInt 3, 1.0⟩, false, false, false⟩

def pointerConfig : Config ℚ where
  defaultMode := ⟨0⟩
  modeSwitchHaptic := none
  clickPressure := 25
  oskBindings := .empty
  globalBindings := []
  modeNames := IndexMap.empty.insert "desk" ⟨0⟩
  modes := [⟨.none, none, [], [.padMotion .right pointerOptions 0.0], []⟩]

theorem pointer_accepted : pointerConfig.Accepted := ⟨pointerDocument, by with_unfolding_all rfl⟩

/-- The finger is at this place of the right pad. -/
def fingerAt (x : ℚ) : ControllerState ℚ :=
  { ControllerState.withButtons (.ofList []) with rightPad := ⟨true, false, (x, 0)⟩ }

/-- Every whole frame with a finger on the right pad is one of its pointer. -/
theorem example_frame (outputs : Outputs ℚ) {mapper : Mapper ℚ} {x : ℚ} {pass : Pass ℚ}
    (wf : mapper.Wf) (config : mapper.config = pointerConfig) (activeMode : mapper.activeMode = ⟨0⟩)
    (processed : mapper.processFrame (fingerAt x) false = .ok (pass, false)) :
    PointerFrame .right pointerOptions (mapper, outputs) [fingerAt x]
        (pass.mapper, outputs.emitAll pass.log.outputs) ∧
      pass.mapper.Wf ∧ pass.mapper.config = pointerConfig ∧ pass.mapper.activeMode = ⟨0⟩ := by
  have found : mapper.mode =
      .ok ⟨.none, none, [], [.padMotion .right pointerOptions 0.0], []⟩ := by
    rw [Mapper.mode, config, activeMode]
    rfl
  obtain ⟨flag, flags⟩ := List.length_eq_one_iff.mp (wf.axisActive _ found)
  obtain ⟨_, _, _, _, completed⟩ := completed_frame wf processed
  refine ⟨.frame processed rfl found ?_, ?_, completed.config.trans config,
    completed.activeMode.trans activeMode⟩
  · rw [flags]
    rfl
  · exact ((processFrame_kind wf (fingerAt x) false).of_ok processed).advances.wf wf

theorem example_step (first last : ℚ) :
    pointerStep .right pointerOptions (fingerAt first) (fingerAt last) =
      (3 * ((last : ℝ) - (first : ℝ)), 0) := by
  have sensitivity : val (Scalar.ofInt 3 : ℚ) = 3 := by
    rw [val_ofInt]
    norm_num
  have way : displacement .right pointerOptions (fingerAt first) (fingerAt last) =
      (last - first, 0) := by
    simp [displacement, orient, pointerOptions, touchpad, fingerAt]
  have zero : val (0 : ℚ) = 0 := Rat.cast_zero
  rw [pointerStep, way]
  simp only [pointerOptions, sensitivity, val_sub, zero, mul_zero]
  rfl

/-- A finger that moves three quarters of the pad in two steps. -/
theorem example_pointer_motion :
    ∃ start final, Mapper.new pointerConfig = .ok start ∧
      Path (PointerFrame .right pointerOptions) (start, .new .none)
        [fingerAt (-1), fingerAt 0.2, fingerAt 0.5] final ∧
      (∃ emitted, final.2.mouse = emitted ∧
        relTotal .relX emitted + (final.2.mouseRemainder.1 : ℝ) = 4.5) ∧
      |(final.2.mouseRemainder.1 : ℝ)| < 1 := by
  obtain ⟨⟨start, first, second, third⟩, runs, facts⟩ := map_ok
    (show (do
        let start ← Mapper.new pointerConfig
        let first ← start.processFrame (fingerAt (-1)) false
        let second ← first.1.mapper.processFrame (fingerAt 0.2) false
        let third ← second.1.mapper.processFrame (fingerAt 0.5) false
        return (start, first, second, third) :
          Checked (Mapper ℚ × (Pass ℚ × Bool) × (Pass ℚ × Bool) × Pass ℚ × Bool)).map
        (fun run => (run.2.1.2, run.2.2.1.2, run.2.2.2.2)) = .ok (false, false, false) by
      decide +kernel)
  obtain ⟨_, news, rest⟩ := bind_ok runs
  obtain ⟨⟨first, _⟩, one, rest⟩ := bind_ok rest
  obtain ⟨⟨second, _⟩, two, rest⟩ := bind_ok rest
  obtain ⟨⟨third, _⟩, three, done⟩ := bind_ok rest
  cases done
  simp only [Prod.mk.injEq] at facts
  obtain ⟨rfl, rfl, rfl⟩ := facts
  obtain ⟨_, newStart, startWf⟩ := new_wf pointer_accepted.wellFormed
  cases news.symm.trans newStart
  have fresh : start.config = pointerConfig ∧ start.activeMode = ⟨0⟩ ∧ start.previous = none := by
    cases news
    exact ⟨rfl, rfl, rfl⟩
  obtain ⟨frameOne, firstWf, config, activeMode⟩ :=
    example_frame (.new .none) startWf fresh.1 fresh.2.1 one
  obtain ⟨frameTwo, secondWf, config, activeMode⟩ := example_frame _ firstWf config activeMode two
  obtain ⟨frameThree, _, _, _⟩ := example_frame _ secondWf config activeMode three
  have run : Path (PointerFrame .right pointerOptions) (start, .new .none)
      [fingerAt (-1), fingerAt 0.2, fingerAt 0.5] _ :=
    ((Path.single frameOne).snoc frameTwo).snoc frameThree
  have begins : touchBegins .right start.previous [fingerAt (-1), fingerAt 0.2, fingerAt 0.5] =
      some (fingerAt (-1)) := by
    rw [fresh.2.2]
    rfl
  have still : start.performAll [] = .ok (start, []) := rfl
  obtain ⟨⟨emitted, mouse, sum, _⟩, small⟩ :=
    pointer_motion_lossless pointer_accepted (by simp) news still rfl rfl run begins
  have steps : List.IsChain (StepFits .right pointerOptions)
      [fingerAt (-1), fingerAt (-1), fingerAt 0.2, fingerAt 0.5] := by
    simp only [List.isChain_cons_cons, List.isChain_singleton, and_true, StepFits, FitsI32,
      example_step]
    norm_num
  have zero : val (Outputs.new .none : Outputs ℚ).mouseRemainder.1 = 0 ∧
      val (Outputs.new .none : Outputs ℚ).mouseRemainder.2 = 0 := ⟨val_zero, val_zero⟩
  have rests : |val (Outputs.new .none : Outputs ℚ).mouseRemainder.1| < 1 ∧
      |val (Outputs.new .none : Outputs ℚ).mouseRemainder.2| < 1 := by
    rw [zero.1, zero.2]
    norm_num
  refine ⟨start, _, news, run, ⟨emitted, mouse, ?_⟩, (small rests steps).1⟩
  refine sum.trans ?_
  rw [zero.1]
  simp only [List.getLast?_cons_cons, List.getLast?_singleton, Option.getD_some, example_step]
  norm_num

end Scd.Daemon
