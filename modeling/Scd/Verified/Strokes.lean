import Scd.Verified.PointerMotion
import Scd.Verified.Resets
import Scd.Verified.Timestamps

/-! # Strokes and the rate of the reports

A finger that moves at a constant speed moves the pointer as far however often its pad is
reported.  The gain of a frame is one of the speed, which is the same in every frame, and the
ways of the frames add up.
-/

namespace Scd.Daemon

open Scd.Core Scd.Foundation
open ExactScalar

section

variable {F : Type} [Scalar F]

/-! ## The speed of a frame -/

/-- The difference of the trackpads' clocks, where both states have one, or else of those of the
    motion sensors. -/
def clockDifference (current previous : ControllerState F) : UInt32 :=
  match current.trackpadTimestampUs, previous.trackpadTimestampUs with
  | some currentUs, some previousUs => timestampDeltaUs current.format currentUs previousUs
  | _, _ => timestampDeltaUs current.format current.imuTimestampUs previous.imuTimestampUs

/-- The gain of an acceleration at a speed. -/
def speedGain (acceleration speed : F) : F :=
  if acceleration > 0.0 then
    1.0 + acceleration * (1.0 - Scalar.exp (-((speed / 4.0) * (speed / 4.0))))
  else 1.0

/-- A frame of a stroke on a pad, with a velocity for each microsecond. -/
structure Steady (pad : Trackpad) (velocity : F × F) (before state : ControllerState F) : Prop where
  touched : (touchpad pad before).touched = true
  touched' : (touchpad pad state).touched = true
  format : before.format = state.format
  window : 1 ≤ clockDifference state before ∧ clockDifference state before ≤ 100000
  across : (touchpad pad state).position.1 - (touchpad pad before).position.1 =
    velocity.1 * Scalar.ofInt (clockDifference state before).toNat
  along : (touchpad pad state).position.2 - (touchpad pad before).position.2 =
    velocity.2 * Scalar.ofInt (clockDifference state before).toNat

theorem frameSeconds_difference {before state : ControllerState F}
    (same : before.format = state.format)
    (window : 1 ≤ clockDifference state before ∧ clockDifference state before ≤ 100000) :
    frameSeconds state (some before) true =
      some ((Scalar.ofInt (clockDifference state before).toNat : F) / 1000000.0) := by
  unfold clockDifference at window ⊢
  unfold frameSeconds
  rw [Option.filter_some, if_pos (decide_eq_true same)]
  cases current : state.trackpadTimestampUs <;> cases previous : before.trackpadTimestampUs
  all_goals
    simp only [current, previous] at window
    simp only [Option.bind_eq_bind, Option.bind_some, previous]
    exact if_pos window

/-- The gain of a frame with a duration. -/
theorem accelerationGain_eq {state : ControllerState F} {previous : Option (ControllerState F)}
    {seconds : F} (lasts : frameSeconds state previous true = some seconds)
    (acceleration magnitude : F) :
    accelerationGain acceleration magnitude state previous =
      speedGain acceleration (magnitude / seconds) := by
  rw [accelerationGain, lasts]
  rfl

variable [ExactScalar F]

/-! ## The motion of a frame -/

/-- The sum of some motions. -/
noncomputable def motionTotal (motions : List (F × F)) : ℝ × ℝ :=
  ((motions.map fun motion => val motion.1).sum, (motions.map fun motion => val motion.2).sum)

theorem motionTotal_append (first second : List (F × F)) :
    motionTotal (first ++ second) = motionTotal first + motionTotal second := by
  simp [motionTotal]

/-- A motion that is not pushed is none. -/
theorem motionTotal_deliver (value : F × F) (gamepad : GamepadAxis → F) :
    motionTotal (Log.motions (deliver .mouseMotion value gamepad).2) = (val value.1, val value.2) := by
  unfold deliver
  dsimp only
  split
  · change motionTotal [value] = _
    simp [motionTotal]
  · next still =>
    have zero {component : F} (none : (component != 0.0) = false) : val component = 0 := by
      have same : (component == 0.0) = true := by simpa [bne] using none
      rw [beq_iff.mp same, val_zero]
    obtain ⟨stillX, stillY⟩ := Bool.or_eq_false_iff.mp (Bool.eq_false_iff.mpr still)
    rw [zero stillX, zero stillY]
    rfl

theorem orient_scaled (velocity : F × F) (options : VectorOptions F) (factor : F) :
    orient (velocity.1 * factor, velocity.2 * factor) options =
      (factor * (orient velocity options).1, factor * (orient velocity options).2) := by
  have turned (value : F) : value * factor = factor * value := by
    apply val_injective
    simp [mul_comm]
  have inverted (value : F) : -(factor * value) = factor * -value := by
    apply val_injective
    simp
  unfold orient
  cases options.swapXy <;> cases options.invertX <;> cases options.invertY <;>
    simp [turned, inverted]

variable [ExactFunctions F] {pad : Trackpad} {options : VectorOptions F} {velocity : F × F}
  {before state : ControllerState F}

/-- The speed is that of the stroke, whatever the time between the reports. -/
theorem speed_eq (velocity : F × F) {factor : F} (positive : 0 < val factor) :
    Scalar.hypot (factor * velocity.1) (factor * velocity.2) / (factor / 1000000.0) =
      Scalar.hypot velocity.1 velocity.2 * 1000000.0 := by
  apply val_injective
  rw [val_div, val_div, ExactFunctions.hypot_scaled _ _ _ positive.le, val_mul]
  have million : val (1000000.0 : F) ≠ 0 := by
    rw [val_literal_true]
    norm_num
  field_simp

/-- The way of the pointer for each unit of the finger's way. -/
noncomputable def strokeFactor (options : VectorOptions F) (acceleration : F) (velocity : F × F) : ℝ :=
  let way := orient velocity options
  val options.axis.sensitivity *
    val (speedGain acceleration (Scalar.hypot way.1 way.2 * 1000000.0))

theorem steady_motion (straight : options.axis.deadzone = 0.0)
    (linear : options.axis.exponent = 1.0) (acceleration : F) (steady : Steady pad velocity before state) :
    motionTotal (Log.motions (motion state (some before) (.padMotion pad options acceleration))) =
      (strokeFactor options acceleration velocity * val (displacement pad options before state).1,
        strokeFactor options acceleration velocity * val (displacement pad options before state).2) := by
  have moved : padMotion pad state (some before) =
      ((touchpad pad state).position.1 - (touchpad pad before).position.1,
        (touchpad pad state).position.2 - (touchpad pad before).position.2) := by
    simp [padMotion, steady.touched, steady.touched', Option.filter]
  have lasts := frameSeconds_difference steady.format steady.window
  have positive : 0 < val (Scalar.ofInt (clockDifference state before).toNat : F) := by
    have least := UInt32.le_iff_toNat_le.mp steady.window.1
    rw [val_ofInt]
    exact_mod_cast least
  have gain : accelerationGain acceleration
      (Scalar.hypot (displacement pad options before state).1 (displacement pad options before state).2)
      state (some before) = speedGain acceleration
        (Scalar.hypot (orient velocity options).1 (orient velocity options).2 * 1000000.0) := by
    rw [accelerationGain_eq lasts, displacement, steady.across, steady.along, orient_scaled,
      speed_eq _ positive]
  have delivered : motion state (some before) (.padMotion pad options acceleration) =
      (deliver .mouseMotion
        (transform (padMotion pad state (some before)) 1.0 acceleration options state (some before))
        fun _ => 0.0).2 := rfl
  obtain ⟨scaledX, scaledY⟩ := transform_accelerated straight linear acceleration
    (padMotion pad state (some before)) state (some before)
  rw [delivered, motionTotal_deliver, scaledX, scaledY, moved]
  dsimp only [displacement] at gain ⊢
  rw [gain]
  rfl

/-! ## Strokes -/

/-- A frame, the motions of the mapping, those of the other mappings, and all that is pushed. -/
structure StrokeLabel (F : Type) where
  state : ControllerState F
  own : List (F × F)
  others : List (F × F)
  log : Log F

/-- A frame that is processed to its end with the mapping active. -/
inductive StrokeFrame (mapping : AxisMapping F) :
    Mapper F → List (StrokeLabel F) → Mapper F → Prop where
  | frame {mapper : Mapper F} {state : ControllerState F} {pass : Pass F} {mode : Mode F}
      {early late : List (AxisMapping F)}
      (processed : mapper.processFrame state false = .ok (pass, false))
      (found : mapper.mode = .ok mode)
      (active : activeMappings (mode.axes.zip mapper.axisActive) state = early ++ mapping :: late) :
      StrokeFrame mapping mapper
        [⟨state, Log.motions (motion state mapper.previous mapping),
          Log.motions ((early ++ late).flatMap (motion state mapper.previous)), pass.log⟩]
        pass.mapper

omit [ExactFunctions F] in
/-- What moves the mouse in a frame. -/
theorem strokeFrame_log {mapping : AxisMapping F} {start next : Mapper F}
    {labels : List (StrokeLabel F)} (framed : StrokeFrame mapping start labels next) (wf : start.Wf) :
    next.Wf ∧ ∃ label, labels = [label] ∧ next.previous = some label.state ∧
      label.own = Log.motions (motion label.state start.previous mapping) ∧
      motionTotal label.log.motions = motionTotal label.own + motionTotal label.others := by
  cases framed with
  | @frame state pass mode early late processed found active =>
    have nextWf : pass.mapper.Wf :=
      ((processFrame_kind wf state false).of_ok processed).advances.wf wf
    obtain ⟨_, _, _, _, completed⟩ := completed_frame wf processed
    refine ⟨nextWf, _, rfl, completed.previous, rfl, ?_⟩
    dsimp only
    rw [completed_motions wf processed found, active, List.flatMap_append, List.flatMap_cons,
      List.flatMap_append, motions_append, motions_append, motions_append, motionTotal_append,
      motionTotal_append, motionTotal_append]
    abel

/-- A whole stroke, from an arbitrary state of the pad. -/
theorem stroke_run (straight : options.axis.deadzone = 0.0) (linear : options.axis.exponent = 1.0)
    {acceleration : F} {start final : Mapper F} {labels : List (StrokeLabel F)}
    (run : Path (StrokeFrame (.padMotion pad options acceleration)) start labels final)
    (wf : start.Wf) {first : ControllerState F} (begins : start.previous = some first)
    (steady : (first :: labels.map (·.state)).IsChain (Steady pad velocity)) :
    let last := (labels.map (·.state)).getLast?.getD first
    final.Wf ∧ final.previous = some last ∧
      motionTotal (labels.flatMap (·.own)) =
        (strokeFactor options acceleration velocity * val (displacement pad options first last).1,
          strokeFactor options acceleration velocity * val (displacement pad options first last).2) ∧
      motionTotal (labels.flatMap (·.log.motions)) =
        motionTotal (labels.flatMap (·.own)) + motionTotal (labels.flatMap (·.others)) := by
  induction run with
  | refl =>
    obtain ⟨zeroX, zeroY⟩ := displacement_self pad options first
    refine ⟨wf, begins, ?_, ?_⟩
    · simp [motionTotal, zeroX, zeroY]
    · simp [motionTotal]
  | @snoc mid final past labels _ framed inductionHypothesis =>
    rw [List.map_append, ← List.cons_append, List.isChain_append] at steady
    obtain ⟨initial, _, joined⟩ := steady
    obtain ⟨midWf, previous, own, sum⟩ := inductionHypothesis initial
    obtain ⟨finalWf, label, rfl, next, pushed, parts⟩ := strokeFrame_log framed midWf
    generalize lastBefore : (past.map (·.state)).getLast?.getD first = last at previous own
    have frame : Steady pad velocity last label.state := by
      apply joined _ _ _ rfl
      rw [List.getLast?_cons, lastBefore]
      rfl
    have moved := steady_motion straight linear acceleration frame
    obtain ⟨wayX, wayY⟩ := displacement_trans pad options first last label.state
    rw [previous] at pushed
    rw [← pushed] at moved
    refine ⟨finalWf, by simpa using next, ?_, ?_⟩
    · rw [List.flatMap_append, List.flatMap_singleton, motionTotal_append, own, moved, List.map_append,
        List.map_singleton, List.getLast?_concat, Option.getD_some, wayX, wayY, mul_add, mul_add]
      rfl
    · rw [List.flatMap_append, List.flatMap_append, List.flatMap_append, List.flatMap_singleton,
        List.flatMap_singleton, List.flatMap_singleton, motionTotal_append, motionTotal_append,
        motionTotal_append, sum, parts]
      abel

end

/-! ## Splitting a stroke -/

/-- A stroke at this velocity, split into frames that a mapper processes to their end. -/
structure Stroke {F : Type} [Scalar F] [Platform F] (pad : Trackpad) (options : VectorOptions F)
    (acceleration : F) (velocity : F × F) where
  start : Mapper F
  final : Mapper F
  first : ControllerState F
  labels : List (StrokeLabel F)
  reachable : start.Reachable
  begins : start.previous = some first
  run : Path (StrokeFrame (.padMotion pad options acceleration)) start labels final
  steady : (first :: labels.map (·.state)).IsChain (Steady pad velocity)

namespace Stroke

variable {F : Type} [Scalar F] [Platform F] {pad : Trackpad} {options : VectorOptions F}
  {acceleration : F} {velocity : F × F}

/-- The state after the last frame. -/
def last (stroke : Stroke pad options acceleration velocity) : ControllerState F :=
  (stroke.labels.map (·.state)).getLast?.getD stroke.first

/-- The motion of the mouse that the mapping is the cause of. -/
noncomputable def own [ExactScalar F] (stroke : Stroke pad options acceleration velocity) : ℝ × ℝ :=
  motionTotal (stroke.labels.flatMap (·.own))

noncomputable def others [ExactScalar F] (stroke : Stroke pad options acceleration velocity) : ℝ × ℝ :=
  motionTotal (stroke.labels.flatMap (·.others))

/-- All motion of the mouse. -/
noncomputable def all [ExactScalar F] (stroke : Stroke pad options acceleration velocity) : ℝ × ℝ :=
  motionTotal (stroke.labels.flatMap (·.log.motions))

end Stroke

/-- However a stroke from one place to another is split into frames, it moves the mouse as far. -/
theorem stroke_split {F : Type} [Scalar F] [Platform F] [ExactScalar F] [ExactFunctions F]
    {pad : Trackpad} {options : VectorOptions F} (straight : options.axis.deadzone = 0.0)
    (linear : options.axis.exponent = 1.0) {acceleration : F} {velocity : F × F}
    (one other : Stroke pad options acceleration velocity)
    (starts : (touchpad pad one.first).position = (touchpad pad other.first).position)
    (stops : (touchpad pad one.last).position = (touchpad pad other.last).position) :
    one.own = other.own ∧ one.all = one.own + one.others ∧ other.all = other.own + other.others := by
  obtain ⟨_, _, own, all⟩ := stroke_run straight linear one.run one.reachable.wf one.begins one.steady
  obtain ⟨_, _, own', all'⟩ :=
    stroke_run straight linear other.run other.reachable.wf other.begins other.steady
  refine ⟨?_, all, all'⟩
  have same : displacement pad options one.first one.last =
      displacement pad options other.first other.last := by
    rw [displacement, displacement, starts, stops]
  rw [Stroke.own, own, Stroke.own, own']
  change (_ * val (displacement pad options one.first one.last).1,
    _ * val (displacement pad options one.first one.last).2) = _
  rw [same]
  rfl

/-! ## An example -/

/-- One mode, in which the right pad moves the mouse with an acceleration. -/
def strokeDocument : KdlDocument ℚ where
  nodes := [
    .mk "version" [⟨none, .integer 1, ⟨0, 0⟩⟩] [] ⟨0, 0⟩,
    wordNode "default-mode" ["desk"] [],
    wordNode "mode" ["desk"] [
      .mk "axis" [⟨none, .string "right-pad", ⟨0, 0⟩⟩, ⟨none, .string "mouse-motion", ⟨0, 0⟩⟩,
        ⟨some "sensitivity", .integer 3, ⟨0, 0⟩⟩, ⟨some "acceleration", .integer 1, ⟨0, 0⟩⟩] [] ⟨0, 0⟩]]
  span := ⟨0, 0⟩

def strokeMapping : AxisMapping ℚ := .padMotion .right pointerOptions (Scalar.ofInt 1)

def strokeConfig : Config ℚ :=
  { pointerConfig with modes := [⟨.none, none, [], [strokeMapping], []⟩] }

theorem stroke_accepted : strokeConfig.Accepted := ⟨strokeDocument, by with_unfolding_all rfl⟩

/-- The finger is at this place at this time. -/
def fingerWhen (x : ℚ) (timeUs : UInt32) : ControllerState ℚ :=
  { fingerAt x with imuTimestampUs := timeUs }

theorem example_strokeFrame {mapper : Mapper ℚ} {x : ℚ} {timeUs : UInt32} {pass : Pass ℚ}
    (wf : mapper.Wf) (config : mapper.config = strokeConfig) (activeMode : mapper.activeMode = ⟨0⟩)
    (processed : mapper.processFrame (fingerWhen x timeUs) false = .ok (pass, false)) :
    (∃ label : StrokeLabel ℚ, label.state = fingerWhen x timeUs ∧
      StrokeFrame strokeMapping mapper [label] pass.mapper) ∧
      pass.mapper.config = strokeConfig ∧ pass.mapper.activeMode = ⟨0⟩ ∧
      pass.mapper.previous = some (fingerWhen x timeUs) := by
  have found : mapper.mode = .ok ⟨.none, none, [], [strokeMapping], []⟩ := by
    rw [Mapper.mode, config, activeMode]
    rfl
  obtain ⟨flag, flags⟩ := List.length_eq_one_iff.mp (wf.axisActive _ found)
  obtain ⟨_, _, _, _, completed⟩ := completed_frame wf processed
  have active : activeMappings (List.zip [strokeMapping] mapper.axisActive) (fingerWhen x timeUs) =
      [] ++ strokeMapping :: [] := by
    rw [flags]
    rfl
  exact ⟨⟨_, rfl, .frame processed found active⟩, completed.config.trans config,
    completed.activeMode.trans activeMode, completed.previous⟩

/-- A stroke in one frame, and in two. -/
theorem example_stroke :
    ∃ one other : Stroke (F := ℚ) .right pointerOptions (Scalar.ofInt 1) (0.00005, 0),
      one.labels.length = 1 ∧ other.labels.length = 2 ∧ one.own = other.own := by
  obtain ⟨⟨start, begun, whole, half, rest⟩, runs, facts⟩ := map_ok
    (show (do
        let start ← Mapper.new strokeConfig
        let begun ← start.processFrame (fingerWhen 0 0) false
        let whole ← begun.1.mapper.processFrame (fingerWhen 0.4 8000) false
        let half ← begun.1.mapper.processFrame (fingerWhen 0.2 4000) false
        let rest ← half.1.mapper.processFrame (fingerWhen 0.4 8000) false
        return (start, begun, whole, half, rest) :
          Checked (Mapper ℚ × (Pass ℚ × Bool) × (Pass ℚ × Bool) × (Pass ℚ × Bool) × Pass ℚ × Bool)).map
        (fun run => (run.2.1.2, run.2.2.1.2, run.2.2.2.1.2, run.2.2.2.2.2)) =
          .ok (false, false, false, false) by
      decide +kernel)
  obtain ⟨_, news, runs⟩ := bind_ok runs
  obtain ⟨⟨begun, _⟩, begins, runs⟩ := bind_ok runs
  obtain ⟨⟨whole, _⟩, wholes, runs⟩ := bind_ok runs
  obtain ⟨⟨half, _⟩, halves, runs⟩ := bind_ok runs
  obtain ⟨⟨rest, _⟩, rests, done⟩ := bind_ok runs
  cases done
  simp only [Prod.mk.injEq] at facts
  obtain ⟨rfl, rfl, rfl, rfl⟩ := facts
  have initial : start.Reachable :=
    ⟨strokeConfig, [], start, [], stroke_accepted, by simp, news, rfl⟩
  have fresh : start.config = strokeConfig ∧ start.activeMode = ⟨0⟩ := by
    cases news
    exact ⟨rfl, rfl⟩
  have reached : begun.mapper.Reachable := by
    refine ⟨strokeConfig, [.process (fingerWhen 0 0) false], start, [begun.log], stroke_accepted,
      by simp, news, ?_⟩
    simp only [Mapper.performAll, Mapper.perform, Mapper.process, begins, ok_bind]
    rfl
  obtain ⟨_, config, activeMode, previous⟩ := example_strokeFrame initial.wf fresh.1 fresh.2 begins
  obtain ⟨⟨label, stateOf, frame⟩, _, _, _⟩ := example_strokeFrame reached.wf config activeMode wholes
  obtain ⟨⟨first, firstOf, frameOne⟩, config', activeMode', _⟩ :=
    example_strokeFrame reached.wf config activeMode halves
  have halfWf : half.mapper.Wf :=
    ((processFrame_kind reached.wf _ false).of_ok halves).advances.wf reached.wf
  obtain ⟨⟨second, secondOf, frameTwo⟩, _, _, _⟩ :=
    example_strokeFrame halfWf config' activeMode' rests
  have steadyWhole : Steady .right (0.00005, 0) (fingerWhen 0 0) (fingerWhen 0.4 8000) :=
    ⟨rfl, rfl, rfl, by decide, by decide +kernel, by decide +kernel⟩
  have steadyHalf : Steady .right (0.00005, 0) (fingerWhen 0 0) (fingerWhen 0.2 4000) :=
    ⟨rfl, rfl, rfl, by decide, by decide +kernel, by decide +kernel⟩
  have steadyRest : Steady .right (0.00005, 0) (fingerWhen 0.2 4000) (fingerWhen 0.4 8000) :=
    ⟨rfl, rfl, rfl, by decide, by decide +kernel, by decide +kernel⟩
  let one : Stroke (F := ℚ) .right pointerOptions (Scalar.ofInt 1) (0.00005, 0) :=
    ⟨_, _, _, [label], reached, previous, .single frame, by simpa [stateOf] using steadyWhole⟩
  let other : Stroke (F := ℚ) .right pointerOptions (Scalar.ofInt 1) (0.00005, 0) :=
    ⟨_, _, _, [first, second], reached, previous, (Path.single frameOne).snoc frameTwo, by
      simpa [firstOf, secondOf] using And.intro steadyHalf steadyRest⟩
  refine ⟨one, other, rfl, rfl, (stroke_split rfl rfl one other rfl ?_).1⟩
  simp [one, other, Stroke.last, stateOf, secondOf]

end Scd.Daemon
