import Scd.Core.Exact
import Scd.Daemon.Mapper
import Scd.Foundation.Potential

/-! # The ticks of a trackpad

A finger that moves on a trackpad feels ticks.  The distance since the last tick is kept as
progress, together with the distance from the position it was last measured at it is a potential:
it pays for the ticks, so that there are never more of them than the finger has travelled for.
The progress that has piled up while ticks came too fast is worth one tick and no more.
-/

namespace Scd.Daemon

open Scd.Core Scd.Foundation

/-! ## Calls -/

structure PadCall (F : Type) where
  pad : TouchpadState F
  format : StateFormat
  timestampUs : UInt32

section

variable {F : Type} [Scalar F]

namespace TrackpadHapticState

def call (haptic : TrackpadHapticState F) (call : PadCall F) : TrackpadHapticState F × Bool :=
  trackpadHaptic haptic call.pad call.format call.timestampUs

/-- The state after the calls. -/
def after (haptic : TrackpadHapticState F) (calls : List (PadCall F)) : TrackpadHapticState F :=
  calls.foldl (fun haptic call => (haptic.call call).1) haptic

/-- The calls that tick. -/
def ticks : TrackpadHapticState F → List (PadCall F) → List (PadCall F)
  | _, [] => []
  | haptic, call :: calls =>
    (if (haptic.call call).2 then [call] else []) ++ ticks (haptic.call call).1 calls

end TrackpadHapticState

/-- The distance between two positions. -/
def distance (first second : F × F) : F := Scalar.hypot (second.1 - first.1) (second.2 - first.2)

/-- The total distance between successive positions. -/
def pathLength : Option (F × F) → List (F × F) → F
  | _, [] => 0.0
  | none, position :: positions => pathLength (some position) positions
  | some previous, position :: positions =>
    distance previous position + pathLength (some position) positions

/-- What one call can do. -/
inductive HapticStep (haptic : TrackpadHapticState F) (call : PadCall F) :
    TrackpadHapticState F × Bool → Prop where
  | lift : call.pad.touched = false → HapticStep haptic call (.default, false)
  | restart {tick : StateFormat × UInt32} : call.pad.touched = true → haptic.lastTick = some tick →
      tick.1 ≠ call.format → HapticStep haptic call
        ({ TrackpadHapticState.default with previousPosition := some call.pad.position }, false)
  | first : call.pad.touched = true → haptic.previousPosition = none → HapticStep haptic call
      ({ haptic with previousPosition := some call.pad.position }, false)
  /-- The finger has hardly moved. -/
  | still : call.pad.touched = true → HapticStep haptic call (haptic, false)
  /-- The finger has jumped. -/
  | jump : call.pad.touched = true → HapticStep haptic call
      ({ haptic with previousPosition := some call.pad.position, progress := 0.0 }, false)
  | gather {previous : F × F} : call.pad.touched = true → haptic.previousPosition = some previous →
      haptic.progress + distance previous call.pad.position < trackpadHapticTickTravel →
      HapticStep haptic call
        ({ haptic with
            previousPosition := some call.pad.position
            progress := haptic.progress + distance previous call.pad.position }, false)
  /-- The last tick is too recent. -/
  | hold {previous : F × F} : call.pad.touched = true → haptic.previousPosition = some previous →
      ¬ haptic.progress + distance previous call.pad.position < trackpadHapticTickTravel →
      HapticStep haptic call
        ({ haptic with
            previousPosition := some call.pad.position
            progress := trackpadHapticTickTravel }, false)
  | tick {previous : F × F} : call.pad.touched = true → haptic.previousPosition = some previous →
      ¬ haptic.progress + distance previous call.pad.position < trackpadHapticTickTravel →
      (∀ tick ∈ haptic.lastTick, tick.1 = call.format ∧
        25000 ≤ (timestampDeltaUs call.format call.timestampUs tick.2).toNat) →
      HapticStep haptic call
        (⟨some call.pad.position,
          Scalar.rem (haptic.progress + distance previous call.pad.position)
            trackpadHapticTickTravel,
          some (call.format, call.timestampUs)⟩, true)

theorem call_step (haptic : TrackpadHapticState F) (call : PadCall F) :
    HapticStep haptic call (haptic.call call) := by
  rw [TrackpadHapticState.call, trackpadHaptic]
  cases touched : call.pad.touched with
  | false => exact .lift touched
  | true =>
    rw [if_neg (by decide)]
    split
    · next other =>
      obtain ⟨tick, last, differs⟩ := (Option.any_eq_true _ _).mp other
      exact .restart touched last (of_decide_eq_true differs)
    next same =>
    split
    · next missing => exact .first touched missing
    next previous present =>
    dsimp only
    split
    · exact .still touched
    split
    · exact .jump touched
    split
    · next short => exact .gather touched present short
    next long =>
    split
    · exact .hold touched present long
    next apart =>
    refine .tick touched present long fun tick last => ?_
    rw [Option.mem_def.mp last] at same apart
    simp only [Option.any_some, decide_eq_true_eq, not_not] at same apart
    exact ⟨same, UInt32.le_iff_toNat_le.mp (UInt32.not_lt.mp apart)⟩

/-! ## Ticks are apart -/

/-- The second time is at least 25 milliseconds after the first one, by the format's clock. -/
def Apart (format : StateFormat) (earlier later : UInt32) : Prop :=
  25000 ≤ (timestampDeltaUs format later earlier).toNat

/-- The time of the last tick, if it was read off the format's clock. -/
def TrackpadHapticState.lastTime (haptic : TrackpadHapticState F) (format : StateFormat) :
    List UInt32 :=
  (haptic.lastTick.filter fun tick => tick.1 = format).toList.map Prod.snd

namespace TrackpadHapticState

variable {haptic : TrackpadHapticState F} {format : StateFormat}

omit [Scalar F] in
theorem lastTime_none (none : haptic.lastTick = none) : haptic.lastTime format = [] := by
  simp [lastTime, none]

omit [Scalar F] in
theorem lastTime_some {tick : StateFormat × UInt32} (last : haptic.lastTick = some tick)
    (same : tick.1 = format) : haptic.lastTime format = [tick.2] := by
  simp [lastTime, last, same, Option.filter]

omit [Scalar F] in
theorem lastTime_other {tick : StateFormat × UInt32} (last : haptic.lastTick = some tick)
    (other : tick.1 ≠ format) : haptic.lastTime format = [] := by
  simp [lastTime, last, other, Option.filter]

omit [Scalar F] in
theorem lastTime_tick (position : Option (F × F)) (progress : F) (timestampUs : UInt32) :
    lastTime ⟨position, progress, some (format, timestampUs)⟩ format = [timestampUs] := by
  simp [lastTime, Option.filter]

end TrackpadHapticState

theorem ticks_apart {format : StateFormat} {calls : List (PadCall F)}
    (touched : ∀ call ∈ calls, call.pad.touched = true ∧ call.format = format)
    (haptic : TrackpadHapticState F) :
    (haptic.lastTime format ++ (haptic.ticks calls).map PadCall.timestampUs).IsChain
      (Apart format) := by
  induction calls generalizing haptic with
  | nil =>
    rw [TrackpadHapticState.ticks, List.map_nil, List.append_nil]
    cases last : haptic.lastTick with
    | none =>
      rw [TrackpadHapticState.lastTime_none last]
      exact .nil
    | some tick =>
      by_cases same : tick.1 = format
      · rw [TrackpadHapticState.lastTime_some last same]
        exact .singleton _
      · rw [TrackpadHapticState.lastTime_other last same]
        exact .nil
  | cons call calls inductionHypothesis =>
    obtain ⟨⟨pressed, rfl⟩, rest⟩ := List.forall_mem_cons.mp touched
    have later := inductionHypothesis rest (haptic.call call).1
    have step := call_step haptic call
    rw [TrackpadHapticState.ticks]
    generalize haptic.call call = result at step later
    cases step with
    | lift up => exact absurd (up.symm.trans pressed) (by decide)
    | restart _ last other =>
      rw [TrackpadHapticState.lastTime_other last other]
      exact later
    | first | still | jump | gather | hold => exact later
    | tick _ _ _ apart =>
      rw [TrackpadHapticState.lastTime_tick] at later
      cases last : haptic.lastTick with
      | none =>
        rw [TrackpadHapticState.lastTime_none last]
        exact later
      | some tick =>
        obtain ⟨same, long⟩ := apart tick last
        rw [TrackpadHapticState.lastTime_some last same]
        exact later.cons_cons long

/-! ## Ticks are paid for -/

section

open ExactScalar

variable [ExactScalar F]

theorem val_tickTravel_pos : 0 < val (trackpadHapticTickTravel : F) := by
  rw [trackpadHapticTickTravel, val_div, val_literal_true, val_literal_true]
  norm_num

theorem distance_nonneg (first second : F × F) : 0 ≤ val (distance first second) :=
  hypot_nonneg _ _

theorem distance_self (position : F × F) : val (distance position position) = 0 := by
  apply (hypot_eq_zero _ _).mpr
  simp

variable [ExactFunctions F]

/-- What remains of a travel after a tick. -/
theorem rem_tick {travel : F} (long : ¬ travel < trackpadHapticTickTravel) :
    0 ≤ val (Scalar.rem travel trackpadHapticTickTravel) ∧
      val (Scalar.rem travel trackpadHapticTickTravel) ≤ val (trackpadHapticTickTravel : F) ∧
      val (trackpadHapticTickTravel : F) + val (Scalar.rem travel trackpadHapticTickTravel) ≤
        val travel := by
  have positive := val_tickTravel_pos (F := F)
  rw [val_lt, not_lt] at long
  rw [ExactFunctions.val_rem]
  generalize val (trackpadHapticTickTravel : F) = tick at positive long ⊢
  generalize val travel = travel at long ⊢
  have once : 1 ≤ travel / tick := (one_le_div positive).mpr long
  have whole : truncate (travel / tick) = ⌊travel / tick⌋ := if_pos (by linarith)
  have below : tick * ⌊travel / tick⌋ ≤ travel := by
    have floor := mul_le_mul_of_nonneg_left (Int.floor_le (travel / tick)) positive.le
    rwa [mul_div_cancel₀ travel positive.ne'] at floor
  have above : travel < tick * ⌊travel / tick⌋ + tick := by
    have floor := mul_lt_mul_of_pos_left (Int.lt_floor_add_one (travel / tick)) positive
    rwa [mul_div_cancel₀ travel positive.ne', mul_add, mul_one] at floor
  have least : tick ≤ tick * ⌊travel / tick⌋ := by
    have floor : (1 : ℤ) ≤ ⌊travel / tick⌋ := Int.le_floor.mpr (by exact_mod_cast once)
    have scaled := mul_le_mul_of_nonneg_left (Int.cast_le (R := ℝ).mpr floor) positive.le
    rwa [Int.cast_one, mul_one] at scaled
  rw [whole]
  refine ⟨?_, ?_, ?_⟩ <;> linarith

theorem distance_triangle (first second third : F × F) :
    val (distance first third) ≤ val (distance first second) + val (distance second third) := by
  have split (x y z : F) : z - x = (y - x) + (z - y) := by
    apply val_injective
    simp
  rw [distance, split first.1 second.1, split first.2 second.2]
  exact ExactFunctions.hypot_add_le _ _ _ _

/-! ### The potential

The ghost beside the state is the position of the last call, which the state does not keep while
the finger hardly moves. -/

/-- The progress is that of one tick at most, and a position is kept of what has been touched. -/
structure Sound (state : TrackpadHapticState F × Option (F × F)) : Prop where
  nonneg : 0 ≤ val state.1.progress
  capped : val state.1.progress ≤ val (trackpadHapticTickTravel : F)
  followed : state.1.previousPosition.isSome → state.2.isSome

/-- The distance from the one position to the other, where there are two. -/
noncomputable def gap : Option (F × F) → Option (F × F) → ℝ
  | some first, some second => val (distance first second)
  | _, _ => 0

noncomputable def potential (state : TrackpadHapticState F × Option (F × F)) : ℝ :=
  val state.1.progress + gap state.1.previousPosition state.2

def follow (state : TrackpadHapticState F × Option (F × F)) (call : PadCall F) :
    TrackpadHapticState F × Option (F × F) :=
  ((state.1.call call).1, some call.pad.position)

noncomputable def paid (state : TrackpadHapticState F × Option (F × F)) (call : PadCall F) : ℝ :=
  if (state.1.call call).2 then val (trackpadHapticTickTravel : F) else 0

noncomputable def income (state : TrackpadHapticState F × Option (F × F)) (call : PadCall F) : ℝ :=
  gap state.2 (some call.pad.position)

omit [ExactFunctions F] in
theorem gap_nonneg (first second : Option (F × F)) : 0 ≤ gap first second := by
  cases first <;> cases second <;> first | exact le_refl _ | exact distance_nonneg _ _

/-- A way over the last position is no shorter. -/
theorem gap_le {previous last : Option (F × F)} (followed : previous.isSome → last.isSome)
    (position : F × F) :
    gap previous (some position) ≤ gap previous last + gap last (some position) := by
  cases previous with
  | none => exact add_nonneg (le_refl _) (gap_nonneg _ _)
  | some first =>
    obtain ⟨second, present⟩ := Option.isSome_iff_exists.mp (followed rfl)
    rw [present]
    exact distance_triangle first second position

theorem progress_within {haptic : TrackpadHapticState F}
    (within : 0 ≤ val haptic.progress ∧ val haptic.progress ≤ val (trackpadHapticTickTravel : F))
    (call : PadCall F) :
    0 ≤ val (haptic.call call).1.progress ∧
      val (haptic.call call).1.progress ≤ val (trackpadHapticTickTravel : F) := by
  have positive := val_tickTravel_pos (F := F)
  have zero : 0 ≤ val (0.0 : F) ∧ val (0.0 : F) ≤ val (trackpadHapticTickTravel : F) := by
    rw [val_zero]
    exact ⟨le_refl _, positive.le⟩
  have step := call_step haptic call
  generalize haptic.call call = result at step ⊢
  cases step with
  | lift | restart | jump => exact zero
  | first | still => exact within
  | @gather previous _ _ short =>
    have travel := distance_nonneg previous call.pad.position
    rw [val_lt] at short
    refine ⟨?_, short.le⟩
    rw [val_add]
    linarith
  | hold => exact ⟨positive.le, le_refl _⟩
  | tick _ _ long => exact ⟨(rem_tick long).1, (rem_tick long).2.1⟩

theorem sound_follow {state : TrackpadHapticState F × Option (F × F)} {call : PadCall F}
    (sound : Sound state) (_ : call.pad.touched = true) : Sound (follow state call) := by
  obtain ⟨nonneg, capped⟩ := progress_within ⟨sound.nonneg, sound.capped⟩ call
  exact ⟨nonneg, capped, fun _ => rfl⟩

omit [ExactFunctions F] in
theorem potential_nonneg {state : TrackpadHapticState F × Option (F × F)} (sound : Sound state) :
    0 ≤ potential state :=
  add_nonneg sound.nonneg (gap_nonneg _ _)

/-- A tick is paid with the travel since the last one. -/
theorem paid_follow {state : TrackpadHapticState F × Option (F × F)} {call : PadCall F}
    (sound : Sound state) (touched : call.pad.touched = true) :
    paid state call + potential (follow state call) ≤ potential state + income state call := by
  obtain ⟨haptic, last⟩ := state
  have way := gap_le sound.followed call.pad.position
  have early := gap_nonneg haptic.previousPosition last
  have late := gap_nonneg last (some call.pad.position)
  have nonneg : 0 ≤ val haptic.progress := sound.nonneg
  have here : gap (some call.pad.position) (some call.pad.position) = 0 := distance_self _
  have step := call_step haptic call
  unfold paid potential income follow
  dsimp only at way ⊢
  generalize haptic.call call = result at step ⊢
  cases step with
  | lift up => exact absurd (up.symm.trans touched) (by decide)
  | restart | jump =>
    simp only [TrackpadHapticState.default, Bool.false_eq_true, if_false, here, val_zero]
    linarith
  | first _ missing =>
    simp only [Bool.false_eq_true, if_false, here]
    linarith
  | still =>
    simp only [Bool.false_eq_true, if_false]
    linarith
  | gather _ present _ =>
    rw [present] at way early ⊢
    simp only [Bool.false_eq_true, if_false, here, val_add]
    change val (distance _ _) ≤ _ at way
    linarith
  | hold _ present long =>
    rw [present] at way early ⊢
    rw [val_lt, val_add, not_lt] at long
    simp only [Bool.false_eq_true, if_false, here]
    change val (distance _ _) ≤ _ at way
    linarith
  | tick _ present long _ =>
    have enough := (rem_tick long).2.2
    rw [present] at way early ⊢
    rw [val_add] at enough
    simp only [if_true, here]
    change val (distance _ _) ≤ _ at way
    linarith

/-! ### Stretches -/

omit [ExactFunctions F] in
theorem total_paid (state : TrackpadHapticState F × Option (F × F)) (calls : List (PadCall F)) :
    total follow paid state calls =
      (state.1.ticks calls).length * val (trackpadHapticTickTravel : F) := by
  induction calls generalizing state with
  | nil => simp [TrackpadHapticState.ticks]
  | cons call calls inductionHypothesis =>
    rw [total_cons, inductionHypothesis, TrackpadHapticState.ticks, paid, List.length_append]
    split
    · simp only [List.length_singleton, follow]
      push_cast
      ring
    · simp only [List.length_nil, zero_add, follow]

omit [ExactFunctions F] in
theorem total_income (state : TrackpadHapticState F × Option (F × F)) (calls : List (PadCall F)) :
    total follow income state calls =
      val (pathLength state.2 (calls.map fun call => call.pad.position)) := by
  induction calls generalizing state with
  | nil => cases last : state.2 <;> simp [pathLength]
  | cons call calls inductionHypothesis =>
    rw [total_cons, inductionHypothesis, List.map_cons, income]
    cases last : state.2 with
    | none => exact zero_add _
    | some position => rw [pathLength, val_add, gap]; rfl

theorem after_within (calls : List (PadCall F)) :
    0 ≤ val (TrackpadHapticState.default.after calls : TrackpadHapticState F).progress ∧
      val (TrackpadHapticState.default.after calls : TrackpadHapticState F).progress ≤
        val (trackpadHapticTickTravel : F) := by
  induction calls using List.reverseRecOn with
  | nil =>
    refine ⟨le_of_eq val_zero.symm, ?_⟩
    exact (le_of_eq val_zero).trans val_tickTravel_pos.le
  | append_singleton calls call inductionHypothesis =>
    rw [TrackpadHapticState.after, List.foldl_append]
    exact progress_within inductionHypothesis call

omit [ExactScalar F] [ExactFunctions F] in
/-- A finger that has been lifted leaves nothing behind. -/
theorem after_lifted {calls : List (PadCall F)}
    (lifted : ∀ call ∈ calls.getLast?, call.pad.touched = false) :
    (TrackpadHapticState.default : TrackpadHapticState F).after calls = .default := by
  cases calls using List.reverseRecOn with
  | nil => rfl
  | append_singleton calls call =>
    have up : call.pad.touched = false := lifted call (by simp)
    rw [TrackpadHapticState.after, List.foldl_append]
    simp [TrackpadHapticState.call, trackpadHaptic, up]

/-- After every sequence of calls, the progress is between nothing and one tick.  In a stretch
    of it that is touched in one format the ticks are apart, and in one that is touched from its
    start, with the finger off the pad before, their number is at most what the finger has
    travelled for. -/
theorem trackpad_ticks (before stretch : List (PadCall F)) :
    let haptic : TrackpadHapticState F := TrackpadHapticState.default.after before
    (0 ≤ val haptic.progress ∧ val haptic.progress ≤ val (trackpadHapticTickTravel : F)) ∧
      (∀ format, (∀ call ∈ stretch, call.pad.touched = true ∧ call.format = format) →
        ((haptic.ticks stretch).map PadCall.timestampUs).IsChain (Apart format)) ∧
      ((∀ call ∈ before.getLast?, call.pad.touched = false) →
        (∀ call ∈ stretch, call.pad.touched = true) →
          (haptic.ticks stretch).length * val (trackpadHapticTickTravel : F) ≤
            val (pathLength none (stretch.map fun call => call.pad.position))) := by
  refine ⟨after_within before, ?_, ?_⟩
  · intro format touched
    exact (ticks_apart touched _).right_of_append
  · intro lifted touched
    rw [after_lifted lifted]
    have initial : Sound (F := F) (.default, none) :=
      ⟨(after_within []).1, (after_within []).2, fun some => some⟩
    have spent : total follow paid _ stretch ≤ potential _ + total follow income _ stretch :=
      total_le Sound (fun call => call.pad.touched = true) sound_follow paid_follow
        potential_nonneg initial touched
    have start : potential (F := F) (.default, none) = 0 := (add_zero _).trans val_zero
    rw [total_paid, total_income, start] at spent
    linarith

end

end

/-- Two movements of a bit more than a tick. -/
def exampleSwipe : List (PadCall ℚ) :=
  [0, 30000, 60000].map fun time =>
    ⟨⟨true, false, (time.toNat * 11 / 3000000, 0)⟩, .standard, time⟩

theorem example_ticks :
    ((TrackpadHapticState.default.ticks exampleSwipe).map PadCall.timestampUs) = [30000, 60000] ∧
      ((TrackpadHapticState.default.ticks exampleSwipe).map PadCall.timestampUs).IsChain
        (Apart .standard) ∧
      (TrackpadHapticState.default.ticks exampleSwipe).length *
          ExactScalar.val (trackpadHapticTickTravel : ℚ) ≤
        ExactScalar.val (pathLength none (exampleSwipe.map fun call => call.pad.position)) := by
  have touched : ∀ call ∈ exampleSwipe, call.pad.touched = true ∧ call.format = .standard := by
    intro call member
    obtain ⟨time, _, rfl⟩ := List.mem_map.mp member
    exact ⟨rfl, rfl⟩
  obtain ⟨_, apart, paid⟩ := trackpad_ticks [] exampleSwipe
  refine ⟨by decide +kernel, apart _ touched, paid (by simp) fun call member => (touched call member).1⟩

end Scd.Daemon
