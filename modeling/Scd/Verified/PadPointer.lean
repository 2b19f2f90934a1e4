import Mathlib.Order.Interval.Set.UnorderedInterval
import Scd.Core.Exact
import Scd.Verified.Clicks

/-! # The pointers of the on-screen keyboard

Over exact arithmetic a pointer stays on its pad.  It rests while the pad is pressed and in
the frame that lets go, and otherwise it approaches the finger, moved by the offset that the
release has left.
-/

namespace Scd.Core

open Scd.Foundation

/-! ## Calls -/

/-- The calls of the keyboard's state that show it or move a pointer. -/
inductive PointerCall (F : Type) where
  | setVisible (visible : Bool)
  | updatePad (side : OskPadSide) (pad : OskPad F) (recordRisingEdge : Bool)

namespace PointerCall

variable {F : Type} [Scalar F]

def op : PointerCall F → OskOp F
  | .setVisible visible => .setVisible visible
  | .updatePad side pad recordRisingEdge => .updatePad side pad recordRisingEdge

def runFrom (state : OskState F) (calls : List (PointerCall F)) : OskState F :=
  calls.foldl (fun state call => call.op.apply state) state

def run (calls : List (PointerCall F)) : OskState F := runFrom .default calls

/-- The frames with recording on that are pressed after a state that is not. -/
def presses (pressed : OskPadSide → Bool) : List (PointerCall F) → Nat
  | [] => 0
  | .setVisible _ :: calls => presses (fun _ => false) calls
  | .updatePad side pad recordRisingEdge :: calls =>
    (if recordRisingEdge && pad.pressed && !pressed side then 1 else 0) +
      presses (Function.update pressed side pad.pressed) calls

/-- What the calls open and record. -/
def log (state : OskState F) : List (PointerCall F) → List (OskEvent F)
  | [] => []
  | call :: calls => call.op.events state ++ log (call.op.apply state) calls

end PointerCall

/-! ## One coordinate -/

namespace OskPad

variable {F : Type} [Scalar F] [ExactScalar F]

open ExactScalar

/-- A coordinate that lies on the pad. -/
def Within (coordinate : F) : Prop :=
  val coordinate ∈ Set.Icc (-val (oskPadLimit : F)) (val (oskPadLimit : F))

/-- Where a pointer is heading: the finger and the offset, on the pad. -/
def target (finger offset : F) : F :=
  clamp (clamp finger (-oskPadLimit) oskPadLimit + offset) (-oskPadLimit) oskPadLimit

/-- A step towards a target: not beyond it, and at least 15 percent of the distance. -/
structure Approaches (previous target next : F) : Prop where
  between : val next ∈ Set.uIcc (val previous) (val target)
  step : 0.15 * |val target - val previous| ≤ |val next - val previous|

theorem limit_pos : 0 < val (oskPadLimit : F) := by
  have five : val (5.0 : F) = 5 := by
    rw [val_literal]
    norm_num
  have six : val (6.0 : F) = 6 := by
    rw [val_literal]
    norm_num
  rw [oskPadLimit, val_div, five, six]
  norm_num

theorem within_clamp (value : F) : Within (clamp value (-oskPadLimit) oskPadLimit) := by
  have positive := limit_pos (F := F)
  rw [Within, val_clamp, val_neg]
  constructor
  · exact le_min (le_max_right _ _) (by linarith)
  · exact min_le_right _ _

theorem clamp_of_within {value : F} (within : Within value) :
    clamp value (-oskPadLimit) oskPadLimit = value := by
  apply val_injective
  rw [val_clamp, val_neg, max_eq_left within.1, min_eq_left within.2]

/-- The response of the filter. -/
theorem response_bounds (distance : F) :
    let response := clamp (distance / oskPadFullResponseDistance) oskPadMinResponse 1.0
    0.15 ≤ val response ∧ val response ≤ 1 := by
  intro response
  have least : val (oskPadMinResponse : F) = 0.15 := by
    rw [oskPadMinResponse, val_literal]
  rw [val_clamp, least, val_one]
  constructor
  · exact le_min (le_max_right _ _) (by norm_num)
  · exact min_le_right _ _

theorem smooth_approaches (finger previous offset : F) :
    Approaches previous (target finger offset)
      (smooth (clamp finger (-oskPadLimit) oskPadLimit) previous offset) := by
  obtain ⟨low, high⟩ := response_bounds (Scalar.abs (target finger offset - previous))
  have moved : val (smooth (clamp finger (-oskPadLimit) oskPadLimit) previous offset) =
      val previous + val (clamp (Scalar.abs (target finger offset - previous) /
        oskPadFullResponseDistance) oskPadMinResponse 1.0) *
          (val (target finger offset) - val previous) := by
    unfold smooth
    rw [val_add, val_mul, val_sub]
    rfl
  generalize val (clamp (Scalar.abs (target finger offset - previous) /
    oskPadFullResponseDistance) oskPadMinResponse 1.0) = response at low high moved
  constructor
  · rw [moved, Set.mem_uIcc]
    cases le_total (val previous) (val (target finger offset)) with
    | inl rightwards =>
      left
      constructor <;> nlinarith
    | inr leftwards =>
      right
      constructor <;> nlinarith
  · rw [moved, add_sub_cancel_left, abs_mul, abs_of_nonneg (by linarith : 0 ≤ response)]
    exact mul_le_mul_of_nonneg_right low (abs_nonneg _)

theorem Approaches.within {previous target next : F} (approaches : Approaches previous target next)
    (first : Within previous) (second : Within target) : Within next :=
  Set.uIcc_subset_Icc first second approaches.between

/-- In the frame that lets go the target is the place of the pointer. -/
theorem smooth_released {previous : F} (within : Within previous) (finger : F) :
    smooth finger previous (previous - finger) = previous := by
  have arrived : finger + (previous - finger) = previous := by
    apply val_injective
    rw [val_add, val_sub]
    ring
  apply val_injective
  unfold smooth
  rw [arrived, clamp_of_within within, val_add, val_mul, val_sub, sub_self, mul_zero, add_zero]

end OskPad

/-! ## One frame -/

namespace OskPad

variable {F : Type} [Scalar F] [ExactScalar F]

/-- The finger of a frame, on the pad. -/
def finger (pad : OskPad F) : F × F :=
  (clamp pad.position.1 (-oskPadLimit) oskPadLimit,
    clamp pad.position.2 (-oskPadLimit) oskPadLimit)

/-- What a frame does to a pad and to its offset. -/
structure Moves (previous : OskPad F) (offset : Option (F × F)) (pad next : OskPad F)
    (nextOffset : Option (F × F)) : Prop where
  touched : next.touched = pad.touched
  pressed : next.pressed = pad.pressed
  /-- A touch that begins or ends forgets the offset. -/
  fresh : (pad.touched && previous.touched) = false →
    next.position = pad.finger ∧ nextOffset = none
  rests : pad.touched = true → previous.touched = true → pad.pressed = true →
    next.position = previous.position ∧ nextOffset = offset
  released : pad.touched = true → previous.touched = true → pad.pressed = false →
    previous.pressed = true → next.position = previous.position ∧
      nextOffset = some (previous.position.1 - pad.finger.1, previous.position.2 - pad.finger.2)
  approaches : pad.touched = true → previous.touched = true → pad.pressed = false →
    previous.pressed = false → nextOffset = offset ∧
      Approaches previous.position.1 (target pad.position.1 (offset.getD (0.0, 0.0)).1)
        next.position.1 ∧
      Approaches previous.position.2 (target pad.position.2 (offset.getD (0.0, 0.0)).2)
        next.position.2

/-- Both coordinates lie on the pad. -/
def Inside (pad : OskPad F) : Prop := Within pad.position.1 ∧ Within pad.position.2

theorem finger_within (pad : OskPad F) : Within pad.finger.1 ∧ Within pad.finger.2 :=
  ⟨within_clamp _, within_clamp _⟩

section

variable {previous pad : OskPad F} {offset : Option (F × F)}

omit [ExactScalar F] in
theorem move_fresh (fresh : (pad.touched && previous.touched) = false) :
    previous.move offset pad = ({ pad with position := pad.finger }, none) := by
  have apart : (!pad.touched || !previous.touched) = true := by
    rw [← Bool.not_and, fresh]
    rfl
  simp [move, finger, apart]

omit [ExactScalar F] in
theorem move_rests (touched : pad.touched = true) (held : previous.touched = true)
    (pressed : pad.pressed = true) :
    previous.move offset pad = ({ pad with position := previous.position }, offset) := by
  simp [move, touched, held, pressed]

theorem move_released (inside : previous.Inside) (touched : pad.touched = true)
    (held : previous.touched = true) (up : pad.pressed = false)
    (pressed : previous.pressed = true) :
    previous.move offset pad = ({ pad with position := previous.position },
      some (previous.position.1 - pad.finger.1, previous.position.2 - pad.finger.2)) := by
  have first := smooth_released inside.1 pad.finger.1
  have second := smooth_released inside.2 pad.finger.2
  unfold finger at *
  simp [move, touched, held, up, pressed, first, second]

omit [ExactScalar F] in
theorem move_free (touched : pad.touched = true) (held : previous.touched = true)
    (up : pad.pressed = false) (free : previous.pressed = false) :
    previous.move offset pad = ({ pad with position :=
      (smooth pad.finger.1 previous.position.1 (offset.getD (0.0, 0.0)).1,
        smooth pad.finger.2 previous.position.2 (offset.getD (0.0, 0.0)).2) }, offset) := by
  simp [move, finger, touched, held, up, free]

theorem move_moves (inside : previous.Inside) :
    Moves previous offset pad (previous.move offset pad).1 (previous.move offset pad).2 := by
  -- the frame is fresh, rests, lets go or is free
  cases continues : pad.touched && previous.touched with
  | false =>
    rw [move_fresh continues]
    exact ⟨rfl, rfl, fun _ => ⟨rfl, rfl⟩, fun touched held => by simp [touched, held] at continues,
      fun touched held => by simp [touched, held] at continues,
      fun touched held => by simp [touched, held] at continues⟩
  | true =>
    obtain ⟨touched, held⟩ := Bool.and_eq_true_iff.mp continues
    cases pressed : pad.pressed with
    | true =>
      rw [move_rests touched held pressed]
      exact ⟨rfl, rfl, fun fresh => by simp [touched, held] at fresh, fun _ _ _ => ⟨rfl, rfl⟩,
        fun _ _ up => by simp [pressed] at up, fun _ _ up => by simp [pressed] at up⟩
    | false =>
      cases before : previous.pressed with
      | true =>
        rw [move_released inside touched held pressed before]
        exact ⟨rfl, rfl, fun fresh => by simp [touched, held] at fresh,
          fun _ _ down => by simp [pressed] at down, fun _ _ _ _ => ⟨rfl, rfl⟩,
          fun _ _ _ free => by simp [before] at free⟩
      | false =>
        rw [move_free touched held pressed before]
        exact ⟨rfl, rfl, fun fresh => by simp [touched, held] at fresh,
          fun _ _ down => by simp [pressed] at down, fun _ _ _ down => by simp [before] at down,
          fun _ _ _ _ => ⟨rfl, smooth_approaches _ _ _, smooth_approaches _ _ _⟩⟩

theorem move_inside (inside : previous.Inside) : (previous.move offset pad).1.Inside := by
  have moves : Moves previous offset pad (previous.move offset pad).1 (previous.move offset pad).2 :=
    move_moves inside
  cases continues : pad.touched && previous.touched with
  | false =>
    rw [Inside, (moves.fresh continues).1]
    exact pad.finger_within
  | true =>
    obtain ⟨touched, held⟩ := Bool.and_eq_true_iff.mp continues
    cases pressed : pad.pressed with
    | true =>
      rw [Inside, (moves.rests touched held pressed).1]
      exact inside
    | false =>
      cases before : previous.pressed with
      | true =>
        rw [Inside, (moves.released touched held pressed before).1]
        exact inside
      | false =>
        obtain ⟨_, first, second⟩ := moves.approaches touched held pressed before
        exact ⟨first.within inside.1 (within_clamp _), second.within inside.2 (within_clamp _)⟩

end

end OskPad

/-! ## The pads of a state -/

namespace OskState

section

variable {F : Type}

@[simp] theorem pad_recordClick (state : OskState F) (side other : OskPadSide)
    (position : F × F) : (state.recordClick side position).pad other = state.pad other := by
  cases other <;> rfl

theorem pad_setPad (state : OskState F) (side other : OskPadSide) (pad : OskPad F) :
    (state.setPad side pad).pad other = if other = side then pad else state.pad other := by
  cases side <;> cases other <;> rfl

theorem pad_setVisible (state : OskState F) (other : OskPadSide) (visible : Bool) :
    (state.setVisible visible).pad other =
      { state.pad other with touched := false, pressed := false } := by
  unfold setVisible
  cases other <;> split <;> rfl

end

section

variable {F : Type} [Scalar F]

variable (state : OskState F) (side other : OskPadSide) (pad : OskPad F) (recordRisingEdge : Bool)

theorem pad_updatePad :
    (state.updatePad side pad recordRisingEdge).pad other =
      if other = side then ((state.pad side).move (state.padOffsets side) pad).1
      else state.pad other := by
  unfold updatePad
  dsimp only
  split
  · rw [pad_recordClick]
    exact pad_setPad _ _ _ _
  · exact pad_setPad _ _ _ _

theorem padOffsets_updatePad :
    (state.updatePad side pad recordRisingEdge).padOffsets =
      Function.update state.padOffsets side
        ((state.pad side).move (state.padOffsets side) pad).2 := by
  unfold updatePad
  dsimp only
  split <;> rfl

end

end OskState

/-! ## Whole runs -/

namespace PointerCall

section

variable {F : Type} [Scalar F]

theorem path_log (state : OskState F) (calls : List (PointerCall F)) :
    Path OskStep state (log state calls) (runFrom state calls) := by
  induction calls generalizing state with
  | nil => exact .refl
  | cons call calls inductionHypothesis =>
    exact (Path.single (.op call.op)).trans (inductionHypothesis (call.op.apply state))

theorem move_pressed (previous pad : OskPad F) (offset : Option (F × F)) :
    (previous.move offset pad).1.pressed = pad.pressed := by
  unfold OskPad.move
  dsimp only
  split
  · rfl
  split <;> rfl

/-- The flags that `presses` keeps are those of the pads. -/
theorem pressed_updatePad (state : OskState F) (side : OskPadSide) (pad : OskPad F)
    (recordRisingEdge : Bool) :
    (fun other => ((state.updatePad side pad recordRisingEdge).pad other).pressed) =
      Function.update (fun other => (state.pad other).pressed) side pad.pressed := by
  funext other
  rw [OskState.pad_updatePad]
  by_cases same : other = side
  · subst same
    rw [if_pos rfl, move_pressed, Function.update_self]
  · rw [if_neg same, Function.update_of_ne same]

/-- One click is recorded for each press. -/
theorem length_recorded (state : OskState F) (calls : List (PointerCall F)) :
    (recorded (log state calls)).length =
      presses (fun side => (state.pad side).pressed) calls := by
  induction calls generalizing state with
  | nil => rfl
  | cons call calls inductionHypothesis =>
    rw [log, recorded_append, List.length_append, inductionHypothesis]
    cases call with
    | setVisible visible =>
      have none : recorded ((OskOp.setVisible visible : OskOp F).events state) = [] := by
        unfold OskOp.events
        dsimp only
        split <;> rfl
      have flags : (fun side => ((state.setVisible visible).pad side).pressed) =
          fun _ => false := by
        funext side
        rw [OskState.pad_setVisible]
      simp only [op, OskOp.apply, none, flags, presses, List.length_nil, Nat.zero_add]
    | updatePad side pad recordRisingEdge =>
      have one : (recorded ((OskOp.updatePad side pad recordRisingEdge).events state)).length =
          if recordRisingEdge && pad.pressed && !(state.pad side).pressed then 1 else 0 := by
        unfold OskOp.events
        dsimp only
        rw [move_pressed]
        split <;> rfl
      simp only [op, OskOp.apply, one, pressed_updatePad, presses]

end

section

variable {F : Type} [Scalar F] [ExactScalar F]

/-- No call moves a pointer off its pad. -/
theorem apply_inside (call : PointerCall F) {state : OskState F}
    (inside : ∀ side, (state.pad side).Inside) (side : OskPadSide) :
    ((call.op.apply state).pad side).Inside := by
  cases call with
  | setVisible visible =>
    have same := OskState.pad_setVisible state side visible
    simp only [op, OskOp.apply, same]
    exact inside side
  | updatePad moved pad recordRisingEdge =>
    have same := OskState.pad_updatePad state moved side pad recordRisingEdge
    simp only [op, OskOp.apply, same]
    split
    · exact OskPad.move_inside (inside moved)
    · exact inside side

theorem runFrom_inside (calls : List (PointerCall F)) {state : OskState F}
    (inside : ∀ side, (state.pad side).Inside) (side : OskPadSide) :
    ((runFrom state calls).pad side).Inside := by
  induction calls generalizing state with
  | nil => exact inside side
  | cons call calls inductionHypothesis =>
    exact inductionHypothesis (apply_inside call inside)

theorem default_inside (side : OskPadSide) :
    ((OskState.default : OskState F).pad side).Inside := by
  have positive := OskPad.limit_pos (F := F)
  have zero : OskPad.Within (0.0 : F) := by
    rw [OskPad.Within, ExactScalar.val_zero]
    constructor <;> linarith
  cases side with
  | left => exact ⟨zero, zero⟩
  | right => exact ⟨zero, zero⟩

/-- What a frame does to its own pad, to the other one, and to the clicks. -/
structure Frame (before after : OskState F) (side : OskPadSide) (pad : OskPad F) : Prop where
  moves : OskPad.Moves (before.pad side) (before.padOffsets side) pad (after.pad side)
    (after.padOffsets side)
  others : ∀ other ≠ side, after.pad other = before.pad other ∧
    after.padOffsets other = before.padOffsets other

theorem pointers_follow (calls : List (PointerCall F)) :
    (∀ side, ((run calls).pad side).Inside) ∧
      (∀ side pad recordRisingEdge,
        Frame (run calls) (run (calls ++ [.updatePad side pad recordRisingEdge])) side pad) ∧
      (∀ side pad, pad.touched = true → ((run calls).pad side).touched = true →
        pad.pressed = true → ((run calls).pad side).pressed = false →
        (OskOp.updatePad side pad true).events (run calls) =
          [.clicked (OskOp.clickOf (run calls) side ((run calls).pad side).position)]) ∧
      (∀ visible side, (run (calls ++ [.setVisible visible])).pad side =
          { (run calls).pad side with touched := false, pressed := false } ∧
        (run (calls ++ [.setVisible visible])).padOffsets side = none) ∧
      (recorded (log .default calls)).length = presses (fun _ => false) calls ∧
      (run calls).clickSequence = UInt64.ofNat (presses (fun _ => false) calls) := by
  have inside := runFrom_inside calls (default_inside (F := F))
  have next (call : PointerCall F) : run (calls ++ [call]) = call.op.apply (run calls) := by
    simp [run, runFrom]
  have counted := length_recorded (OskState.default : OskState F) calls
  have up : (fun side => ((OskState.default : OskState F).pad side).pressed) =
      fun _ => false := by
    funext side
    cases side <;> rfl
  rw [up] at counted
  refine ⟨inside, ?_, ?_, ?_, counted, ?_⟩
  · intro side pad recordRisingEdge
    rw [next]
    constructor
    · have place := OskState.pad_updatePad (run calls) side side pad recordRisingEdge
      have offset := OskState.padOffsets_updatePad (run calls) side pad recordRisingEdge
      rw [if_pos rfl] at place
      simp only [op, OskOp.apply, place, offset, Function.update_self]
      exact OskPad.move_moves (inside side)
    · intro other different
      have place := OskState.pad_updatePad (run calls) side other pad recordRisingEdge
      have offset := OskState.padOffsets_updatePad (run calls) side pad recordRisingEdge
      rw [if_neg different] at place
      simp only [op, OskOp.apply, place, offset, Function.update_of_ne different, and_self]
  · intro side pad touched held pressed before
    simp [OskOp.events, OskPad.move_rests touched held pressed, pressed, before]
  · intro visible side
    rw [next]
    exact ⟨OskState.pad_setVisible _ side visible, rfl⟩
  · rw [← counted]
    exact (Remembers.start.run (path_log .default calls)).sequence

end

end PointerCall

end Scd.Core
