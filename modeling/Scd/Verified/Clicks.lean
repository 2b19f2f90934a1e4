import Mathlib.Data.List.Induction
import Scd.Core.Osk
import Scd.Foundation.Path
import Scd.Foundation.RingLog
import Scd.Foundation.Outcome

/-! # Reading clicks

A reader of the on-screen keyboard's state keeps a cursor.  Whatever happened since, the
state yields the last clicks after that cursor that it still has: at most sixteen, and none
from before the keyboard was last opened.

`OskStep` is one operation on the state, labelled with the clicks it records and the
openings.  `Remembers` ties the ring, its length and the wrapping sequence to these labels.
-/

namespace Scd.Core

open Scd.Foundation

section

variable {F : Type} [Scalar F]

/-! ## Operations and what they record -/

inductive OskOp (F : Type) where
  | setVisible (visible : Bool)
  | updatePad (side : OskPadSide) (pad : OskPad F) (recordRisingEdge : Bool)
  | recordClick (pad : OskPadSide) (position : F × F)
  | setShiftHeld (shiftHeld : Bool)
  | setBindings (bindings : List (Button × KeyCode))
  | setActiveBindings (inputs : List Button)

inductive OskEvent (F : Type) where
  | opened
  | clicked (click : OskClick F)

namespace OskOp

def apply (state : OskState F) : OskOp F → OskState F
  | .setVisible visible => state.setVisible visible
  | .updatePad side pad recordRisingEdge => state.updatePad side pad recordRisingEdge
  | .recordClick pad position => state.recordClick pad position
  | .setShiftHeld shiftHeld => { state with shiftHeld }
  | .setBindings bindings => state.setBindings bindings
  | .setActiveBindings inputs => state.setActiveBindings inputs

/-- The click as it is recorded now. -/
def clickOf (state : OskState F) (pad : OskPadSide) (position : F × F) : OskClick F :=
  ⟨state.clickSequence, pad, position, state.shiftHeld⟩

def events (state : OskState F) : OskOp F → List (OskEvent F)
  | .setVisible visible => if visible && !state.visible then [.opened] else []
  | .updatePad side pad recordRisingEdge =>
    let moved := ((state.pad side).move (state.padOffsets side) pad).1
    if recordRisingEdge && moved.pressed && !(state.pad side).pressed then
      [.clicked (clickOf state side moved.position)]
    else []
  | .recordClick pad position => [.clicked (clickOf state pad position)]
  | .setShiftHeld _ | .setBindings _ | .setActiveBindings _ => []

end OskOp

inductive OskStep : OskState F → List (OskEvent F) → OskState F → Prop where
  | op {state : OskState F} (op : OskOp F) : OskStep state (op.events state) (op.apply state)

/-- The clicks among some events. -/
def recorded (events : List (OskEvent F)) : List (OskClick F) :=
  events.filterMap fun
    | .opened => none
    | .clicked click => some click

/-- The number of clicks since the last opening, or since the start. -/
def sinceOpened (events : List (OskEvent F)) : Nat :=
  events.foldl (fun count event =>
    match event with
    | .opened => 0
    | .clicked _ => count + 1) 0

omit [Scalar F] in
@[simp] theorem recorded_append (past more : List (OskEvent F)) :
    recorded (past ++ more) = recorded past ++ recorded more := List.filterMap_append

omit [Scalar F] in
@[simp] theorem recorded_opened : recorded [(.opened : OskEvent F)] = [] := rfl

omit [Scalar F] in
@[simp] theorem recorded_clicked (click : OskClick F) : recorded [.clicked click] = [click] := rfl

omit [Scalar F] in
theorem sinceOpened_opened (past : List (OskEvent F)) : sinceOpened (past ++ [.opened]) = 0 := by
  simp [sinceOpened]

omit [Scalar F] in
theorem sinceOpened_clicked (past : List (OskEvent F)) (click : OskClick F) :
    sinceOpened (past ++ [.clicked click]) = sinceOpened past + 1 := by
  simp [sinceOpened]

/-! ## What the state remembers -/

/-- The ring holds the recorded clicks, numbered in order, and its length counts those since
    the last opening. -/
structure Remembers (events : List (OskEvent F)) (state : OskState F) : Prop where
  sequence : state.clickSequence = UInt64.ofNat (recorded events).length
  length : state.clickHistoryLen.toNat = min (sinceOpened events) oskClickHistoryLen
  ring : RingLog.Holds state.clickHistory (recorded events)
  numbered : ∀ position (inLog : position < (recorded events).length),
    ((recorded events)[position]).sequence = UInt64.ofNat position

namespace Remembers

variable {past : List (OskEvent F)} {state : OskState F}

theorem start : Remembers [] (OskState.default : OskState F) where
  sequence := rfl
  length := rfl
  ring := RingLog.holds_nil _
  numbered := by
    intro position inLog
    cases inLog

omit [Scalar F] in
/-- Only the ring, its length and the sequence matter. -/
theorem congr (remembers : Remembers past state) {other : OskState F}
    (sequence : other.clickSequence = state.clickSequence)
    (length : other.clickHistoryLen = state.clickHistoryLen)
    (history : other.clickHistory = state.clickHistory) : Remembers past other where
  sequence := sequence ▸ remembers.sequence
  length := length ▸ remembers.length
  ring := history ▸ remembers.ring
  numbered := remembers.numbered

omit [Scalar F] in
theorem opened (remembers : Remembers past state) :
    Remembers (past ++ [.opened]) { state with clickHistoryLen := 0 } where
  sequence := by simpa using remembers.sequence
  length := by simp [sinceOpened_opened]
  ring := by simpa using remembers.ring
  numbered := by simpa using remembers.numbered

omit [Scalar F] in
theorem recordClick (remembers : Remembers past state) (pad : OskPadSide) (position : F × F) :
    Remembers (past ++ [.clicked (OskOp.clickOf state pad position)])
      (state.recordClick pad position) := by
  have place : state.clickSequence.toNat % oskClickHistoryLen =
      (recorded past).length % oskClickHistoryLen := by
    rw [remembers.sequence]
    exact RingLog.wrap_mod (by decide) _
  refine ⟨?_, ?_, ?_, ?_⟩
  · show state.clickSequence + 1 = _
    rw [remembers.sequence, RingLog.wrap_succ]
    simp
  · rw [sinceOpened_clicked]
    simp only [OskState.recordClick, remembers.length, oskClickHistoryLen, UInt8.toNat_ofNat']
    omega
  · simp only [OskState.recordClick, place, recorded_append, recorded_clicked]
    exact remembers.ring.push _ _
  · intro index inLog
    simp only [recorded_append, recorded_clicked, List.length_append, List.length_singleton] at inLog ⊢
    by_cases older : index < (recorded past).length
    · rw [List.getElem_append_left older]
      exact remembers.numbered index older
    · have last : index = (recorded past).length := by omega
      subst last
      simp [OskOp.clickOf, remembers.sequence]

theorem step (remembers : Remembers past state) {more : List (OskEvent F)} {next : OskState F}
    (stepped : OskStep state more next) : Remembers (past ++ more) next := by
  cases stepped with
  | op op =>
    cases op with
    | setVisible visible =>
      simp only [OskOp.events, OskOp.apply, OskState.setVisible]
      cases opens : (visible && !state.visible) with
      | true => exact remembers.opened.congr rfl rfl rfl
      | false =>
        rw [if_neg Bool.false_ne_true, if_neg Bool.false_ne_true, List.append_nil]
        exact remembers.congr rfl rfl rfl
    | updatePad side pad recordRisingEdge =>
      have moved : ∀ position, Remembers past { state.setPad side position with
          padOffsets := Function.update state.padOffsets side
            ((state.pad side).move (state.padOffsets side) pad).2 } := by
        intro position
        cases side <;> exact remembers.congr rfl rfl rfl
      simp only [OskOp.events, OskOp.apply, OskState.updatePad]
      split
      · have clicked := (moved ((state.pad side).move (state.padOffsets side) pad).1).recordClick
          side ((state.pad side).move (state.padOffsets side) pad).1.position
        cases side <;> exact clicked
      · rw [List.append_nil]
        exact moved _
    | recordClick pad position => exact remembers.recordClick pad position
    | setShiftHeld shiftHeld =>
      rw [OskOp.events, List.append_nil]
      exact remembers.congr rfl rfl rfl
    | setBindings bindings =>
      rw [OskOp.events, List.append_nil]
      exact remembers.congr rfl rfl rfl
    | setActiveBindings inputs =>
      rw [OskOp.events, List.append_nil]
      exact remembers.congr rfl rfl rfl

theorem run (remembers : Remembers past state) {more : List (OskEvent F)} {next : OskState F}
    (path : Path OskStep state more next) : Remembers (past ++ more) next :=
  path.history Remembers (fun stepped remembers => remembers.step stepped) remembers

/-! ## Reading after a cursor -/

omit [Scalar F] in
/-- One click of a reader that stands inside the ring. -/
theorem next (remembers : Remembers past state) {position : Nat} {clicks : OskClicks F}
    (ofState : clicks.state = state) (sequence : clicks.sequence = UInt64.ofNat position)
    (more : clicks.remaining ≠ 0) (inLog : position < (recorded past).length)
    (recent : (recorded past).length ≤ position + oskClickHistoryLen) :
    clicks.next = .ok (some ((recorded past)[position],
      { clicks with sequence := clicks.sequence + 1, remaining := clicks.remaining - 1 })) := by
  have place : clicks.sequence.toNat % oskClickHistoryLen = position % oskClickHistoryLen := by
    rw [sequence]
    exact RingLog.wrap_mod (by decide) _
  have found := remembers.ring position inLog (Nat.mod_lt _ (by decide)) recent
  simp only [OskClicks.next, if_neg more, ofState, place, found]
  rw [remembers.numbered position inLog, sequence, if_neg (by simp)]

omit [Scalar F] in
theorem take (remembers : Remembers past state) (count : Nat) {position : Nat}
    {clicks : OskClicks F} (ofState : clicks.state = state)
    (sequence : clicks.sequence = UInt64.ofNat position)
    (remaining : clicks.remaining.toNat = count)
    (split : position + count = (recorded past).length) (le : count ≤ oskClickHistoryLen) :
    clicks.take count = .ok ((recorded past).drop position) := by
  induction count generalizing position clicks with
  | zero =>
    rw [OskClicks.take, List.drop_of_length_le (by omega)]
  | succ count inductionHypothesis =>
    have inLog : position < (recorded past).length := by omega
    have more : clicks.remaining ≠ 0 := by
      intro zero
      rw [zero] at remaining
      cases remaining
    rw [OskClicks.take, remembers.next ofState sequence more inLog (by omega), ok_bind,
      List.drop_eq_getElem_cons inLog]
    have rest := @inductionHypothesis (position + 1)
      { clicks with sequence := clicks.sequence + 1, remaining := clicks.remaining - 1 } ofState
      (by rw [sequence, RingLog.wrap_succ])
      (by
        have one : (1 : UInt8) ≤ clicks.remaining := by
          rw [UInt8.le_iff_toNat_le, remaining]
          exact Nat.succ_le_succ (Nat.zero_le _)
        rw [UInt8.toNat_sub_of_le _ _ one, remaining]
        rfl)
      (by omega) (by omega)
    simp only [rest]
    rfl

omit [Scalar F] in
/-- The clicks since a cursor that is `since` clicks old. -/
theorem clicksSince (remembers : Remembers past state) (since : Nat)
    (le : since ≤ (recorded past).length) (near : since < 2 ^ 64) :
    let count := min since (min (sinceOpened past) oskClickHistoryLen)
    let clicks := state.clicksSince (UInt64.ofNat ((recorded past).length - since))
    clicks.toList = .ok ((recorded past).drop ((recorded past).length - count)) ∧
      clicks.missed.toNat = since - count := by
  intro count clicks
  have available : (min state.clickHistoryLen (UInt8.ofNat oskClickHistoryLen)).toUInt64.toNat =
      min (sinceOpened past) oskClickHistoryLen := by
    rw [UInt8.toNat_toUInt64, UInt8.toNat_min, remembers.length]
    simp [oskClickHistoryLen]
  have requested : (state.clickSequence -
      UInt64.ofNat ((recorded past).length - since)).toNat = since := by
    rw [remembers.sequence, RingLog.wrap_sub_toNat (by omega) (by omega)]
    omega
  have missed : clicks.missed.toNat = since - count := by
    simp only [clicks, OskState.clicksSince]
    split
    · next le =>
      rw [UInt64.le_iff_toNat_le, requested, available] at le
      simp only [UInt64.toNat_zero, count]
      omega
    · next gt =>
      rw [UInt64.le_iff_toNat_le, requested, available] at gt
      rw [UInt64.toNat_sub_of_le _ _ (by rw [UInt64.le_iff_toNat_le, requested, available]; omega),
        requested, available]
      simp only [count]
      omega
  have small : count ≤ oskClickHistoryLen := by omega
  have remaining : clicks.remaining.toNat = count := by
    simp only [clicks, OskState.clicksSince, UInt64.toNat_toUInt8, UInt64.toNat_min, requested,
      available]
    have capacity : oskClickHistoryLen = 16 := rfl
    exact Nat.mod_eq_of_lt (by omega)
  refine ⟨?_, missed⟩
  rw [OskClicks.toList, remaining]
  refine remembers.take count rfl ?_ remaining (by omega) small
  have missedOf : clicks.missed = UInt64.ofNat (since - count) := by
    rw [← missed, UInt64.ofNat_toNat]
  show UInt64.ofNat ((recorded past).length - since) + clicks.missed = _
  rw [missedOf, ← UInt64.ofNat_add]
  congr 1
  omega

/-- A reader with a cursor that it took before the events `more`. -/
theorem clicksAfter {earlier later : OskState F} (remembers : Remembers past earlier)
    {more : List (OskEvent F)} (path : Path OskStep earlier more later)
    (near : (recorded more).length < 2 ^ 64) :
    let since := (recorded more).length
    let count := min since (min (sinceOpened (past ++ more)) oskClickHistoryLen)
    (later.clicksSince earlier.clickCursor).toList = .ok ((recorded more).drop (since - count)) ∧
      (later.clicksSince earlier.clickCursor).missed.toNat = since - count := by
  intro since count
  have remembersLater := remembers.run path
  have cursor : earlier.clickCursor = UInt64.ofNat ((recorded (past ++ more)).length - since) := by
    rw [OskState.clickCursor, remembers.sequence]
    simp [since]
  have read := remembersLater.clicksSince since (by simp [since]) near
  rw [cursor]
  refine ⟨?_, read.2⟩
  have position : (recorded (past ++ more)).length - count =
      (recorded past).length + (since - count) := by
    rw [recorded_append, List.length_append]
    show (recorded past).length + since - count = _
    omega
  rw [read.1, position, recorded_append, List.drop_append]
  simp

end Remembers

/-- What a reader gets with a cursor it took earlier in the run: the most recent clicks since
    then, as they were recorded, but no more than sixteen and none from before the keyboard
    was last opened. -/
theorem clicks_since_cursor {past more : List (OskEvent F)} {earlier later : OskState F}
    (first : Path OskStep OskState.default past earlier) (second : Path OskStep earlier more later)
    (near : (recorded more).length < 2 ^ 64) :
    let since := (recorded more).length
    let count := min since (min (sinceOpened (past ++ more)) oskClickHistoryLen)
    (later.clicksSince earlier.clickCursor).toList = .ok ((recorded more).drop (since - count)) ∧
      (later.clicksSince earlier.clickCursor).missed.toNat = since - count :=
  (Remembers.start.run first).clicksAfter second near

end

/-- The keyboard is opened, a reader takes its cursor, and both pads are clicked. -/
theorem clicks_since_cursor_both_pads :
    let opened := (OskState.default : OskState ℚ).setVisible true
    let later := (opened.recordClick .left (0, 0)).recordClick .right (1, 0)
    (later.clicksSince opened.clickCursor).toList =
        .ok [⟨0, .left, (0, 0), false⟩, ⟨1, .right, (1, 0), false⟩] ∧
      (later.clicksSince opened.clickCursor).missed.toNat = 0 := by
  intro opened later
  have first : Path OskStep (OskState.default : OskState ℚ) [.opened] opened :=
    .single (.op (.setVisible true))
  have second : Path OskStep opened
      [.clicked ⟨0, .left, (0, 0), false⟩, .clicked ⟨1, .right, (1, 0), false⟩] later :=
    (Path.single (OskStep.op (.recordClick .left (0, 0)))).snoc
      (OskStep.op (.recordClick .right (1, 0)))
  exact clicks_since_cursor first second (by decide)

end Scd.Core
