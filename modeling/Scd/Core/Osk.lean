import Mathlib.Data.Vector.Basic
import Scd.Core.Config

/-! # The state of the on-screen keyboard

What the daemon publishes about the on-screen keyboard: the pads, the session, and the
last clicks in a ring.  A click is numbered by a wrapping 64-bit sequence, which is also
the cursor of a reader; `clicksSince` yields what the ring still holds after a cursor.
-/

namespace Scd.Core

inductive OskPadSide where
  | left | right
  deriving DecidableEq, Repr

structure OskPad (F : Type) where
  touched : Bool
  pressed : Bool
  position : F × F

structure OskClick (F : Type) where
  sequence : UInt64
  pad : OskPadSide
  position : F × F
  shiftHeld : Bool
  deriving DecidableEq

def oskClickHistoryLen : Nat := 16

/-- `bindings` has the code of each input's key, zero for none. -/
structure OskState (F : Type) where
  visible : Bool
  shiftHeld : Bool
  bindings : Button → UInt16
  activeBindings : Buttons
  left : OskPad F
  right : OskPad F
  padOffsets : OskPadSide → Option (F × F)
  session : UInt64
  clickSequence : UInt64
  clickHistoryLen : UInt8
  clickHistory : Vector (OskClick F) oskClickHistoryLen

/-- The iterator over the clicks after a cursor. -/
structure OskClicks (F : Type) where
  state : OskState F
  sequence : UInt64
  remaining : UInt8
  missed : UInt64

section

variable {F : Type} [Scalar F]

def OskPad.default : OskPad F := ⟨false, false, (0.0, 0.0)⟩

def OskClick.default : OskClick F := ⟨0, .left, (0.0, 0.0), false⟩

/-! ## Pads -/

def oskPadMinResponse : F := 0.15
def oskPadFullResponseDistance : F := 0.02
def oskPadLimit : F := 5.0 / 6.0

/-- One coordinate of a pad that moves: the offset, then a step towards it. -/
def OskPad.smooth (current previous offset : F) : F :=
  let current := clamp (current + offset) (-oskPadLimit) oskPadLimit
  let response := clamp (Scalar.abs (current - previous) / oskPadFullResponseDistance)
    oskPadMinResponse 1.0
  previous + response * (current - previous)

/-- The pad as it is stored, and its offset: a pressed pad keeps its place, and a pad that
    was just let go moves on from there. -/
def OskPad.move (previous : OskPad F) (offset : Option (F × F)) (pad : OskPad F) :
    OskPad F × Option (F × F) :=
  let pad := { pad with position := (clamp pad.position.1 (-oskPadLimit) oskPadLimit,
    clamp pad.position.2 (-oskPadLimit) oskPadLimit) }
  if !pad.touched || !previous.touched then (pad, none)
  else if pad.pressed then ({ pad with position := previous.position }, offset)
  else
    let offset :=
      if previous.pressed then
        some (previous.position.1 - pad.position.1, previous.position.2 - pad.position.2)
      else offset
    let shift := offset.getD (0.0, 0.0)
    ({ pad with position := (OskPad.smooth pad.position.1 previous.position.1 shift.1,
        OskPad.smooth pad.position.2 previous.position.2 shift.2) }, offset)

namespace OskState

def default : OskState F where
  visible := false
  shiftHeld := false
  bindings := fun _ => 0
  activeBindings := {}
  left := .default
  right := .default
  padOffsets := fun _ => none
  session := 0
  clickSequence := 0
  clickHistoryLen := 0
  clickHistory := Vector.replicate oskClickHistoryLen .default

/-! ## Sessions -/

/-- The number of the session after `session`: zero stands for none. -/
def nextSession (session : UInt64) : UInt64 := if session + 1 = 0 then 1 else session + 1

def setVisible (state : OskState F) (visible : Bool) : OskState F :=
  let state :=
    if visible && !state.visible then
      { state with session := nextSession state.session, clickHistoryLen := 0 }
    else state
  { state with
    visible
    shiftHeld := false
    activeBindings := {}
    left := { state.left with touched := false, pressed := false }
    right := { state.right with touched := false, pressed := false }
    padOffsets := fun _ => none }

/-! ## Bindings -/

def setBindings (state : OskState F) (bindings : List (Button × KeyCode)) : OskState F :=
  let codes := bindings.foldl (fun codes binding => Function.update codes binding.1 binding.2.code)
    (fun _ => 0)
  let configured := Buttons.ofList (bindings.map Prod.fst)
  { state with bindings := codes, activeBindings := state.activeBindings.removeInactive configured }

def setActiveBindings (state : OskState F) (inputs : List Button) : OskState F :=
  { state with activeBindings := Buttons.ofList inputs }

/-! ## Clicks -/

def recordClick (state : OskState F) (pad : OskPadSide) (position : F × F) : OskState F :=
  let sequence := state.clickSequence
  { state with
    clickHistory := state.clickHistory.set (sequence.toNat % oskClickHistoryLen)
      ⟨sequence, pad, position, state.shiftHeld⟩ (Nat.mod_lt _ (by decide))
    clickSequence := sequence + 1
    -- `saturating_add(1)` of a `u8`, then `min`
    clickHistoryLen := UInt8.ofNat
      (min (min (state.clickHistoryLen.toNat + 1) 255) oskClickHistoryLen) }

def pad (state : OskState F) : OskPadSide → OskPad F
  | .left => state.left
  | .right => state.right

def setPad (state : OskState F) (side : OskPadSide) (pad : OskPad F) : OskState F :=
  match side with
  | .left => { state with left := pad }
  | .right => { state with right := pad }

def updatePad (state : OskState F) (side : OskPadSide) (pad : OskPad F) (recordRisingEdge : Bool) :
    OskState F :=
  let previous := state.pad side
  let (pad, offset) := previous.move (state.padOffsets side) pad
  let state := { state.setPad side pad with
    padOffsets := Function.update state.padOffsets side offset }
  if recordRisingEdge && pad.pressed && !previous.pressed then state.recordClick side pad.position
  else state

def clickCursor (state : OskState F) : UInt64 := state.clickSequence

def clicksSince (state : OskState F) (cursor : UInt64) : OskClicks F :=
  let available := (min state.clickHistoryLen (UInt8.ofNat oskClickHistoryLen)).toUInt64
  let requested := state.clickSequence - cursor
  -- `saturating_sub`
  let missed := if requested ≤ available then 0 else requested - available
  { state, sequence := cursor + missed, remaining := (min requested available).toUInt8, missed }

end OskState

namespace OskClicks

/-- `Iterator::next`, with its debug assertion. -/
def next (clicks : OskClicks F) : Checked (Option (OskClick F × OskClicks F)) :=
  if clicks.remaining = 0 then .ok none
  else
    let click := clicks.state.clickHistory.get
      ⟨clicks.sequence.toNat % oskClickHistoryLen, Nat.mod_lt _ (by decide)⟩
    if click.sequence ≠ clicks.sequence then .error .assertionFailed
    else .ok (some (click,
      { clicks with sequence := clicks.sequence + 1, remaining := clicks.remaining - 1 }))

/-- What a `for` over the iterator sees, when `fuel` is at least `remaining`. -/
def take : Nat → OskClicks F → Checked (List (OskClick F))
  | 0, _ => .ok []
  | fuel + 1, clicks => do
    match ← clicks.next with
    | none => return []
    | some (click, clicks) => return click :: (← clicks.take fuel)

def toList (clicks : OskClicks F) : Checked (List (OskClick F)) := clicks.take clicks.remaining.toNat

end OskClicks

end

end Scd.Core
