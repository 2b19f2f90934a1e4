import Scd.Foundation.Hid
import Scd.Foundation.History
import Scd.Verified.InputReport

/-! # The DualShock 4 as a host sees it

A host knows nothing of the offsets of the report: it asks for the report descriptor and reads
the fields where the descriptor declares them.  In every run it reads what the outputs of the
mapper say last: the buttons that are down, the values of the axes, and the click of the pad.
-/

namespace Scd.Daemon.DualShock

open Scd.Core Scd.Foundation

/-! ## What the outputs say -/

section

variable {F : Type} [Scalar F]

namespace Change

/-- An axis as a byte. -/
def axisByte (axis : GamepadAxis) (value : F) : UInt8 :=
  match axis with
  | .leftTrigger | .rightTrigger => DualShock4.triggerByte value
  | _ => DualShock4.stickByte value

def pressed? (button : GamepadButton) : Change F → Option Bool
  | .button other pressed => if other = button then some pressed else none
  | _ => none

def moved? (axis : GamepadAxis) : Change F → Option UInt8
  | .axis other value => if other = axis then some (axisByte axis value) else none
  | _ => none

/-- The click of the pad that is the touchpad. -/
def clicked? : Change F → Option Bool
  | .source state (some .left) => some state.leftPad.clicked
  | .source state (some .right) => some state.rightPad.clicked
  | .source _ none => some false
  | _ => none

end Change

variable (changes : List (Change F))

omit [Scalar F] in
def heldDown (button : GamepadButton) : Bool :=
  (latest (Change.pressed? button) changes).getD false

/-- Before the first output a stick is in the middle, and a trigger is released. -/
def axisRest : GamepadAxis → UInt8
  | .leftTrigger | .rightTrigger => 0
  | _ => 128

def axisLevel (axis : GamepadAxis) : UInt8 :=
  (latest (Change.moved? axis) changes).getD (axisRest axis)

omit [Scalar F] in
def padClicked : Bool := (latest Change.clicked? changes).getD false

end

/-- The axis of a stick coordinate. -/
def stickAxis : Fin 4 → GamepadAxis
  | 0 => .leftX
  | 1 => .leftY
  | 2 => .rightX
  | 3 => .rightY

def dpadButton : Fin 4 → GamepadButton
  | 0 => .dpadUp
  | 1 => .dpadDown
  | 2 => .dpadLeft
  | 3 => .dpadRight

theorem dpadButton_inj {left right : Fin 4} : dpadButton left = dpadButton right ↔ left = right := by
  revert left right
  decide

theorem stickAxis_inj {left right : Fin 4} : stickAxis left = stickAxis right ↔ left = right := by
  revert left right
  decide

/-! ## The state follows the outputs -/

section

variable {F : Type} [Scalar F] {changes : List (Change F)}

/-- The fields of the state that outputs set, said in terms of the outputs. -/
structure State.Holds (state : State) (changes : List (Change F)) : Prop where
  sticks : ∀ coordinate, state.sticks.get coordinate = axisLevel changes (stickAxis coordinate)
  triggers : ∀ side, state.triggers.get side = axisLevel changes (Trigger.axis side)
  triggerButtons : ∀ side, state.triggerButtons.get side = heldDown changes (Trigger.button side)
  dpad : ∀ direction, state.dpad.get direction = heldDown changes (dpadButton direction)
  buttons : ∀ {button place}, wordBit button = some place →
    state.buttons.toBitVec.getLsbD place = heldDown changes button
  clicked : state.touchpadClicked = padClicked changes

omit [Scalar F] in
theorem heldDown_snoc (changes : List (Change F)) (change : Change F) (button : GamepadButton) :
    heldDown (changes ++ [change]) button =
      (Change.pressed? button change).getD (heldDown changes button) := by
  rw [heldDown, latest_snoc, Option.getD_or]
  rfl

theorem axisLevel_snoc (changes : List (Change F)) (change : Change F) (axis : GamepadAxis) :
    axisLevel (changes ++ [change]) axis =
      (Change.moved? axis change).getD (axisLevel changes axis) := by
  rw [axisLevel, latest_snoc, Option.getD_or]
  rfl

omit [Scalar F] in
theorem padClicked_snoc (changes : List (Change F)) (change : Change F) :
    padClicked (changes ++ [change]) = (Change.clicked? change).getD (padClicked changes) := by
  rw [padClicked, latest_snoc, Option.getD_or]
  rfl

/-- The button of a bit of the button word. -/
def wordButton : Nat → Option GamepadButton
  | 0 => some .west
  | 1 => some .south
  | 2 => some .east
  | 3 => some .north
  | 4 => some .leftBumper
  | 5 => some .rightBumper
  | 8 => some .select
  | 9 => some .start
  | 10 => some .leftStick
  | 11 => some .rightStick
  | 12 => some .guide
  | _ => none

theorem wordButton_wordBit {button : GamepadButton} {place : Nat}
    (word : wordBit button = some place) : wordButton place = some button ∧ place < 13 := by
  cases button <;> cases word <;> exact ⟨rfl, by decide⟩

namespace DualShock4

variable (gamepad : DualShock4)

/-- A bit of the button word is set or cleared, and no other. -/
theorem setBit_word {place : Nat} (small : place < 13) (pressed : Bool) {other : Nat}
    (below : other < 13) :
    (gamepad.setBit (.ofNat place) pressed).state.buttons.toBitVec.getLsbD other =
      if other = place then pressed else gamepad.state.buttons.toBitVec.getLsbD other := by
  have single : ((1 : UInt16) <<< UInt16.ofNat place).toBitVec = BitVec.twoPow 16 place := by
    interval_cases place <;> rfl
  have bit : (BitVec.twoPow 16 place).getLsbD other = decide (other = place) := by
    rw [BitVec.getLsbD_twoPow]
    by_cases same : other = place
    · simp [same, small.trans (show 13 < 16 by decide)]
    · simp [same, Ne.symm same]
  have word : (gamepad.setBit (.ofNat place) pressed).state.buttons =
      if pressed then gamepad.state.buttons ||| 1 <<< UInt16.ofNat place
      else gamepad.state.buttons &&& ~~~(1 <<< UInt16.ofNat place) := rfl
  rw [word]
  cases pressed with
  | true =>
    rw [if_pos rfl, UInt16.toBitVec_or, BitVec.getLsbD_or, single, bit]
    by_cases same : other = place <;> simp [same]
  | false =>
    rw [if_neg (by decide), UInt16.toBitVec_and, UInt16.toBitVec_not, BitVec.getLsbD_and,
      BitVec.getLsbD_not, single, bit]
    by_cases same : other = place <;> simp [same, below.trans (show 13 < 16 by decide)]

/-- A button of the word is its bit. -/
theorem emitButton_word {button : GamepadButton} {place : Nat}
    (word : wordBit button = some place) (pressed : Bool) :
    gamepad.emitButton button pressed = gamepad.setBit (.ofNat place) pressed := by
  cases button <;> cases word <;> rfl

/-- Another button leaves the word alone. -/
theorem emitButton_aside {button : GamepadButton} (aside : wordBit button = none) (pressed : Bool) :
    (gamepad.emitButton button pressed).state.buttons = gamepad.state.buttons := by
  cases button <;> first | rfl | cases aside

theorem emitButton_dpad_get (button : GamepadButton) (pressed : Bool) (direction : Fin 4) :
    (gamepad.emitButton button pressed).state.dpad.get direction =
      if button = dpadButton direction then pressed else gamepad.state.dpad.get direction := by
  by_cases found : ∃ changed, dpadButton changed = button
  · obtain ⟨changed, rfl⟩ := found
    have turned : gamepad.emitButton (dpadButton changed) pressed =
        gamepad.setDpad changed pressed := by
      match changed with
      | 0 | 1 | 2 | 3 => rfl
    rw [turned]
    refine (get_put _ _ _ _).trans ?_
    simp only [dpadButton_inj, eq_comm]
  · have aside : (gamepad.emitButton button pressed).state.dpad = gamepad.state.dpad := by
      cases button with
      | dpadUp => exact absurd ⟨0, rfl⟩ found
      | dpadDown => exact absurd ⟨1, rfl⟩ found
      | dpadLeft => exact absurd ⟨2, rfl⟩ found
      | dpadRight => exact absurd ⟨3, rfl⟩ found
      | _ => rfl
    rw [aside, if_neg fun same => found ⟨direction, same.symm⟩]

theorem emitAxis_sticks (axis : GamepadAxis) (value : F) (coordinate : Fin 4) :
    (gamepad.emitAxis axis value).state.sticks.get coordinate =
      if axis = stickAxis coordinate then Change.axisByte axis value
      else gamepad.state.sticks.get coordinate := by
  by_cases found : ∃ moved, stickAxis moved = axis
  · obtain ⟨moved, rfl⟩ := found
    have turned : gamepad.emitAxis (stickAxis moved) value = gamepad.setStick moved value ∧
        Change.axisByte (stickAxis moved) value = stickByte value := by
      match moved with
      | 0 | 1 | 2 | 3 => exact ⟨rfl, rfl⟩
    rw [turned.1, turned.2]
    refine (get_put _ _ _ _).trans ?_
    simp only [stickAxis_inj, eq_comm]
  · have aside : (gamepad.emitAxis axis value).state.sticks = gamepad.state.sticks := by
      cases axis with
      | leftX => exact absurd ⟨0, rfl⟩ found
      | leftY => exact absurd ⟨1, rfl⟩ found
      | rightX => exact absurd ⟨2, rfl⟩ found
      | rightY => exact absurd ⟨3, rfl⟩ found
      | _ => rfl
    rw [aside, if_neg fun same => found ⟨coordinate, same.symm⟩]

theorem emitAxis_triggers_get (axis : GamepadAxis) (value : F) (side : Fin 2) :
    (gamepad.emitAxis axis value).state.triggers.get side =
      if axis = Trigger.axis side then Change.axisByte axis value
      else gamepad.state.triggers.get side := by
  match side with
  | 0 =>
    cases axis with
    | leftTrigger | rightTrigger => exact get_put _ _ _ _
    | _ => rfl
  | 1 =>
    cases axis with
    | leftTrigger | rightTrigger => exact get_put _ _ _ _
    | _ => rfl

end DualShock4

/-- A change that is neither a button nor an axis. -/
theorem State.Holds.aside {state after : State} (holds : state.Holds changes) {change : Change F}
    (sticks : after.sticks = state.sticks) (triggers : after.triggers = state.triggers)
    (triggerButtons : after.triggerButtons = state.triggerButtons)
    (dpad : after.dpad = state.dpad) (buttons : after.buttons = state.buttons)
    (presses : ∀ button, Change.pressed? button change = none)
    (moves : ∀ axis, Change.moved? axis change = none)
    (clicked : after.touchpadClicked = padClicked (changes ++ [change])) :
    after.Holds (changes ++ [change]) := by
  have pressed : ∀ button, heldDown (changes ++ [change]) button = heldDown changes button := by
    intro button
    rw [heldDown_snoc, presses, Option.getD_none]
  have moved : ∀ axis, axisLevel (changes ++ [change]) axis = axisLevel changes axis := by
    intro axis
    rw [axisLevel_snoc, moves, Option.getD_none]
  constructor
  case sticks => simpa [sticks, moved] using holds.sticks
  case triggers => simpa [triggers, moved] using holds.triggers
  case triggerButtons => simpa [triggerButtons, pressed] using holds.triggerButtons
  case dpad => simpa [dpad, pressed] using holds.dpad
  case buttons =>
    intro button place word
    rw [buttons, pressed]
    exact holds.buttons word
  case clicked => exact clicked

/-- Every output is one of those that the state is said in terms of. -/
theorem State.Holds.apply {gamepad : DualShock4} (holds : gamepad.state.Holds changes)
    (change : Change F) : (change.apply gamepad).state.Holds (changes ++ [change]) := by
  cases change with
  | button button pressed =>
    have pushed : ∀ other, heldDown (changes ++ [.button button pressed]) other =
        if button = other then pressed else heldDown changes other := by
      intro other
      rw [heldDown_snoc]
      simp only [Change.pressed?]
      split <;> rfl
    have still : ∀ axis, axisLevel (changes ++ [.button button pressed]) axis =
        axisLevel changes axis := fun axis => axisLevel_snoc changes _ axis
    constructor
    case sticks =>
      intro coordinate
      rw [still, ← holds.sticks]
      cases button <;> rfl
    case triggers =>
      intro side
      rw [still, ← holds.triggers]
      cases button <;> rfl
    case triggerButtons =>
      intro side
      rw [pushed, ← holds.triggerButtons]
      exact DualShock4.emitButton_triggerButtons gamepad button pressed side
    case dpad =>
      intro direction
      rw [pushed, ← holds.dpad]
      exact gamepad.emitButton_dpad_get button pressed direction
    case buttons =>
      intro other place word
      rw [pushed, ← holds.buttons word]
      obtain ⟨named, below⟩ := wordButton_wordBit word
      cases own : wordBit button with
      | none =>
        have different : button ≠ other := by
          rintro rfl
          rw [own] at word
          cases word
        rw [if_neg different, Change.apply, gamepad.emitButton_aside own]
      | some moved =>
        obtain ⟨called, small⟩ := wordButton_wordBit own
        have same : place = moved ↔ button = other := by
          constructor
          · rintro rfl
            exact Option.some.inj (called.symm.trans named)
          · rintro rfl
            exact Option.some.inj (word.symm.trans own)
        rw [Change.apply, gamepad.emitButton_word own, gamepad.setBit_word small pressed below]
        simp only [same]
    case clicked =>
      rw [padClicked_snoc]
      exact Eq.trans (by cases button <;> rfl) holds.clicked
  | axis axis value =>
    have moved : ∀ other, axisLevel (changes ++ [.axis axis value]) other =
        if axis = other then Change.axisByte axis value else axisLevel changes other := by
      intro other
      rw [axisLevel_snoc]
      simp only [Change.moved?]
      split
      · next same => rw [same]; rfl
      · rfl
    have still : ∀ button, heldDown (changes ++ [.axis axis value]) button =
        heldDown changes button := fun button => heldDown_snoc changes _ button
    constructor
    case sticks =>
      intro coordinate
      rw [moved, ← holds.sticks]
      exact gamepad.emitAxis_sticks axis value coordinate
    case triggers =>
      intro side
      rw [moved, ← holds.triggers]
      exact gamepad.emitAxis_triggers_get axis value side
    case triggerButtons =>
      intro side
      rw [still, ← holds.triggerButtons]
      cases axis <;> rfl
    case dpad =>
      intro direction
      rw [still, ← holds.dpad]
      cases axis <;> rfl
    case buttons =>
      intro button place word
      rw [still, ← holds.buttons word]
      cases axis <;> rfl
    case clicked =>
      rw [padClicked_snoc]
      exact Eq.trans (by cases axis <;> rfl) holds.clicked
  | source state touchpad =>
    refine holds.aside rfl rfl rfl rfl rfl (fun _ => rfl) (fun _ => rfl) ?_
    rw [padClicked_snoc]
    match touchpad with
    | none | some .left | some .right => rfl
  | battery percent =>
    refine holds.aside rfl rfl rfl rfl rfl (fun _ => rfl) (fun _ => rfl) ?_
    rw [padClicked_snoc]
    exact holds.clicked

theorem holds_changed (changes : List (Change F)) :
    (DualShock4.changed changes).state.Holds changes := by
  induction changes using List.reverseRecOn with
  | nil =>
    constructor
    case sticks => exact fun coordinate => by match coordinate with | 0 | 1 | 2 | 3 => rfl
    case triggers => exact fun side => by match side with | 0 | 1 => rfl
    case triggerButtons => exact fun side => by match side with | 0 | 1 => rfl
    case dpad => exact fun direction => by match direction with | 0 | 1 | 2 | 3 => rfl
    case buttons =>
      intro button place word
      exact BitVec.getLsbD_zero
    case clicked => rfl
  | append_singleton changes change inductionHypothesis =>
    rw [DualShock4.changed, List.foldl_append]
    exact inductionHypothesis.apply change

end

/-! ## What the descriptor declares -/

/-- The buttons of the input report. -/
def buttonBlock : Hid.Block := ⟨.input, 1, (List.range' 1 14).map (9, ·), 2, 0, 1, 1, 14, 36⟩

/-- The sticks, the D-pad, the buttons, the counter, the triggers and the rest. -/
def inputBlocks : List Hid.Block := [
  ⟨.input, 1, [(1, 0x30), (1, 0x31), (1, 0x32), (1, 0x35)], 2, 0, 255, 8, 4, 0⟩,
  ⟨.input, 1, [(1, 0x39)], 0x42, 0, 7, 4, 1, 32⟩,
  buttonBlock,
  ⟨.input, 1, [(0xff00, 0x20)], 2, 0, 127, 6, 1, 50⟩,
  ⟨.input, 1, [(1, 0x33), (1, 0x34)], 2, 0, 255, 8, 2, 56⟩,
  ⟨.input, 1, [(0xff00, 0x21)], 2, 0, 255, 8, 54, 72⟩]

/-- What a host makes of the descriptor. -/
structure Declares (blocks : List Hid.Block) : Prop where
  input : Hid.ofReport blocks .input 1 = inputBlocks
  output : Hid.length blocks .output 5 = 32
  calibration : Hid.length blocks .feature 0x02 = calibration.length
  pairing : Hid.length blocks .feature 0x12 = pairing.length
  firmware : Hid.length blocks .feature 0xa3 = firmware.length

theorem descriptor_declares : ∃ blocks, Hid.parse reportDescriptor = some blocks ∧ Declares blocks := by
  obtain ⟨blocks, parsed, facts⟩ := Option.map_eq_some_iff.mp
    (show (Hid.parse reportDescriptor).map (fun blocks => (Hid.ofReport blocks .input 1,
        Hid.length blocks .output 5, Hid.length blocks .feature 0x02,
        Hid.length blocks .feature 0x12, Hid.length blocks .feature 0xa3)) =
          some (inputBlocks, 32, 37, 16, 49) by
      decide +kernel)
  simp only [Prod.mk.injEq] at facts
  exact ⟨blocks, parsed, facts.1, facts.2.1, facts.2.2.1, facts.2.2.2.1, facts.2.2.2.2⟩

/-- The usages of the sticks, and of the triggers, on the page of generic desktops. -/
def stickUsage : Fin 4 → Hid.Usage
  | 0 => (1, 0x30)
  | 1 => (1, 0x31)
  | 2 => (1, 0x32)
  | 3 => (1, 0x35)

def triggerUsage : Fin 2 → Hid.Usage
  | 0 => (1, 0x33)
  | 1 => (1, 0x34)

/-- The usage of a button on the page of buttons; the D-pad is a hat. -/
def buttonUsage : GamepadButton → Option Hid.Usage
  | .west => some (9, 1)
  | .south => some (9, 2)
  | .east => some (9, 3)
  | .north => some (9, 4)
  | .leftBumper => some (9, 5)
  | .rightBumper => some (9, 6)
  | .select => some (9, 9)
  | .start => some (9, 10)
  | .leftStick => some (9, 11)
  | .rightStick => some (9, 12)
  | .guide => some (9, 13)
  | _ => none

namespace Declares

variable {blocks : List Hid.Block}

theorem length_input (declares : Declares blocks) : Hid.length blocks .input 1 = 64 := by
  rw [Hid.length, Hid.extent, declares.input]
  rfl

theorem read_stick (declares : Declares blocks) (report : List UInt8) (coordinate : Fin 4) :
    Hid.read blocks .input 1 (stickUsage coordinate) report =
      some ((report.getD (1 + coordinate) 0).toNat : Int) := by
  match coordinate with
  | 0 => exact Hid.read_byte declares.input rfl report 1 (by decide) rfl rfl
  | 1 => exact Hid.read_byte declares.input rfl report 2 (by decide) rfl rfl
  | 2 => exact Hid.read_byte declares.input rfl report 3 (by decide) rfl rfl
  | 3 => exact Hid.read_byte declares.input rfl report 4 (by decide) rfl rfl

theorem read_trigger (declares : Declares blocks) (report : List UInt8) (side : Fin 2) :
    Hid.read blocks .input 1 (triggerUsage side) report =
      some ((report.getD (8 + side) 0).toNat : Int) := by
  match side with
  | 0 => exact Hid.read_byte declares.input rfl report 8 (by decide) rfl rfl
  | 1 => exact Hid.read_byte declares.input rfl report 9 (by decide) rfl rfl

/-- The lower half of the byte that the hat shares with buttons. -/
theorem read_hat (declares : Declares blocks) (report : List UInt8) :
    Hid.read blocks .input 1 (1, 0x39) report =
      some (((report.getD 5 0) &&& (0x0f : UInt8)).toNat : Int) := by
  have found : Hid.field? inputBlocks (1, 0x39) =
      some (⟨.input, 1, [(1, 0x39)], 0x42, 0, 7, 4, 1, 32⟩, 0) := rfl
  rw [Hid.read_bits declares.input found report 5 0 (by decide) rfl (by decide), toNat_lower,
    Nat.pow_zero, Nat.div_one]
  rfl

/-- The upper six bits of the byte with the last buttons. -/
theorem read_counter (declares : Declares blocks) (report : List UInt8) :
    Hid.read blocks .input 1 (0xff00, 0x20) report =
      some ((report.getD 7 0 >>> (2 : UInt8)).toNat : Int) := by
  have small : (report.getD 7 0).toNat < 256 := UInt8.toNat_lt _
  have found : Hid.field? inputBlocks (0xff00, 0x20) =
      some (⟨.input, 1, [(0xff00, 0x20)], 2, 0, 127, 6, 1, 50⟩, 0) := rfl
  have shifted : (report.getD 7 0 >>> (2 : UInt8)).toNat = (report.getD 7 0).toNat / 4 := by
    rw [UInt8.toNat_shiftRight]
    exact Nat.shiftRight_eq_div_pow _ 2
  have fits : (report.getD 7 0).toNat / 4 % 64 = (report.getD 7 0).toNat / 4 := by omega
  rw [Hid.read_bits declares.input found report 7 2 (by decide) rfl (by decide), shifted, ← fits]
  rfl

/-- A button is a bit. -/
theorem read_button (declares : Declares blocks) (report : List UInt8) {usage : Nat}
    (low : 1 ≤ usage) (high : usage ≤ 14) :
    Hid.read blocks .input 1 (9, usage) report =
      some ((bit (report.getD ((43 + usage) / 8) 0) ((43 + usage) % 8)).toNat : Int) := by
  have found : Hid.field? inputBlocks (9, usage) = some (buttonBlock, usage - 1) := by
    interval_cases usage <;> rfl
  have starts : buttonBlock.position (usage - 1) =
      8 * ((43 + usage) / 8) + (43 + usage) % 8 := by
    show 8 + 36 + (usage - 1) * 1 = _
    omega
  have within : (43 + usage) % 8 + 1 ≤ 8 := by omega
  rw [Hid.read_bits declares.input found report _ _ (by decide) starts within, bit,
    BitVec.getLsbD, UInt8.toNat_toBitVec, Nat.toNat_testBit]
  rfl

end Declares

/-! ## What a host sees -/

section

variable {F : Type} [Scalar F]

/-- A report as a host reads it, said in terms of the outputs. -/
structure HostSees (blocks : List Hid.Block) (report : List UInt8) (changes : List (Change F))
    (count : Nat) : Prop where
  length : report.length = Hid.length blocks .input 1
  sticks : ∀ coordinate, Hid.read blocks .input 1 (stickUsage coordinate) report =
    some ((axisLevel changes (stickAxis coordinate)).toNat : Int)
  buttons : ∀ {button usage}, buttonUsage button = some usage →
    Hid.read blocks .input 1 usage report = some ((heldDown changes button).toNat : Int)
  direction : ∃ hat : UInt8, Hid.read blocks .input 1 (1, 0x39) report = some (hat.toNat : Int) ∧
    decodeHat hat =
      (State.difference (heldDown changes .dpadRight) (heldDown changes .dpadLeft),
        State.difference (heldDown changes .dpadDown) (heldDown changes .dpadUp))
  triggerDown : ∀ side : Fin 2, Hid.read blocks .input 1 (9, 7 + side.val) report =
    some ((heldDown changes (Trigger.button side) ||
      axisLevel changes (Trigger.axis side) != 0).toNat : Int)
  triggers : ∀ side, Hid.read blocks .input 1 (triggerUsage side) report =
    some (((if heldDown changes (Trigger.button side) then 255
      else axisLevel changes (Trigger.axis side) : UInt8).toNat : Int))
  clicked : Hid.read blocks .input 1 (9, 14) report = some ((padClicked changes).toNat : Int)
  counter : Hid.read blocks .input 1 (0xff00, 0x20) report = some ((count % 64 : Nat) : Int)

theorem getD_toList (report : Vector UInt8 64) (index : Fin 64) :
    report.toList.getD index 0 = report[index] := by
  have inside : index.val < report.toList.length := by simp
  rw [List.getD_eq_getElem _ _ inside]
  simp

/-- The usage of a button is that of its bit. -/
theorem buttonUsage_place {button : GamepadButton} {usage : Hid.Usage}
    (named : buttonUsage button = some usage) :
    ∃ number, ∃ index : Fin 64, ∃ word, usage = (9, number) ∧ 1 ≤ number ∧ number ≤ 14 ∧
      index.val = (43 + number) / 8 ∧ reportBit button = some (index, (43 + number) % 8) ∧
      wordBit button = some word := by
  cases button <;> cases named <;>
    exact ⟨_, _, _, rfl, by decide, by decide, rfl, rfl, rfl⟩

/-- What the fields of the wired DualShock 4 say is what the descriptor declares them to say. -/
theorem host_sees {blocks : List Hid.Block} (declares : Declares blocks)
    {report : Vector UInt8 64} {state : State} {changes : List (Change F)} {count : Nat}
    (holds : state.Holds changes) (reading : readReport report = state.reading)
    (counter : counterOf report = count % 64) : HostSees blocks report.toList changes count := by
  -- a bit of the page of buttons, once its place in the report is known
  have flag {number : Nat} (low : 1 ≤ number) (high : number ≤ 14) (index : Fin 64)
      (place : index.val = (43 + number) / 8) {down : Bool}
      (said : bit report[index] ((43 + number) % 8) = down) :
      Hid.read blocks .input 1 (9, number) report.toList = some (down.toNat : Int) := by
    rw [declares.read_button report.toList low high, ← place, getD_toList report index, said]
  constructor
  case length => rw [declares.length_input, Vector.length_toList]
  case sticks =>
    intro coordinate
    have byte := getD_toList report ⟨1 + coordinate.val, by omega⟩
    have same := congrFun (congrArg Reading.sticks reading) coordinate
    rw [declares.read_stick, ← holds.sticks, byte]
    exact congrArg (fun byte : UInt8 => some (byte.toNat : Int)) same
  case buttons =>
    intro button usage named
    obtain ⟨number, index, word, rfl, low, high, place, bits, found⟩ := buttonUsage_place named
    have same : (reportBit button).any (fun place => bit report[place.1] place.2) =
        (wordBit button).any state.buttons.toBitVec.getLsbD :=
      congrFun (congrArg Reading.button reading) button
    rw [bits, found] at same
    exact flag low high index place (same.trans (holds.buttons found))
  case direction =>
    have same : directionOf report = (State.difference (state.dpad.get 3) (state.dpad.get 2),
      State.difference (state.dpad.get 1) (state.dpad.get 0)) := congrArg Reading.direction reading
    refine ⟨report[5] &&& 0x0f, ?_, ?_⟩
    · rw [declares.read_hat]
      exact congrArg (fun byte : UInt8 => some ((byte &&& 0x0f).toNat : Int)) (getD_toList report 5)
    · rw [holds.dpad, holds.dpad, holds.dpad, holds.dpad] at same
      exact same
  case triggerDown =>
    intro side
    have same : bit report[6] (2 + side) =
        (state.triggerButtons.get side || state.triggers.get side != 0) :=
      congrFun (congrArg Reading.triggerDown reading) side
    rw [holds.triggerButtons, holds.triggers] at same
    have upper : (43 + (7 + side.val)) % 8 = 2 + side.val := by omega
    refine flag (by omega) (by omega) 6 (by omega) ?_
    rw [upper]
    exact same
  case triggers =>
    intro side
    have same : triggerByteOf report side =
        if state.triggerButtons.get side then 255 else state.triggers.get side :=
      congrFun (congrArg Reading.triggerLevel reading) side
    have byte : report.toList.getD (8 + side) 0 = triggerByteOf report side := by
      match side with
      | 0 => exact getD_toList report 8
      | 1 => exact getD_toList report 9
    rw [declares.read_trigger, byte, same, holds.triggerButtons, holds.triggers]
  case clicked =>
    have same : bit (report.get 7) 1 = state.touchpadClicked := congrArg Reading.clicked reading
    exact flag (by decide) (by decide) 7 rfl (same.trans holds.clicked)
  case counter =>
    rw [declares.read_counter, ← counter]
    exact congrArg (fun byte : UInt8 => some ((byte >>> (2 : UInt8)).toNat : Int))
      (getD_toList report 7)

end

end Scd.Daemon.DualShock

namespace Scd.Daemon.Usbip

open Scd.Core Scd.Foundation
open DualShock (DualShock4 Change HostSees)

/-- A setup packet that asks for the whole report descriptor. -/
structure AsksDescriptor (setup : List UInt8) : Prop where
  requestType : byteAt setup 0 = 0x81
  request : byteAt setup 1 = 6
  value : leU16 setup 2 >>> 8 = 0x22
  length : DualShock.reportDescriptor.length ≤ setupLength setup

/-- A setup packet that asks for a feature report. -/
structure AsksFeature (setup : List UInt8) (reportId : UInt8) : Prop where
  requestType : byteAt setup 0 = 0xa1
  request : byteAt setup 1 = 1
  value : (leU16 setup 2).toUInt8 = reportId
  length : 64 ≤ setupLength setup

/-- What a host learns from control requests. -/
structure Enumerates (blocks : List Hid.Block) : Prop where
  descriptor : ∀ {setup output rumble}, AsksDescriptor setup → ∃ data,
    control setup output rumble = .ok (data, rumble) ∧ Hid.parse data = some blocks
  /-- A feature report that is served is as long as it is declared, and names itself. -/
  feature : ∀ {setup output rumble reportId data after}, AsksFeature setup reportId →
    control setup output rumble = .ok (data, after) →
      data.head? = some reportId ∧ data.length = Hid.length blocks .feature reportId.toNat

/-- A control request is answered with its data, cut to the length it asks for. -/
theorem control_data {setup output data : List UInt8} {rumble after : UInt16 × UInt16}
    (found : controlData (byteAt setup 0) (byteAt setup 1) (leU16 setup 2) output rumble =
      .ok (data, after)) (fits : data.length ≤ setupLength setup) :
    control setup output rumble = .ok (data, after) := by
  have whole : data.take (setupLength setup) = data := List.take_of_length_le fits
  simp only [control, found, ok_bind, whole]
  rfl

theorem declares_enumerates {blocks : List Hid.Block}
    (parsed : Hid.parse DualShock.reportDescriptor = some blocks)
    (declares : DualShock.Declares blocks) : Enumerates blocks := by
  constructor
  case descriptor =>
    intro setup output rumble asks
    refine ⟨_, control_data ?_ asks.length, parsed⟩
    rw [asks.requestType, asks.request]
    simp only [controlData, asks.value]
  case feature =>
    intro setup output rumble reportId data after asks answered
    -- one of the three reports is served, whole
    have served (report : List UInt8) (short : report.length ≤ 64)
        (found : controlData 0xa1 1 (leU16 setup 2) output rumble = .ok (report, rumble)) :
        data = report := by
      rw [← asks.requestType, ← asks.request] at found
      have whole := control_data found (short.trans asks.length)
      exact congrArg Prod.fst (Except.ok.inj (answered.symm.trans whole))
    by_cases calibrates : reportId = 0x02
    · subst calibrates
      rw [served DualShock.calibration (by decide) (by simp [controlData, asks.value])]
      exact ⟨rfl, declares.calibration.symm⟩
    by_cases pairs : reportId = 0x12
    · subst pairs
      rw [served DualShock.pairing (by decide) (by simp [controlData, asks.value])]
      exact ⟨rfl, declares.pairing.symm⟩
    by_cases updates : reportId = 0xa3
    · subst updates
      rw [served DualShock.firmware (by decide) (by simp [controlData, asks.value])]
      exact ⟨rfl, declares.firmware.symm⟩
    have refused : controlData (byteAt setup 0) (byteAt setup 1) (leU16 setup 2) output rumble =
        .error epipe := by
      rw [asks.requestType, asks.request]
      simp only [controlData, asks.value]
    rw [control, refused] at answered
    cases answered

section

variable {F : Type} [Scalar F] [RoundedScalar F]

/-- A host that has asked for the descriptor reads in each input report what the outputs of the
    mapper said last. -/
theorem host_reads_outputs (histories : Nat → List (Change F))
    (fits : ∀ index, ∀ change ∈ histories index, change.Fits) :
    ∃ blocks, Enumerates blocks ∧ ∀ (requests : List Request) {request : Request},
      request.IsInput → 64 ≤ request.length →
        let reports := fun index => (DualShock4.changed (histories index)).report
        let session := served reports .start requests
        ∃ report : List UInt8,
          (respond (reports session.inputs) session request).2 =
            writeReply retSubmit (readHeader request.header) 64 report ∧
          HostSees blocks report (histories session.inputs) (requests.countP (·.IsInput)) := by
  obtain ⟨blocks, parsed, declares⟩ := DualShock.descriptor_declares
  refine ⟨blocks, declares_enumerates parsed declares, fun requests request input long => ?_⟩
  intro reports session
  have sound := DualShock.sound_changed (fits session.inputs)
  have counted := counter_served reports .start requests
  have started : Session.start.counter.toNat + requests.countP (·.IsInput) =
      requests.countP (·.IsInput) := Nat.zero_add _
  rw [started] at counted
  have tells := tells_sent sound session.counter
  have whole : (stampInput (reports session.inputs) session.counter).toList.take request.length =
      (stampInput (reports session.inputs) session.counter).toList :=
    List.take_of_length_le (by simpa using long)
  refine ⟨(stampInput (reports session.inputs) session.counter).toList, ?_, ?_⟩
  · rw [respond_input _ _ input, inputReply, whole, Vector.length_toList]
  · exact DualShock.host_sees declares (DualShock.holds_changed (histories session.inputs))
      tells.reading (tells.counter.trans counted)

/-- After South was pressed the host reads the second button as down. -/
theorem host_reads_outputs_south : ∃ blocks report, Enumerates blocks ∧
    Hid.read blocks .input 1 (9, 2) report = some 1 := by
  obtain ⟨blocks, enumerates, reads⟩ := host_reads_outputs
    (fun _ => [(.button .south true : Change ℚ)]) fun _ _ member => by
      rw [List.mem_singleton.mp member]
      trivial
  obtain ⟨report, _, sees⟩ := reads [] (show inputRequest.IsInput from ⟨rfl, rfl, .inl rfl, rfl, rfl⟩)
    (by decide)
  exact ⟨blocks, report, enumerates, sees.buttons (show DualShock.buttonUsage .south = _ from rfl)⟩

end

end Scd.Daemon.Usbip
