import Scd.Daemon.DualShock
import Scd.Daemon.Xbox
import Scd.Foundation.Path

/-! # The two gamepads

Both gamepads are fed with the same outputs of the mapper.  The host reads the triggers and
the D-pad of the Xbox gamepad off its events, and those of the DualShock 4 off its report.
The D-pads always agree.  The DualShock 4 keeps the button and the value of a trigger apart;
the events of the Xbox gamepad do not, and the triggers agree as long as that makes no
difference.
-/

namespace Scd.Daemon

open Scd.Core Scd.Foundation
open Evdev (InputEvent AbsoluteAxis level level_append_absolute level_append_key)
open DualShock (State DualShock4)

/-! ## The report of the DualShock 4 -/

namespace DualShock

/-- The byte of a trigger in the report. -/
def triggerByteOf (report : Vector UInt8 64) : Fin 2 → UInt8
  | 0 => report[8]
  | 1 => report[9]

/-- The directions of a hat value: to the right, and downwards. -/
def decodeHat (hat : UInt8) : Int × Int :=
  match hat with
  | 0 => (0, -1)
  | 1 => (1, -1)
  | 2 => (1, 0)
  | 3 => (1, 1)
  | 4 => (0, 1)
  | 5 => (-1, 1)
  | 6 => (-1, 0)
  | 7 => (-1, -1)
  | _ => (0, 0)

/-- The directions of the D-pad in the report. -/
def directionOf (report : Vector UInt8 64) : Int × Int := decodeHat (report[5] &&& 0x0f)

theorem triggerByteOf_usbReport (state : State) (touchTimestamp : UInt8) (side : Fin 2) :
    triggerByteOf (state.usbReport touchTimestamp) side = state.triggerLevel side := by
  match side with
  | 0 => rfl
  | 1 => rfl

theorem upper_and_lower (byte : UInt8) : ((byte &&& 0x0f) <<< 4) &&& 0x0f = 0 := by
  obtain ⟨bits⟩ := byte
  apply UInt8.toBitVec_inj.mp
  revert bits
  decide +kernel

/-- The buttons in the upper half of a byte do not disturb the hat in the lower half. -/
theorem hat_bits (hat buttons : UInt8) (small : hat &&& 0x0f = hat) :
    (hat ||| ((buttons &&& 0x0f) <<< 4)) &&& 0x0f = hat := by
  have upper := upper_and_lower buttons
  generalize (buttons &&& 0x0f) <<< 4 = byte at upper ⊢
  have distributes : (hat ||| byte) &&& 0x0f = hat &&& 0x0f ||| byte &&& 0x0f :=
    UInt8.toBitVec_inj.mp BitVec.and_or_distrib_right
  rw [distributes, upper, small, UInt8.or_zero]

theorem directionOf_usbReport (state : State) (touchTimestamp : UInt8) :
    directionOf (state.usbReport touchTimestamp) =
      (State.difference (state.dpad.get 3) (state.dpad.get 2),
        State.difference (state.dpad.get 1) (state.dpad.get 0)) := by
  have byte : (state.usbReport touchTimestamp)[5] =
      state.hat ||| ((state.buttons.toUInt8 &&& 0x0f) <<< 4) := rfl
  have small : state.hat &&& 0x0f = state.hat := by
    unfold State.hat
    split <;> rfl
  show _ = (State.difference state.dpad[3] state.dpad[2],
    State.difference state.dpad[1] state.dpad[0])
  rw [directionOf, byte, hat_bits _ _ small, State.hat]
  cases state.dpad[3] <;> cases state.dpad[2] <;> cases state.dpad[1] <;> cases state.dpad[0] <;>
    rfl

end DualShock

/-! ## Both gamepads -/

/-- Both gamepads, and the events of the first. -/
structure Pads where
  xbox : Xbox
  events : List InputEvent
  dualShock : DualShock4

/-- The two sources of a trigger, kept apart. -/
structure Trigger where
  pressed : Bool
  analog : Int

namespace Trigger

/-- What the host should see. -/
def level (trigger : Trigger) : Int := if trigger.pressed then 255 else trigger.analog

def button : Fin 2 → GamepadButton
  | 0 => .leftTrigger
  | 1 => .rightTrigger

def axis : Fin 2 → GamepadAxis
  | 0 => .leftTrigger
  | 1 => .rightTrigger

/-- The axis of the trigger in the events. -/
def code : Fin 2 → AbsoluteAxis
  | 0 => .absZ
  | 1 => .absRz

end Trigger

section

variable {F : Type} [Scalar F]

namespace Pads

def new : Pads := ⟨Xbox.new, [], DualShock4.new⟩

/-- The outputs for a gamepad go to both. -/
def feed (pads : Pads) (output : Output F) : Pads :=
  match output with
  | .gamepadButton button pressed =>
    let (xbox, event) := pads.xbox.emitButton button pressed
    ⟨xbox, pads.events ++ event.toList, pads.dualShock.emitButton button pressed⟩
  | .gamepadAxis axis value =>
    ⟨pads.xbox, pads.events ++ [Xbox.emitAxis axis value], pads.dualShock.emitAxis axis value⟩
  | _ => pads

def run (outputs : List (Output F)) : Pads := outputs.foldl feed new

end Pads

namespace Trigger

def feed (side : Fin 2) (trigger : Trigger) (output : Output F) : Trigger :=
  match output with
  | .gamepadButton other pressed =>
    if other = button side then { trigger with pressed } else trigger
  | .gamepadAxis other value =>
    if other = axis side then { trigger with analog := Xbox.triggerValue value } else trigger
  | _ => trigger

/-- A trigger after some outputs. -/
def run (side : Fin 2) (outputs : List (Output F)) : Trigger :=
  outputs.foldl (feed side) ⟨false, 0⟩

/-- The output leaves the host of the Xbox gamepad with the right level: the value of a trigger
    that is held is at the end of its range, and a trigger that is released has no value. -/
def Meets (side : Fin 2) (trigger : Trigger) (output : Output F) : Prop :=
  match output with
  | .gamepadButton other pressed => other = button side → pressed = false → trigger.analog = 0
  | .gamepadAxis other value =>
    other = axis side → trigger.pressed = true → Xbox.triggerValue value = 255
  | _ => True

end Trigger

/-- What the host sees of both gamepads is the same, and what it should be. -/
structure Agree (outputs : List (Output F)) : Prop where
  xbox : ∀ side, level (Trigger.code side) (Pads.run outputs).events =
    (Trigger.run side outputs).level
  dualShock : ∀ side,
    ((DualShock.triggerByteOf (Pads.run outputs).dualShock.report side).toNat : Int) =
      (Trigger.run side outputs).level
  dpad : (level .absHat0x (Pads.run outputs).events, level .absHat0y (Pads.run outputs).events) =
    DualShock.directionOf (Pads.run outputs).dualShock.report

theorem Pads.run_append (outputs : List (Output F)) (output : Output F) :
    Pads.run (outputs ++ [output]) = (Pads.run outputs).feed output := by
  simp only [Pads.run, List.foldl_append, List.foldl_cons, List.foldl_nil]

theorem Trigger.run_append (side : Fin 2) (outputs : List (Output F)) (output : Output F) :
    Trigger.run side (outputs ++ [output]) = (Trigger.run side outputs).feed side output := by
  simp only [Trigger.run, List.foldl_append, List.foldl_cons, List.foldl_nil]

/-! ## The triggers of the Xbox gamepad -/

theorem level_button (xbox : Xbox) (events : List InputEvent) (side : Fin 2)
    (button : GamepadButton) (pressed : Bool) :
    level (Trigger.code side) (events ++ (xbox.emitButton button pressed).2.toList) =
      if button = Trigger.button side then (if pressed then 255 else 0)
      else level (Trigger.code side) events := by
  match side with
  | 0 =>
    cases button <;> cases pressed <;>
      simp [Xbox.emitButton, Xbox.hatX, Xbox.hatY, Xbox.fromBool, Trigger.code, Trigger.button,
        level_append_absolute, level_append_key]
  | 1 =>
    cases button <;> cases pressed <;>
      simp [Xbox.emitButton, Xbox.hatX, Xbox.hatY, Xbox.fromBool, Trigger.code, Trigger.button,
        level_append_absolute, level_append_key]

theorem level_axis (events : List InputEvent) (side : Fin 2) (axis : GamepadAxis) (value : F) :
    level (Trigger.code side) (events ++ [Xbox.emitAxis axis value]) =
      if axis = Trigger.axis side then Xbox.triggerValue value
      else level (Trigger.code side) events := by
  match side with
  | 0 => cases axis <;> simp [Xbox.emitAxis, Trigger.code, Trigger.axis, level_append_absolute]
  | 1 => cases axis <;> simp [Xbox.emitAxis, Trigger.code, Trigger.axis, level_append_absolute]

/-- An output keeps the level of a trigger right exactly when it meets the condition. -/
theorem level_feed (side : Fin 2) (outputs : List (Output F)) (output : Output F)
    (right : level (Trigger.code side) (Pads.run outputs).events =
      (Trigger.run side outputs).level) :
    level (Trigger.code side) (Pads.run (outputs ++ [output])).events =
        (Trigger.run side (outputs ++ [output])).level ↔
      Trigger.Meets side (Trigger.run side outputs) output := by
  rw [Pads.run_append, Trigger.run_append]
  generalize Pads.run outputs = pads at right ⊢
  generalize Trigger.run side outputs = trigger at right ⊢
  cases output with
  | gamepadButton button pressed =>
    -- the event of the button overwrites the axis, and a release leaves it at zero
    simp only [Pads.feed, Trigger.feed, Trigger.Meets, level_button]
    by_cases same : button = Trigger.button side
    · cases pressed <;> simp [same, Trigger.level, eq_comm]
    · simp [same, right]
  | gamepadAxis axis value =>
    -- the value overwrites the axis, also while the button is held
    simp only [Pads.feed, Trigger.feed, Trigger.Meets, level_axis]
    by_cases same : axis = Trigger.axis side
    · cases trigger.pressed <;> simp [same, Trigger.level]
    · simp [same, right]
  | _ => simpa [Pads.feed, Trigger.feed, Trigger.Meets] using right

/-! ## The state behind both -/

/-- The DualShock 4 keeps the two sources of each trigger, and both gamepads keep the D-pad. -/
structure Follows (pads : Pads) (triggers : Fin 2 → Trigger) : Prop where
  report : pads.dualShock.report = pads.dualShock.state.usbReport pads.dualShock.touchTimestamp
  pressed : ∀ side, pads.dualShock.state.triggerButtons.get side = (triggers side).pressed
  analog : ∀ side, ((pads.dualShock.state.triggers.get side).toNat : Int) = (triggers side).analog
  dpad : pads.dualShock.state.dpad = pads.xbox.dpad
  hatX : level .absHat0x pads.events =
    State.difference (pads.xbox.dpad.get 3) (pads.xbox.dpad.get 2)
  hatY : level .absHat0y pads.events =
    State.difference (pads.xbox.dpad.get 1) (pads.xbox.dpad.get 0)

namespace DualShock.DualShock4

theorem emitButton_report {gamepad : DualShock4} (button : GamepadButton) (pressed : Bool)
    (current : gamepad.report = gamepad.state.usbReport gamepad.touchTimestamp) :
    (gamepad.emitButton button pressed).report =
      (gamepad.emitButton button pressed).state.usbReport
        (gamepad.emitButton button pressed).touchTimestamp := by
  cases button <;> first | rfl | exact current

theorem emitButton_triggerButtons (gamepad : DualShock4) (button : GamepadButton) (pressed : Bool)
    (side : Fin 2) :
    (gamepad.emitButton button pressed).state.triggerButtons.get side =
      if button = Trigger.button side then pressed else gamepad.state.triggerButtons.get side := by
  match side with
  | 0 => cases button <;> simp [emitButton, setBit, setDpad, setTriggerButton, update,
      updateReport, Trigger.button, get_eq_getElem]
  | 1 => cases button <;> simp [emitButton, setBit, setDpad, setTriggerButton, update,
      updateReport, Trigger.button, get_eq_getElem]

theorem emitButton_triggers (gamepad : DualShock4) (button : GamepadButton) (pressed : Bool) :
    (gamepad.emitButton button pressed).state.triggers = gamepad.state.triggers := by
  cases button <;> rfl

theorem emitButton_dpad (gamepad : DualShock4) (xbox : Xbox) (button : GamepadButton)
    (pressed : Bool) (same : gamepad.state.dpad = xbox.dpad) :
    (gamepad.emitButton button pressed).state.dpad = (xbox.emitButton button pressed).1.dpad := by
  cases button <;>
    simp [emitButton, setBit, setDpad, setTriggerButton, update, updateReport, Xbox.emitButton,
      Xbox.setDpad, put, same]

theorem emitAxis_triggers [LawfulScalar F] (gamepad : DualShock4) (axis : GamepadAxis) (value : F)
    (side : Fin 2) :
    (((gamepad.emitAxis axis value).state.triggers.get side).toNat : Int) =
      if axis = Trigger.axis side then Xbox.triggerValue value
      else ((gamepad.state.triggers.get side).toNat : Int) := by
  have byte : ((triggerByte value).toNat : Int) = Xbox.triggerValue value := by
    have range := Xbox.triggerValue_range value
    simp only [triggerByte, toU8, Xbox.triggerValue, UInt8.toNat_ofNat'] at range ⊢
    omega
  match side with
  | 0 => cases axis <;> simp [emitAxis, setStick, setTrigger, update, updateReport, Trigger.axis,
      byte, get_eq_getElem]
  | 1 => cases axis <;> simp [emitAxis, setStick, setTrigger, update, updateReport, Trigger.axis,
      byte, get_eq_getElem]

end DualShock.DualShock4

theorem hatX_button (xbox : Xbox) (events : List InputEvent) (button : GamepadButton)
    (pressed : Bool)
    (right : level .absHat0x events = State.difference (xbox.dpad.get 3) (xbox.dpad.get 2)) :
    level .absHat0x (events ++ (xbox.emitButton button pressed).2.toList) =
      State.difference ((xbox.emitButton button pressed).1.dpad.get 3)
        ((xbox.emitButton button pressed).1.dpad.get 2) := by
  -- the directions of this hat send its event; the others send another event or none
  cases button with
  | dpadLeft | dpadRight => exact (level_append_absolute _ _ _ _).trans (if_pos rfl)
  | dpadUp | dpadDown =>
    simp [Xbox.emitButton, Xbox.setDpad, Xbox.hatY, level_append_absolute, right, put,
      get_eq_getElem]
  | _ => simp [Xbox.emitButton, level_append_absolute, level_append_key, right]

theorem hatY_button (xbox : Xbox) (events : List InputEvent) (button : GamepadButton)
    (pressed : Bool)
    (right : level .absHat0y events = State.difference (xbox.dpad.get 1) (xbox.dpad.get 0)) :
    level .absHat0y (events ++ (xbox.emitButton button pressed).2.toList) =
      State.difference ((xbox.emitButton button pressed).1.dpad.get 1)
        ((xbox.emitButton button pressed).1.dpad.get 0) := by
  cases button with
  | dpadUp | dpadDown => exact (level_append_absolute _ _ _ _).trans (if_pos rfl)
  | dpadLeft | dpadRight =>
    simp [Xbox.emitButton, Xbox.setDpad, Xbox.hatX, level_append_absolute, right, put,
      get_eq_getElem]
  | _ => simp [Xbox.emitButton, level_append_absolute, level_append_key, right]

theorem hat_axis (events : List InputEvent) {code : AbsoluteAxis}
    (hat : code = .absHat0x ∨ code = .absHat0y) (axis : GamepadAxis) (value : F) :
    level code (events ++ [Xbox.emitAxis axis value]) = level code events := by
  cases axis <;> rcases hat with rfl | rfl <;> simp [Xbox.emitAxis, level_append_absolute]

theorem Follows.feed [LawfulScalar F] {pads : Pads} {triggers : Fin 2 → Trigger}
    (follows : Follows pads triggers) (output : Output F) :
    Follows (pads.feed output) fun side => (triggers side).feed side output := by
  cases output with
  | gamepadButton button pressed =>
    exact {
      report := DualShock4.emitButton_report button pressed follows.report
      pressed := by
        intro side
        simp only [Pads.feed, Trigger.feed, DualShock4.emitButton_triggerButtons]
        split
        · rfl
        · exact follows.pressed side
      analog := by
        intro side
        simp only [Pads.feed, Trigger.feed, DualShock4.emitButton_triggers]
        split <;> exact follows.analog side
      dpad := DualShock4.emitButton_dpad _ _ button pressed follows.dpad
      hatX := hatX_button _ _ button pressed follows.hatX
      hatY := hatY_button _ _ button pressed follows.hatY }
  | gamepadAxis axis value =>
    exact {
      report := by cases axis <;> rfl
      pressed := by
        intro side
        have kept : ((pads.dualShock.emitAxis axis value).state.triggerButtons) =
            pads.dualShock.state.triggerButtons := by
          cases axis <;> rfl
        simp only [Pads.feed, Trigger.feed, kept]
        split <;> exact follows.pressed side
      analog := by
        intro side
        simp only [Pads.feed, Trigger.feed, DualShock4.emitAxis_triggers]
        split
        · rfl
        · exact follows.analog side
      dpad := by
        have kept : (pads.dualShock.emitAxis axis value).state.dpad = pads.dualShock.state.dpad := by
          cases axis <;> rfl
        exact kept.trans follows.dpad
      hatX := (hat_axis _ (.inl rfl) axis value).trans follows.hatX
      hatY := (hat_axis _ (.inr rfl) axis value).trans follows.hatY }
  | _ => exact follows

theorem follows_run [LawfulScalar F] (outputs : List (Output F)) :
    Follows (Pads.run outputs) fun side => Trigger.run side outputs := by
  induction outputs using List.reverseRecOn with
  | nil =>
    exact ⟨rfl, fun side => by match side with | 0 => rfl | 1 => rfl,
      fun side => by match side with | 0 => rfl | 1 => rfl, rfl, rfl, rfl⟩
  | append_singleton outputs output inductionHypothesis =>
    simp only [Pads.run_append, Trigger.run_append]
    exact inductionHypothesis.feed output

/-- The DualShock 4 reports the level of each trigger. -/
theorem Follows.level_dualShock {pads : Pads} {triggers : Fin 2 → Trigger}
    (follows : Follows pads triggers) (side : Fin 2) :
    ((DualShock.triggerByteOf pads.dualShock.report side).toNat : Int) =
      (triggers side).level := by
  have pressed : pads.dualShock.state.triggerButtons[side] = (triggers side).pressed :=
    follows.pressed side
  rw [follows.report, DualShock.triggerByteOf_usbReport, State.triggerLevel, Trigger.level, pressed]
  split
  · rfl
  · exact follows.analog side

theorem Follows.direction {pads : Pads} {triggers : Fin 2 → Trigger}
    (follows : Follows pads triggers) :
    (level .absHat0x pads.events, level .absHat0y pads.events) =
      DualShock.directionOf pads.dualShock.report := by
  rw [follows.report, DualShock.directionOf_usbReport, follows.hatX, follows.hatY, follows.dpad]

/-- After every output both gamepads show the host the same, right levels exactly when each
    output meets the condition of the Xbox gamepad. -/
theorem gamepads_agree_iff [LawfulScalar F] (outputs : List (Output F)) :
    (∀ before, before <+: outputs → Agree before) ↔
      ∀ before output, before ++ [output] <+: outputs →
        ∀ side, Trigger.Meets side (Trigger.run side before) output := by
  have known : ∀ before : List (Output F), Agree before ↔
      ∀ side, level (Trigger.code side) (Pads.run before).events =
        (Trigger.run side before).level := by
    intro before
    have follows := follows_run before
    exact ⟨fun agree => agree.xbox, fun right =>
      ⟨right, follows.level_dualShock, follows.direction⟩⟩
  simp only [known]
  apply forall_prefix_iff
  · intro side
    match side with
    | 0 => rfl
    | 1 => rfl
  · intro before output _ right
    exact forall_congr' fun side => level_feed side before output (right side)

/-- The presses and releases of a button. -/
def presses (button : GamepadButton) (outputs : List (Output F)) : List Bool :=
  outputs.filterMap fun output =>
    match output with
    | .gamepadButton other pressed => if other = button then some pressed else none
    | _ => none

/-- Presses and releases in turn, beginning with this one. -/
def alternating : Bool → List Bool → Prop
  | _, [] => True
  | expected, pressed :: rest => pressed = expected ∧ alternating (!expected) rest

/-- A run of outputs as the mapper may send it: every button alternates, and the values of the
    triggers are in the unit interval. -/
structure PadRun (outputs : List (Output F)) : Prop where
  buttons : ∀ button, alternating true (presses button outputs)
  triggers : ∀ side value, .gamepadAxis (Trigger.axis side) value ∈ outputs →
    0.0 ≤ value ∧ value ≤ 1.0

end

/-- The button of a half pulled trigger is pressed and released: the Xbox gamepad is left at
    zero, the DualShock 4 at the value of the trigger. -/
def halfPull : List (Output ℚ) :=
  [.gamepadAxis .leftTrigger 0.5, .gamepadButton .leftTrigger true,
    .gamepadButton .leftTrigger false]

theorem gamepads_agree_iff_half :
    (∀ before, before <+: halfPull → Agree before) ↔
      ∀ before output, before ++ [output] <+: halfPull →
        ∀ side, Trigger.Meets side (Trigger.run side before) output :=
  gamepads_agree_iff halfPull

theorem gamepads_disagree :
    ¬ ∀ outputs : List (Output ℚ), PadRun outputs →
      ∀ before, before <+: outputs → Agree before := by
  intro agree
  have valid : PadRun halfPull := by
    constructor
    · intro button
      cases button <;> simp [halfPull, presses, alternating]
    · intro side value member
      simp only [halfPull, List.mem_cons, Output.gamepadAxis.injEq, reduceCtorEq,
        List.not_mem_nil, or_false] at member
      rw [member.2]
      norm_num
  have levels := (agree halfPull valid halfPull (List.prefix_refl _)).xbox 0
  exact absurd levels (by decide +kernel)

end Scd.Daemon
