import Scd.Daemon.Outputs

/-! # What the virtual devices declare

A device of `uinput` is built with the keys and the axes that it may send, and each absolute
axis with its range.  The kernel drops an event of any other key or axis without an error.
-/

namespace Scd.Daemon

open Scd.Core

/-! ## The gamepad -/

namespace Evdev

structure AbsInfo where
  value : Int
  minimum : Int
  maximum : Int
  fuzz : Int
  flat : Int
  resolution : Int
  deriving DecidableEq, Repr

end Evdev

open Evdev

namespace Xbox

def keys : List PadKey :=
  [.btnSouth, .btnEast, .btnNorth, .btnWest, .btnTl, .btnTr, .btnSelect, .btnStart, .btnMode,
    .btnThumbl, .btnThumbr]

def stick : AbsInfo := ⟨0, -32768, 32767, 16, 128, 0⟩

def trigger : AbsInfo := ⟨0, 0, 255, 0, 0, 0⟩

def hat : AbsInfo := ⟨0, -1, 1, 0, 0, 0⟩

def axes : List (AbsoluteAxis × AbsInfo) :=
  [(.absX, stick), (.absY, stick), (.absRx, stick), (.absRy, stick), (.absZ, trigger),
    (.absRz, trigger), (.absHat0x, hat), (.absHat0y, hat)]

end Xbox

/-! ## The keyboard and the mouse -/

namespace Outputs

/-- The loop over the codes up to `0x2ff`. -/
def keyboardKeys : List KeyCode :=
  ((List.range' 1 0x2ff).map fun code => (⟨.ofNat code⟩ : KeyCode)).filter isKeyboardKey

def mouseKeys : List MouseButton :=
  [.left, .right, .middle, .side, .extra, .forward, .back, .task]

def mouseAxes : List RelativeAxis := [.relX, .relY, .relWheel, .relHwheel]

end Outputs

/-! ## Events of a device -/

/-- A key is pressed or released, and never repeated. -/
def isStroke (value : Int) : Prop := value = 0 ∨ value = 1

namespace Evdev

def KeyEvent.Declared (event : KeyEvent) : Prop :=
  event.key ∈ Outputs.keyboardKeys ∧ isStroke event.value

/-- The value of a relative axis is an `i32`. -/
def MouseEvent.Declared : MouseEvent → Prop
  | .key code value => code ∈ Outputs.mouseKeys ∧ isStroke value
  | .relative code value =>
    code ∈ Outputs.mouseAxes ∧ -2147483648 ≤ value ∧ value ≤ 2147483647

def InputEvent.Declared : InputEvent → Prop
  | .key code value => code ∈ Xbox.keys ∧ isStroke value
  | .absolute code value =>
    ∃ info, (code, info) ∈ Xbox.axes ∧ info.minimum ≤ value ∧ value ≤ info.maximum

end Evdev

/-- Each event that a device was given is one of those that it declares. -/
structure Outputs.Declared {F : Type} (outputs : Outputs F) : Prop where
  keyboard : ∀ event ∈ outputs.keyboard, event.Declared
  mouse : ∀ event ∈ outputs.mouse, event.Declared
  gamepad : ∀ gamepad events, outputs.gamepad = some (.xbox gamepad events) →
    ∀ event ∈ events, event.Declared

end Scd.Daemon
