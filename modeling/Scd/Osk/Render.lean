import Scd.Osk.Keyboard

/-! # Drawing the keyboard

The renderer scales the position of a touched pad to the grid, keeps it away from the edges, and
highlights the key that it lies on.
-/

namespace Scd.Osk

open Scd.Core

structure LogicalPoint (F : Type) where
  x : F
  y : F

structure LogicalRect (F : Type) where
  x : F
  y : F
  width : F
  height : F

/-- What a key shows of the pads. -/
structure KeyView (F : Type) where
  visited : Keyboard.VisitedKey F
  hovered : Bool
  pressed : Bool

section

variable {F : Type} [Scalar F]

/-- The left and the upper edge belong to the rectangle, the others do not. -/
def LogicalRect.contains (rect : LogicalRect F) (point : LogicalPoint F) : Bool :=
  decide (rect.x ≤ point.x ∧ point.x < rect.x + rect.width ∧
    rect.y ≤ point.y ∧ point.y < rect.y + rect.height)

/-- How far a pointer is kept away from the edges. -/
def pointerInset (dimension : F) : F := Scalar.min 19.0 (dimension * 0.5)

/-- The pointer of a pad position. -/
def drawnPointer (grid : LogicalRect F) (half : Half) (position : F × F) :
    Option (LogicalPoint F) :=
  (half.project position).map fun place =>
    { x := clamp (grid.x + grid.width * place.1) (grid.x + pointerInset grid.width)
        (grid.x + grid.width - pointerInset grid.width)
      y := clamp (grid.y + grid.height * place.2) (grid.y + pointerInset grid.height)
        (grid.y + grid.height - pointerInset grid.height) }

namespace Keyboard

def pointer (keyboard : Keyboard F) : Half → Option (F × F)
  | .left => keyboard.pointers.1
  | .right => keyboard.pointers.2

def halfPressed (keyboard : Keyboard F) : Half → Bool
  | .left => keyboard.pressed.1
  | .right => keyboard.pressed.2

/-- The cell of a key on the screen. -/
def VisitedKey.cell (grid : LogicalRect F) (visited : VisitedKey F) : LogicalRect F :=
  ⟨grid.x + visited.rectangle.1, grid.y + visited.rectangle.2.1, visited.rectangle.2.2.1,
    visited.rectangle.2.2.2⟩

/-- The keys that `KeyboardRenderer::render` draws. -/
def render (keyboard : Keyboard F) (grid : LogicalRect F) : List (KeyView F) :=
  let pointers := [Half.left, Half.right].map fun half =>
    (half, (keyboard.pointer half).bind (drawnPointer grid half))
  (keyboard.forEachKey grid.width grid.height).map fun visited =>
    { visited
      hovered := pointers.any fun entry => entry.2.any (visited.cell grid).contains
      pressed := pointers.any fun entry =>
        entry.2.any (visited.cell grid).contains && keyboard.halfPressed entry.1 }

end Keyboard

end

end Scd.Osk
