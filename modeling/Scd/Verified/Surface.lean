import Scd.Foundation.Monitor
import Scd.Osk.Window
import Scd.Verified.Buttons

/-! # The surface of the keyboard

A monitor reads a run as the compositor does.  At most one surface exists; nothing is attached
to it before it is configured, a buffer that is committed has the size of the surface times its
scale, no callback is asked for while one is owed, and a closed surface is only destroyed.

What the surface shows is known from the monitor too.  The invariant of the window says where
the two are with each other, and that nothing is left to draw on a surface that shows something
else than the keyboard as it is now.
-/

namespace Scd.Osk

open Scd.Core Scd.Foundation

/-! ## The compositor -/

/-- A surface as the compositor sees it. -/
structure Surface (F : Type) where
  name : Nat
  size : UInt32 × UInt32
  scale : UInt32
  committed : Bool
  configured : Bool
  attached : Option (Buffer × Canvas F)
  /-- A callback was asked for, and has not been called. -/
  callback : Bool
  closed : Bool
  shown : Option (Canvas F)

/-- The phases of the monitor.  After the end of the program everything is allowed. -/
inductive Phase (F : Type) where
  | bare
  | surface (surface : Surface F)
  | ended

namespace Surface

variable {F : Type}

def new (name : Nat) : Surface F where
  name := name
  size := (0, 0)
  scale := 1
  committed := false
  configured := false
  attached := none
  callback := false
  closed := false
  shown := none

/-- The buffer has the size of the surface times its scale. -/
def fits (surface : Surface F) (buffer : Buffer) : Bool :=
  decide (buffer.width.toUInt32.toNat = surface.size.1.toNat * surface.scale.toNat ∧
    buffer.height.toUInt32.toNat = surface.size.2.toNat * surface.scale.toNat)

def commit (surface : Surface F) : Option (Surface F) :=
  match surface.attached with
  | none => some { surface with committed := true }
  | some (buffer, canvas) =>
    if surface.fits buffer then
      some { surface with committed := true, attached := none, shown := some canvas }
    else none

/-- A request about the surface, which is not closed. -/
def asked (surface : Surface F) : SurfaceRequest F → Option (Surface F)
  | .create | .destroy => none
  | .setSize width height => some { surface with size := (width, height) }
  | .setBufferScale scale => some { surface with scale }
  | .frame => if surface.callback then none else some { surface with callback := true }
  | .attach buffer canvas =>
    if surface.configured then some { surface with attached := some (buffer, canvas) } else none
  | .commit => surface.commit

/-- An event.  Zero leaves a part of the size as it is. -/
def told (surface : Surface F) : WindowEvent F → Surface F
  | .configure name width height =>
    if name = surface.name then
      { surface with
        size := (if width = 0 then surface.size.1 else width,
          if height = 0 then surface.size.2 else height)
        configured := true }
    else surface
  | .frame name => if name = surface.name then { surface with callback := false } else surface
  | .closed name => if name = surface.name then { surface with closed := true } else surface
  | _ => surface

end Surface

section

variable {F : Type}

/-- The monitor. -/
def Phase.next : Phase F → Sight F → Option (Phase F)
  | _, .exits => some .ended
  | .ended, .told _ => some .ended
  | .ended, .asked _ => some .ended
  | .bare, .told _ => some .bare
  | .bare, .asked ⟨name, .create⟩ => some (.surface (.new name))
  | .bare, .asked _ => none
  | .surface current, .told event => some (.surface (current.told event))
  | .surface current, .asked ⟨name, request⟩ =>
    if name ≠ current.name then none
    else
      match request with
      | .destroy => some .bare
      | request => if current.closed then none else (current.asked request).map .surface

theorem ended_accepts (labels : List (Sight F)) :
    Accepts Phase.next (.ended : Phase F) labels .ended := by
  induction labels with
  | nil => exact Accepts.nil_iff.mpr rfl
  | cons label labels inductionHypothesis =>
    rw [Accepts.cons_iff]
    cases label <;> exact ⟨_, rfl, inductionHypothesis⟩

end

/-! ## Sizes -/

theorem checkedMul_toNat {left right product : UInt32}
    (fits : checkedMul left right = some product) : product.toNat = left.toNat * right.toNat := by
  unfold checkedMul at fits
  split at fits
  · rename_i small
    cases fits
    rw [UInt32.toNat_mul, Nat.mod_eq_of_lt small]
  · cases fits

theorem scaledSize_toNat {width height scale : UInt32} {size : UInt32 × UInt32}
    (scaled : scaledSize width height scale = .ok size) :
    size.1.toNat = width.toNat * scale.toNat ∧ size.2.toNat = height.toNat * scale.toNat := by
  unfold scaledSize at scaled
  split at scaled
  · cases scaled
  · split at scaled
    · cases scaled
    · cases scaled
    · rename_i wide high
      cases scaled
      exact ⟨checkedMul_toNat wide, checkedMul_toNat high⟩

theorem new_ok {width height scale : UInt32} {renderer : KeyboardRenderer}
    (created : KeyboardRenderer.new width height scale = .ok renderer) :
    scaledSize width height scale = .ok renderer.physicalSize ∧ renderer.scale = scale := by
  obtain ⟨size, scaled, pure⟩ := bind_ok created
  cases pure
  exact ⟨scaled, rfl⟩

theorem resize_ok {renderer resized : KeyboardRenderer} {width height scale : UInt32}
    (ok : renderer.resize width height scale = .ok resized) :
    scaledSize width height scale = .ok resized.physicalSize ∧ resized.scale = scale := by
  obtain ⟨size, scaled, rest⟩ := bind_ok ok
  split at rest
  · rename_i same
    cases rest
    exact ⟨same.1 ▸ scaled, same.2⟩
  · cases rest
    exact ⟨scaled, rfl⟩

/-! ## The drawn keyboard -/

section

variable {F : Type} [Scalar F]

/-- The keyboard has been drawn as it is, or the source finds no difference. -/
def Keyboard.Alike (drawn keyboard : Keyboard F) : Prop :=
  drawn = keyboard ∨ drawn.differs keyboard = false

theorem differs_false {before after : Keyboard F} (same : before.differs after = false) :
    before.page = after.page ∧ before.shifted = after.shifted ∧
      before.shiftHeld = after.shiftHeld ∧
      (∀ input ∈ Button.all, before.bindings input = after.bindings input) ∧
      before.activeBindings.bits = after.activeBindings.bits ∧
      (before.pointers == after.pointers) = true ∧ before.pressed = after.pressed := by
  simp only [Keyboard.differs, Bool.or_eq_false_iff, bne_eq_false_iff_eq, List.any_eq_false,
    bne_iff_ne, ne_eq, Decidable.not_not] at same
  obtain ⟨⟨⟨⟨⟨⟨page, shifted⟩, held⟩, bindings⟩, active⟩, pointers⟩, pressed⟩ := same
  exact ⟨page, shifted, held, bindings, active, by simpa [bne] using pointers, pressed⟩

instance partialEquivOption {α : Type} [BEq α] [PartialEquivBEq α] :
    PartialEquivBEq (Option α) where
  symm := by
    intro left right same
    cases left <;> cases right <;> simp_all [PartialEquivBEq.symm]
  trans := by
    intro left middle right first second
    cases left <;> cases middle <;> cases right <;> simp_all
    exact PartialEquivBEq.trans first second

instance partialEquivProd {α β : Type} [BEq α] [BEq β] [PartialEquivBEq α] [PartialEquivBEq β] :
    PartialEquivBEq (α × β) where
  symm := by
    rintro ⟨left, right⟩ ⟨left', right'⟩ same
    simp only [BEq.beq, Bool.and_eq_true] at same ⊢
    exact ⟨PartialEquivBEq.symm same.1, PartialEquivBEq.symm same.2⟩
  trans := by
    rintro ⟨left, right⟩ ⟨left', right'⟩ ⟨left'', right''⟩ first second
    simp only [BEq.beq, Bool.and_eq_true] at first second ⊢
    exact ⟨PartialEquivBEq.trans first.1 second.1, PartialEquivBEq.trans first.2 second.2⟩

theorem differs_trans [PartialEquivBEq F] {first second third : Keyboard F}
    (early : first.differs second = false) (late : second.differs third = false) :
    first.differs third = false := by
  obtain ⟨page, shifted, held, bindings, active, pointers, pressed⟩ := differs_false early
  obtain ⟨page', shifted', held', bindings', active', pointers', pressed'⟩ := differs_false late
  have same := BEq.trans pointers pointers'
  simp only [Keyboard.differs, Bool.or_eq_false_iff, bne_eq_false_iff_eq, List.any_eq_false,
    bne_iff_ne, ne_eq, Decidable.not_not]
  refine ⟨⟨⟨⟨⟨⟨page.trans page', shifted.trans shifted'⟩, held.trans held'⟩, ?_⟩,
    active.trans active'⟩, by simpa [bne] using same⟩, pressed.trans pressed'⟩
  exact fun input member => (bindings input member).trans (bindings' input member)

/-- What has been drawn stays like the keyboard while nothing changes. -/
theorem Keyboard.Alike.unchanged [PartialEquivBEq F] {drawn before after : Keyboard F}
    (alike : drawn.Alike before) (same : before.differs after = false) : drawn.Alike after := by
  rcases alike with rfl | alike
  · exact .inr same
  · exact .inr (differs_trans alike same)

theorem visitRow_congr {drawn keyboard : Keyboard F}
    (same : ∀ slot key (rectangle : F × F × F × F),
      drawn.visit slot key rectangle = keyboard.visit slot key rectangle)
    (width rowHeight : F) (row totalWeight : Nat) (keys : List Key) (position : Nat) (x : F) :
    drawn.visitRow width rowHeight row totalWeight position x keys =
      keyboard.visitRow width rowHeight row totalWeight position x keys := by
  induction keys generalizing position x with
  | nil => rfl
  | cons key keys inductionHypothesis =>
    rw [Keyboard.visitRow, Keyboard.visitRow, same, inductionHypothesis]

/-- Keyboards between which the source finds no difference have the same picture, when equal
    coordinates are the same. -/
theorem Keyboard.Alike.render [LawfulBEq F] {drawn keyboard : Keyboard F}
    (alike : drawn.Alike keyboard) (grid : LogicalRect F) :
    drawn.render grid = keyboard.render grid := by
  rcases alike with rfl | same
  · rfl
  obtain ⟨page, shifted, held, bindings, active, pointers, pressed⟩ := differs_false same
  have bound : drawn.bindings = keyboard.bindings :=
    funext fun input => bindings input (Button.mem_all input)
  have down : drawn.activeBindings = keyboard.activeBindings := by
    cases known : drawn.activeBindings
    cases known' : keyboard.activeBindings
    rw [known, known'] at active
    exact congrArg _ active
  have visits : ∀ slot key (rectangle : F × F × F × F),
      drawn.visit slot key rectangle = keyboard.visit slot key rectangle := by
    intro slot key rectangle
    simp only [Keyboard.visit, Keyboard.keyActive, shifted, held, bound, down]
  have each : ∀ half, drawn.pointer half = keyboard.pointer half ∧
      drawn.halfPressed half = keyboard.halfPressed half := by
    intro half
    have equal := eq_of_beq pointers
    cases half <;> simp [Keyboard.pointer, Keyboard.halfPressed, equal, pressed]
  simp only [Keyboard.render, Keyboard.forEachKey, page, visitRow_congr visits, each]

/-! ## The invariant -/

/-- The surface of the window, as the compositor sees it. -/
structure Surface.Of (window : Window F) (layer : Nat) (surface : Surface F) : Prop where
  name : surface.name = layer
  size : surface.size = (window.width, window.height)
  scale : surface.scale = window.scale
  committed : surface.committed = true
  configured : surface.configured = window.configured
  attached : surface.attached = none
  callback : surface.callback = window.framePending
  open_ : surface.closed = false

/-- The surface shows what the window would draw. -/
def Surface.Shows (window : Window F) (surface : Surface F) : Prop :=
  ∃ canvas, surface.shown = some canvas ∧ canvas.renderer = window.renderer ∧
    canvas.keyboard.Alike window.keyboard

/-- Where the window and the compositor are with each other. -/
inductive Placed (window : Window F) : Phase F → Prop where
  | bare : window.layer = none → Placed window .bare
  | surface {layer : Nat} {surface : Surface F} : window.layer = some layer →
      window.keyboard.visible = true → surface.Of window layer →
      Placed window (.surface surface)

/-- Every drawing is awaited, and nothing is left to draw on a surface that shows something
    else than the window. -/
def Fresh (window : Window F) : Phase F → Prop
  | .surface surface => window.configured = true →
      (window.redrawPending = true → window.framePending = true) ∧
      (window.redrawPending = false → surface.Shows window)
  | _ => True

/-- The renderer has the size of the window. -/
structure Sized (window : Window F) : Prop where
  size : scaledSize window.width window.height window.scale = .ok window.renderer.physicalSize
  scale : window.renderer.scale = window.scale

/-- A buffer has the size of the window. -/
def Buffered (window : Window F) : Prop :=
  ∀ buffer ∈ window.buffer, ∀ size,
    scaledSize window.width window.height window.scale = .ok size → buffer = .ofSize size

structure Matches (window : Window F) (phase : Phase F) :
    Prop where
  placed : Placed window phase
  fresh : Fresh window phase
  sized : Sized window
  buffered : Buffered window

/-- The compositor allows what a method asks for, and if the method succeeds, the window still
    matches. -/
def Obeys (handled : Handled F) (phase : Phase F) : Prop :=
  ∃ after, Accepts Phase.next phase (handled.asked.map .asked) after ∧
    (handled.error = none → Matches handled.window after)

variable {window : Window F} {phase : Phase F}

/-- A method that does nothing. -/
theorem obeys_nothing (holds : Matches window phase) : Obeys { window, asked := [] } phase :=
  ⟨phase, Accepts.nil_iff.mpr rfl, fun _ => holds⟩

theorem log_obeys {handled : Handled F} (follows : Obeys handled phase) :
    Obeys handled.log phase := by
  unfold Handled.log
  split
  · rename_i failed
    obtain ⟨after, accepts, _⟩ := follows
    refine ⟨after, accepts, fun none => ?_⟩
    rw [Option.isSome_iff_ne_none] at failed
    exact absurd none failed
  · exact follows

/-- A request that comes before those of a method. -/
theorem obeys_cons {handled : Handled F} {asked : Asked F} {mid : Phase F}
    (moves : Phase.next phase (.asked asked) = some mid) (rest : Obeys handled mid) :
    Obeys { handled with asked := asked :: handled.asked } phase := by
  obtain ⟨after, accepts, holds⟩ := rest
  exact ⟨after, Accepts.cons_iff.mpr ⟨mid, moves, accepts⟩, holds⟩

end

end Scd.Osk
