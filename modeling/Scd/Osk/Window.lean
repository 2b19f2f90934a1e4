import Scd.Foundation.Path
import Scd.Osk.Render

/-! # The window of the keyboard

`wayland.rs`: the layer surface that shows the keyboard.  A handler of an event is a function
of the state; what the libraries of the compositor answer to the calls of a handler is an
argument, and what the handler asks of the compositor is returned.

A surface stands for its layer surface too.  Its fixed properties (the layer, the anchor, the
input region), the damage, and the pixels of a drawing are left out.
-/

namespace Scd.Osk

open Scd.Core Scd.Foundation

/-! ## The renderer -/

/-- `u32::checked_mul`. -/
def checkedMul (left right : UInt32) : Option UInt32 :=
  if left.toNat * right.toNat < 2 ^ 32 then some (left * right) else none

inductive WindowError where
  | message (text : String)
  /-- An error of the libraries. -/
  | library
  deriving DecidableEq, Repr

def scaledSize (width height scale : UInt32) : Except WindowError (UInt32 × UInt32) :=
  if width = 0 ∨ height = 0 ∨ scale = 0 then
    .error (.message "keyboard dimensions must be nonzero")
  else
    match checkedMul width scale, checkedMul height scale with
    | none, _ => .error (.message "keyboard width is too large")
    | some _, none => .error (.message "keyboard height is too large")
    | some physicalWidth, some physicalHeight => .ok (physicalWidth, physicalHeight)

/-- The size of the pixels of the renderer, and its scale. -/
structure KeyboardRenderer where
  physicalSize : UInt32 × UInt32
  scale : UInt32

namespace KeyboardRenderer

def new (width height scale : UInt32) : Except WindowError KeyboardRenderer := do
  return { physicalSize := ← scaledSize width height scale, scale }

def resize (renderer : KeyboardRenderer) (width height scale : UInt32) :
    Except WindowError KeyboardRenderer := do
  let physicalSize ← scaledSize width height scale
  if renderer.physicalSize = physicalSize ∧ renderer.scale = scale then return renderer
  else return { physicalSize, scale }

/-- The number of its pixels. -/
def pixels (renderer : KeyboardRenderer) : Nat :=
  renderer.physicalSize.1.toNat * renderer.physicalSize.2.toNat

end KeyboardRenderer

/-- What is drawn: the keyboard, at the size and the scale of the renderer. -/
structure Canvas (F : Type) where
  keyboard : Keyboard F
  renderer : KeyboardRenderer

/-- A buffer of the pool. -/
structure Buffer where
  width : Int32
  height : Int32
  stride : Int32
  deriving DecidableEq

namespace Buffer

/-- The buffer that `create_buffer` makes for the pixels of the renderer. -/
def ofSize (size : UInt32 × UInt32) : Buffer where
  width := size.1.toInt32
  height := size.2.toInt32
  stride := size.1.toInt32 * 4

/-- The bytes of its canvas. -/
def length (buffer : Buffer) : Nat := buffer.height.toInt.toNat * buffer.stride.toInt.toNat

end Buffer

/-! ## The state -/

inductive SurfaceRequest (F : Type) where
  | create
  | setSize (width height : UInt32)
  | setBufferScale (scale : UInt32)
  | frame
  | attach (buffer : Buffer) (canvas : Canvas F)
  | commit
  | destroy

/-- A request about a surface. -/
structure Asked (F : Type) where
  surface : Nat
  request : SurfaceRequest F

structure Window (F : Type) where
  layer : Option Nat
  buffer : Option Buffer
  renderer : KeyboardRenderer
  keyboard : Keyboard F
  width : UInt32
  height : UInt32
  scale : UInt32
  configured : Bool
  framePending : Bool
  redrawPending : Bool
  exit : Bool

/-- What the libraries answer during one handler. -/
structure Answers where
  /-- `OutputState` knows an output. -/
  outputs : Bool
  /-- The surface of `create_surface`. -/
  surface : Nat
  /-- `set_buffer_scale` succeeds. -/
  bufferScale : Bool
  /-- The first `create_buffer` succeeds. -/
  createBuffer : Bool
  /-- The compositor has released the buffer. -/
  canvas : Bool
  /-- The second `create_buffer` succeeds. -/
  createAnother : Bool
  /-- `attach_to` succeeds. -/
  attach : Bool
  /-- An animation is going on after the drawing. -/
  animationPending : Bool

/-- What a method leaves and asks, and its error. -/
structure Handled (F : Type) where
  window : Window F
  asked : List (Asked F)
  error : Option WindowError := none

inductive WindowEvent (F : Type) where
  | input (state : OskState F)
  | disconnected
  /-- The thread that reads the states has ended. -/
  | channelClosed
  | scaleFactorChanged (surface : Nat) (factor : Int32)
  | frame (surface : Nat)
  | closed (surface : Nat)
  | configure (surface : Nat) (width height : UInt32)
  | newOutput

section

variable {F : Type} [Scalar F]

/-- `Keyboard::disconnect`. -/
def Keyboard.disconnect (keyboard : Keyboard F) : Keyboard F :=
  { keyboard with
    initialized := false
    visible := false
    shiftHeld := false
    activeBindings := {}
    pointers := (none, none)
    pressed := (false, false) }

namespace Window

/-! ## Methods -/

/-- `show`, on the surface that there is. -/
def present (window : Window F) (answers : Answers) (layer : Nat) (asked : List (Asked F)) :
    Handled F :=
  let sized := asked ++ [⟨layer, .setSize window.width window.height⟩]
  if !answers.bufferScale then
    { window, asked := sized
      error := some (.message "Wayland surface does not support buffer scaling") }
  else
    { window := { window with configured := false, framePending := false, redrawPending := true }
      asked := sized ++ [⟨layer, .setBufferScale window.scale⟩, ⟨layer, .commit⟩] }

/-- `show`. -/
def showLayer (window : Window F) (answers : Answers) : Handled F :=
  match window.layer with
  | some layer => window.present answers layer []
  | none =>
    if !answers.outputs then { window, asked := [] }
    else
      { window with layer := some answers.surface }.present answers answers.surface
        [⟨answers.surface, .create⟩]

/-- The surface goes with its owner. -/
def hide (window : Window F) : Handled F where
  window := { window with
    layer := none
    buffer := none
    configured := false
    framePending := false
    redrawPending := false }
  asked := window.layer.toList.map fun layer => ⟨layer, .destroy⟩

/-- The buffer of the window after `redraw` has looked for one, and the one to draw in. -/
def takeBuffer (window : Window F) (answers : Answers) : Option Buffer × Option Buffer :=
  let new := Buffer.ofSize window.renderer.physicalSize
  let first := window.buffer.or (if answers.createBuffer then some new else none)
  match first with
  | none => (none, none)
  | some buffer =>
    if answers.canvas then (some buffer, some buffer)
    -- the compositor still reads the buffer
    else if answers.createAnother then (some new, some new)
    else (some buffer, none)

/-- The part of `redraw` that draws. -/
def draw (window : Window F) (answers : Answers) (layer : Nat) : Handled F :=
  match window.takeBuffer answers with
  | (kept, none) => { window := { window with buffer := kept }, asked := [], error := some .library }
  | (kept, some buffer) =>
    let window := { window with buffer := kept }
    if buffer.length ≠ window.renderer.pixels * 4 then
      { window, asked := [], error := some (.message "Wayland keyboard buffer has the wrong size") }
    else if !answers.attach then
      { window, asked := [⟨layer, .frame⟩], error := some .library }
    else
      { window := { window with framePending := true, redrawPending := answers.animationPending }
        asked := [⟨layer, .frame⟩, ⟨layer, .attach buffer ⟨window.keyboard, window.renderer⟩⟩,
          ⟨layer, .commit⟩] }

def redraw (window : Window F) (answers : Answers) : Handled F :=
  if !window.keyboard.visible || !window.configured || window.framePending ||
      !window.redrawPending then
    { window, asked := [] }
  else
    match window.layer with
    | none => { window, asked := [] }
    | some layer => window.draw answers layer

end Window

/-- An error of a method ends the program. -/
def Handled.log (handled : Handled F) : Handled F :=
  if handled.error.isSome then { handled with window := { handled.window with exit := true } }
  else handled

/-- More that a handler does if a method has succeeded. -/
def Handled.andThen (handled : Handled F) (next : Window F → Handled F) : Handled F :=
  if handled.error.isSome then handled
  else
    let more := next handled.window
    { more with asked := handled.asked ++ more.asked }

namespace Window

/-- `renderer.resize` and `redraw`. -/
def resizeAndRedraw (window : Window F) (answers : Answers) : Handled F :=
  match window.renderer.resize window.width window.height window.scale with
  | .error error => { window, asked := [], error := some error }
  | .ok renderer => { window with renderer }.redraw answers

/-! ## Handlers -/

/-- A new state of the daemon, and the keys that it types. -/
def input (window : Window F) (state : OskState F) (answers : Answers) :
    Checked (Handled F × List KeyboardOutput) := do
  let wasVisible := window.keyboard.visible
  let (keyboard, sent, changed) ← window.keyboard.update state
  let window := { window with keyboard }
  let handled := match wasVisible, state.visible with
    | false, true => (window.showLayer answers).log
    | true, false => window.hide
    | true, true =>
      if window.layer.isNone then (window.showLayer answers).log
      else if changed then ({ window with redrawPending := true }.redraw answers).log
      else { window, asked := [] }
    | false, false => { window, asked := [] }
  return (handled, sent)

def disconnected (window : Window F) : Handled F :=
  let wasVisible := window.keyboard.visible
  let window := { window with keyboard := window.keyboard.disconnect }
  if wasVisible then window.hide else { window, asked := [] }

def scaleFactorChanged (window : Window F) (surface : Nat) (factor : Int32) (answers : Answers) :
    Handled F :=
  match window.layer with
  | none => { window, asked := [] }
  | some layer =>
    if surface ≠ layer ∨ factor ≤ 0 ∨ factor.toUInt32 = window.scale then { window, asked := [] }
    else
      let window := { window with
        scale := factor.toUInt32
        buffer := none
        redrawPending := true }
      let scaled : Handled F :=
        if !answers.bufferScale then
          { window, asked := []
            error := some (.message "Wayland surface does not support buffer scaling") }
        else { window, asked := [⟨layer, .setBufferScale window.scale⟩] }
      (scaled.andThen (·.resizeAndRedraw answers)).log

def frame (window : Window F) (surface : Nat) (answers : Answers) : Handled F :=
  match window.layer with
  | none => { window, asked := [] }
  | some layer =>
    if surface ≠ layer then { window, asked := [] }
    else ({ window with framePending := false }.redraw answers).log

def closed (window : Window F) (surface : Nat) : Handled F :=
  if window.layer ≠ some surface then { window, asked := [] }
  else
    let hidden := window.hide
    { hidden with window := { hidden.window with redrawPending := window.keyboard.visible } }

def configure (window : Window F) (surface : Nat) (width height : UInt32) (answers : Answers) :
    Handled F :=
  if window.layer ≠ some surface ∨ !window.keyboard.visible then { window, asked := [] }
  else
    -- zero leaves the choice to the client
    let width := if width = 0 then window.width else width
    let height := if height = 0 then window.height else height
    let window :=
      if (width, height) ≠ (window.width, window.height) then
        { window with width, height, buffer := none }
      else window
    ({ window with configured := true, redrawPending := true }.resizeAndRedraw answers).log

def newOutput (window : Window F) (answers : Answers) : Handled F :=
  if window.keyboard.visible && window.layer.isNone then (window.showLayer answers).log
  else { window, asked := [] }

def handle (window : Window F) (event : WindowEvent F) (answers : Answers) :
    Checked (Handled F × List KeyboardOutput) :=
  match event with
  | .input state => window.input state answers
  | .disconnected => .ok (window.disconnected, [])
  | .channelClosed => .ok ({ window := { window with exit := true }, asked := [] }, [])
  | .scaleFactorChanged surface factor =>
    .ok (window.scaleFactorChanged surface factor answers, [])
  | .frame surface => .ok (window.frame surface answers, [])
  | .closed surface => .ok (window.closed surface, [])
  | .configure surface width height => .ok (window.configure surface width height answers, [])
  | .newOutput => .ok (window.newOutput answers, [])

/-- The state of `run` before its loop. -/
def start (width height : UInt32) : Except WindowError (Window F) := do
  let renderer ← KeyboardRenderer.new width height 1
  return {
    layer := none
    buffer := none
    renderer
    keyboard := .default
    width
    height
    scale := 1
    configured := false
    framePending := false
    redrawPending := false
    exit := false }

end Window

/-! ## Runs -/

/-- What is seen of a run: an event, a request, and that the program will end. -/
inductive Sight (F : Type) where
  | told (event : WindowEvent F)
  | asked (asked : Asked F)
  | exits

/-- What is seen of the handling of an event. -/
def Handled.sights (handled : Handled F) (event : WindowEvent F) : List (Sight F) :=
  .told event :: handled.asked.map .asked ++ if handled.window.exit then [.exits] else []

/-- One event, in any order. -/
inductive Window.Step : Window F → List (Sight F) → Window F → Prop where
  | event {window : Window F} {event : WindowEvent F} {answers : Answers} {handled : Handled F}
      {sent : List KeyboardOutput} :
      window.handle event answers = .ok (handled, sent) →
      Window.Step window (handled.sights event) handled.window

/-- A run of the program. -/
abbrev Window.Run : Window F → List (Sight F) → Window F → Prop := Path Window.Step

/-- The run on the given events. -/
def Window.runs (window : Window F) :
    List (WindowEvent F × Answers) → Checked (Window F × List (Sight F))
  | [] => .ok (window, [])
  | (event, answers) :: rest => do
    let (handled, _) ← window.handle event answers
    let (finish, labels) ← handled.window.runs rest
    return (finish, handled.sights event ++ labels)

end

end Scd.Osk
