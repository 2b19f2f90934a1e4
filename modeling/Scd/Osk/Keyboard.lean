import Scd.Core.Osk
import Scd.Foundation.Outcome

/-! # The on-screen keyboard

The keyboard follows the states that the daemon publishes.  `Keyboard.update` takes one
state, reads the clicks since the last one it has seen, and turns each into the key that
lies under it on the current page.
-/

namespace Scd.Osk

open Scd.Core Scd.Foundation

inductive KeyboardOutput where
  | key (code : UInt16) (shift : Bool) (session : UInt64)
  | hide (session : UInt64)
  deriving DecidableEq, Repr

inductive Half where
  | left | right
  deriving DecidableEq, Repr

structure Slot where
  row : Nat
  key : Nat
  deriving DecidableEq, Repr

inductive Page where
  | letters | symbols
  deriving DecidableEq, Repr

inductive Shift where
  | never | always | latch
  deriving DecidableEq, Repr

inductive Action where
  | key (code : KeyCode) (shift : Shift)
  | shift
  | page (page : Page)
  | close
  deriving DecidableEq, Repr

structure Key where
  label : String
  shiftedLabel : Option String
  action : Action
  weight : Nat
  deriving DecidableEq, Repr

/-! ## Layout -/

/-- The `character!` macro. -/
def character (label shifted : String) (code : UInt16) : Key :=
  ⟨label, some shifted, .key ⟨code⟩ .latch, 10⟩

/-- The `key!` macro. -/
def key (label : String) (code : UInt16) (shift : Shift := .never) (weight : Nat := 10) : Key :=
  ⟨label, none, .key ⟨code⟩ shift, weight⟩

def shiftKey : Key := ⟨"Shift", none, .shift, 20⟩
def escape : Key := key "Esc" 1 .never 16
def symbols : Key := ⟨"?123", none, .page .symbols, 14⟩
def alphabet : Key := ⟨"ABC", none, .page .letters, 14⟩
def tab : Key := key "Tab" 15 .never 14
def space : Key := key "Space" 57 .never 60
def backspace : Key := key "Backspace" 14 .never 20
def enter : Key := key "Enter" 28 .never 17
def close : Key := ⟨"Close", none, .close, 14⟩

def lettersPage : List (List Key) :=
  [[character "`" "~" 41, character "1" "!" 2, character "2" "@" 3, character "3" "#" 4,
    character "4" "$" 5, character "5" "%" 6, character "6" "^" 7, character "7" "&" 8,
    character "8" "*" 9, character "9" "(" 10, character "0" ")" 11, character "-" "_" 12,
    character "=" "+" 13, backspace],
   [tab, character "q" "Q" 16, character "w" "W" 17, character "e" "E" 18, character "r" "R" 19,
    character "t" "T" 20, character "y" "Y" 21, character "u" "U" 22, character "i" "I" 23,
    character "o" "O" 24, character "p" "P" 25, character "[" "\x7b" 26,
    character "]" "\x7d" 27, character "\\" "|" 43],
   [escape, character "a" "A" 30, character "s" "S" 31, character "d" "D" 32, character "f" "F" 33,
    character "g" "G" 34, character "h" "H" 35, character "j" "J" 36, character "k" "K" 37,
    character "l" "L" 38, character ";" ":" 39, character "\'" "\"" 40, enter],
   [shiftKey, character "z" "Z" 44, character "x" "X" 45, character "c" "C" 46,
    character "v" "V" 47, character "b" "B" 48, character "n" "N" 49, character "m" "M" 50,
    character "," "<" 51, character "." ">" 52, character "/" "?" 53, shiftKey],
   [symbols, space, close]]

def symbolsPage : List (List Key) :=
  [[key "1" 2, key "2" 3, key "3" 4, key "4" 5, key "5" 6, key "6" 7, key "7" 8, key "8" 9,
    key "9" 10, key "0" 11],
   [key "!" 2 .always, key "@" 3 .always, key "#" 4 .always, key "$" 5 .always, key "%" 6 .always,
    key "^" 7 .always, key "&" 8 .always, key "*" 9 .always, key "(" 10 .always,
    key ")" 11 .always],
   [key "`" 41, key "~" 41 .always, key "-" 12, key "_" 12 .always, key "=" 13, key "+" 13 .always,
    key "[" 26, key "]" 27, key "\x7b" 26 .always, key "\x7d" 27 .always],
   [key ";" 39, key ":" 39 .always, key "\'" 40, key "\"" 40 .always, key "/" 53, key "?" 53 .always,
    key "," 51, key "." 52, key "<" 51 .always, key ">" 52 .always, key "\\" 43,
    key "|" 43 .always],
   [alphabet, space, close]]

def rows : Page → List (List Key)
  | .letters => lettersPage
  | .symbols => symbolsPage

section

variable {F : Type} [Scalar F]

/-! ## Hit testing -/

/-- The place of a pad position on the keyboard, with both coordinates between 0 and 1. -/
def Half.project (half : Half) (position : F × F) : Option (F × F) :=
  if !(Scalar.isFinite position.1 && Scalar.isFinite position.2) then none
  else
    let center : F := if half = .left then 0.275 else 0.725
    some (clamp (center + clamp position.1 (-oskPadLimit) oskPadLimit / oskPadLimit * 0.275) 0.0 1.0,
      clamp (0.5 + clamp position.2 (-oskPadLimit) oskPadLimit / oskPadLimit * 0.5) 0.0 1.0)

/-- The loop of `hit_slot` over the keys of a row: the first key that ends after `target`,
    or else the last. -/
def hitKey (target : F) (boundary : F) (position : Nat) : List Key → Option Nat
  | [] => none
  | key :: keys =>
    let boundary := boundary + Scalar.ofInt key.weight
    if target < boundary ∨ keys = [] then some position
    else hitKey target boundary (position + 1) keys

def hitSlot (page : Page) (half : Half) (position : F × F) : Checked (Option Slot) :=
  match half.project position with
  | none => .ok none
  | some (x, y) => do
    let rowCount : F := Scalar.ofInt (rows page).length
    let y := (Scalar.toInt (Scalar.min (Scalar.floor (y * rowCount)) (rowCount - 1.0))).toNat
    let row ← index (rows page) y
    let totalWeight := (row.map Key.weight).sum
    let target := x * Scalar.ofInt totalWeight
    return (hitKey target 0.0 0 row).map fun key => ⟨y, key⟩

/-! ## Following the daemon -/

/-- `pointers` and `pressed` have the left half first. -/
structure Keyboard (F : Type) where
  page : Page
  shifted : Bool
  shiftHeld : Bool
  bindings : Button → UInt16
  activeBindings : Buttons
  pointers : Option (F × F) × Option (F × F)
  pressed : Bool × Bool
  clickCursor : UInt64
  visible : Bool
  initialized : Bool

def Keyboard.default : Keyboard F where
  page := .letters
  shifted := false
  shiftHeld := false
  bindings := fun _ => 0
  activeBindings := {}
  pointers := (none, none)
  pressed := (false, false)
  clickCursor := 0
  visible := false
  initialized := false

/-- What the loop over the clicks changes, and what it sends. -/
structure Typing where
  page : Page
  shifted : Bool
  sent : List KeyboardOutput
  deriving DecidableEq

/-- Whether the modifier of a key is on. -/
def Shift.applies (shift : Shift) (shifted shiftHeld : Bool) : Bool :=
  match shift with
  | .never => false
  | .always => true
  | .latch => shifted || shiftHeld

/-- The action of a key; `true` leaves the loop over the clicks. -/
def Typing.act (typing : Typing) (session : UInt64) (shiftHeld : Bool) (action : Action) :
    Typing × Bool :=
  match action with
  | .key code shift =>
    ({ typing with
        sent := typing.sent ++ [.key code.code (shift.applies typing.shifted shiftHeld) session]
        shifted := if shift = .latch then false else typing.shifted }, false)
  | .shift => ({ typing with shifted := !typing.shifted }, false)
  | .page page => ({ typing with page, shifted := false }, false)
  | .close => ({ typing with sent := typing.sent ++ [.hide session] }, true)

/-- One click of the loop in `update`. -/
def Typing.click (session : UInt64) (typing : Typing) (click : OskClick F) :
    Checked (Typing × Bool) := do
  let half := match click.pad with
    | .left => Half.left
    | .right => .right
  match ← hitSlot typing.page half click.position with
  | none => return (typing, false)
  | some slot =>
    let row ← index (rows typing.page) slot.row
    let key ← index row slot.key
    return typing.act session click.shiftHeld key.action

namespace Keyboard

/-- Something that is drawn has changed. -/
def differs (before after : Keyboard F) : Bool :=
  before.page != after.page || before.shifted != after.shifted ||
    before.shiftHeld != after.shiftHeld ||
    (Button.all.any fun input => before.bindings input != after.bindings input) ||
    before.activeBindings.bits != after.activeBindings.bits ||
    before.pointers != after.pointers || before.pressed != after.pressed

/-- `Keyboard::update`, with the outputs it sends and whether to draw again. -/
def update (keyboard : Keyboard F) (state : OskState F) :
    Checked (Keyboard F × List KeyboardOutput × Bool) := do
  let acceptClicks := keyboard.initialized && (state.visible || keyboard.visible)
  let clicks ← (state.clicksSince keyboard.clickCursor).toList
  let (typing, _) ← loop (Typing.click state.session) ⟨keyboard.page, keyboard.shifted, []⟩
    (clicks.filter fun _ => acceptClicks)
  let after := {
    page := typing.page
    shifted := typing.shifted
    shiftHeld := state.visible && state.shiftHeld
    bindings := state.bindings
    activeBindings := state.activeBindings
    pointers :=
      if state.visible then
        (if state.left.touched then some state.left.position else none,
          if state.right.touched then some state.right.position else none)
      else (none, none)
    pressed := if state.visible then (state.left.pressed, state.right.pressed) else (false, false)
    clickCursor := state.clickCursor
    visible := state.visible
    initialized := true }
  return (after, typing.sent, keyboard.differs after)

/-- `Keyboard::update` on a list of states. -/
def updates (keyboard : Keyboard F) : List (OskState F) → Checked (Keyboard F × List KeyboardOutput)
  | [] => .ok (keyboard, [])
  | state :: states => do
    let (keyboard, first, _) ← keyboard.update state
    let (keyboard, rest) ← keyboard.updates states
    return (keyboard, first ++ rest)

/-! ## Drawing -/

/-- `OskBindings::iter`. -/
def boundKeys (bindings : Button → UInt16) : List (Button × KeyCode) :=
  Button.all.filterMap fun input =>
    if bindings input ≠ 0 then some (input, ⟨bindings input⟩) else none

/-- A control that is down is bound to the key; either Shift counts for the left one. -/
def keyActive (keyboard : Keyboard F) (target : KeyCode) : Bool :=
  (boundKeys keyboard.bindings).any fun (input, configured) =>
    keyboard.activeBindings.contains input &&
      (configured = target ||
        (target = .leftShift && (configured = .leftShift || configured = .rightShift)))

/-- What `for_each_key` tells of a key; the rectangle is its corner, its width and its height. -/
structure VisitedKey (F : Type) where
  slot : Slot
  label : String
  secondaryLabel : Option String
  target : Option KeyCode
  rectangle : F × F × F × F
  active : Bool
  special : Bool

/-- The label and the secondary label of a key.  A letter has no secondary label. -/
def labels (key : Key) (shifted : Bool) : String × Option String :=
  let letter := key.label.utf8ByteSize = 1 && key.label.toList.all Char.isAlpha
  let shiftedLabel := key.shiftedLabel.filter fun _ => !letter
  match shifted, key.shiftedLabel with
  | true, some other => (other, shiftedLabel.map fun _ => key.label)
  | _, _ => (key.label, shiftedLabel)

def targetOf : Action → Option KeyCode
  | .key code _ => some code
  | .shift => some .leftShift
  | .page _ | .close => none

/-- The visit of a key at a place. -/
def visit (keyboard : Keyboard F) (slot : Slot) (key : Key) (rectangle : F × F × F × F) :
    VisitedKey F :=
  let shifted := keyboard.shifted || keyboard.shiftHeld
  let (label, secondaryLabel) := labels key shifted
  { slot, label, secondaryLabel, rectangle
    target := targetOf key.action
    active := (key.action = .shift && shifted) ||
      (targetOf key.action).any (keyboard.keyActive ·)
    special := (match key.action with
      | .shift | .page _ | .close => true
      | .key _ _ => false) || key.label.utf8ByteSize > 2 }

/-- The inner loop of `for_each_key`, over the keys that are left of a row. -/
def visitRow (keyboard : Keyboard F) (width rowHeight : F) (row totalWeight : Nat) :
    Nat → F → List Key → List (VisitedKey F)
  | _, _, [] => []
  | position, x, key :: keys =>
    let keyWidth := width * Scalar.ofInt key.weight / Scalar.ofInt totalWeight
    keyboard.visit ⟨row, position⟩ key (x, Scalar.ofInt row * rowHeight, keyWidth, rowHeight) ::
      visitRow keyboard width rowHeight row totalWeight (position + 1) (x + keyWidth) keys

def forEachKey (keyboard : Keyboard F) (width height : F) : List (VisitedKey F) :=
  let page := rows keyboard.page
  let rowHeight := height / Scalar.ofInt page.length
  page.zipIdx.flatMap fun (row, position) =>
    keyboard.visitRow width rowHeight position (row.map Key.weight).sum 0 0.0 row

end Keyboard

end

end Scd.Osk
