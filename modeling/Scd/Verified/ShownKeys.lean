import Scd.Osk.Keyboard
import Scd.Verified.Typing

/-! # Keys that are shown and keys that are typed

What the on-screen keyboard shows on a key is what a click on it types, unless a Shift key
of the virtual keyboard is held while the key is shown unshifted: the keyboard asks for no
Shift then, but there is one.
-/

namespace Scd.Osk

open Scd.Core Scd.Foundation Scd.Daemon
open Evdev (KeyEvent)

/-! ## What is drawn -/

section

variable {F : Type} [Scalar F]

/-- The visits of a row, key by key. -/
theorem mem_visitRow {keyboard : Keyboard F} {width rowHeight : F} {row totalWeight : Nat}
    {visited : Keyboard.VisitedKey F} (keys : List Key) (position : Nat) (x : F)
    (member : visited ∈ keyboard.visitRow width rowHeight row totalWeight position x keys) :
    ∃ offset key rectangle, keys[offset]? = some key ∧
      visited = keyboard.visit ⟨row, position + offset⟩ key rectangle := by
  induction keys generalizing position x with
  | nil => cases member
  | cons key keys inductionHypothesis =>
    cases List.mem_cons.mp member with
    | inl first => exact ⟨0, key, _, rfl, first⟩
    | inr later =>
      obtain ⟨offset, other, rectangle, found, same⟩ := inductionHypothesis _ _ later
      refine ⟨offset + 1, other, rectangle, found, ?_⟩
      rw [same, Nat.add_assoc, Nat.add_comm 1]

/-- Every visit is of the key at its slot. -/
theorem mem_forEachKey {keyboard : Keyboard F} {width height : F}
    {visited : Keyboard.VisitedKey F} (member : visited ∈ keyboard.forEachKey width height) :
    ∃ row key rectangle, (rows keyboard.page)[visited.slot.row]? = some row ∧
      row[visited.slot.key]? = some key ∧
      visited = keyboard.visit visited.slot key rectangle := by
  obtain ⟨⟨row, position⟩, inPage, inRow⟩ := List.mem_flatMap.mp member
  obtain ⟨offset, key, rectangle, found, same⟩ := mem_visitRow row 0 _ inRow
  have slot : visited.slot = ⟨position, offset⟩ := by
    rw [same, Nat.zero_add]
    rfl
  rw [Nat.zero_add] at same
  rw [slot]
  exact ⟨row, key, rectangle, List.mk_mem_zipIdx_iff_getElem?.mp inPage, found, same⟩

end

/-! ## The pages -/

/-- The label that a key shows is the shifted one of its code. -/
def Key.ShowsShifted (key : Key) (label : String) : Prop :=
  match key.shiftedLabel with
  | some shifted => label = shifted
  | none => ∃ code, key.action = .key code .always

/-- Whether a click on a key asks for Shift: the latch and the binding that is held count for
    a latching key only. -/
def Key.asksShift (key : Key) (shifted shiftHeld : Bool) : Bool :=
  match key.action with
  | .key _ shift => shift.applies shifted shiftHeld
  | _ => false

/-- What the tables of the pages keep to: a latching key has two labels and every other key
    has one, and what is no key to type shows more than one character. -/
def Key.regular (key : Key) : Bool :=
  match key.action, key.shiftedLabel with
  | .key code .latch, some other =>
    other != key.label && !Mapper.isShift code && isKeyboardKey code
  | .key code .never, none => !Mapper.isShift code && isKeyboardKey code
  | .key code .always, none => !Mapper.isShift code && isKeyboardKey code
  | .shift, none | .page _, none | .close, none => key.label.length != 1
  | _, _ => false

theorem pages_regular (page : Page) : ∀ row ∈ rows page, ∀ key ∈ row, key.regular = true := by
  cases page with
  | letters => decide +kernel
  | symbols => decide +kernel

/-- What a regular key shows is shifted exactly when a click on it asks for Shift. -/
theorem Key.showsShifted_iff {key : Key} (regular : key.regular = true) (shifted shiftHeld : Bool)
    {code : KeyCode} {shift : Shift} (action : key.action = .key code shift) :
    key.ShowsShifted (Keyboard.labels key (shifted || shiftHeld)).1 ↔
      shift.applies shifted shiftHeld = true := by
  unfold Key.regular at regular
  unfold Key.ShowsShifted Keyboard.labels
  rw [action] at regular ⊢
  cases other : key.shiftedLabel with
  | none =>
    rw [other] at regular
    cases shift with
    | never => simp [Shift.applies]
    | always => simp [Shift.applies]
    | latch => simp at regular
  | some label =>
    rw [other] at regular
    cases shift with
    | never => simp at regular
    | always => simp at regular
    | latch =>
      simp only [Bool.and_eq_true, bne_iff_ne, ne_eq] at regular
      cases raised : shifted || shiftHeld with
      | true => simp [Shift.applies, raised]
      | false => simp [Shift.applies, raised, Ne.symm regular.1.1]

theorem labels_of_none {key : Key} (none : key.shiftedLabel = none) (shifted : Bool) :
    (Keyboard.labels key shifted).1 = key.label := by
  unfold Keyboard.labels
  rw [none]
  cases shifted <;> rfl

/-- A regular key that shows a single character is one to type, and not Shift. -/
theorem Key.exists_code {key : Key} (regular : key.regular = true) {shifted : Bool}
    (single : (Keyboard.labels key shifted).1.length = 1) :
    ∃ code shift, key.action = .key code shift ∧ Mapper.isShift code = false := by
  unfold Key.regular at regular
  split at regular
  · next code _ action _ =>
    simp only [Bool.and_eq_true, Bool.not_eq_true'] at regular
    exact ⟨code, _, action, regular.1.2⟩
  · next code action _ =>
    simp only [Bool.and_eq_true, Bool.not_eq_true'] at regular
    exact ⟨code, _, action, regular.1⟩
  · next code action _ =>
    simp only [Bool.and_eq_true, Bool.not_eq_true'] at regular
    exact ⟨code, _, action, regular.1⟩
  · next none =>
    rw [labels_of_none none] at single
    simp [single] at regular
  · next none =>
    rw [labels_of_none none] at single
    simp [single] at regular
  · next none =>
    rw [labels_of_none none] at single
    simp [single] at regular
  · cases regular

end Scd.Osk

/-! ## What is typed -/

namespace Scd.Daemon

open Scd.Core
open Evdev (KeyEvent)

/-- Whether a Shift key is down when the key is pressed. -/
def pressedWithShift (key : KeyCode) (down : Finset KeyCode) : List KeyEvent → Bool
  | [] => false
  | event :: events =>
    if event = ⟨key, 1⟩ then decide (.leftShift ∈ down ∨ .rightShift ∈ down)
    else pressedWithShift key (press down event) events

namespace Outputs

section

variable {F : Type}

/-- Whether a key that a client types goes down with a Shift key down. -/
def typesShifted (outputs : Outputs F) (key : KeyCode) (shift : Bool) : Bool :=
  pressedWithShift key (keysDown outputs.keyboard) (outputs.keyEvents key shift)

/-- A Shift key of the virtual keyboard is down. -/
def ShiftDown (outputs : Outputs F) : Prop :=
  .leftShift ∈ keysDown outputs.keyboard ∨ .rightShift ∈ keysDown outputs.keyboard

/-- `Outputs` takes a Shift key for held. -/
def ShiftRecorded (outputs : Outputs F) : Prop :=
  outputs.leftShiftHeld = true ∨ outputs.rightShiftHeld = true

/-- A key goes down with Shift if Shift is wanted and not taken for held, or if it is down. -/
theorem typesShifted_iff (outputs : Outputs F) {key : KeyCode} (notShift : key ≠ .leftShift)
    (shift : Bool) :
    outputs.typesShifted key shift = true ↔
      (shift = true ∧ ¬ outputs.ShiftRecorded) ∨ outputs.ShiftDown := by
  have first : (⟨.leftShift, 1⟩ : KeyEvent) ≠ ⟨key, 1⟩ := by
    intro same
    exact notShift (KeyEvent.mk.inj same).1.symm
  have wanted : (shift && !outputs.leftShiftHeld && !outputs.rightShiftHeld) = true ↔
      shift = true ∧ ¬ outputs.ShiftRecorded := by
    simp [ShiftRecorded, and_assoc]
  rw [← wanted]
  unfold typesShifted keyEvents
  by_cases tapped : (shift && !outputs.leftShiftHeld && !outputs.rightShiftHeld) = true
  · rw [if_pos tapped]
    simp [pressedWithShift, first, tapped]
  · rw [if_neg tapped]
    simp [pressedWithShift, ShiftDown, tapped]

end

end Outputs

end Scd.Daemon

/-! ## The result -/

namespace Scd.Osk

open Scd.Core Scd.Foundation Scd.Daemon

section

variable {F : Type} [Scalar F]

/-- The half of a pad. -/
def Half.of : OskPadSide → Half
  | .left => .left
  | .right => .right

/-- A click on a key that shows a single character. -/
theorem click_types {keyboard : Keyboard F} {width height : F} {visited : Keyboard.VisitedKey F}
    (shown : visited ∈ keyboard.forEachKey width height) (single : visited.label.length = 1)
    (session : UInt64) (sent : List KeyboardOutput) {click : OskClick F}
    (held : click.shiftHeld = keyboard.shiftHeld)
    (hit : hitSlot keyboard.page (Half.of click.pad) click.position = .ok (some visited.slot)) :
    ∃ row key code flag typing, (rows keyboard.page)[visited.slot.row]? = some row ∧
      row[visited.slot.key]? = some key ∧
      Typing.click session ⟨keyboard.page, keyboard.shifted, sent⟩ click = .ok (typing, false) ∧
      typing.sent = sent ++ [.key code flag session] ∧ visited.target = some ⟨code⟩ ∧
      Mapper.isShift ⟨code⟩ = false ∧ flag = key.asksShift keyboard.shifted keyboard.shiftHeld ∧
      (key.ShowsShifted visited.label ↔ flag = true) := by
  obtain ⟨row, key, rectangle, rowAt, keyAt, same⟩ := mem_forEachKey shown
  have regular : key.regular = true :=
    pages_regular keyboard.page row (List.mem_of_getElem? rowAt) key (List.mem_of_getElem? keyAt)
  have label : visited.label =
      (Keyboard.labels key (keyboard.shifted || keyboard.shiftHeld)).1 := by rw [same]; rfl
  rw [label] at single
  -- a label of one character belongs to a key that sends a code
  obtain ⟨code, shift, action, notShift⟩ := Key.exists_code regular single
  have typing : Typing.click session ⟨keyboard.page, keyboard.shifted, sent⟩ click =
      .ok (Typing.act ⟨keyboard.page, keyboard.shifted, sent⟩ session click.shiftHeld
        key.action) := by
    have readRow : index (rows keyboard.page) visited.slot.row = .ok row := by
      simp [index, rowAt]
    have readKey : index row visited.slot.key = .ok key := by simp [index, keyAt]
    unfold Typing.click
    -- a click of either pad reads the same two lists
    cases side : click.pad with
    | left =>
      rw [side] at hit
      change hitSlot keyboard.page .left click.position = _ at hit
      simp only [hit, ok_bind, readRow, readKey]
      rfl
    | right =>
      rw [side] at hit
      change hitSlot keyboard.page .right click.position = _ at hit
      simp only [hit, ok_bind, readRow, readKey]
      rfl
  rw [action, held] at typing
  refine ⟨row, key, code.code, shift.applies keyboard.shifted keyboard.shiftHeld, _, rowAt, keyAt,
    typing, rfl, ?_, notShift, ?_, ?_⟩
  · rw [same]
    show Keyboard.targetOf key.action = _
    rw [action]
    rfl
  · rw [Key.asksShift, action]
  · rw [label]
    exact Key.showsShifted_iff regular _ _ action

/-- A key types what it shows unless Shift is down while the key is shown unshifted, or is
    only taken for held while it is shown shifted. -/
theorem shown_is_typed_iff (keyboard : Keyboard F) {width height : F}
    {visited : Keyboard.VisitedKey F} (shown : visited ∈ keyboard.forEachKey width height)
    (single : visited.label.length = 1) (session : UInt64) (sent : List KeyboardOutput)
    {click : OskClick F} (held : click.shiftHeld = keyboard.shiftHeld)
    (hit : hitSlot keyboard.page (Half.of click.pad) click.position = .ok (some visited.slot))
    (gamepad : Gamepad) (effects : List (Effect F)) :
    let outputs := outputsAfter gamepad effects
    ∃ row key code flag typing, (rows keyboard.page)[visited.slot.row]? = some row ∧
      row[visited.slot.key]? = some key ∧
      Typing.click session ⟨keyboard.page, keyboard.shifted, sent⟩ click = .ok (typing, false) ∧
      typing.sent = sent ++ [.key code flag session] ∧ visited.target = some ⟨code⟩ ∧
      ((outputs.typesShifted ⟨code⟩ flag = true ↔ key.ShowsShifted visited.label) ↔
        (outputs.ShiftDown → key.asksShift keyboard.shifted keyboard.shiftHeld = true) ∧
          (key.asksShift keyboard.shifted keyboard.shiftHeld = true →
            outputs.ShiftRecorded → outputs.ShiftDown)) := by
  intro outputs
  obtain ⟨row, key, code, flag, typing, rowAt, keyAt, clicked, sends, target, notShift, asks,
    shows⟩ := click_types shown single session sent held hit
  have other : (⟨code⟩ : KeyCode) ≠ .leftShift := by
    intro same
    rw [same] at notShift
    exact absurd notShift (by decide)
  have types := outputs.typesShifted_iff other flag
  refine ⟨row, key, code, flag, typing, rowAt, keyAt, clicked, sends, target, ?_⟩
  rw [types, shows, ← asks]
  constructor
  · intro same
    constructor
    · intro down
      exact same.mp (.inr down)
    · intro wanted recorded
      exact (same.mpr wanted).resolve_left fun tapped => tapped.2 recorded
  · intro condition
    obtain ⟨raised, known⟩ := condition
    constructor
    · intro either
      exact either.elim And.left raised
    · intro wanted
      by_cases recorded : outputs.ShiftRecorded
      · exact .inr (known wanted recorded)
      · exact .inl ⟨wanted, recorded⟩

end

/-- The keyboard is shown, a binding holds Shift, and the key of the second page is clicked. -/
def symbolStates : List (OskState ℚ) :=
  let opened := OskState.default.setVisible true
  [opened, { opened with shiftHeld := true }.recordClick .left (-1, 1)]

/-- The keyboard after these states. -/
theorem exists_symbolKeyboard :
    ∃ keyboard earlier, Keyboard.default.updates symbolStates = .ok (keyboard, earlier) ∧
      keyboard.page = .symbols ∧ keyboard.shifted = false ∧ keyboard.shiftHeld = true := by
  have view : (Keyboard.default.updates symbolStates).map (fun result =>
      (result.1.page, result.1.shifted, result.1.shiftHeld)) = .ok (.symbols, false, true) := by
    decide +kernel
  obtain ⟨⟨keyboard, earlier⟩, ran, same⟩ := map_ok view
  obtain ⟨page, shifted, held⟩ := Prod.mk.inj same |>.imp_right Prod.mk.inj
  exact ⟨keyboard, earlier, ran, page, shifted, held⟩

/-- A click on the key 1 of the second page. -/
def clickOne : OskClick ℚ := ⟨1, .left, (-1, -1), true⟩

theorem clickOne_hits :
    hitSlot .symbols (Half.of clickOne.pad) clickOne.position = .ok (some ⟨0, 0⟩) := by
  decide +kernel

/-- The first key of the second page is shown as it is, whatever Shift does. -/
theorem one_shown {keyboard : Keyboard ℚ} (page : keyboard.page = .symbols) (width height : ℚ) :
    ∃ visited ∈ keyboard.forEachKey width height, visited.slot = ⟨0, 0⟩ ∧
      visited.label = "1" := by
  unfold Keyboard.forEachKey
  rw [page]
  refine ⟨_, List.mem_flatMap.mpr ⟨_, List.mem_cons_self, List.mem_cons_self⟩, rfl, ?_⟩
  exact labels_of_none rfl _

theorem shown_is_typed_iff_one :
    ∃ (keyboard : Keyboard ℚ) (visited : Keyboard.VisitedKey ℚ) (row : List Key) (key : Key)
      (code : UInt16) (flag : Bool) (typing : Typing),
      (rows keyboard.page)[visited.slot.row]? = some row ∧ row[visited.slot.key]? = some key ∧
      Typing.click 1 ⟨keyboard.page, keyboard.shifted, []⟩ clickOne = .ok (typing, false) ∧
      typing.sent = [] ++ [.key code flag 1] ∧ visited.target = some ⟨code⟩ ∧
      (((outputsAfter .none ([] : List (Effect ℚ))).typesShifted ⟨code⟩ flag = true ↔
          key.ShowsShifted visited.label) ↔
        ((outputsAfter .none ([] : List (Effect ℚ))).ShiftDown →
          key.asksShift keyboard.shifted keyboard.shiftHeld = true) ∧
        (key.asksShift keyboard.shifted keyboard.shiftHeld = true →
          (outputsAfter .none ([] : List (Effect ℚ))).ShiftRecorded →
          (outputsAfter .none ([] : List (Effect ℚ))).ShiftDown)) := by
  obtain ⟨keyboard, _, _, page, _, held⟩ := exists_symbolKeyboard
  obtain ⟨visited, shown, slot, label⟩ := one_shown page 100 100
  refine ⟨keyboard, visited, ?_⟩
  apply shown_is_typed_iff keyboard shown
  · rw [label]
    decide
  · exact held.symm
  · rw [page, slot]
    exact clickOne_hits

/-- With a binding that holds Shift, the key that shows 1 types an exclamation mark. -/
theorem one_types_exclamation :
    ¬ ∀ (states : List (OskState ℚ)) (keyboard : Keyboard ℚ) (earlier : List KeyboardOutput)
      (visited : Keyboard.VisitedKey ℚ) (click : OskClick ℚ) (effects : List (Effect ℚ))
      (row : List Key) (key : Key) (code : UInt16) (flag : Bool) (typing : Typing),
      Keyboard.default.updates states = .ok (keyboard, earlier) →
      visited ∈ keyboard.forEachKey 100 100 → visited.label.length = 1 →
      click.shiftHeld = keyboard.shiftHeld →
      hitSlot keyboard.page (Half.of click.pad) click.position = .ok (some visited.slot) →
      (∀ key shift, .key key shift ∈ effects → Mapper.isShift key = false) →
      (rows keyboard.page)[visited.slot.row]? = some row → row[visited.slot.key]? = some key →
      Typing.click 1 ⟨keyboard.page, keyboard.shifted, []⟩ click = .ok (typing, false) →
      typing.sent = [.key code flag 1] →
      ((outputsAfter .none effects).typesShifted ⟨code⟩ flag = true ↔
        key.ShowsShifted visited.label) := by
  intro agrees
  obtain ⟨keyboard, earlier, ran, page, shifted, held⟩ := exists_symbolKeyboard
  obtain ⟨visited, shown, slot, label⟩ := one_shown page 100 100
  have same := agrees symbolStates keyboard earlier visited clickOne
    [.output (.key .leftShift true)] _ _ 2 false ⟨.symbols, false, [.key 2 false 1]⟩ ran shown
    (by rw [label]; decide) held.symm (by rw [page, slot]; exact clickOne_hits) (by simp)
    (by rw [page, slot]; rfl) (by rw [slot]; rfl) (by rw [page, shifted]; decide +kernel) rfl
  have typed : (outputsAfter .none [.output (.key .leftShift true : Output ℚ)]).typesShifted
      ⟨2⟩ false = true := by decide +kernel
  obtain ⟨code, always⟩ := same.mp typed
  cases always

end Scd.Osk
