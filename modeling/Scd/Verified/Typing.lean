import Mathlib.Data.Finset.Basic
import Scd.Daemon.Outputs

/-! # Keys that are held and keys that are typed

The mapper holds keys of the virtual keyboard, and clients type on it.  The kernel ignores
the press of a key that is down, but obeys its release: typing a key releases it, also when
the mapper holds it.  As long as no such key is typed, the keys that are down are those
that the mapper holds.
-/

namespace Scd.Daemon

open Scd.Core Scd.Foundation
open Evdev (KeyEvent)

/-! ## The kernel -/

/-- The keys that are down after one more event. -/
def press (down : Finset KeyCode) (event : KeyEvent) : Finset KeyCode :=
  if event.value = 1 then insert event.key down
  else if event.value = 0 then down.erase event.key
  else down

def keysDown (events : List KeyEvent) : Finset KeyCode := events.foldl press ∅

theorem keysDown_append (events more : List KeyEvent) :
    keysDown (events ++ more) = more.foldl press (keysDown events) := List.foldl_append

@[simp] theorem press_one (down : Finset KeyCode) (key : KeyCode) :
    press down ⟨key, 1⟩ = insert key down := rfl

@[simp] theorem press_zero (down : Finset KeyCode) (key : KeyCode) :
    press down ⟨key, 0⟩ = down.erase key := rfl

section

variable {F : Type} [Scalar F]

/-! ## The mapper's keys -/

/-- The keys that the mapper holds after one more effect. -/
def holding (held : Finset KeyCode) : Effect F → Finset KeyCode
  | .output (.key key true) => insert key held
  | .output (.key key false) => held.erase key
  | _ => held

def keysHeld (effects : List (Effect F)) : Finset KeyCode := effects.foldl holding ∅

/-- An effect that does not type a held key. -/
def Effect.Spares (held : Finset KeyCode) : Effect F → Prop
  | .key typed _ => typed ∉ held
  | _ => True

/-- A press of the mapper is of a key that it does not hold, and a release of one it holds. -/
def Effect.Alternates (held : Finset KeyCode) : Effect F → Prop
  | .output (.key moved true) => moved ∉ held
  | .output (.key moved false) => moved ∈ held
  | _ => True

/-! ## One effect -/

namespace Outputs

variable (outputs : Outputs F)

/-- The events of an effect. -/
def eventsOf : Effect F → List KeyEvent
  | .output (.key key pressed) => [⟨key, pressedValue pressed⟩]
  | .key key shift => outputs.keyEvents key shift
  | _ => []

omit [Scalar F] in
theorem keyboard_setGamepad (gamepad : Gamepad) :
    (outputs.setGamepad gamepad).keyboard = outputs.keyboard ∧
      (outputs.setGamepad gamepad).leftShiftHeld = outputs.leftShiftHeld ∧
      (outputs.setGamepad gamepad).rightShiftHeld = outputs.rightShiftHeld := by
  unfold setGamepad
  split <;> exact ⟨rfl, rfl, rfl⟩

theorem keyboard_perform (effect : Effect F) :
    (outputs.perform effect).keyboard = outputs.keyboard ++ outputs.eventsOf effect := by
  cases effect with
  | output output =>
    cases output with
    | key key pressed =>
      simp only [perform, emit, eventsOf]
      split
      · rfl
      split <;> rfl
    | _ => simp [perform, emit, eventsOf]
  | key key shift => rfl
  | setGamepad gamepad => simp [perform, eventsOf, keyboard_setGamepad]
  | _ => simp [perform, eventsOf, updateGamepadSource, setGamepadBattery]

/-- Only the mapper moves the flags. -/
theorem shiftHeld_perform (effect : Effect F) :
    (outputs.perform effect).leftShiftHeld =
        (match effect with
        | .output (.key key pressed) => if key = KeyCode.leftShift then pressed else outputs.leftShiftHeld
        | _ => outputs.leftShiftHeld) ∧
      (outputs.perform effect).rightShiftHeld =
        (match effect with
        | .output (.key key pressed) =>
          if key = KeyCode.rightShift then pressed else outputs.rightShiftHeld
        | _ => outputs.rightShiftHeld) := by
  cases effect with
  | output output =>
    cases output with
    | key key pressed =>
      simp only [perform, emit]
      by_cases left : key = KeyCode.leftShift
      · subst left
        exact ⟨rfl, rfl⟩
      · rw [if_neg left, if_neg left]
        by_cases right : key = KeyCode.rightShift
        · rw [if_pos right, if_pos right]
          exact ⟨rfl, rfl⟩
        · rw [if_neg right, if_neg right]
          exact ⟨rfl, rfl⟩
    | _ => exact ⟨rfl, rfl⟩
  | setGamepad gamepad => exact (outputs.keyboard_setGamepad gamepad).2
  | _ => exact ⟨rfl, rfl⟩

end Outputs

/-- The flags say which Shift key is down. -/
structure Outputs.ShiftKnown (outputs : Outputs F) : Prop where
  left : outputs.leftShiftHeld = true ↔ KeyCode.leftShift ∈ keysDown outputs.keyboard
  right : outputs.rightShiftHeld = true ↔ KeyCode.rightShift ∈ keysDown outputs.keyboard

namespace Outputs.ShiftKnown

variable {outputs : Outputs F}

omit [Scalar F] in
/-- If Shift is tapped, it was up. -/
theorem leftShift_up (known : outputs.ShiftKnown) {shift : Bool}
    (tapped : (shift && !outputs.leftShiftHeld && !outputs.rightShiftHeld) = true) :
    KeyCode.leftShift ∉ keysDown outputs.keyboard := by
  simp only [Bool.and_eq_true, Bool.not_eq_true'] at tapped
  rw [← known.left]
  simp [tapped.1.2]

omit [Scalar F] in
/-- A typed key is up afterwards, and no other key has moved. -/
theorem keysDown_typed (known : outputs.ShiftKnown) (key : KeyCode) (shift : Bool) :
    (outputs.keyEvents key shift).foldl press (keysDown outputs.keyboard) =
      (keysDown outputs.keyboard).erase key := by
  unfold keyEvents
  by_cases tapped : (shift && !outputs.leftShiftHeld && !outputs.rightShiftHeld) = true
  · have up := known.leftShift_up tapped
    rw [if_pos tapped]
    simp only [List.foldl_cons, List.foldl_nil, press_one, press_zero]
    -- the Shift key around the key is up again in the end
    ext other
    simp only [Finset.mem_erase, Finset.mem_insert]
    constructor
    · intro member
      obtain ⟨notShift, notKey, member⟩ := member
      exact ⟨notKey, (member.resolve_left notKey).resolve_left notShift⟩
    · intro member
      refine ⟨?_, member.1, .inr (.inr member.2)⟩
      intro same
      exact up (same ▸ member.2)
  · rw [if_neg tapped]
    simp only [List.foldl_cons, List.foldl_nil, press_one, press_zero]
    exact Finset.erase_insert_eq_erase _ _

theorem emitKey (known : outputs.ShiftKnown) (key : KeyCode) (pressed : Bool) :
    (outputs.perform (.output (.key key pressed))).ShiftKnown := by
  obtain ⟨left, right⟩ := outputs.shiftHeld_perform (.output (.key key pressed))
  have events := outputs.keyboard_perform (.output (.key key pressed))
  constructor
  · rw [left, events, keysDown_append]
    by_cases same : key = KeyCode.leftShift
    · cases pressed <;> simp [same, eventsOf, pressedValue]
    · cases pressed <;> simp [same, Ne.symm same, eventsOf, pressedValue, known.left]
  · rw [right, events, keysDown_append]
    by_cases same : key = KeyCode.rightShift
    · cases pressed <;> simp [same, eventsOf, pressedValue]
    · cases pressed <;> simp [same, Ne.symm same, eventsOf, pressedValue, known.right]

/-- Typing does not confuse the flags, unless it releases a Shift key. -/
theorem typeKey (known : outputs.ShiftKnown) {key : KeyCode} {shift : Bool}
    (free : key ∈ keysDown outputs.keyboard → key ≠ KeyCode.leftShift ∧ key ≠ KeyCode.rightShift) :
    (outputs.perform (.key key shift)).ShiftKnown := by
  have down : keysDown (outputs.perform (.key key shift)).keyboard =
      (keysDown outputs.keyboard).erase key := by
    rw [outputs.keyboard_perform, keysDown_append]
    exact known.keysDown_typed key shift
  have kept (other : KeyCode) (isShift : other = KeyCode.leftShift ∨ other = KeyCode.rightShift) :
      other ∈ (keysDown outputs.keyboard).erase key ↔ other ∈ keysDown outputs.keyboard := by
    rw [Finset.mem_erase, and_iff_right_iff_imp]
    intro member same
    have := free (same ▸ member)
    cases isShift with
    | inl left => exact this.1 (same ▸ left)
    | inr right => exact this.2 (same ▸ right)
  constructor
  · rw [down, kept _ (.inl rfl)]
    exact known.left
  · rw [down, kept _ (.inr rfl)]
    exact known.right

/-- The other effects leave the keyboard alone. -/
theorem other (known : outputs.ShiftKnown) {effect : Effect F} (silent : outputs.eventsOf effect = [])
    (left : (outputs.perform effect).leftShiftHeld = outputs.leftShiftHeld)
    (right : (outputs.perform effect).rightShiftHeld = outputs.rightShiftHeld) :
    (outputs.perform effect).ShiftKnown := by
  have same : (outputs.perform effect).keyboard = outputs.keyboard := by
    rw [outputs.keyboard_perform, silent, List.append_nil]
  constructor
  · rw [left, same]
    exact known.left
  · rw [right, same]
    exact known.right

theorem perform (known : outputs.ShiftKnown) {effect : Effect F}
    (free : ∀ key shift, effect = .key key shift → key ∈ keysDown outputs.keyboard →
      key ≠ KeyCode.leftShift ∧ key ≠ KeyCode.rightShift) :
    (outputs.perform effect).ShiftKnown := by
  obtain ⟨left, right⟩ := outputs.shiftHeld_perform effect
  cases effect with
  | output output =>
    cases output with
    | key key pressed => exact known.emitKey key pressed
    | _ => exact known.other rfl left right
  | key key shift => exact known.typeKey (free key shift rfl)
  | _ => exact known.other rfl left right

end Outputs.ShiftKnown

/-! ## Whole runs -/

/-- The outputs after some effects. -/
def outputsAfter (gamepad : Gamepad) (effects : List (Effect F)) : Outputs F :=
  (Outputs.new gamepad).performAll effects

variable (gamepad : Gamepad)

theorem outputsAfter_append (effects : List (Effect F)) (effect : Effect F) :
    outputsAfter gamepad (effects ++ [effect]) = (outputsAfter gamepad effects).perform effect := by
  simp [outputsAfter]

theorem outputsAfter_nil :
    keysDown (outputsAfter gamepad ([] : List (Effect F))).keyboard = ∅ ∧
      (outputsAfter gamepad ([] : List (Effect F))).ShiftKnown := by
  obtain ⟨keyboard, left, right⟩ := Outputs.keyboard_setGamepad (F := F)
    ⟨none, .none, [], false, false, [], (0.0, 0.0), (0.0, 0.0)⟩ gamepad
  have started : outputsAfter gamepad ([] : List (Effect F)) = Outputs.new gamepad := rfl
  refine ⟨?_, ?_, ?_⟩
  · rw [started, Outputs.new, keyboard]
    rfl
  · rw [started, Outputs.new, keyboard, left]
    simp [keysDown]
  · rw [started, Outputs.new, keyboard, right]
    simp [keysDown]

/-- The keys that are down are those of the mapper, and the flags say whether Shift is. -/
structure Faithful (effects : List (Effect F)) : Prop where
  keys : keysDown (outputsAfter gamepad effects).keyboard = keysHeld effects
  shift : (outputsAfter gamepad effects).ShiftKnown

theorem faithful_nil : Faithful gamepad ([] : List (Effect F)) :=
  ⟨(outputsAfter_nil gamepad).1, (outputsAfter_nil gamepad).2⟩

omit [Scalar F] in
theorem keysHeld_append (effects : List (Effect F)) (effect : Effect F) :
    keysHeld (effects ++ [effect]) = holding (keysHeld effects) effect := by
  simp [keysHeld]

variable {gamepad} {before : List (Effect F)}

/-- What one effect keeps. -/
theorem faithful_append (faithful : Faithful gamepad before) (effect : Effect F) :
    Faithful gamepad (before ++ [effect]) ↔ effect.Spares (keysHeld before) := by
  have down : keysDown (outputsAfter gamepad (before ++ [effect])).keyboard =
      ((outputsAfter gamepad before).eventsOf effect).foldl press (keysHeld before) := by
    rw [outputsAfter_append, Outputs.keyboard_perform, keysDown_append, faithful.keys]
  have kept (free : ∀ key shift, effect = .key key shift → key ∉ keysHeld before) :
      (outputsAfter gamepad (before ++ [effect])).ShiftKnown := by
    rw [outputsAfter_append]
    apply faithful.shift.perform
    intro key shift same member
    rw [faithful.keys] at member
    exact absurd member (free key shift same)
  cases effect with
  | key key shift =>
    have erased := faithful.shift.keysDown_typed key shift
    rw [faithful.keys] at erased
    have typed := down.trans erased
    have held : keysHeld (before ++ [.key key shift]) = keysHeld before := keysHeld_append _ _
    constructor
    · intro after
      have same := after.keys
      rw [typed, held] at same
      exact Finset.erase_eq_self.mp same
    · intro free
      constructor
      · rw [typed, held]
        exact Finset.erase_eq_of_notMem free
      · apply kept
        intro other shift' same
        cases same
        exact free
  | output output =>
    refine iff_of_true ⟨?_, kept fun _ _ same => nomatch same⟩ trivial
    rw [down, keysHeld_append]
    cases output with
    | key key pressed => cases pressed <;> rfl
    | _ => rfl
  | _ =>
    refine iff_of_true ⟨?_, kept fun _ _ same => nomatch same⟩ trivial
    rw [down, keysHeld_append]
    rfl

/-- The keyboard is as it should be after every call exactly when no held key is typed. -/
theorem typing_spares_iff (gamepad : Gamepad) (effects : List (Effect F)) :
    (∀ before, before <+: effects → Faithful gamepad before) ↔
      ∀ before effect, before ++ [effect] <+: effects → effect.Spares (keysHeld before) :=
  forall_prefix_iff (faithful_nil gamepad) fun _ effect _ faithful => faithful_append faithful effect

/-- The mapper presses a key and a Shift key, and releases the first; in between a client types
    another letter. -/
def exampleTyping : List (Effect ℚ) :=
  [.output (.key ⟨30⟩ true), .output (.key .leftShift true), .key ⟨48⟩ true,
    .output (.key ⟨30⟩ false)]

theorem typing_spares_iff_other :
    keysHeld exampleTyping = {KeyCode.leftShift} ∧ ∀ before, before <+: exampleTyping →
      Faithful .none before := by
  refine ⟨by decide, (typing_spares_iff .none exampleTyping).mpr fun before effect isPrefix => ?_⟩
  match before with
  | [] =>
    obtain ⟨rfl, _⟩ := List.cons_prefix_cons.mp isPrefix
    trivial
  | [_] =>
    obtain ⟨rfl, _⟩ := List.cons_prefix_cons.mp (List.cons_prefix_cons.mp isPrefix).2
    trivial
  | [_, _] =>
    obtain ⟨first, rest⟩ := List.cons_prefix_cons.mp isPrefix
    obtain ⟨second, rest⟩ := List.cons_prefix_cons.mp rest
    obtain ⟨rfl, _⟩ := List.cons_prefix_cons.mp rest
    rw [first, second]
    show (⟨48⟩ : KeyCode) ∉ _
    decide
  | [_, _, _] =>
    obtain ⟨_, rest⟩ := List.cons_prefix_cons.mp isPrefix
    obtain ⟨_, rest⟩ := List.cons_prefix_cons.mp rest
    obtain ⟨_, rest⟩ := List.cons_prefix_cons.mp rest
    obtain ⟨rfl, _⟩ := List.cons_prefix_cons.mp rest
    trivial
  | _ :: _ :: _ :: _ :: _ => simp [exampleTyping, List.cons_prefix_cons] at isPrefix

/-- The mapper holds a key and a client types it: the key is up. -/
theorem typing_releases_held :
    ¬ ∀ (gamepad : Gamepad) (effects : List (Effect ℚ)),
      (∀ before effect, before ++ [effect] <+: effects → effect.Alternates (keysHeld before)) →
      (∀ key shift, .key key shift ∈ effects → isKeyboardKey key = true) →
      ∀ before, before <+: effects → Faithful gamepad before := by
  intro always
  have faithful := always .none [.output (.key ⟨30⟩ true), .key ⟨30⟩ false] ?_ ?_
    [.output (.key ⟨30⟩ true), .key ⟨30⟩ false] List.prefix_rfl
  · have keys := faithful.keys
    revert keys
    decide
  · intro before effect isPrefix
    match before with
    | [] =>
      obtain ⟨rfl, _⟩ := List.cons_prefix_cons.mp isPrefix
      exact Finset.notMem_empty _
    | [first] =>
      obtain ⟨rfl, rest⟩ := List.cons_prefix_cons.mp isPrefix
      obtain ⟨rfl, _⟩ := List.cons_prefix_cons.mp rest
      trivial
    | first :: second :: rest => simp [List.cons_prefix_cons] at isPrefix
  · intro key shift member
    simp only [List.mem_cons, List.not_mem_nil, or_false, reduceCtorEq, false_or,
      Effect.key.injEq] at member
    rw [member.1]
    decide

end

end Scd.Daemon
