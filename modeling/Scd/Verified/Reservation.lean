import Scd.Verified.StartLoop

/-! # Reserved buttons

The sets that `Mapper::process` folds together before it looks for bindings that fire, read
as predicates of a button: the triggers that active layers override, and the buttons that
chords reserve.
-/

namespace Scd.Core

/-- A fold that adds buttons item by item. -/
theorem Buttons.contains_foldl {α : Type} {step : Buttons → α → Buttons} (adds : α → Bool)
    {button : Button} (each : ∀ set item,
      (step set item).contains button = (set.contains button || adds item))
    (items : List α) (set : Buttons) :
    (items.foldl step set).contains button = (set.contains button || items.any adds) := by
  induction items generalizing set with
  | nil => simp
  | cons first rest inductionHypothesis =>
    rw [List.foldl_cons, inductionHypothesis, each, List.any_cons, Bool.or_assoc]

namespace Binding

variable (binding : Binding)

/-- The chord reserves the button: a prerequisite that is down, or the trigger of a chord that
    is down altogether. -/
def reservesChord (buttons : Buttons) (button : Button) : Bool :=
  binding.isChord && ((binding.prerequisites.contains button && buttons.contains button) ||
    (button = binding.trigger && buttons.containsAll binding.prerequisites &&
      buttons.contains binding.trigger))

/-- The loop over the prerequisites that are down. -/
theorem contains_prerequisites (wanted buttons reserved : Buttons) (button : Button) :
    (Button.all.foldl (fun reserved button =>
      if wanted.contains button && buttons.contains button then reserved.insert button
      else reserved) reserved).contains button =
        (reserved.contains button || (wanted.contains button && buttons.contains button)) := by
  rw [Buttons.contains_foldl fun item =>
    decide (button = item) && (wanted.contains item && buttons.contains item)]
  · congr 1
    cases down : wanted.contains button && buttons.contains button with
    | true =>
      rw [List.any_eq_true]
      exact ⟨button, Button.mem_all button, by rw [down, decide_eq_true rfl]; rfl⟩
    | false =>
      rw [List.any_eq_false]
      intro item _
      by_cases same : button = item
      · rw [← same, down]
        simp
      · simp [same]
  · intro set item
    split
    · next down => simp [down]
    · next up => simp [Bool.not_eq_true _ ▸ up]

theorem contains_reserveChordInputs (buttons reserved : Buttons) (button : Button) :
    (binding.reserveChordInputs buttons reserved).contains button =
      (reserved.contains button || binding.reservesChord buttons button) := by
  have prerequisites := contains_prerequisites binding.prerequisites buttons reserved button
  unfold reserveChordInputs reservesChord
  split
  · next single =>
    have notChord : binding.isChord = false := by simp [isChord, single]
    rw [notChord, Bool.false_and, Bool.or_false]
  · next chord =>
    have isChord : binding.isChord = true := decide_eq_true chord
    rw [isChord, Bool.true_and]
    dsimp only
    split
    · next whole =>
      rw [Bool.and_eq_true] at whole
      rw [Buttons.contains_insert, prerequisites]
      simp [whole, Bool.or_assoc]
    · next part =>
      -- the trigger is reserved only when the whole chord is down
      rw [prerequisites, Bool.and_assoc, Bool.eq_false_iff.mpr part, Bool.and_false, Bool.or_false]

end Binding

end Scd.Core

namespace Scd.Daemon

open Scd.Core

section

variable {F : Type}

/-- A binding of an active layer has this trigger. -/
def overrides (mode : Mode F) (active : Layer → Bool) (trigger : Button) : Bool :=
  mode.layers.any fun layer => active layer &&
    layer.bindings.any fun binding => trigger = binding.trigger

theorem contains_overriddenTriggers (mode : Mode F) (buttons reserved : Buttons) (trigger : Button) :
    (overriddenTriggers mode buttons reserved).contains trigger =
      overrides mode (layerActive buttons reserved) trigger := by
  unfold overriddenTriggers
  rw [Buttons.contains_foldl fun layer => layerActive buttons reserved layer &&
    layer.bindings.any fun binding => trigger = binding.trigger]
  · rw [Buttons.contains_empty]
    rfl
  · intro set layer
    split
    · next active =>
      rw [Buttons.contains_foldl fun binding => decide (trigger = binding.trigger)]
      · rw [active, Bool.true_and]
      · exact fun set binding => Buttons.contains_insert set binding.trigger trigger
    · next inactive => simp [Bool.not_eq_true _ ▸ inactive]

/-- A chord of the mode that is not overridden, or of an active layer, reserves the button. -/
def chordReserves (mode : Mode F) (active : Layer → Bool) (buttons : Buttons) (button : Button) :
    Bool :=
  (mode.bindings.any fun binding => !overrides mode active binding.trigger &&
    binding.reservesChord buttons button) ||
  mode.layers.any fun layer => active layer &&
    layer.bindings.any fun binding => binding.reservesChord buttons button

theorem contains_chordReserved (mode : Mode F) (buttons reserved : Buttons) (button : Button) :
    (chordReserved mode buttons reserved (overriddenTriggers mode buttons reserved)).contains button =
      (reserved.contains button ||
        chordReserves mode (layerActive buttons reserved) buttons button) := by
  unfold chordReserved chordReserves
  rw [Buttons.contains_foldl fun layer => layerActive buttons reserved layer &&
      layer.bindings.any fun binding => binding.reservesChord buttons button,
    Buttons.contains_foldl fun binding =>
      !overrides mode (layerActive buttons reserved) binding.trigger &&
        binding.reservesChord buttons button, Bool.or_assoc]
  · intro set binding
    rw [contains_overriddenTriggers]
    cases overrides mode (layerActive buttons reserved) binding.trigger with
    | true => simp
    | false => simpa using binding.contains_reserveChordInputs buttons set button
  · intro set layer
    split
    · next active =>
      rw [Buttons.contains_foldl fun binding => binding.reservesChord buttons button]
      · rw [active, Bool.true_and]
      · exact fun set binding => binding.contains_reserveChordInputs buttons set button
    · next inactive => simp [Bool.not_eq_true _ ▸ inactive]

/-- No candidate may use a button that a global binding has reserved. -/
theorem unavailable_of_reserved {mode : Mode F} {buttons reserved : Buttons} {candidate : Candidate}
    (member : candidate ∈ candidates mode buttons reserved) {button : Button}
    (isReserved : reserved.contains button = true) :
    candidate.unavailable.contains button = true := by
  obtain ⟨chord, _, member⟩ := List.mem_flatMap.mp member
  have unavailable : candidate.unavailable = if chord then reserved else
      chordReserved mode buttons reserved (overriddenTriggers mode buttons reserved) := by
    rcases List.mem_append.mp member with ofMode | ofLayer
    · obtain ⟨binding, _, rfl⟩ := List.mem_map.mp ofMode
      rfl
    · obtain ⟨layer, _, ofLayer⟩ := List.mem_flatMap.mp ofLayer
      obtain ⟨binding, _, rfl⟩ := List.mem_map.mp ofLayer
      rfl
  rw [unavailable]
  cases chord with
  | true => exact isReserved
  | false =>
    rw [if_neg Bool.false_ne_true, contains_chordReserved, isReserved, Bool.true_or]

end

end Scd.Daemon
