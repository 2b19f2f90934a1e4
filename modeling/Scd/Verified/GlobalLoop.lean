import Scd.Verified.Advances

/-! # The loop over the global bindings

What the first loop of `Mapper::process` has done after some of the bindings, in terms of
the flags it started with: which bindings have fired, who claims what, and which buttons
are reserved.  The bindings do not read each other's flags, so each of them is described on
its own.
-/

namespace Scd.Core

namespace GlobalBinding

variable (binding : GlobalBinding)

/-- The binding reserves the button. -/
def reserves (captured : Bool) (buttons : Buttons) (button : Button) : Bool :=
  binding.inputs.contains button &&
    (captured || (binding.prerequisites.contains button && buttons.contains button) ||
      (button = binding.trigger && binding.allActive buttons))

theorem contains_reserveButton (captured : Bool) (buttons : Buttons) (sets : Buttons × Buttons)
    (visited button : Button) :
    (binding.reserveButton captured buttons sets visited).1.contains button =
        (sets.1.contains button || (button = visited && binding.reserves captured buttons button)) ∧
      (binding.reserveButton captured buttons sets visited).2.contains button =
        (sets.2.contains button || (button = visited && captured && binding.inputs.contains button)) := by
  by_cases same : button = visited
  · subst same
    cases isInput : binding.inputs.contains button with
    | false => simp [reserveButton, reserves, isInput]
    | true =>
      cases captured with
      | true => simp [reserveButton, reserves, isInput]
      | false =>
        simp only [reserveButton, reserves, isInput, Bool.not_true, Bool.false_eq_true, if_false,
          Bool.true_and, Bool.false_or]
        split
        · next reserved => simp [reserved]
        · next free => simp [Bool.not_eq_true _ ▸ free]
  · simp only [reserveButton, same]
    split
    · simp
    · split
      · simp [same]
      · split <;> simp [same]

/-- The two sets that the loop fills. -/
theorem contains_reserve (captured : Bool) (buttons : Buttons) (sets : Buttons × Buttons)
    (button : Button) :
    (binding.reserve captured buttons sets).1.contains button =
        (sets.1.contains button || binding.reserves captured buttons button) ∧
      (binding.reserve captured buttons sets).2.contains button =
        (sets.2.contains button || (captured && binding.inputs.contains button)) := by
  suffices general : ∀ (visited : List Button) (sets : Buttons × Buttons),
      (visited.foldl (binding.reserveButton captured buttons) sets).1.contains button =
          (sets.1.contains button ||
            (decide (button ∈ visited) && binding.reserves captured buttons button)) ∧
        (visited.foldl (binding.reserveButton captured buttons) sets).2.contains button =
          (sets.2.contains button ||
            (decide (button ∈ visited) && captured && binding.inputs.contains button)) by
    simpa [reserve] using general Button.all sets
  intro visited
  induction visited with
  | nil => simp
  | cons first rest inductionHypothesis =>
    intro sets
    obtain ⟨reserved, captures⟩ := inductionHypothesis (binding.reserveButton captured buttons sets first)
    obtain ⟨reservedFirst, capturesFirst⟩ :=
      binding.contains_reserveButton captured buttons sets first button
    rw [List.foldl_cons, reserved, captures, reservedFirst, capturesFirst]
    by_cases same : button = first
    · constructor <;> grind
    · simp [same]

end GlobalBinding

end Scd.Core

namespace Scd.Daemon

open Scd.Core Scd.Foundation

section

variable {F : Type} [Scalar F]

/-! ## One binding -/

/-- The notes of one global binding. -/
def globalNotes (binding : GlobalBinding) (runtime : GlobalState) (buttons previousButtons : Buttons)
    (position : Nat) : List Note :=
  if binding.pressed buttons previousButtons then
    .fire position :: (binding.held.map (.claim (.global position))).toList
  else if runtime.active && !binding.allActive buttons then
    (binding.held.map (.unclaim (.global position))).toList
  else []

omit [Scalar F] in
/-- The loop has gone past the bindings `done`. -/
structure GlobalsDone [Scalar F] (start : Mapper F) (buttons previousButtons : Buttons)
    (done : List (GlobalBinding × Nat)) (pass : GlobalPass F) : Prop where
  advances : Advances false ⟨start, []⟩ pass.toPass
  frame : pass.mapper = { start with global := pass.mapper.global, held := pass.mapper.held }
  visited : ∀ item ∈ done, ∀ runtime, start.global[item.2]? = some runtime →
    pass.mapper.global[item.2]? = some (item.1.next runtime buttons previousButtons)
  unvisited : ∀ position, done.length ≤ position →
    pass.mapper.global[position]? = start.global[position]?
  notes : pass.log.notes = done.flatMap fun item =>
    ((start.global[item.2]?).map fun runtime =>
      globalNotes item.1 runtime buttons previousButtons item.2).getD []
  untoggled : pass.log.toggles = false
  calm : ∀ item ∈ done, item.1.pressed buttons previousButtons = true →
    interrupts start.config start.activeMode item.1 = false
  reserved : ∀ button, pass.reserved.contains button = true ↔ ∃ item ∈ done,
    ∃ runtime, start.global[item.2]? = some runtime ∧
      item.1.reserves (item.1.next runtime buttons previousButtons).captured buttons button = true
  captured : ∀ button, pass.captured.contains button = true ↔ ∃ item ∈ done,
    ∃ runtime, start.global[item.2]? = some runtime ∧
      (item.1.next runtime buttons previousButtons).captured = true ∧
      item.1.inputs.contains button = true

omit [Scalar F] in
theorem interrupts_of_held {binding : GlobalBinding} {output : HeldOutput} (config : Config F)
    (activeMode : ModeId) (held : binding.held = some output) :
    interrupts config activeMode binding = false := by
  unfold interrupts
  unfold GlobalBinding.held at held
  cases isAction : binding.action with
  | keyboardToggle => simp [isAction] at held
  | action action =>
    simp only [isAction] at held
    cases action with
    | key | mouse | gamepad => rfl
    | modeSet | modeNext => cases held

/-- What an iteration that does not stop leaves. -/
structure Visited (binding : GlobalBinding) (buttons previousButtons : Buttons) (pass : GlobalPass F)
    (position : Nat) (runtime : GlobalState) (result : GlobalPass F) : Prop where
  mapper : result.mapper =
    { pass.mapper.flag position (binding.next runtime buttons previousButtons) with
      held := result.mapper.held }
  reserved : result.reserved =
    (pass.visit binding buttons previousButtons position runtime).reserved
  captured : result.captured =
    (pass.visit binding buttons previousButtons position runtime).captured
  notes : result.log.notes =
    pass.log.notes ++ globalNotes binding runtime buttons previousButtons position
  toggles : result.log.toggles = pass.log.toggles
  calm : binding.pressed buttons previousButtons = true →
    interrupts pass.mapper.config pass.mapper.activeMode binding = false

theorem GlobalStep.visited {binding : GlobalBinding} {buttons previousButtons : Buttons}
    {pass result : GlobalPass F} {position : Nat} {runtime : GlobalState}
    (step : GlobalStep binding buttons previousButtons pass position runtime result false) :
    Visited binding buttons previousButtons pass position runtime result := by
  cases step with
  | idle unpressed idle =>
    refine ⟨rfl, rfl, rfl, ?_, rfl, by simp [unpressed]⟩
    rcases idle with inactive | down | unheld
    · simp [globalNotes, unpressed, inactive, GlobalPass.visit]
    · simp [globalNotes, unpressed, down, GlobalPass.visit]
    · simp [globalNotes, unpressed, unheld, GlobalPass.visit]
  | release unpressed active up held =>
    refine ⟨rfl, rfl, rfl, ?_, ?_, by simp [unpressed]⟩
    · simp [globalNotes, unpressed, active, up, held, GlobalPass.visit, GlobalPass.hold, heldNote]
    · simp [GlobalPass.visit, GlobalPass.hold]
  | press pressed held =>
    refine ⟨rfl, rfl, rfl, ?_, ?_, fun _ => interrupts_of_held _ _ held⟩
    · simp [globalNotes, pressed, held, GlobalPass.visit, GlobalPass.hold, heldNote]
    · simp [GlobalPass.visit, GlobalPass.hold]
  | stay pressed unheld calm =>
    refine ⟨rfl, rfl, rfl, ?_, ?_, fun _ => calm⟩
    · simp [globalNotes, pressed, unheld, GlobalPass.visit, GlobalPass.append]
    · simp [GlobalPass.visit, GlobalPass.append]

/-! ## The loop -/

theorem GlobalsDone.start (mapper : Mapper F) (buttons previousButtons : Buttons) :
    GlobalsDone mapper buttons previousButtons [] ⟨⟨mapper, []⟩, {}, {}⟩ where
  advances := .refl _
  frame := rfl
  visited := by simp
  unvisited := fun _ _ => rfl
  notes := rfl
  untoggled := rfl
  calm := by simp
  reserved := by
    intro button
    rw [Buttons.contains_empty]
    simp
  captured := by
    intro button
    rw [Buttons.contains_empty]
    simp

theorem GlobalsDone.step {start : Mapper F} {buttons previousButtons : Buttons}
    {done : List (GlobalBinding × Nat)} {pass result : GlobalPass F} {binding : GlobalBinding}
    {position : Nat} {runtime : GlobalState}
    (earlier : ∀ item ∈ done, item.2 < done.length) (place : position = done.length)
    (found : start.global[position]? = some runtime)
    (past : GlobalsDone start buttons previousButtons done pass)
    (step : GlobalStep binding buttons previousButtons pass position runtime result false) :
    GlobalsDone start buttons previousButtons (done ++ [(binding, position)]) result := by
  have visited := step.visited
  have config : pass.mapper.config = start.config := by rw [past.frame]
  have activeMode : pass.mapper.activeMode = start.activeMode := by rw [past.frame]
  have global : result.mapper.global =
      pass.mapper.global.set position (binding.next runtime buttons previousButtons) := by
    rw [visited.mapper]
    rfl
  have lt : position < pass.mapper.global.length := by
    have : pass.mapper.global[position]? = some runtime := by
      rw [past.unvisited position place.ge, found]
    exact (List.getElem?_eq_some_iff.mp this).1
  constructor
  case advances => exact past.advances.trans step.advances
  case frame =>
    rw [visited.mapper, Mapper.flag, past.frame]
  case visited =>
    intro item member other present
    rcases List.mem_append.mp member with old | new
    -- an earlier binding keeps the state that its own visit has left
    · have differs : position ≠ item.2 := by
        have := earlier item old
        omega
      rw [global, List.getElem?_set_ne differs]
      exact past.visited item old other present
    · obtain rfl := List.mem_singleton.mp new
      cases found.symm.trans present
      rw [global, List.getElem?_set_self lt]
  case unvisited =>
    intro other le
    rw [List.length_append, List.length_singleton] at le
    rw [global, List.getElem?_set_ne (by omega)]
    exact past.unvisited other (by omega)
  case notes =>
    rw [visited.notes, past.notes, List.flatMap_append, List.flatMap_singleton, found]
    rfl
  case untoggled => rw [visited.toggles, past.untoggled]
  case calm =>
    intro item member pressed
    rcases List.mem_append.mp member with old | new
    · exact past.calm item old pressed
    · obtain rfl := List.mem_singleton.mp new
      -- that this binding does not cut the loop short is read off the configuration of the start
      rw [← config, ← activeMode]
      exact visited.calm pressed
  case reserved =>
    intro button
    -- reserved are the buttons that were, and those that this binding adds
    have sets := (binding.contains_reserve (binding.next runtime buttons previousButtons).captured
      buttons (pass.reserved, pass.captured) button).1
    rw [visited.reserved, GlobalPass.visit, sets, Bool.or_eq_true, past.reserved]
    simp [found, or_and_right, exists_or]
  case captured =>
    intro button
    have sets := (binding.contains_reserve (binding.next runtime buttons previousButtons).captured
      buttons (pass.reserved, pass.captured) button).2
    rw [visited.captured, GlobalPass.visit, sets, Bool.or_eq_true, past.captured]
    simp [found, or_and_right, exists_or]

/-- The loop was cut short by a binding that toggles the keyboard or switches the mode. -/
def GlobalsCut (start : Mapper F) (buttons previousButtons : Buttons) (result : GlobalPass F) :
    Prop :=
  ∃ done binding position rest pass runtime,
    start.config.globalBindings.zipIdx = done ++ (binding, position) :: rest ∧
    start.global[position]? = some runtime ∧
    GlobalsDone start buttons previousButtons done pass ∧
    GlobalStep binding buttons previousButtons pass position runtime result true

theorem globalBindings_done {mapper : Mapper F} (wf : mapper.Wf) (buttons previousButtons : Buttons) :
    Returns (mapper.globalBindings buttons previousButtons) fun result =>
      if result.2 then GlobalsCut mapper buttons previousButtons result.1
      else GlobalsDone mapper buttons previousButtons mapper.config.globalBindings.zipIdx result.1 := by
  refine Returns.loop (GlobalsDone mapper buttons previousButtons)
    (GlobalsCut mapper buttons previousButtons) (.start mapper buttons previousButtons) ?_
  rintro done ⟨binding, position⟩ rest pass split past
  obtain ⟨place, present⟩ := zipIdx_split split
  obtain rfl : position = done.length := place
  have config : pass.mapper.config = mapper.config := by rw [past.frame]
  have wellFormed : binding.WellFormed pass.mapper.config.modes.length := by
    rw [config]
    exact wf.config.globals binding (List.mem_of_getElem? present)
  have lt : done.length < mapper.global.length := by
    rw [wf.global]
    exact (List.getElem?_eq_some_iff.mp present).1
  have found := List.getElem?_eq_getElem lt
  have foundNow := (past.unvisited done.length (Nat.le_refl _)).trans found
  refine (globalBinding_steps (past.advances.wf wf) wellFormed foundNow).mono ?_
  rintro ⟨result, stopped⟩ step
  cases stopped with
  | true => exact ⟨done, binding, _, rest, pass, _, split, found, past, step⟩
  | false =>
    exact past.step (fun item member => (zipIdx_before split member).1) rfl found step

end

end Scd.Daemon
