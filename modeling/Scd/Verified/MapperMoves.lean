import Scd.Foundation.Ledger
import Scd.Foundation.Path
import Scd.Verified.Turns
import Scd.Verified.WellFormed

/-! # The moves of the mapper

Whatever the mapper does between two mode changes is a sequence of four kinds of moves:
it holds or lets go of an output, sets an axis, releases everything, or does something that
no output depends on.  An invariant of the outputs is proved once for each of them.

`Mapper.Wf` is the invariant that keeps every index in range.
-/

namespace Scd.Daemon

open Scd.Core Scd.Foundation

section

variable {F : Type} [Scalar F]

/-! ## Indices -/

theorem index_ok_iff {α : Type} {items : List α} {position : Nat} {item : α} :
    index items position = .ok item ↔ items[position]? = some item := by
  unfold index
  cases items[position]? with
  | none => simp
  | some found => simp

theorem index_of_lt {α : Type} {items : List α} {position : Nat} (lt : position < items.length) :
    index items position = .ok items[position] := by
  rw [index_ok_iff, List.getElem?_eq_getElem lt]

omit [Scalar F] in
theorem mode_of_lt {config : Config F} {mode : ModeId} (lt : mode.index < config.modes.length) :
    ∃ found, config.mode mode = .ok found := ⟨_, index_of_lt lt⟩

omit [Scalar F] in
theorem modeName_of_lt {config : Config F} (wellFormed : config.WellFormed) {mode : ModeId}
    (lt : mode.index < config.modes.length) : ∃ name, config.modeName mode = .ok name := by
  rw [← wellFormed.names] at lt
  refine ⟨config.modeNames.entries[mode.index].1, ?_⟩
  simp only [Config.modeName, IndexMap.getIndex?, List.getElem?_eq_getElem lt]

omit [Scalar F] in
theorem nextMode_of_lt {config : Config F} {mode : ModeId} (lt : mode.index < config.modes.length) :
    ∃ next, config.nextMode mode = .ok next ∧ next.index < config.modes.length := by
  have positive : 0 < config.modes.length := by omega
  refine ⟨_, if_neg positive.ne', Nat.mod_lt _ positive⟩

/-! ## The invariant of the mapper -/

/-- `global` has one entry per global binding of the configuration and `axisActive` one per
    axis mapping of the active mode. -/
structure Mapper.Wf (mapper : Mapper F) : Prop where
  config : mapper.config.WellFormed
  activeMode : mapper.activeMode.index < mapper.config.modes.length
  global : mapper.global.length = mapper.config.globalBindings.length
  axisActive : ∀ mode, mapper.mode = .ok mode → mapper.axisActive.length = mode.axes.length
  held : RefCount.Positive mapper.held

/-- What a mapper keeps as long as neither its mode nor its configuration changes. -/
structure SameShape (before after : Mapper F) : Prop where
  config : after.config = before.config
  activeMode : after.activeMode = before.activeMode
  global : after.global.length = before.global.length
  axisActive : after.axisActive.length = before.axisActive.length

omit [Scalar F] in
theorem Mapper.Wf.sameShape {before after : Mapper F} (wf : before.Wf) (same : SameShape before after)
    (held : RefCount.Positive after.held) : after.Wf where
  config := by
    rw [same.config]
    exact wf.config
  activeMode := by
    rw [same.config, same.activeMode]
    exact wf.activeMode
  global := by
    rw [same.global, same.config]
    exact wf.global
  axisActive := by
    intro mode found
    rw [Mapper.mode, same.config, same.activeMode] at found
    rw [same.axisActive]
    exact wf.axisActive mode found
  held := held

omit [Scalar F] in
theorem Mapper.Wf.mode_ok {mapper : Mapper F} (wf : mapper.Wf) : ∃ mode, mapper.mode = .ok mode :=
  mode_of_lt wf.activeMode

/-! ## Events of a log -/

def Note.event? : Note → Option (ClaimEvent Owner HeldOutput)
  | .claim owner held => some (.claim owner held)
  | .unclaim owner held => some (.unclaim owner held)
  | .cancel => some .cancel
  | .fire _ | .start _ _ => none

omit [Scalar F] in
def Entry.event? : Entry F → Option (ClaimEvent Owner HeldOutput)
  | .output _ => none
  | .note ghost => ghost.event?

omit [Scalar F] in
/-- What happens to the claims. -/
def Log.events (log : Log F) : List (ClaimEvent Owner HeldOutput) := log.filterMap Entry.event?

omit [Scalar F] in
/-- The claims that stand after a log that starts without any. -/
def Log.claims (log : Log F) : List (Owner × HeldOutput) := Ledger.claims [] log.events

omit [Scalar F] in
@[simp] theorem events_nil : Log.events ([] : Log F) = [] := rfl

omit [Scalar F] in
@[simp] theorem events_append (left right : Log F) :
    Log.events (left ++ right) = Log.events left ++ Log.events right := List.filterMap_append

omit [Scalar F] in
@[simp] theorem events_output (output : Output F) (log : Log F) :
    Log.events (.output output :: log) = Log.events log := rfl

omit [Scalar F] in
@[simp] theorem events_fire (position : Nat) (log : Log F) :
    Log.events (.note (.fire position) :: log) = Log.events log := rfl

omit [Scalar F] in
@[simp] theorem events_start (binding : Binding) (hold : Option Button) (log : Log F) :
    Log.events (.note (.start binding hold) :: log) = Log.events log := rfl

omit [Scalar F] in
theorem claims_append (left right : Log F) :
    Log.claims (left ++ right) = Ledger.claims left.claims right.events := by
  simp [Log.claims]

omit [Scalar F] in
def Entry.note? : Entry F → Option Note
  | .output _ => none
  | .note ghost => some ghost

omit [Scalar F] in
def Log.notes (log : Log F) : List Note := log.filterMap Entry.note?

omit [Scalar F] in
@[simp] theorem notes_nil : Log.notes ([] : Log F) = [] := rfl

omit [Scalar F] in
@[simp] theorem notes_append (left right : Log F) :
    Log.notes (left ++ right) = Log.notes left ++ Log.notes right := List.filterMap_append

omit [Scalar F] in
@[simp] theorem notes_output (output : Output F) (log : Log F) :
    Log.notes (.output output :: log) = Log.notes log := rfl

omit [Scalar F] in
@[simp] theorem notes_note (note : Note) (log : Log F) :
    Log.notes (.note note :: log) = note :: Log.notes log := rfl

omit [Scalar F] in
/-- What happens to the claims is a matter of the notes. -/
theorem events_eq (log : Log F) : log.events = log.notes.filterMap Note.event? := by
  rw [Log.events, Log.notes, List.filterMap_filterMap]
  congr 1
  funext entry
  cases entry <;> rfl

def Output.stroke? {F : Type} : Output F → Option (HeldOutput × Bool)
  | .key code pressed => some (.key code, pressed)
  | .mouseButton button pressed => some (.mouse button, pressed)
  | .gamepadButton button pressed => some (.gamepad button, pressed)
  | _ => none

omit [Scalar F] in
/-- The presses and releases. -/
def Log.strokes (log : Log F) : List (HeldOutput × Bool) := log.outputs.filterMap Output.stroke?

omit [Scalar F] in
@[simp] theorem stroke?_output (held : HeldOutput) (pressed : Bool) :
    (held.output pressed : Output F).stroke? = some (held, pressed) := by
  cases held <;> rfl

/-- An entry that neither presses, sets an axis, reports a mode, nor says anything about claims. -/
def Entry.isSilent {F : Type} : Entry F → Bool
  | .output (.mouseMotion _ _) | .output (.scroll _ _) | .output (.trackpadHaptic _)
  | .output .keyboardToggle | .note (.fire _) | .note (.start _ _) => true
  | _ => false

omit [Scalar F] in
def Log.Silent (log : Log F) : Prop := ∀ entry ∈ log, entry.isSilent = true

/-! ## Holding outputs -/

def heldNote (owner : Owner) (output : HeldOutput) (active : Bool) : Note :=
  if active then .claim owner output else .unclaim owner output

/-- What holding an output, or letting it go, does to the claims. -/
def heldEvent (owner : Owner) (output : HeldOutput) (active : Bool) :
    ClaimEvent Owner HeldOutput :=
  if active then .claim owner output else .unclaim owner output

/-- The first claim presses, and the last one to go releases. -/
def isEdge (held : IndexMap HeldOutput Nat) (output : HeldOutput) (active : Bool) : Bool :=
  RefCount.count held output = if active then 0 else 1

omit [Scalar F] in
def heldLog (held : IndexMap HeldOutput Nat) (owner : Owner) (output : HeldOutput) (active : Bool) :
    Log F :=
  .note (heldNote owner output active) ::
    if isEdge held output active then [.output (output.output active)] else []

omit [Scalar F] in
@[simp] theorem events_heldLog (held : IndexMap HeldOutput Nat) (owner : Owner) (output : HeldOutput)
    (active : Bool) :
    Log.events (heldLog held owner output active : Log F) = [heldEvent owner output active] := by
  unfold heldLog
  cases active <;> split <;> rfl

omit [Scalar F] in
@[simp] theorem notes_heldLog (held : IndexMap HeldOutput Nat) (owner : Owner) (output : HeldOutput)
    (active : Bool) :
    Log.notes (heldLog held owner output active : Log F) = [heldNote owner output active] := by
  unfold heldLog
  split <;> rfl

omit [Scalar F] in
@[simp] theorem toggles_heldLog (held : IndexMap HeldOutput Nat) (owner : Owner)
    (output : HeldOutput) (active : Bool) :
    Log.toggles (heldLog held owner output active : Log F) = false := by
  unfold heldLog
  split <;> cases output <;> rfl

omit [Scalar F] in
@[simp] theorem outputs_heldLog (held : IndexMap HeldOutput Nat) (owner : Owner)
    (output : HeldOutput) (active : Bool) :
    Log.outputs (heldLog held owner output active : Log F) =
      if isEdge held output active then [output.output active] else [] := by
  unfold heldLog
  split <;> rfl

theorem shiftRemove_absent {held : IndexMap HeldOutput Nat} {output : HeldOutput}
    (absent : held.get? output = none) : held.shiftRemove output = held := by
  have missing : output ∉ held.keys := IndexMap.get?_eq_none_iff.mp absent
  apply IndexMap.ext
  simp only [IndexMap.shiftRemove, List.filter_eq_self, ne_eq, decide_eq_true_eq]
  rintro entry member rfl
  exact missing (List.mem_map_of_mem member)

omit [Scalar F] in
/-- `set_held` counts, when every stored count is positive. -/
theorem setHeld_eq {held : IndexMap HeldOutput Nat} (positive : RefCount.Positive held)
    (owner : Owner) (output : HeldOutput) (active : Bool) :
    (Mapper.setHeld held owner output active : Checked (IndexMap HeldOutput Nat × Log F)) =
      .ok (Ledger.tallyStep held (heldEvent owner output active), heldLog held owner output active) := by
  unfold Mapper.setHeld
  cases found : held.get? output with
  | none =>
    cases active with
    | true =>
      simp [heldEvent, heldLog, heldNote, isEdge, Ledger.tallyStep, RefCount.retain, RefCount.count,
        found]
    | false =>
      simp [heldEvent, heldLog, heldNote, isEdge, Ledger.tallyStep, RefCount.drop, RefCount.count,
        found, shiftRemove_absent found]
  | some count =>
    have := positive output count found
    cases active with
    | true =>
      simp [heldEvent, heldLog, heldNote, isEdge, Ledger.tallyStep, RefCount.retain, RefCount.count,
        found, this.ne']
    | false =>
      obtain ⟨count, rfl⟩ : ∃ smaller, count = smaller + 1 := ⟨count - 1, by omega⟩
      by_cases last : count = 0
      · simp [heldEvent, heldLog, heldNote, isEdge, Ledger.tallyStep, RefCount.drop, RefCount.count,
          found, last]
      · have : ¬count + 1 ≤ 1 := by omega
        simp [heldEvent, heldLog, heldNote, isEdge, Ledger.tallyStep, RefCount.drop, RefCount.count,
          found, last]

/-! ## Releasing everything -/

theorem setGamepadAxis_eq (mapper : Mapper F) (axis : GamepadAxis) (value : F) :
    (mapper.setGamepadAxis axis value).1 =
      { mapper with gamepadAxes := (mapper.setGamepadAxis axis value).1.gamepadAxes } := by
  unfold Mapper.setGamepadAxis
  split <;> rfl

/-- Setting axes changes nothing but the axes. -/
theorem setGamepadAxes_eq (value : GamepadAxis → F) (axes : List GamepadAxis) (mapper : Mapper F) :
    (Mapper.setGamepadAxes value axes mapper).1 =
      { mapper with gamepadAxes := (Mapper.setGamepadAxes value axes mapper).1.gamepadAxes } := by
  induction axes generalizing mapper with
  | nil => rfl
  | cons axis axes inductionHypothesis =>
    rw [Mapper.setGamepadAxes, inductionHypothesis, setGamepadAxis_eq]

theorem releaseOutputs_eq (mapper : Mapper F) :
    mapper.releaseOutputs.1 = { mapper with
      routes := []
      quarantined := {}
      oskActive := {}
      axisActive := List.replicate mapper.axisActive.length false
      held := .empty
      gamepadAxes := mapper.releaseOutputs.1.gamepadAxes } := by
  rw [Mapper.releaseOutputs, setGamepadAxes_eq]

theorem notes_setGamepadAxes (value : GamepadAxis → F) (axes : List GamepadAxis) (mapper : Mapper F) :
    (Mapper.setGamepadAxes value axes mapper).2.notes = [] := by
  induction axes generalizing mapper with
  | nil => rfl
  | cons axis axes inductionHypothesis =>
    have first : (mapper.setGamepadAxis axis (value axis)).2.notes = [] := by
      unfold Mapper.setGamepadAxis
      split <;> rfl
    rw [Mapper.setGamepadAxes, notes_append, first, inductionHypothesis, List.append_nil]

@[simp] theorem notes_releaseOutputs (mapper : Mapper F) : mapper.releaseOutputs.2.notes = [.cancel] := by
  have releases : Log.notes (mapper.held.entries.reverse.map fun entry =>
      (Entry.output (entry.1.output false) : Entry F)) = [] := by
    rw [Log.notes, List.filterMap_eq_nil_iff]
    intro entry member
    obtain ⟨held, _, rfl⟩ := List.mem_map.mp member
    rfl
  rw [Mapper.releaseOutputs, ← List.singleton_append]
  simp only [notes_append, releases, notes_setGamepadAxes, List.append_nil]
  rfl

@[simp] theorem events_releaseOutputs (mapper : Mapper F) :
    mapper.releaseOutputs.2.events = [.cancel] := by
  rw [events_eq, notes_releaseOutputs]
  rfl

/-! ## Moves -/

inductive Move : Mapper F → Log F → Mapper F → Prop where
  /-- Nothing that an output or a claim depends on. -/
  | quiet {before after : Mapper F} {log : Log F} : SameShape before after →
      after.held = before.held → after.gamepadAxes = before.gamepadAxes → log.Silent →
      Move before log after
  | hold {before after : Mapper F} (owner : Owner) (output : HeldOutput) (active : Bool) :
      SameShape before after →
      after.held = Ledger.tallyStep before.held (heldEvent owner output active) →
      after.gamepadAxes = before.gamepadAxes →
      Move before (heldLog before.held owner output active) after
  | axis {before : Mapper F} (axis : GamepadAxis) (value : F) :
      Move before (before.setGamepadAxis axis value).2 (before.setGamepadAxis axis value).1
  | release {before : Mapper F} : Move before before.releaseOutputs.2 before.releaseOutputs.1

abbrev Moves : Mapper F → Log F → Mapper F → Prop := Path Move

theorem Move.sameShape {before after : Mapper F} {log : Log F} (move : Move before log after) :
    SameShape before after := by
  cases move with
  | quiet same => exact same
  | hold _ _ _ same => exact same
  | axis axis value =>
    rw [setGamepadAxis_eq]
    exact ⟨rfl, rfl, rfl, rfl⟩
  | release =>
    rw [releaseOutputs_eq]
    exact ⟨rfl, rfl, rfl, List.length_replicate⟩

/-- The counts follow the claims. -/
theorem Move.held {before after : Mapper F} {log : Log F} (move : Move before log after) :
    after.held = Ledger.tally before.held log.events := by
  cases move with
  | quiet _ held _ silent =>
    have none : log.events = [] := by
      refine List.filterMap_eq_nil_iff.mpr ?_
      intro entry member
      have := silent entry member
      cases entry with
      | output output => rfl
      | note ghost => cases ghost <;> first | rfl | cases this
    rw [none, held, Ledger.tally_nil]
  | hold owner output active _ held =>
    rw [held, events_heldLog]
    rfl
  | axis axis value =>
    have none : (before.setGamepadAxis axis value).2.events = [] := by
      unfold Mapper.setGamepadAxis
      split <;> rfl
    rw [none, setGamepadAxis_eq, Ledger.tally_nil]
  | release =>
    rw [events_releaseOutputs, releaseOutputs_eq]
    rfl

theorem Move.wf {before after : Mapper F} {log : Log F} (move : Move before log after)
    (wf : before.Wf) : after.Wf := by
  refine wf.sameShape move.sameShape ?_
  rw [move.held]
  exact Ledger.positive_tally wf.held log.events

theorem Moves.wf {before after : Mapper F} {log : Log F} (moves : Moves before log after)
    (wf : before.Wf) : after.Wf := moves.invariant Mapper.Wf Move.wf wf

omit [Scalar F] in
theorem SameShape.refl (mapper : Mapper F) : SameShape mapper mapper := ⟨rfl, rfl, rfl, rfl⟩

omit [Scalar F] in
theorem SameShape.trans {first second third : Mapper F} (early : SameShape first second)
    (late : SameShape second third) : SameShape first third :=
  ⟨late.config.trans early.config, late.activeMode.trans early.activeMode,
    late.global.trans early.global, late.axisActive.trans early.axisActive⟩

theorem Moves.sameShape {before after : Mapper F} {log : Log F} (moves : Moves before log after) :
    SameShape before after := by
  refine moves.invariant (SameShape before) ?_ (.refl before)
  intro state labels next move same
  exact same.trans move.sameShape

theorem Moves.held {before after : Mapper F} {log : Log F} (moves : Moves before log after) :
    after.held = Ledger.tally before.held log.events := by
  induction moves with
  | refl => rfl
  | snoc _ move inductionHypothesis =>
    rw [move.held, inductionHypothesis, events_append, Ledger.tally_append]

/-- A move without any effect on the log. -/
theorem Moves.unlogged {before after : Mapper F} (same : SameShape before after)
    (held : after.held = before.held) (axes : after.gamepadAxes = before.gamepadAxes) :
    Moves before [] after := by
  refine Path.single (.quiet same held axes ?_)
  intro entry member
  cases member

/-! ## Mode changes -/

/-- Everything is released, the flags are reset, and the new mode is reported. -/
structure Changed (before : Mapper F) (log : Log F) (after : Mapper F) : Prop where
  config : after.config.WellFormed
  activeMode : after.activeMode.index < after.config.modes.length
  global : after.global = List.replicate after.config.globalBindings.length {}
  axisActive : ∀ mode, after.mode = .ok mode → after.axisActive.length = mode.axes.length
  held : after.held = .empty
  gamepadAxes : after.gamepadAxes = before.releaseOutputs.1.gamepadAxes
  routes : after.routes = []
  oskActive : after.oskActive = {}
  quarantined : after.quarantined = {}
  previous : after.previous = before.previous
  log : ∃ name haptic,
    log = before.releaseOutputs.2 ++ [.output (.modeChanged name haptic)]

omit [Scalar F] in
/-- What `reset_runtime` resets. -/
theorem resetRuntime_ok [Scalar F] {mapper next : Mapper F} (resets : mapper.resetRuntime = .ok next) :
    ∃ mode, mapper.mode = .ok mode ∧ next = { mapper with
      global := List.replicate mapper.config.globalBindings.length {}
      axisActive := List.replicate mode.axes.length false
      trackpadHaptics := fun _ => .default } := by
  obtain ⟨mode, found, done⟩ := bind_ok resets
  cases done
  exact ⟨mode, found, rfl⟩

theorem Changed.wf {before after : Mapper F} {log : Log F} (changed : Changed before log after) :
    after.Wf where
  config := changed.config
  activeMode := changed.activeMode
  global := by rw [changed.global, List.length_replicate]
  axisActive := changed.axisActive
  held := by
    rw [changed.held]
    exact RefCount.positive_empty

theorem Changed.notes {before after : Mapper F} {log : Log F} (changed : Changed before log after) :
    log.notes = [.cancel] := by
  obtain ⟨name, haptic, rfl⟩ := changed.log
  rw [notes_append, notes_releaseOutputs]
  rfl

theorem Changed.events {before after : Mapper F} {log : Log F} (changed : Changed before log after) :
    log.events = [.cancel] := by
  rw [events_eq, changed.notes]
  rfl

/-- Entering a mode of a configuration after everything is released. -/
theorem changed_of_reset {mapper next : Mapper F} {config : Config F} {mode : ModeId}
    {changed : Output F} (wellFormed : config.WellFormed) (lt : mode.index < config.modes.length)
    (resets : Mapper.resetRuntime { mapper.releaseOutputs.1 with
      activeMode := mode, config := config } = .ok next)
    (changes : next.modeChanged = .ok changed) :
    Changed mapper (mapper.releaseOutputs.2 ++ [.output changed]) next ∧ next.activeMode = mode ∧
      next.config = config := by
  obtain ⟨found, foundMode, rfl⟩ := resetRuntime_ok resets
  obtain ⟨name, _, done⟩ := bind_ok changes
  cases done
  rw [releaseOutputs_eq] at foundMode ⊢
  refine ⟨⟨wellFormed, lt, rfl, ?_, rfl, rfl, rfl, rfl, rfl, rfl, _, _, rfl⟩, rfl, rfl⟩
  intro other otherMode
  have same : other = found := Except.ok.inj (otherMode.symm.trans foundMode)
  rw [same, List.length_replicate]

theorem changed_of_switch {mapper next : Mapper F} {mode : ModeId} {log : Log F} (wf : mapper.Wf)
    (lt : mode.index < mapper.config.modes.length)
    (switched : mapper.switchMode mode = .ok (next, log)) :
    (mapper.activeMode = mode ∧ next = mapper ∧ log = []) ∨
      (mapper.activeMode ≠ mode ∧ Changed mapper log next ∧ next.activeMode = mode ∧
        next.config = mapper.config) := by
  rcases switchMode_cases switched with same | ⟨differs, changed, resets, changes, rfl⟩
  · exact .inl same
  · have released : mapper.releaseOutputs.1.config = mapper.config := by rw [releaseOutputs_eq]
    refine .inr ⟨differs, changed_of_reset wf.config lt ?_ changes⟩
    rw [← resets]
    simp only [← released]

omit [Scalar F] in
/-- The mode a reload enters: the one with the old name, or the default. -/
theorem reloadMode_lt {config : Config F} (wellFormed : config.WellFormed) (name : String) :
    ((config.modeId name).getD config.defaultMode).index < config.modes.length := by
  cases found : config.modeId name with
  | none => exact wellFormed.default
  | some mode => exact wellFormed.ids name mode found

theorem changed_of_reload {mapper next : Mapper F} {config : Config F} {log : Log F}
    (wellFormed : config.WellFormed) (reloaded : mapper.reload config = .ok (next, log)) :
    Changed mapper log next ∧ next.config = config := by
  obtain ⟨name, changed, _, resets, changes, rfl⟩ := reload_cases reloaded
  have result := changed_of_reset wellFormed (reloadMode_lt wellFormed name) resets changes
  exact ⟨result.1, result.2.2⟩

/-! ## No operation stops -/

theorem resetRuntime_returns {mapper : Mapper F}
    (lt : mapper.activeMode.index < mapper.config.modes.length) :
    ∃ next, mapper.resetRuntime = .ok next := by
  obtain ⟨mode, found⟩ := mode_of_lt lt
  exact ⟨_, by rw [Mapper.resetRuntime, Mapper.mode, found]; rfl⟩

theorem enter_returns {mapper : Mapper F} {config : Config F} {mode : ModeId}
    (wellFormed : config.WellFormed) (lt : mode.index < config.modes.length) :
    ∃ next changed, Mapper.resetRuntime { mapper with activeMode := mode, config := config } = .ok next ∧
      next.modeChanged = .ok changed := by
  obtain ⟨next, resets⟩ :=
    @resetRuntime_returns F _ { mapper with activeMode := mode, config := config } lt
  obtain ⟨name, named⟩ := modeName_of_lt wellFormed lt
  obtain ⟨found, _, rfl⟩ := resetRuntime_ok resets
  exact ⟨_, _, resets, by simp only [Mapper.modeChanged, named]; rfl⟩

theorem switchMode_returns {mapper : Mapper F} (wf : mapper.Wf) {mode : ModeId}
    (lt : mode.index < mapper.config.modes.length) :
    ∃ result, mapper.switchMode mode = .ok result := by
  unfold Mapper.switchMode
  split
  · exact ⟨_, rfl⟩
  · obtain ⟨next, changed, resets, changes⟩ :=
      @enter_returns F _ mapper.releaseOutputs.1 mapper.config mode wf.config lt
    have released : mapper.releaseOutputs.1.config = mapper.config := by rw [releaseOutputs_eq]
    simp only [← released] at resets
    exact ⟨_, by simp only [resets, changes, ok_bind]; rfl⟩

theorem reload_returns {mapper : Mapper F} (wf : mapper.Wf) {config : Config F}
    (wellFormed : config.WellFormed) : ∃ result, mapper.reload config = .ok result := by
  obtain ⟨name, named⟩ := modeName_of_lt wf.config wf.activeMode
  obtain ⟨next, changed, resets, changes⟩ :=
    @enter_returns F _ mapper.releaseOutputs.1 config _ wellFormed (reloadMode_lt wellFormed name)
  refine ⟨(next, mapper.releaseOutputs.2 ++ [.output changed]), ?_⟩
  simp only [Mapper.reload, Mapper.activeModeName, named, ok_bind, resets, changes]
  rfl

end

end Scd.Daemon
