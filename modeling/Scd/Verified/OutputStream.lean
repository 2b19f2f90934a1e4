import Scd.Verified.MapperSafety

/-! # The stream of outputs

What can be read off the outputs that the mapper has pushed so far: presses and releases
alternate, the outputs that are down are those that `held` counts, the last value of each
axis is the one that is cached, and at a mode change everything is released.
-/

namespace Scd.Daemon

open Scd.Core Scd.Foundation

section

variable {F : Type} [Scalar F]

/-! ## Reading the stream -/

def Output.axisValue? {F : Type} (axis : GamepadAxis) : Output F → Option F
  | .gamepadAxis changed value => if changed = axis then some value else none
  | _ => none

/-- The last value of an axis, zero when there is none. -/
def Log.axis (log : Log F) (axis : GamepadAxis) : F :=
  ((log.outputs.filterMap (Output.axisValue? axis)).getLast?).getD 0.0

def Output.isModeChange {F : Type} : Output F → Bool
  | .modeChanged _ _ => true
  | _ => false

/-- The log reports a mode change. -/
def Log.changesMode (log : Log F) : Bool := log.outputs.any Output.isModeChange

omit [Scalar F] in
@[simp] theorem logStrokes_append (left right : Log F) :
    Log.strokes (left ++ right) = left.strokes ++ right.strokes := by
  simp [Log.strokes]

omit [Scalar F] in
@[simp] theorem changesMode_append (left right : Log F) :
    Log.changesMode (left ++ right) = (left.changesMode || right.changesMode) := by
  simp [Log.changesMode]

/-- The log leaves an axis alone. -/
theorem axis_append_of_none {past more : Log F} {axis : GamepadAxis}
    (none : more.outputs.filterMap (Output.axisValue? axis) = []) :
    Log.axis (past ++ more) axis = past.axis axis := by
  simp [Log.axis, none]

/-! ## The invariant -/

structure OutputStream (past : Log F) (mapper : Mapper F) : Prop where
  positive : RefCount.Positive mapper.held
  alternates : Alternates past.strokes
  down : ∀ output, isDown past.strokes output = decide (0 < RefCount.count mapper.held output)
  axes : ∀ axis, past.axis axis = mapper.gamepadAxes axis
  modes : ∀ (before : Log F) name haptic after,
    past = before ++ .output (.modeChanged name haptic) :: after →
      (∀ output, isDown before.strokes output = false) ∧ ∀ axis, (before.axis axis == 0.0) = true

omit [Scalar F] in
theorem changesMode_of_mem {log : Log F} {name : String} {haptic : Option Haptic}
    (member : .output (.modeChanged name haptic) ∈ log) : log.changesMode = true := by
  refine List.any_eq_true.mpr ⟨.modeChanged name haptic, ?_, rfl⟩
  exact List.mem_filterMap.mpr ⟨_, member, rfl⟩

/-- A piece of a log without a mode change adds no point where one must be looked at. -/
theorem OutputStream.modes_append {past more : Log F} {mapper : Mapper F} (stream : OutputStream past mapper)
    (unchanged : more.changesMode = false) :
    ∀ (before : Log F) name haptic after,
      past ++ more = before ++ .output (.modeChanged name haptic) :: after →
        (∀ output, isDown before.strokes output = false) ∧
          ∀ axis, (before.axis axis == 0.0) = true := by
  intro before name haptic after split
  rcases split_append split with ⟨rest, old⟩ | ⟨mid, _, new⟩
  · exact stream.modes before name haptic rest old
  · have member : .output (.modeChanged name haptic) ∈ more := by simp [new]
    rw [changesMode_of_mem member] at unchanged
    cases unchanged

/-! ## Single moves -/

omit [Scalar F] in
theorem Log.Silent.stream {log : Log F} (silent : log.Silent) :
    log.strokes = [] ∧ (∀ axis, log.outputs.filterMap (Output.axisValue? axis) = []) ∧
      log.changesMode = false := by
  have each : ∀ output ∈ log.outputs, output.stroke? = none ∧
      (∀ axis, output.axisValue? axis = none) ∧ output.isModeChange = false := by
    intro output member
    obtain ⟨entry, found, isOutput⟩ := List.mem_filterMap.mp member
    have := silent entry found
    cases entry with
    | note ghost => cases isOutput
    | output pushed =>
      cases isOutput
      cases output <;> first | exact ⟨rfl, fun _ => rfl, rfl⟩ | cases this
  refine ⟨?_, ?_, ?_⟩
  · exact List.filterMap_eq_nil_iff.mpr fun output member => (each output member).1
  · exact fun axis => List.filterMap_eq_nil_iff.mpr fun output member => (each output member).2.1 axis
  · exact List.any_eq_false.mpr fun output member => by simp [(each output member).2.2]

omit [Scalar F] in
theorem heldLog_stream (held : IndexMap HeldOutput Nat) (owner : Owner) (output : HeldOutput)
    (active : Bool) :
    (heldLog held owner output active : Log F).strokes =
        (if isEdge held output active then [(output, active)] else []) ∧
      (∀ axis, (heldLog held owner output active : Log F).outputs.filterMap
        (Output.axisValue? axis) = []) ∧
      (heldLog held owner output active : Log F).changesMode = false := by
  simp only [Log.strokes, Log.changesMode, outputs_heldLog]
  split
  · cases output <;> exact ⟨rfl, fun _ => rfl, rfl⟩
  · exact ⟨rfl, fun _ => rfl, rfl⟩

/-- Presses and releases that leave the axes and the mode alone. -/
theorem OutputStream.append {past more : Log F} {before after : Mapper F}
    (stream : OutputStream past before) (positive : RefCount.Positive after.held)
    (alternates : Alternates (past.strokes ++ more.strokes))
    (down : ∀ output, isDown (past.strokes ++ more.strokes) output =
      decide (0 < RefCount.count after.held output))
    (axes : ∀ axis, Log.axis (past ++ more) axis = after.gamepadAxes axis)
    (unchanged : more.changesMode = false) : OutputStream (past ++ more) after where
  positive := positive
  alternates := by rwa [logStrokes_append]
  down := by
    intro output
    rw [logStrokes_append, down]
  axes := axes
  modes := stream.modes_append unchanged

/-- The log presses and releases nothing. -/
theorem OutputStream.still {past more : Log F} {before after : Mapper F}
    (stream : OutputStream past before) (held : after.held = before.held)
    (strokes : more.strokes = []) (axes : ∀ axis, Log.axis (past ++ more) axis = after.gamepadAxes axis)
    (unchanged : more.changesMode = false) : OutputStream (past ++ more) after := by
  refine stream.append (held ▸ stream.positive) ?_ ?_ axes unchanged
  · rw [strokes, List.append_nil]
    exact stream.alternates
  · intro output
    rw [strokes, List.append_nil, held]
    exact stream.down output

theorem OutputStream.quiet {past log : Log F} {before after : Mapper F}
    (stream : OutputStream past before) (held : after.held = before.held)
    (axes : after.gamepadAxes = before.gamepadAxes) (silent : log.Silent) :
    OutputStream (past ++ log) after := by
  obtain ⟨strokes, unset, unchanged⟩ := silent.stream
  refine stream.still held strokes (fun axis => ?_) unchanged
  rw [axis_append_of_none (unset axis), axes]
  exact stream.axes axis

omit [Scalar F] in
/-- Whether an output is down after it was claimed or given back. -/
theorem down_after (held : IndexMap HeldOutput Nat) (owner : Owner) (output other : HeldOutput)
    (active : Bool) (log : List (HeldOutput × Bool))
    (down : isDown log other = decide (0 < RefCount.count held other)) :
    isDown (log ++ if isEdge held output active then [(output, active)] else []) other =
      decide (0 < RefCount.count (Ledger.tallyStep held (heldEvent owner output active)) other) := by
  have counts : RefCount.count (Ledger.tallyStep held (heldEvent owner output active)) other =
      if other = output then
        if active then RefCount.count held output + 1 else RefCount.count held output - 1
      else RefCount.count held other := by
    cases active with
    | true =>
      show RefCount.count (RefCount.retain held output) other = _
      rw [RefCount.count_retain]
      by_cases same : other = output <;> simp [same]
    | false =>
      show RefCount.count (RefCount.drop held output) other = _
      rw [RefCount.count_drop]
      by_cases same : other = output <;> simp [same]
  rw [counts]
  by_cases same : other = output
  · subst same
    cases edge : isEdge held other active with
    | true =>
      rw [if_pos rfl, isDown_snoc, if_pos rfl, if_pos rfl]
      cases active <;> simp_all [isEdge]
    | false =>
      rw [if_neg Bool.false_ne_true, List.append_nil, down, if_pos rfl]
      cases active with
      | true =>
        simp only [isEdge, if_true, decide_eq_false_iff_not] at edge
        simp only [if_true, decide_eq_decide]
        omega
      | false =>
        simp only [isEdge, Bool.false_eq_true, if_false, decide_eq_false_iff_not] at edge
        simp only [Bool.false_eq_true, if_false, decide_eq_decide]
        omega
  · rw [if_neg same, ← down]
    split
    · rw [isDown_snoc, if_neg (Ne.symm same)]
    · rw [List.append_nil]

/-- The first claim presses an output that is up, and the last one to go releases one that
    is down. -/
theorem OutputStream.hold {past : Log F} {before after : Mapper F} (owner : Owner)
    (output : HeldOutput) (active : Bool) (stream : OutputStream past before)
    (held : after.held = Ledger.tallyStep before.held (heldEvent owner output active))
    (axes : after.gamepadAxes = before.gamepadAxes) :
    OutputStream (past ++ heldLog before.held owner output active) after := by
  obtain ⟨strokes, unset, unchanged⟩ := @heldLog_stream F before.held owner output active
  have positive : RefCount.Positive after.held := by
    rw [held]
    exact Ledger.positive_tally stream.positive [heldEvent owner output active]
  have down := stream.down
  refine stream.append positive ?_ ?_ ?_ unchanged
  · rw [strokes]
    split
    · next edge =>
      refine stream.alternates.snoc ?_
      rw [down]
      unfold isEdge at edge
      cases active <;> simp_all
    · rw [List.append_nil]
      exact stream.alternates
  · intro other
    rw [strokes, held]
    exact down_after before.held owner output other active past.strokes (down other)
  · intro axis
    rw [axis_append_of_none (unset axis), axes]
    exact stream.axes axis

/-! ## Axes -/

theorem setGamepadAxis_log (mapper : Mapper F) (axis : GamepadAxis) (value : F) :
    (mapper.setGamepadAxis axis value).2.strokes = [] ∧
      (mapper.setGamepadAxis axis value).2.changesMode = false := by
  unfold Mapper.setGamepadAxis
  split <;> exact ⟨rfl, rfl⟩

theorem setGamepadAxes_log (value : GamepadAxis → F) (set : List GamepadAxis) (mapper : Mapper F) :
    (Mapper.setGamepadAxes value set mapper).2.strokes = [] ∧
      (Mapper.setGamepadAxes value set mapper).2.changesMode = false := by
  induction set generalizing mapper with
  | nil => exact ⟨rfl, rfl⟩
  | cons first rest inductionHypothesis =>
    obtain ⟨strokes, unchanged⟩ := setGamepadAxis_log mapper first (value first)
    obtain ⟨restStrokes, restUnchanged⟩ :=
      inductionHypothesis (mapper.setGamepadAxis first (value first)).1
    constructor
    · rw [Mapper.setGamepadAxes, logStrokes_append, strokes, restStrokes, List.append_nil]
    · rw [Mapper.setGamepadAxes, changesMode_append, unchanged, restUnchanged, Bool.or_false]

/-- Setting an axis keeps the last value in step with the cached one. -/
theorem setGamepadAxis_axes {past : Log F} {mapper : Mapper F} (axis : GamepadAxis) (value : F)
    (axes : ∀ axis, past.axis axis = mapper.gamepadAxes axis) (other : GamepadAxis) :
    Log.axis (past ++ (mapper.setGamepadAxis axis value).2) other =
      (mapper.setGamepadAxis axis value).1.gamepadAxes other := by
  unfold Mapper.setGamepadAxis
  split
  · rw [List.append_nil, axes]
  · by_cases same : axis = other
    · subst same
      simp [Log.axis, Output.axisValue?]
    · have none : (Log.outputs [.output (.gamepadAxis axis value)]).filterMap
          (Output.axisValue? other) = [] := by
        simp [Output.axisValue?, same]
      rw [axis_append_of_none none, axes]
      exact (Function.update_of_ne (Ne.symm same) value mapper.gamepadAxes).symm

theorem setGamepadAxes_axes {value : GamepadAxis → F} {set : List GamepadAxis} {past : Log F}
    {mapper : Mapper F} (axes : ∀ axis, past.axis axis = mapper.gamepadAxes axis)
    (axis : GamepadAxis) :
    Log.axis (past ++ (Mapper.setGamepadAxes value set mapper).2) axis =
      (Mapper.setGamepadAxes value set mapper).1.gamepadAxes axis := by
  induction set generalizing past mapper with
  | nil => rw [Mapper.setGamepadAxes, List.append_nil, axes]
  | cons first rest inductionHypothesis =>
    rw [Mapper.setGamepadAxes, ← List.append_assoc]
    exact inductionHypothesis (setGamepadAxis_axes first (value first) axes)

/-- Every axis that is set has the value afterwards, as `==` compares it. -/
theorem setGamepadAxes_value (value : GamepadAxis → F) (reflexive : ∀ axis, (value axis == value axis) = true)
    {axis : GamepadAxis} {set : List GamepadAxis} {mapper : Mapper F}
    (set_or : axis ∈ set ∨ (mapper.gamepadAxes axis == value axis) = true) :
    ((Mapper.setGamepadAxes value set mapper).1.gamepadAxes axis == value axis) = true := by
  induction set generalizing mapper with
  | nil => simpa [Mapper.setGamepadAxes] using set_or
  | cons first rest inductionHypothesis =>
    rw [Mapper.setGamepadAxes]
    apply inductionHypothesis
    unfold Mapper.setGamepadAxis
    split
    · next equal =>
      rcases set_or with member | done
      · rcases List.mem_cons.mp member with rfl | later
        · exact .inr equal
        · exact .inl later
      · exact .inr done
    · by_cases same : axis = first
      · subst same
        exact .inr (by simpa using reflexive axis)
      · rcases set_or with member | done
        · exact .inl ((List.mem_cons.mp member).resolve_left same)
        · exact .inr (by simpa [Function.update_of_ne same] using done)

/-! ## Releasing everything -/

omit [Scalar F] in
/-- The releases of a list of outputs. -/
theorem releases_stream (outputs : List HeldOutput) :
    Log.strokes (outputs.map fun output => (Entry.output (output.output false) : Entry F)) =
        outputs.map (fun output => (output, false)) ∧
      (∀ axis, (Log.outputs (outputs.map fun output =>
        (Entry.output (output.output false) : Entry F))).filterMap (Output.axisValue? axis) = []) ∧
      Log.changesMode (outputs.map fun output =>
        (Entry.output (output.output false) : Entry F)) = false := by
  induction outputs with
  | nil => exact ⟨rfl, fun _ => rfl, rfl⟩
  | cons output outputs inductionHypothesis =>
    obtain ⟨strokes, unset, unchanged⟩ := inductionHypothesis
    simp only [Log.strokes, Log.changesMode] at strokes unchanged ⊢
    refine ⟨?_, ?_, ?_⟩
    · simp [strokes]
    · intro axis
      cases output <;> simpa [HeldOutput.output, Output.axisValue?] using unset axis
    · cases output <;> simpa [HeldOutput.output, Output.isModeChange] using unchanged

/-- The log of a release: the outputs that are held, in the reverse order of their presses,
    and then the axes. -/
theorem releaseOutputs_log (mapper : Mapper F) :
    ∃ cleared : Mapper F, cleared.gamepadAxes = mapper.gamepadAxes ∧
      mapper.releaseOutputs.2 = [.note .cancel] ++
        ((mapper.held.keys.reverse.map fun output => .output (output.output false)) ++
          (Mapper.setGamepadAxes (fun _ => 0.0) GamepadAxis.all cleared).2) ∧
      mapper.releaseOutputs.1.gamepadAxes =
        (Mapper.setGamepadAxes (fun _ => 0.0) GamepadAxis.all cleared).1.gamepadAxes := by
  refine ⟨{ mapper with
    routes := []
    quarantined := {}
    oskActive := {}
    axisActive := List.replicate mapper.axisActive.length false
    held := .empty }, rfl, ?_, rfl⟩
  rw [IndexMap.keys, ← List.map_reverse, List.map_map]
  rfl

theorem releaseOutputs_changesMode (mapper : Mapper F) :
    mapper.releaseOutputs.2.changesMode = false := by
  obtain ⟨cleared, _, log, _⟩ := releaseOutputs_log mapper
  obtain ⟨_, _, releases⟩ := @releases_stream F mapper.held.keys.reverse
  rw [log, changesMode_append, changesMode_append, releases,
    (setGamepadAxes_log (fun _ => 0.0) GamepadAxis.all cleared).2]
  rfl

/-- Everything is up after a release, and every axis is zero. -/
theorem OutputStream.release {past : Log F} {mapper : Mapper F} (stream : OutputStream past mapper) :
    OutputStream (past ++ mapper.releaseOutputs.2) mapper.releaseOutputs.1 ∧
      ∀ axis, (mapper.releaseOutputs.1.gamepadAxes axis == 0.0) = true := by
  obtain ⟨cleared, sameAxes, log, axes⟩ := releaseOutputs_log mapper
  obtain ⟨strokes, unset, _⟩ := @releases_stream F mapper.held.keys.reverse
  have nodup : mapper.held.keys.reverse.Nodup := List.nodup_reverse.mpr mapper.held.keys_nodup
  have heldDown : ∀ output ∈ mapper.held.keys.reverse, isDown past.strokes output = true := by
    intro output member
    rw [stream.down, decide_eq_true_eq, ← RefCount.mem_keys_iff stream.positive]
    exact List.mem_reverse.mp member
  obtain ⟨alternates, down⟩ := stream.alternates.releases nodup heldDown
  -- up to the axes
  have untouched : ∀ axis, Log.axis (past ++ ([.note .cancel] ++ mapper.held.keys.reverse.map
      fun output => .output (output.output false))) axis = cleared.gamepadAxes axis := by
    intro axis
    rw [axis_append_of_none, stream.axes, sameAxes]
    rw [outputs_append, List.filterMap_append, unset axis]
    rfl
  have finalAxes := @setGamepadAxes_axes F _ (fun _ => 0.0) GamepadAxis.all _ _ untouched
  obtain ⟨noStrokes, _⟩ := setGamepadAxes_log (fun _ => 0.0) GamepadAxis.all cleared
  have released : Log.strokes mapper.releaseOutputs.2 =
      mapper.held.keys.reverse.map fun output => (output, false) := by
    rw [log, logStrokes_append, logStrokes_append, strokes, noStrokes, List.append_nil]
    rfl
  have empty : mapper.releaseOutputs.1.held = .empty := by rw [releaseOutputs_eq]
  refine ⟨stream.append ?_ ?_ ?_ ?_ ?_, ?_⟩
  · rw [empty]
    exact RefCount.positive_empty
  · rw [released]
    exact alternates
  · intro output
    rw [released, down, empty, RefCount.count_empty, stream.down]
    simp only [List.mem_reverse, RefCount.mem_keys_iff stream.positive, Nat.lt_irrefl]
    cases RefCount.count mapper.held output <;> rfl
  · intro axis
    rw [axes, ← finalAxes, log, List.append_assoc, List.append_assoc]
  · exact releaseOutputs_changesMode mapper
  · intro axis
    rw [axes]
    refine setGamepadAxes_value (fun _ => 0.0) (fun _ => Scalar.zero_beq_zero) (.inl ?_)
    cases axis <;> decide

/-! ## Calls -/

theorem Move.stream {past log : Log F} {before after : Mapper F} (move : Move before log after)
    (stream : OutputStream past before) : OutputStream (past ++ log) after := by
  cases move with
  | quiet _ held axes silent => exact stream.quiet held axes silent
  | hold owner output active _ held axes => exact stream.hold owner output active held axes
  | axis axis value =>
    have axes := setGamepadAxis_axes axis value stream.axes
    obtain ⟨strokes, unchanged⟩ := setGamepadAxis_log before axis value
    have held : (before.setGamepadAxis axis value).1.held = before.held := by rw [setGamepadAxis_eq]
    exact stream.still held strokes axes unchanged
  | release => exact stream.release.1

theorem Move.changesMode {log : Log F} {before after : Mapper F} (move : Move before log after) :
    log.changesMode = false := by
  cases move with
  | quiet _ _ _ silent => exact silent.stream.2.2
  | hold owner output active => exact (heldLog_stream before.held owner output active).2.2
  | axis axis value => exact (setGamepadAxis_log before axis value).2
  | release => exact releaseOutputs_changesMode before

theorem Moves.stream {past log : Log F} {before after : Mapper F} (moves : Moves before log after)
    (stream : OutputStream past before) : OutputStream (past ++ log) after :=
  moves.history OutputStream Move.stream stream

/-- The mode is reported when everything is released and every axis is zero. -/
theorem Changed.stream {past log : Log F} {before after : Mapper F}
    (changed : Changed before log after) (stream : OutputStream past before) :
    OutputStream (past ++ log) after := by
  obtain ⟨released, zero⟩ := stream.release
  obtain ⟨name, haptic, rfl⟩ := changed.log
  have empty : before.releaseOutputs.1.held = .empty := by rw [releaseOutputs_eq]
  have up : ∀ output, isDown (Log.strokes (past ++ before.releaseOutputs.2)) output = false := by
    intro output
    rw [released.down, empty]
    rfl
  have noStrokes : Log.strokes ([.output (.modeChanged name haptic)] : Log F) = [] := rfl
  rw [← List.append_assoc]
  constructor
  case positive =>
    rw [changed.held]
    exact RefCount.positive_empty
  case alternates =>
    rw [logStrokes_append, noStrokes, List.append_nil]
    exact released.alternates
  case down =>
    intro output
    rw [changed.held, logStrokes_append, noStrokes, List.append_nil]
    exact up output
  case axes =>
    intro axis
    rw [axis_append_of_none (by simp [Output.axisValue?]), released.axes, changed.gamepadAxes]
  case modes =>
    intro first name' haptic' rest split
    rcases split_append split with ⟨more, old⟩ | ⟨mid, equal, new⟩
    · exact released.modes first name' haptic' more old
    · -- the entry that has just been pushed
      cases mid with
      | nil =>
        rw [List.append_nil] at equal
        subst equal
        refine ⟨up, ?_⟩
        intro axis
        rw [released.axes]
        exact zero axis
      | cons entry mid => simp at new

theorem Steps.stream {past log : Log F} {before after : Mapper F} (steps : Steps before log after)
    (stream : OutputStream past before) : OutputStream (past ++ log) after := by
  cases steps with
  | moves moves => exact Moves.stream moves stream
  | changes moves changed =>
    rw [← List.append_assoc]
    exact changed.stream (Moves.stream moves stream)

theorem Moves.changesMode {log : Log F} {before after : Mapper F} (moves : Moves before log after) :
    log.changesMode = false := by
  induction moves with
  | refl => rfl
  | snoc _ move inductionHypothesis =>
    rw [changesMode_append, inductionHypothesis, move.changesMode, Bool.or_false]

omit [Scalar F] in
theorem not_mem_of_changesMode {log : Log F} (unchanged : log.changesMode = false) (name : String)
    (haptic : Option Haptic) : Output.modeChanged name haptic ∉ log.outputs := by
  intro member
  have := List.any_eq_false.mp unchanged _ member
  exact this rfl

/-- A mode change is the last output of its call. -/
theorem Steps.mode_last {log : Log F} {before after : Mapper F} (steps : Steps before log after)
    {first rest : List (Output F)} {name : String} {haptic : Option Haptic}
    (split : log.outputs = first ++ .modeChanged name haptic :: rest) : rest = [] := by
  cases steps with
  | moves moves =>
    have member : Output.modeChanged name haptic ∈ log.outputs := by simp [split]
    exact absurd member (not_mem_of_changesMode (Moves.changesMode moves) name haptic)
  | @changes early late mid _ moves changed =>
    obtain ⟨newName, newHaptic, rfl⟩ := changed.log
    have unchanged : Log.changesMode (early ++ mid.releaseOutputs.2) = false := by
      rw [changesMode_append, Moves.changesMode moves, releaseOutputs_changesMode]
      rfl
    rw [← List.append_assoc, outputs_append] at split
    rcases split_append split with ⟨more, old⟩ | ⟨middle, _, new⟩
    · have member : Output.modeChanged name haptic ∈ Log.outputs (early ++ mid.releaseOutputs.2) := by
        simp [old]
      exact absurd member (not_mem_of_changesMode unchanged name haptic)
    · cases middle with
      | nil =>
        simp only [outputs_output, outputs_nil, List.nil_append, List.cons.injEq] at new
        exact new.2.symm
      | cons output middle => simp at new

variable [Platform F]

theorem performAll_stream {mapper final : Mapper F} {logs : List (Log F)}
    {operations : List (Operation F)} (wf : mapper.Wf)
    (accepts : ∀ config, .reload config ∈ operations → config.Accepted)
    (stream : OutputStream [] mapper) (performed : mapper.performAll operations = .ok (final, logs)) :
    OutputStream logs.flatten final ∧
      ∀ log ∈ logs, ∀ first name haptic rest,
        log.outputs = first ++ .modeChanged name haptic :: rest → rest = [] := by
  refine performAll_ok (fun logs mapper => OutputStream logs.flatten mapper ∧
    ∀ log ∈ logs, ∀ first name haptic rest,
      log.outputs = first ++ .modeChanged name haptic :: rest → rest = []) wf accepts performed
    ⟨stream, by simp⟩ ?_
  rintro past operation state log next stateWf accepted once ⟨pastStream, pastLast⟩
  have steps := (perform_steps stateWf operation accepted).of_ok once
  refine ⟨?_, ?_⟩
  · rw [List.flatten_append, List.flatten_singleton]
    exact steps.stream pastStream
  · intro other member
    rcases List.mem_append.mp member with old | new
    · exact pastLast other old
    · obtain rfl := List.mem_singleton.mp new
      exact fun first name haptic rest split => steps.mode_last split

omit [Platform F] in
theorem new_stream {config : Config F} {mapper : Mapper F} (news : Mapper.new config = .ok mapper) :
    OutputStream [] mapper := by
  obtain ⟨mode, _, done⟩ := bind_ok news
  cases done
  refine ⟨RefCount.positive_empty, alternates_nil, fun _ => rfl, fun _ => rfl, ?_⟩
  intro before name haptic after split
  simp at split

/-- After any sequence of calls: presses and releases alternate in the outputs of all calls;
    the outputs that are down are the keys of `held`; the last value of each axis is the
    cached one; and where a mode is reported, which is the end of its call, everything is
    up and every axis is zero. -/
theorem outputs_match_state {config : Config F} (accepted : config.Accepted)
    {operations : List (Operation F)}
    (accepts : ∀ config, .reload config ∈ operations → config.Accepted)
    {start final : Mapper F} {logs : List (Log F)} (news : Mapper.new config = .ok start)
    (performed : start.performAll operations = .ok (final, logs)) :
    Alternates (Log.strokes logs.flatten) ∧
    (∀ output, isDown (Log.strokes logs.flatten) output = true ↔ output ∈ final.held.keys) ∧
    (∀ output count, final.held.get? output = some count → 1 ≤ count) ∧
    (∀ axis, Log.axis logs.flatten axis = final.gamepadAxes axis) ∧
    (∀ (before : Log F) name haptic after,
      logs.flatten = before ++ .output (.modeChanged name haptic) :: after →
        (∀ output, isDown before.strokes output = false) ∧
          ∀ axis, (before.axis axis == 0.0) = true) ∧
    (∀ log ∈ logs, ∀ first name haptic rest,
      log.outputs = first ++ .modeChanged name haptic :: rest → rest = []) := by
  obtain ⟨mapper, newMapper, wf⟩ := new_wf accepted.wellFormed
  cases news.symm.trans newMapper
  obtain ⟨stream, last⟩ := performAll_stream wf accepts (new_stream news) performed
  refine ⟨stream.alternates, ?_, stream.positive, stream.axes, stream.modes, last⟩
  intro output
  rw [stream.down, decide_eq_true_eq, RefCount.mem_keys_iff stream.positive]

end

/-- In `exampleOperations` a key is pressed on the keyboard and released at the end. -/
theorem example_outputs_match_state :
    ∃ start final logs, Mapper.new exampleConfig = .ok start ∧
      start.performAll exampleOperations = .ok (final, logs) ∧
      Log.strokes logs.flatten = [(.key ⟨30⟩, true), (.key ⟨30⟩, false)] ∧
      Alternates (Log.strokes logs.flatten) ∧
      ∀ output, isDown (Log.strokes logs.flatten) output = true ↔ output ∈ final.held.keys := by
  obtain ⟨start, news, wf⟩ := new_wf example_accepted.wellFormed
  obtain ⟨⟨final, logs⟩, performed, _⟩ := performAll_wf wf exampleOperations example_accepts
  obtain ⟨alternates, down, _⟩ :=
    outputs_match_state example_accepted example_accepts news performed
  have strokes : (do
      let start ← Mapper.new exampleConfig
      let result ← start.performAll exampleOperations
      return Log.strokes result.2.flatten : Checked (List (HeldOutput × Bool))) =
        .ok [(.key ⟨30⟩, true), (.key ⟨30⟩, false)] := by
    decide +kernel
  rw [news, ok_bind, performed, ok_bind] at strokes
  exact ⟨start, final, logs, news, performed, Except.ok.inj strokes, alternates, down⟩

end Scd.Daemon
