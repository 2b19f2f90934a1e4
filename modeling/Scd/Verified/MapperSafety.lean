import Scd.Verified.Frames

/-! # No operation of the mapper panics

Every operation on a well-formed mapper returns, by moves and at most one mode change at
its end, and leaves a well-formed mapper.  So no sequence of operations on a mapper that was
made from an accepted configuration leaves the range of an index or underflows a count.
-/

namespace Scd.Daemon

open Scd.Core Scd.Foundation

/-- A call of the mapper. -/
inductive Operation (F : Type) where
  | process (state : ControllerState F) (keyboardVisible : Bool)
  | suspend
  | setMode (name : String)
  | nextMode
  | reload (config : Config F)
  | releaseAll

section

variable {F : Type} [Scalar F] [Platform F]

/-- One call.  A mode that is not configured is an error for the caller, not a panic. -/
def Mapper.perform (mapper : Mapper F) (operation : Operation F) : Checked (Mapper F × Log F) :=
  match operation with
  | .process state keyboardVisible => mapper.process state keyboardVisible
  | .suspend => .ok mapper.suspend
  | .setMode name => do
    match ← mapper.setMode name with
    | .error _ => return (mapper, [])
    | .ok result => return result
  | .nextMode => mapper.nextMode
  | .reload config => mapper.reload config
  | .releaseAll => mapper.releaseAll

/-- The calls one after the other, with the log of each. -/
def Mapper.performAll (mapper : Mapper F) :
    List (Operation F) → Checked (Mapper F × List (Log F))
  | [] => .ok (mapper, [])
  | operation :: operations => do
    let (mapper, log) ← mapper.perform operation
    let (final, logs) ← mapper.performAll operations
    return (final, log :: logs)

/-! ## Single operations -/

omit [Platform F] in
theorem new_wf {config : Config F} (wellFormed : config.WellFormed) :
    ∃ mapper, Mapper.new config = .ok mapper ∧ mapper.Wf := by
  obtain ⟨mode, found⟩ := mode_of_lt wellFormed.default
  refine ⟨_, by rw [Mapper.new, found]; rfl, wellFormed, wellFormed.default, ?_, ?_, ?_⟩
  · exact List.length_replicate
  · intro other otherMode
    cases found.symm.trans otherMode
    exact List.length_replicate
  · exact RefCount.positive_empty

omit [Platform F] in
theorem process_steps {mapper : Mapper F} (wf : mapper.Wf) (state : ControllerState F)
    (visible : Bool) :
    Returns (mapper.process state visible) fun result => Steps mapper result.2 result.1 := by
  refine (processFrame_kind wf state visible).bind ?_
  rintro ⟨pass, stopped⟩ kind
  obtain ⟨more, log, steps⟩ := kind.advances.steps
  have same : pass.log = more := log
  exact .pure (same ▸ steps)

omit [Platform F] in
theorem switchMode_steps {mapper : Mapper F} (wf : mapper.Wf) {mode : ModeId}
    (lt : mode.index < mapper.config.modes.length) :
    Returns (mapper.switchMode mode) fun result => Steps mapper result.2 result.1 := by
  obtain ⟨⟨next, log⟩, switched⟩ := switchMode_returns wf lt
  refine ⟨_, switched, ?_⟩
  rcases changed_of_switch wf lt switched with ⟨_, rfl, rfl⟩ | ⟨_, changed, _⟩
  · exact .moves .refl
  · exact .changes .refl changed

omit [Platform F] in
theorem releaseAll_steps {mapper : Mapper F} (wf : mapper.Wf) :
    Returns mapper.releaseAll fun result => Steps mapper result.2 result.1 := by
  have released : Moves mapper mapper.releaseOutputs.2 mapper.releaseOutputs.1 :=
    Path.single .release
  have releasedWf := Moves.wf released wf
  obtain ⟨reset, resets⟩ := resetRuntime_returns releasedWf.activeMode
  have returns : mapper.releaseAll =
      .ok ({ reset with previous := none }, mapper.releaseOutputs.2) := by
    simp only [Mapper.releaseAll, resets, ok_bind]
    rfl
  obtain ⟨mode, found, rfl⟩ := resetRuntime_ok resets
  refine ⟨_, returns, ?_⟩
  -- the flags are reset to as many as there were
  have quiet : Moves mapper.releaseOutputs.1 [] { mapper.releaseOutputs.1 with
      global := List.replicate mapper.releaseOutputs.1.config.globalBindings.length {}
      axisActive := List.replicate mode.axes.length false
      trackpadHaptics := fun _ => .default
      previous := none } := by
    refine Moves.unlogged ⟨rfl, rfl, ?_, ?_⟩ rfl rfl
    · rw [releasedWf.global]
      exact List.length_replicate
    · rw [releasedWf.axisActive mode found]
      exact List.length_replicate
  have both := released.trans quiet
  rw [List.append_nil] at both
  exact .moves both

theorem perform_steps {mapper : Mapper F} (wf : mapper.Wf) (operation : Operation F)
    (accepts : ∀ config, operation = .reload config → config.Accepted) :
    Returns (mapper.perform operation) fun result => Steps mapper result.2 result.1 := by
  cases operation with
  | process state visible => exact process_steps wf state visible
  | suspend => exact .ok (Steps.moves (Path.single .release))
  | setMode name =>
    cases found : mapper.config.modeId name with
    | none =>
      simp only [Mapper.perform, Mapper.setMode, found]
      exact .pure (Steps.moves .refl)
    | some mode =>
      obtain ⟨result, switched, steps⟩ := switchMode_steps wf (wf.config.ids name mode found)
      simp only [Mapper.perform, Mapper.setMode, found, switched, ok_bind]
      exact .pure steps
  | nextMode =>
    obtain ⟨next, nexts, lt⟩ := nextMode_of_lt wf.activeMode
    simp only [Mapper.perform, Mapper.nextMode, nexts, ok_bind]
    exact switchMode_steps wf lt
  | reload config =>
    have wellFormed := (accepts config rfl).wellFormed
    obtain ⟨⟨next, log⟩, reloaded⟩ := reload_returns wf wellFormed
    exact ⟨_, reloaded, .changes .refl (changed_of_reload wellFormed reloaded).1⟩
  | releaseAll => exact releaseAll_steps wf

/-- What one call is: a frame, a reset, an error that changes nothing, or a mode switch. -/
inductive Performed (mapper : Mapper F) : Operation F → Log F → Mapper F → Prop where
  | frame {state : ControllerState F} {visible : Bool} {log : Log F} {next : Mapper F} :
      mapper.process state visible = .ok (next, log) →
      Performed mapper (.process state visible) log next
  | suspend : Performed mapper .suspend mapper.releaseOutputs.2 mapper.suspend.1
  | refused (name : String) : Performed mapper (.setMode name) [] mapper
  | switch {operation : Operation F} {mode : ModeId} {log : Log F} {next : Mapper F} :
      mapper.switchMode mode = .ok (next, log) → Performed mapper operation log next
  | reload {config : Config F} {log : Log F} {next : Mapper F} :
      mapper.reload config = .ok (next, log) → Performed mapper (.reload config) log next
  | releaseAll {log : Log F} {next : Mapper F} :
      mapper.releaseAll = .ok (next, log) → Performed mapper .releaseAll log next

theorem perform_performed {mapper next : Mapper F} {operation : Operation F} {log : Log F}
    (performed : mapper.perform operation = .ok (next, log)) : Performed mapper operation log next := by
  cases operation with
  | process state visible => exact .frame performed
  | suspend =>
    cases performed
    exact .suspend
  | setMode name =>
    simp only [Mapper.perform, Mapper.setMode] at performed
    cases found : mapper.config.modeId name with
    | none =>
      simp only [found] at performed
      cases performed
      exact .refused name
    | some mode =>
      simp only [found, bind_assoc, pure_bind] at performed
      obtain ⟨result, switched, done⟩ := bind_ok performed
      cases done
      exact .switch switched
  | nextMode =>
    obtain ⟨mode, _, switched⟩ := bind_ok performed
    exact .switch switched
  | reload config => exact .reload performed
  | releaseAll => exact .releaseAll performed

/-! ## Sequences of operations -/

/-- What every call keeps holds after any calls, of the mapper and of the logs so far. -/
theorem performAll_ok (invariant : List (Log F) → Mapper F → Prop) {mapper final : Mapper F}
    {operations : List (Operation F)} {logs : List (Log F)} (wf : mapper.Wf)
    (accepts : ∀ config, .reload config ∈ operations → config.Accepted)
    (performed : mapper.performAll operations = .ok (final, logs)) (base : invariant [] mapper)
    (step : ∀ past operation state log next, state.Wf →
      (∀ config, operation = .reload config → config.Accepted) →
      state.perform operation = .ok (next, log) → invariant past state →
      invariant (past ++ [log]) next) : invariant logs final := by
  suffices general : ∀ past, invariant past mapper → invariant (past ++ logs) final by
    simpa using general [] base
  clear base
  induction operations generalizing mapper logs with
  | nil =>
    cases performed
    intro past holds
    rwa [List.append_nil]
  | cons operation operations inductionHypothesis =>
    obtain ⟨⟨next, log⟩, once, more⟩ := bind_ok performed
    obtain ⟨⟨last, rest⟩, performedRest, done⟩ := bind_ok more
    cases done
    have accepted : ∀ config, operation = .reload config → config.Accepted := by
      intro config isReload
      exact accepts config (isReload ▸ List.mem_cons_self)
    have nextWf := ((perform_steps wf operation accepted).of_ok once).wf wf
    intro past holds
    have run := inductionHypothesis nextWf
      (fun config member => accepts config (List.mem_cons_of_mem _ member)) performedRest
      (past ++ [log]) (step past operation mapper log next wf accepted once holds)
    rwa [List.append_assoc, List.singleton_append] at run

theorem performAll_wf {mapper : Mapper F} (wf : mapper.Wf) (operations : List (Operation F))
    (accepts : ∀ config, .reload config ∈ operations → config.Accepted) :
    Returns (mapper.performAll operations) fun result => result.1.Wf := by
  induction operations generalizing mapper with
  | nil => exact .ok wf
  | cons operation operations inductionHypothesis =>
    refine (perform_steps wf operation fun config isReload =>
      accepts config (isReload ▸ List.mem_cons_self)).bind ?_
    rintro ⟨next, log⟩ steps
    refine (inductionHypothesis (steps.wf wf) fun config member =>
      accepts config (List.mem_cons_of_mem _ member)).bind ?_
    rintro ⟨final, logs⟩ finalWf
    exact .pure finalWf

/-- From an accepted configuration, with reloads of accepted ones, every call returns, and
    the flags fit the configuration and the mode. -/
theorem operations_never_panic {config : Config F} (accepted : config.Accepted)
    (operations : List (Operation F))
    (accepts : ∀ config, .reload config ∈ operations → config.Accepted) :
    ∃ start final logs, Mapper.new config = .ok start ∧
      start.performAll operations = .ok (final, logs) ∧
      final.global.length = final.config.globalBindings.length ∧
      (∃ mode, final.mode = .ok mode ∧ final.axisActive.length = mode.axes.length) ∧
      (∃ name, final.activeModeName = .ok name) ∧
      ∀ output count, final.held.get? output = some count → 0 < count := by
  obtain ⟨start, news, wf⟩ := new_wf accepted.wellFormed
  obtain ⟨⟨final, logs⟩, performed, finalWf⟩ := performAll_wf wf operations accepts
  obtain ⟨mode, found⟩ := finalWf.mode_ok
  exact ⟨start, final, logs, news, performed, finalWf.global,
    ⟨mode, found, finalWf.axisActive mode found⟩,
    modeName_of_lt finalWf.config finalWf.activeMode, finalWf.held⟩

end

/-! ## An example -/

/-- A node with string arguments, as the KDL parser reads it from a file of one line. -/
def wordNode (name : String) (words : List String) (children : List (KdlNode ℚ)) : KdlNode ℚ :=
  .mk name (words.map fun word => ⟨none, .string word, ⟨0, 0⟩⟩) children ⟨0, 0⟩

def exampleDocument : KdlDocument ℚ where
  nodes := [
    .mk "version" [⟨none, .integer 1, ⟨0, 0⟩⟩] [] ⟨0, 0⟩,
    wordNode "default-mode" ["one"] [],
    wordNode "osk" [] [wordNode "bind" ["a", "KEY_A"] []],
    wordNode "global" [] [
      wordNode "bind" ["steam"] [wordNode "keyboard-toggle" [] []],
      wordNode "bind" ["r5"] [wordNode "key" ["KEY_A"] []],
      wordNode "bind" ["l4", "r4"] [wordNode "mode-next" [] []]],
    wordNode "mode" ["one"] [wordNode "bind" ["b"] [wordNode "key" ["KEY_B"] []]],
    wordNode "mode" ["two"] [wordNode "bind" ["r4", "x"] [wordNode "key" ["KEY_C"] []]]]
  span := ⟨0, 0⟩

def exampleConfig : Config ℚ where
  defaultMode := ⟨0⟩
  modeSwitchHaptic := none
  clickPressure := 25
  oskBindings := IndexMap.empty.insert .a ⟨30⟩
  globalBindings := [
    ⟨.ofList [.steam], .steam, .keyboardToggle⟩,
    ⟨.ofList [.r5], .r5, .action (.key ⟨30⟩)⟩,
    ⟨.ofList [.l4, .r4], .r4, .action .modeNext⟩]
  modeNames := (IndexMap.empty.insert "one" ⟨0⟩).insert "two" ⟨1⟩
  modes := [
    ⟨.none, none, [⟨.ofList [.b], .b, .key ⟨48⟩⟩], [], []⟩,
    ⟨.none, none, [⟨.ofList [.r4, .x], .x, .key ⟨46⟩⟩], [], []⟩]

theorem example_accepted : exampleConfig.Accepted := ⟨exampleDocument, rfl⟩

/-- A chord that switches the mode, a reload, and the toggle of the keyboard. -/
def exampleOperations : List (Operation ℚ) := [
  .process (.withButtons (.ofList [.l4])) false,
  .process (.withButtons (.ofList [.l4, .r4])) false,
  .setMode "three",
  .reload exampleConfig,
  .process (.withButtons (.ofList [.steam])) false,
  .suspend,
  .process (.withButtons (.ofList [.a])) true,
  .releaseAll]

theorem example_accepts (config : Config ℚ) (member : .reload config ∈ exampleOperations) :
    config.Accepted := by
  simp only [exampleOperations, List.mem_cons, reduceCtorEq, Operation.reload.injEq,
    List.not_mem_nil, or_false, false_or] at member
  exact member ▸ example_accepted

theorem example_operations_never_panic :
    ∃ start final logs, Mapper.new exampleConfig = .ok start ∧
      start.performAll exampleOperations = .ok (final, logs) ∧
      final.global.length = final.config.globalBindings.length := by
  obtain ⟨start, final, logs, news, performed, flags, _⟩ :=
    operations_never_panic example_accepted exampleOperations example_accepts
  exact ⟨start, final, logs, news, performed, flags⟩

end Scd.Daemon
