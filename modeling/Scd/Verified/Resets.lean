import Scd.Verified.Turns
import Scd.Verified.Twins

/-! # No state survives a reset

A mapper that has released everything, has loaded a configuration or has entered another mode
keeps nothing of what it did before, but for the last frame.  From there on it does what any
other such mapper does.
-/

namespace Scd.Daemon

open Scd.Core Scd.Foundation

section

variable {F : Type} [Scalar F]

/-! ## Equal configurations -/

/-- Nothing may differ. -/
def exactly : Likeness F where
  flagged := Eq
  logs := Eq
  reflag := by
    intro left right flag same
    rw [same]
  motions := by
    intro left right state previous same
    rw [same]
  axes := by
    intro left right state previous same
    rw [same]
  refl := fun _ => rfl
  append := by
    intro early early' late late' first second
    rw [first, second]

theorem exactly_config (config : Config F) : TwinConfig exactly config config where
  rest := rfl
  modes := List.forall₂_same.mpr fun _ _ => ⟨rfl, rfl⟩

theorem exactly_operation (operation : Operation F) : TwinOperation exactly operation operation := by
  cases operation with
  | process state visible => exact .process state visible
  | suspend => exact .suspend
  | setMode name => exact .setMode name
  | nextMode => exact .nextMode
  | reload config => exact .reload (exactly_config config)
  | releaseAll => exact .releaseAll

/-! ## Cleared mappers -/

/-- The mapper is as a new one in its mode, but for the sign of its zeros and the frame before. -/
structure Cleared (mapper : Mapper F) : Prop where
  global : mapper.global = List.replicate mapper.config.globalBindings.length {}
  routes : mapper.routes = []
  quarantined : mapper.quarantined = {}
  oskActive : mapper.oskActive = {}
  held : mapper.held = .empty
  flags : ∃ mode, mapper.mode = .ok mode ∧
    mapper.axisActive = List.replicate mode.axes.length false
  trackpadHaptics : mapper.trackpadHaptics = fun _ => .default
  axes : ∀ axis, (mapper.gamepadAxes axis == 0.0) = true

theorem cleared_new {config : Config F} {mapper : Mapper F} (news : Mapper.new config = .ok mapper) :
    Cleared mapper := by
  obtain ⟨mode, found, done⟩ := bind_ok news
  cases done
  exact ⟨rfl, rfl, rfl, rfl, rfl, ⟨mode, found, rfl⟩, rfl, fun _ => Scalar.zero_beq_zero⟩

theorem releaseOutputs_axes (mapper : Mapper F) (axis : GamepadAxis) :
    (mapper.releaseOutputs.1.gamepadAxes axis == 0.0) = true := by
  have every : axis ∈ GamepadAxis.all := by cases axis <;> decide
  exact setGamepadAxes_value (fun _ => 0.0) (fun _ => Scalar.zero_beq_zero) (.inl every)

/-- `reset_runtime` completes what `release_outputs` begins, in whatever mode of whatever
    configuration. -/
theorem cleared_reset {mapper next : Mapper F} {config : Config F} {mode : ModeId}
    (resets : Mapper.resetRuntime { mapper.releaseOutputs.1 with
      activeMode := mode, config := config } = .ok next) : Cleared next := by
  have axes := releaseOutputs_axes mapper
  obtain ⟨found, foundMode, rfl⟩ := resetRuntime_ok resets
  refine ⟨rfl, ?_, ?_, ?_, ?_, ⟨found, foundMode, rfl⟩, rfl, axes⟩ <;> rw [releaseOutputs_eq]

theorem cleared_releaseAll {mapper next : Mapper F} {log : Log F}
    (released : mapper.releaseAll = .ok (next, log)) :
    Cleared next ∧ next.config = mapper.config ∧ next.activeMode = mapper.activeMode ∧
      next.previous = none := by
  obtain ⟨reset, resets, rfl, rfl⟩ := releaseAll_cases released
  have own : Mapper.resetRuntime { mapper.releaseOutputs.1 with
      activeMode := mapper.releaseOutputs.1.activeMode
      config := mapper.releaseOutputs.1.config } = .ok reset := resets
  have cleared := cleared_reset own
  obtain ⟨_, _, rfl⟩ := resetRuntime_ok resets
  refine ⟨{ cleared with global := cleared.global }, ?_, ?_, rfl⟩ <;> rw [releaseOutputs_eq]

theorem cleared_reload {mapper next : Mapper F} {config : Config F} {log : Log F}
    (reloaded : mapper.reload config = .ok (next, log)) :
    Cleared next ∧ next.config = config ∧ next.previous = mapper.previous := by
  obtain ⟨_, _, _, resets, _, _⟩ := reload_cases reloaded
  have cleared := cleared_reset resets
  obtain ⟨_, _, rfl⟩ := resetRuntime_ok resets
  refine ⟨cleared, rfl, ?_⟩
  rw [releaseOutputs_eq]

/-- Entering another mode. -/
theorem cleared_switchMode {mapper next : Mapper F} {mode : ModeId} {log : Log F}
    (switched : mapper.switchMode mode = .ok (next, log)) (other : mapper.activeMode ≠ mode) :
    Cleared next := by
  rcases switchMode_cases switched with ⟨same, _⟩ | ⟨_, _, resets, _⟩
  · exact absurd same other
  · exact cleared_reset resets

theorem switchMode_kept {mapper next : Mapper F} {mode : ModeId} {log : Log F}
    (switched : mapper.switchMode mode = .ok (next, log)) :
    next.config = mapper.config ∧ next.activeMode = mode ∧ next.previous = mapper.previous := by
  rcases switchMode_cases switched with ⟨same, rfl, _⟩ | ⟨_, _, resets, _⟩
  · exact ⟨rfl, same, rfl⟩
  · obtain ⟨_, _, rfl⟩ := resetRuntime_ok resets
    refine ⟨?_, rfl, ?_⟩ <;> rw [releaseOutputs_eq]

/-- The mode of a cleared mapper is entered, or is its own. -/
theorem Cleared.switchMode {mapper next : Mapper F} {mode : ModeId} {log : Log F}
    (cleared : Cleared mapper) (switched : mapper.switchMode mode = .ok (next, log)) :
    Cleared next := by
  rcases switchMode_cases switched with ⟨_, rfl, _⟩ | ⟨other, _⟩
  · exact cleared
  · exact cleared_switchMode switched other

/-- Two cleared mappers of one configuration and mode are twins. -/
theorem Cleared.twin [ScalarEq F] {left right : Mapper F} (first : Cleared left)
    (second : Cleared right) (config : left.config = right.config)
    (activeMode : left.activeMode = right.activeMode) (previous : left.previous = right.previous) :
    Twin exactly left right where
  config := config ▸ exactly_config left.config
  activeMode := activeMode
  global := by rw [first.global, second.global, config]
  routes := first.routes.trans second.routes.symm
  quarantined := first.quarantined.trans second.quarantined.symm
  oskActive := first.oskActive.trans second.oskActive.symm
  held := first.held.trans second.held.symm
  trackpadHaptics := first.trackpadHaptics.trans second.trackpadHaptics.symm
  previous := previous
  axes := by
    intro axis value
    rw [ScalarEq.beq_congr _ _ value (first.axes axis),
      ScalarEq.beq_congr _ _ value (second.axes axis)]
  flags := by
    intro mode mode' found found'
    obtain ⟨own, ownMode, flags⟩ := first.flags
    obtain ⟨own', ownMode', flags'⟩ := second.flags
    cases found.symm.trans ownMode
    cases found'.symm.trans ownMode'
    have same : mode = mode' := by
      rw [Mapper.mode, config, activeMode] at found
      exact Except.ok.inj (found.symm.trans found')
    rw [flags, flags', same, List.length_replicate]
    exact ⟨rfl, rfl, rfl⟩

/-! ## The outputs of twins -/

variable [Platform F]

/-- The outputs of a sequence of operations, call by call. -/
def Mapper.outputsOf (mapper : Mapper F) (operations : List (Operation F)) :
    Checked (List (List (Output F))) := do
  let (_, logs) ← mapper.performAll operations
  return logs.map Log.outputs

/-- Whatever is done to both, they push the same. -/
def SameOutputs (left right : Mapper F) : Prop :=
  ∀ operations, left.outputsOf operations = right.outputsOf operations

theorem Twin.sameOutputs {left right : Mapper F} (alike : Twin exactly left right) :
    SameOutputs left right := by
  intro operations
  have performed := alike.performAll
    (List.forall₂_same.mpr fun operation _ => exactly_operation operation :
      List.Forall₂ (TwinOperation exactly) operations operations)
  refine Alike.eq (performed.bind fun result result' related => .pure ?_)
  have same : result.2 = result'.2 := by
    rw [← List.forall₂_eq_eq_eq]
    exact related.2
  rw [same]

/-! ## Mode changes -/

omit [Platform F] in
theorem applyAction_cleared {mapper : Mapper F} {owner : Owner} {action : Action} {active : Bool}
    {applied : Mapper.Applied F} (applies : mapper.applyAction owner action active = .ok applied)
    (cut : applied.interrupted = true) : Cleared applied.mapper := by
  rcases applyAction_cases applies with ⟨_, _, _, continues⟩ | ⟨_, continues⟩ | ⟨_, other, switches, _⟩
  · rw [cut] at continues
    cases continues
  · rw [cut] at continues
    cases continues
  · exact cleared_switchMode switches other

/-- How a frame is cut short: by a mode switch, or by the toggle of the keyboard. -/
def CutShort (pass : Pass F) : Prop :=
  Cleared pass.mapper ∨ ∃ early, pass.log = early ++ [.output .keyboardToggle]

omit [Platform F] in
theorem globalBinding_cut {buttons previousButtons : Buttons} {pass next : GlobalPass F}
    {item : GlobalBinding × Nat}
    (binds : Mapper.globalBinding buttons previousButtons pass item = .ok (next, true)) :
    CutShort next.toPass := by
  obtain ⟨runtime, _, rest⟩ := bind_ok binds
  dsimp only at rest
  split at rest
  · split at rest
    · obtain ⟨⟨mapper, log, interrupted, held⟩, applies, done⟩ := bind_ok rest
      cases done
      exact .inl (applyAction_cleared applies rfl)
    · cases rest
      exact .inr ⟨_, rfl⟩
  · cases rest

omit [Platform F] in
theorem startCandidate_cut {buttons previousButtons : Buttons} {pass next : Pass F}
    {candidate : Candidate}
    (starts : startCandidate buttons previousButtons pass candidate = .ok (next, true)) :
    Cleared next.mapper := by
  simp only [startCandidate, Mapper.routeBinding] at starts
  split at starts
  · cases starts
  · obtain ⟨applied, applies, rest⟩ := bind_ok starts
    split at rest
    · next cut =>
      cases rest
      exact applyAction_cleared applies cut
    · cases rest

omit [Platform F] in
theorem processFrame_cut {mapper : Mapper F} {state : ControllerState F} {visible : Bool}
    {pass : Pass F} (framed : mapper.processFrame state visible = .ok (pass, true)) :
    CutShort pass := by
  obtain ⟨⟨globals, interrupted⟩, binds, rest⟩ := bind_ok framed
  cases interrupted with
  | true =>
    cases rest
    obtain ⟨_, _, cut⟩ := loop_stopped binds
    exact globalBinding_cut cut
  | false =>
    cases visible with
    | true =>
      obtain ⟨_, _, done⟩ := bind_ok rest
      cases done
    | false =>
      obtain ⟨⟨processed, interrupted⟩, processes, rest⟩ := bind_ok rest
      cases rest
      obtain ⟨released, _, rest⟩ := bind_ok processes
      obtain ⟨⟨started, interrupted⟩, starts, rest⟩ := bind_ok rest
      cases interrupted with
      | true =>
        cases rest
        rw [startRoutes_eq] at starts
        obtain ⟨_, _, looped⟩ := bind_ok starts
        obtain ⟨_, _, cut⟩ := loop_stopped looped
        have cleared := startCandidate_cut cut
        exact .inl cleared
      | false =>
        obtain ⟨_, _, done⟩ := bind_ok rest
        cases done

omit [Platform F] in
theorem cleared_switched {mapper next : Mapper F} {mode : ModeId} {log : Log F}
    (switched : mapper.switchMode mode = .ok (next, log)) (changes : log.changesMode = true) :
    Cleared next := by
  rcases switchMode_cases switched with ⟨_, _, rfl⟩ | ⟨other, _⟩
  · cases changes
  · exact cleared_switchMode switched other

/-- An operation that reports a mode change leaves a cleared mapper. -/
theorem perform_cleared {mapper next : Mapper F} {operation : Operation F} {log : Log F}
    (wf : mapper.Wf) (performed : mapper.perform operation = .ok (next, log))
    (changes : log.changesMode = true) : Cleared next := by
  cases perform_performed performed with
  | @frame state visible log next processed =>
    obtain ⟨⟨pass, interrupted⟩, framed, done⟩ := bind_ok processed
    cases done
    have advances := ((processFrame_kind wf state visible).of_ok framed).advances
    obtain ⟨log, same, steps⟩ := advances
    obtain rfl : pass.log = log := same
    cases interrupted with
    | false =>
      have unchanged : pass.log.changesMode = false := Moves.changesMode steps
      rw [unchanged] at changes
      cases changes
    | true =>
      cases processFrame_cut framed with
      | inl cleared => exact cleared
      | inr toggled =>
        -- the mode change would be the last output, and that is the toggle
        obtain ⟨early, ends⟩ := toggled
        have steps : Steps mapper pass.log pass.mapper := steps
        obtain ⟨output, member, isChange⟩ := List.any_eq_true.mp changes
        obtain ⟨name, haptic, rfl⟩ : ∃ name haptic, output = .modeChanged name haptic := by
          cases output <;> first | exact ⟨_, _, rfl⟩ | cases isChange
        obtain ⟨first, rest, split⟩ := List.append_of_mem member
        obtain rfl := steps.mode_last split
        rw [ends, outputs_append] at split
        have last := congrArg List.getLast? split
        simp at last
  | suspend =>
    rw [releaseOutputs_changesMode] at changes
    cases changes
  | refused => cases changes
  | switch switched => exact cleared_switched switched changes
  | reload reloaded => exact (cleared_reload reloaded).1
  | releaseAll released => exact (cleared_releaseAll released).1

/-! ## Resets -/

/-- The mapper is left by calls of a mapper made from an accepted configuration. -/
def Mapper.Reachable (mapper : Mapper F) : Prop :=
  ∃ config operations start logs, Config.Accepted config ∧
    (∀ config, .reload config ∈ operations → config.Accepted) ∧
    Mapper.new config = .ok start ∧ start.performAll operations = .ok (mapper, logs)

theorem Mapper.Reachable.wf {mapper : Mapper F} (reachable : mapper.Reachable) : mapper.Wf := by
  obtain ⟨config, operations, start, logs, accepted, accepts, news, performed⟩ := reachable
  obtain ⟨_, newStart, wf⟩ := new_wf accepted.wellFormed
  cases news.symm.trans newStart
  exact (performAll_wf wf operations accepts).of_ok performed

/-- Two mappers that have released everything push the same from there on, and the same as a new
    mapper in their mode; so do two that have loaded the same configuration, or have entered the
    same mode of it, if their last frame was the same. -/
theorem resets_leak_nothing [ScalarEq F] {left right : Mapper F} (reachable : left.Reachable)
    (reachable' : right.Reachable) :
    (∀ left' right' log log', left.releaseAll = .ok (left', log) →
      right.releaseAll = .ok (right', log') → left.config = right.config →
        left.activeMode = right.activeMode →
          SameOutputs left' right' ∧
          ∀ fresh entered entering, Mapper.new left.config = .ok fresh →
            fresh.switchMode left.activeMode = .ok (entered, entering) → SameOutputs left' entered) ∧
    (∀ config left' right' log log', left.reload config = .ok (left', log) →
      right.reload config = .ok (right', log') → left'.activeMode = right'.activeMode →
        left.previous = right.previous → SameOutputs left' right') ∧
    (∀ mode left' right' log log', left.switchMode mode = .ok (left', log) →
      right.switchMode mode = .ok (right', log') → left.config = right.config →
        left.activeMode ≠ mode → right.activeMode ≠ mode → left.previous = right.previous →
          SameOutputs left' right') ∧
    (∀ operation operation' left' right' log log', left.perform operation = .ok (left', log) →
      right.perform operation' = .ok (right', log') → log.changesMode = true →
        log'.changesMode = true → left'.config = right'.config →
          left'.activeMode = right'.activeMode → left'.previous = right'.previous →
            SameOutputs left' right') := by
  refine ⟨?_, ?_, ?_, ?_⟩
  · intro left' right' log log' released released' config activeMode
    obtain ⟨cleared, ownConfig, ownMode, ownPrevious⟩ := cleared_releaseAll released
    obtain ⟨cleared', otherConfig, otherMode, otherPrevious⟩ := cleared_releaseAll released'
    constructor
    · exact (cleared.twin cleared' (by rw [ownConfig, otherConfig, config])
        (by rw [ownMode, otherMode, activeMode]) (by rw [ownPrevious, otherPrevious])).sameOutputs
    · intro fresh entered entering news switched
      -- a new mapper is cleared, and entering a mode keeps it so
      have clearedFresh := (cleared_new news).switchMode switched
      obtain ⟨freshConfig, freshMode, freshPrevious⟩ := switchMode_kept switched
      obtain ⟨_, _, done⟩ := bind_ok news
      cases done
      exact (cleared.twin clearedFresh (ownConfig.trans freshConfig.symm)
        (ownMode.trans freshMode.symm) (ownPrevious.trans freshPrevious.symm)).sameOutputs
  · intro config left' right' log log' reloaded reloaded' activeMode previous
    obtain ⟨cleared, ownConfig, ownPrevious⟩ := cleared_reload reloaded
    obtain ⟨cleared', otherConfig, otherPrevious⟩ := cleared_reload reloaded'
    -- a reload clears both; what is left of them is the mode and the last frame
    exact (cleared.twin cleared' (ownConfig.trans otherConfig.symm) activeMode
      (by rw [ownPrevious, otherPrevious, previous])).sameOutputs
  · intro mode left' right' log log' switched switched' config other other' previous
    obtain ⟨ownConfig, ownMode, ownPrevious⟩ := switchMode_kept switched
    obtain ⟨otherConfig, otherMode, otherPrevious⟩ := switchMode_kept switched'
    exact ((cleared_switchMode switched other).twin (cleared_switchMode switched' other')
      (by rw [ownConfig, otherConfig, config]) (by rw [ownMode, otherMode])
      (by rw [ownPrevious, otherPrevious, previous])).sameOutputs
  · intro operation operation' left' right' log log' performed performed' changes changes'
      config activeMode previous
    exact ((perform_cleared reachable.wf performed changes).twin
      (perform_cleared reachable'.wf performed' changes') config activeMode previous).sameOutputs

end

/-- A mapper that holds a key and a new one release everything, and are the same from there on. -/
theorem example_resets :
    ∃ left right left' right' log log', Mapper.Reachable (F := ℚ) left ∧ Mapper.Reachable right ∧
      left.held.keys = [.key ⟨30⟩] ∧ right.held.keys = [] ∧ left.releaseAll = .ok (left', log) ∧
      right.releaseAll = .ok (right', log') ∧ SameOutputs left' right' := by
  obtain ⟨⟨start, ⟨pass, cut⟩, released, fresh⟩, runs, facts⟩ := map_ok
    (show (do
        let start ← Mapper.new exampleConfig
        let frame ← start.processFrame (.withButtons (.ofList [.r5])) false
        let released ← frame.1.mapper.releaseAll
        let fresh ← start.releaseAll
        return (start, frame, released, fresh) :
          Checked (Mapper ℚ × (Pass ℚ × Bool) × (Mapper ℚ × Log ℚ) × Mapper ℚ × Log ℚ)).map
        (fun run => (run.1.held.keys, run.2.1.1.mapper.held.keys, run.2.1.2)) =
          .ok ([], [.key ⟨30⟩], false) by
      decide +kernel)
  obtain ⟨_, news, rest⟩ := bind_ok runs
  obtain ⟨_, framed, rest⟩ := bind_ok rest
  obtain ⟨_, releases, rest⟩ := bind_ok rest
  obtain ⟨_, releasesFresh, done⟩ := bind_ok rest
  cases done
  simp only [Prod.mk.injEq] at facts
  obtain ⟨up, down, rfl⟩ := facts
  have initial : start.Reachable :=
    ⟨exampleConfig, [], start, [], example_accepted, by simp, news, rfl⟩
  have reached : pass.mapper.Reachable := by
    refine ⟨exampleConfig, [.process (.withButtons (.ofList [.r5])) false], start, [pass.log],
      example_accepted, by simp, news, ?_⟩
    simp only [Mapper.performAll, Mapper.perform, Mapper.process, framed, ok_bind]
    rfl
  obtain ⟨_, _, _, _, completed⟩ := completed_frame initial.wf framed
  have same := ((resets_leak_nothing reached initial).1 _ _ _ _ releases releasesFresh
    completed.config completed.activeMode).1
  exact ⟨pass.mapper, start, released.1, fresh.1, released.2, fresh.2, reached, initial, down, up,
    releases, releasesFresh, same⟩

end Scd.Daemon
