import Scd.Verified.Settlement

/-! # The axis mappings of a frame

`processAxes` in closed form: which mappings are active, what they contribute to the axes,
and what they move besides.  A mapping is active or not whatever the others are, and what it
moves does not depend on what the axes have been given so far.
-/

namespace Scd.Daemon

open Scd.Core Scd.Foundation

section

variable {F : Type} [Scalar F]

/-! ## Active mappings -/

/-- The flags of some mappings after a frame, from those before it. -/
def nextFlags (mappings : List (AxisMapping F × Bool)) (state : ControllerState F) : List Bool :=
  mappings.map fun mapping => isActive mapping.1 mapping.2 state

/-- The mappings that are active in a frame. -/
def activeMappings (mappings : List (AxisMapping F × Bool)) (state : ControllerState F) :
    List (AxisMapping F) :=
  (mappings.filter fun mapping => isActive mapping.1 mapping.2 state).map Prod.fst

/-- What some mappings give to the axes, one after the other, on top of this. -/
def addContributions (gamepad : GamepadAxis → F) (mappings : List (AxisMapping F))
    (state : ControllerState F) (previous : Option (ControllerState F)) : GamepadAxis → F :=
  mappings.foldl (fun gamepad mapping => (contribute mapping state previous gamepad).1) gamepad

def contributions (mappings : List (AxisMapping F)) (state : ControllerState F)
    (previous : Option (ControllerState F)) : GamepadAxis → F :=
  addContributions (fun _ => 0.0) mappings state previous

/-- What a mapping moves besides the axes. -/
def motion (state : ControllerState F) (previous : Option (ControllerState F))
    (mapping : AxisMapping F) : Log F := (contribute mapping state previous fun _ => 0.0).2

theorem contribute_log (mapping : AxisMapping F) (state : ControllerState F)
    (previous : Option (ControllerState F)) (gamepad : GamepadAxis → F) :
    (contribute mapping state previous gamepad).2 = motion state previous mapping := by
  unfold motion contribute
  cases source mapping state previous with
  | scalar axis value => rfl
  | vector value sourceScale acceleration target options => cases target <;> rfl

/-! ## The loop -/

variable (state : ControllerState F) (previous : Option (ControllerState F))

/-- One iteration, at the flag after the flags `passed`. -/
theorem axisMapping_eq (start : Mapper F) (passed rest : List Bool) (flag : Bool) (log : Log F)
    (gamepad : GamepadAxis → F) (mapping : AxisMapping F) :
    Mapper.axisMapping state previous
        ⟨⟨{ start with axisActive := passed ++ flag :: rest }, log⟩, gamepad⟩
        (mapping, passed.length) =
      .ok (⟨⟨{ start with axisActive := passed ++ isActive mapping flag state :: rest },
          log ++ if isActive mapping flag state then motion state previous mapping else []⟩,
        if isActive mapping flag state then (contribute mapping state previous gamepad).1
        else gamepad⟩, false) := by
  have found : index (passed ++ flag :: rest) passed.length = .ok flag := by
    rw [index_ok_iff, List.getElem?_append_right (Nat.le_refl _), Nat.sub_self]
    rfl
  simp only [Mapper.axisMapping, found, ok_bind, List.set_append_right _ _ (Nat.le_refl _),
    Nat.sub_self, List.set_cons_zero]
  cases isActive mapping flag state with
  | true =>
    rw [← contribute_log mapping state previous gamepad]
    rfl
  | false =>
    rw [if_neg Bool.false_ne_true, List.append_nil]
    rfl

/-- The loop over the mappings after the flags `passed`. -/
theorem axes_loop_from (start : Mapper F) (passed flags : List Bool) (axes : List (AxisMapping F))
    (fits : flags.length = axes.length) (log : Log F) (gamepad : GamepadAxis → F) :
    loop (Mapper.axisMapping state previous)
        ⟨⟨{ start with axisActive := passed ++ flags }, log⟩, gamepad⟩ (axes.zipIdx passed.length) =
      .ok (⟨⟨{ start with axisActive := passed ++ nextFlags (axes.zip flags) state },
          log ++ (activeMappings (axes.zip flags) state).flatMap (motion state previous)⟩,
        addContributions gamepad (activeMappings (axes.zip flags) state) state previous⟩, false) := by
  induction axes generalizing passed flags log gamepad with
  | nil =>
    obtain rfl := List.length_eq_zero_iff.mp fits
    simp [loop, nextFlags, activeMappings, addContributions]
  | cons mapping axes inductionHypothesis =>
    obtain ⟨flag, flags, rfl⟩ := List.exists_cons_of_length_eq_add_one fits
    rw [List.zipIdx_cons, loop, axisMapping_eq, ok_bind]
    dsimp only
    rw [if_neg Bool.false_ne_true]
    have rest := inductionHypothesis (passed ++ [isActive mapping flag state]) flags (by simpa using fits)
    rw [List.length_append, List.length_singleton] at rest
    simp only [List.append_assoc, List.singleton_append] at rest
    rw [rest]
    cases active : isActive mapping flag state <;>
      simp [nextFlags, activeMappings, addContributions, active]

/-- The whole loop. -/
theorem axes_loop (mapper : Mapper F) {mode : Mode F}
    (fits : mapper.axisActive.length = mode.axes.length) :
    loop (Mapper.axisMapping state previous) ⟨⟨mapper, []⟩, fun _ => 0.0⟩ mode.axes.zipIdx =
      .ok (⟨⟨{ mapper with axisActive := nextFlags (mode.axes.zip mapper.axisActive) state },
          (activeMappings (mode.axes.zip mapper.axisActive) state).flatMap (motion state previous)⟩,
        contributions (activeMappings (mode.axes.zip mapper.axisActive) state) state previous⟩,
        false) :=
  axes_loop_from state previous mapper [] mapper.axisActive mode.axes fits [] fun _ => 0.0

/-- The mapper with the flags of a frame. -/
def Mapper.flagAxes (mapper : Mapper F) (flags : List Bool) : Mapper F :=
  { mapper with axisActive := flags }

/-- `processAxes` as an equation. -/
theorem processAxes_eq (mapper : Mapper F) {mode : Mode F} (found : mapper.mode = .ok mode)
    (fits : mapper.axisActive.length = mode.axes.length) :
    mapper.processAxes state previous =
      let active := activeMappings (mode.axes.zip mapper.axisActive) state
      let set := Mapper.setGamepadAxes (clampAxis (contributions active state previous))
        GamepadAxis.all (mapper.flagAxes (nextFlags (mode.axes.zip mapper.axisActive) state))
      .ok (set.1, active.flatMap (motion state previous) ++ set.2) := by
  simp only [Mapper.processAxes, found, ok_bind, axes_loop state previous mapper fits]
  rfl

/-! ## The rest of a frame -/

/-- An entry of a log that a binding leaves which does not switch the mode. -/
def Entry.isHold {F : Type} : Entry F → Bool
  | .note _ => true
  | .output pushed => pushed.stroke?.isSome

omit [Scalar F] in
def Log.Holds (log : Log F) : Prop := ∀ entry ∈ log, entry.isHold = true

omit [Scalar F] in
theorem Log.Holds.append {first second : Log F} (early : first.Holds) (late : second.Holds) :
    Log.Holds (first ++ second) := by
  intro entry member
  cases List.mem_append.mp member with
  | inl old => exact early entry old
  | inr new => exact late entry new

omit [Scalar F] in
theorem holds_nil : Log.Holds ([] : Log F) := by
  intro entry member
  cases member

omit [Scalar F] in
theorem holds_note (note : Note) {log : Log F} (rest : log.Holds) :
    Log.Holds (.note note :: log) := by
  intro entry member
  cases List.mem_cons.mp member with
  | inl first => exact first ▸ rfl
  | inr later => exact rest entry later

omit [Scalar F] in
theorem setHeld_holds {held next : IndexMap HeldOutput Nat} {owner : Owner} {output : HeldOutput}
    {active : Bool} {log : Log F} (sets : Mapper.setHeld held owner output active = .ok (next, log)) :
    log.Holds := by
  have stroke : ∀ pressed, Log.Holds ([.output (output.output pressed)] : Log F) := by
    intro pressed entry member
    cases List.mem_singleton.mp member
    simp [Entry.isHold]
  unfold Mapper.setHeld at sets
  split at sets
  · split at sets
    · cases sets
      exact holds_note _ (stroke true)
    · cases sets
      exact holds_note _ holds_nil
  · split at sets
    · cases sets
      exact holds_note _ holds_nil
    · cases sets
    · split at sets
      · cases sets
        exact holds_note _ (stroke false)
      · cases sets
        exact holds_note _ holds_nil

/-- What an action can do: hold or release an output, nothing, or switch to another mode, and
    only this cuts the frame short. -/
theorem applyAction_cases {mapper : Mapper F} {owner : Owner} {action : Action} {active : Bool}
    {applied : Mapper.Applied F} (applies : mapper.applyAction owner action active = .ok applied) :
    (∃ output held, Mapper.setHeld mapper.held owner output active = .ok (held, applied.log) ∧
      applied.interrupted = false) ∨
    (applied.log = [] ∧ applied.interrupted = false) ∨
    ∃ mode, mapper.activeMode ≠ mode ∧
      mapper.switchMode mode = .ok (applied.mapper, applied.log) ∧ applied.interrupted = true := by
  unfold Mapper.applyAction at applies
  split at applies
  · next output _ =>
    obtain ⟨⟨held, log⟩, sets, done⟩ := bind_ok applies
    cases done
    exact .inl ⟨output, held, sets, rfl⟩
  · right
    have entered : ∀ mode : ModeId, (do
        if mode = mapper.activeMode then return ⟨mapper, [], false, none⟩
        let switched ← mapper.switchMode mode
        return (⟨switched.1, switched.2, true, none⟩ : Mapper.Applied F) :
          Checked (Mapper.Applied F)) = .ok applied → (applied.log = [] ∧ applied.interrupted = false) ∨
            ∃ mode, mapper.activeMode ≠ mode ∧
              mapper.switchMode mode = .ok (applied.mapper, applied.log) ∧
                applied.interrupted = true := by
      intro mode rest
      split at rest
      · cases rest
        exact .inl ⟨rfl, rfl⟩
      · next other =>
        obtain ⟨switched, switches, done⟩ := bind_ok rest
        cases done
        exact .inr ⟨mode, Ne.symm other, switches, rfl⟩
    dsimp only at applies
    split at applies
    · cases applies
      exact .inl ⟨rfl, rfl⟩
    · split at applies
      · exact entered _ applies
      · obtain ⟨mode, _, rest⟩ := bind_ok applies
        exact entered mode rest
      · cases applies

theorem applyAction_holds {mapper : Mapper F} {owner : Owner} {action : Action} {active : Bool}
    {applied : Mapper.Applied F} (applies : mapper.applyAction owner action active = .ok applied)
    (continues : applied.interrupted = false) : applied.log.Holds := by
  rcases applyAction_cases applies with ⟨_, _, sets, _⟩ | ⟨none, _⟩ | ⟨_, _, _, cut⟩
  · exact setHeld_holds sets
  · rw [none]
    exact holds_nil
  · rw [continues] at cut
    cases cut

theorem globalBinding_holds {buttons previousButtons : Buttons} {pass next : GlobalPass F}
    {item : GlobalBinding × Nat}
    (binds : Mapper.globalBinding buttons previousButtons pass item = .ok (next, false))
    (past : pass.log.Holds) : next.log.Holds := by
  obtain ⟨runtime, _, rest⟩ := bind_ok binds
  have fired : Log.Holds (if item.1.pressed buttons previousButtons then [.note (.fire item.2)]
      else ([] : Log F)) := by
    split
    · exact holds_note _ holds_nil
    · exact holds_nil
  dsimp only at rest
  split at rest
  · split at rest
    · obtain ⟨⟨mapper, log, interrupted, held⟩, applies, done⟩ := bind_ok rest
      cases done
      exact (past.append fired).append (applyAction_holds applies rfl)
    · cases rest
  · cases rest
    exact past

omit [Scalar F] in
theorem releaseRoute_holds {buttons reserved captured : Buttons} {pass next : Pass F} {position : Nat}
    {stopped : Bool}
    (releases : Mapper.releaseRoute buttons reserved captured pass position = .ok (next, stopped))
    (past : pass.log.Holds) : next.log.Holds := by
  obtain ⟨route, _, rest⟩ := bind_ok releases
  split at rest
  · cases rest
    exact past
  · cases held : route.held with
    | none =>
      simp only [held] at rest
      cases rest
      exact past
    | some output =>
      simp only [held] at rest
      obtain ⟨⟨counts, log⟩, sets, done⟩ := bind_ok rest
      cases done
      exact past.append (setHeld_holds sets)

theorem routeBinding_holds {hold : Option Button} {buttons previousButtons reserved : Buttons}
    {pass next : Pass F} {binding : Binding}
    (starts : Mapper.routeBinding hold buttons previousButtons reserved pass binding = .ok (next, false))
    (past : pass.log.Holds) : next.log.Holds := by
  simp only [Mapper.routeBinding] at starts
  split at starts
  · cases starts
    exact past
  · obtain ⟨applied, applies, rest⟩ := bind_ok starts
    split at rest
    · cases rest
    · next continues =>
      cases rest
      exact past.append (holds_note _ (applyAction_holds applies (by simpa using continues)))

theorem globalBindings_holds {mapper : Mapper F} {buttons previousButtons : Buttons}
    {globals : GlobalPass F}
    (binds : mapper.globalBindings buttons previousButtons = .ok (globals, false)) :
    globals.log.Holds :=
  loop_ok (fun pass : GlobalPass F => pass.log.Holds) binds holds_nil
    fun _ _ _ _ once goesOn past => globalBinding_holds (goesOn rfl ▸ once) past

omit [Scalar F] in
theorem releaseRoutes_holds {mapper : Mapper F} {buttons reserved captured : Buttons}
    {released : Pass F} (releases : mapper.releaseRoutes buttons reserved captured = .ok released) :
    released.log.Holds := by
  obtain ⟨⟨pass, stopped⟩, looped, done⟩ := bind_ok releases
  cases done
  exact loop_ok (fun pass : Pass F => pass.log.Holds) looped holds_nil
    fun _ _ _ _ once _ past => releaseRoute_holds once past

theorem startRoutes_holds {mapper : Mapper F} {buttons previousButtons reserved : Buttons}
    {started : Pass F}
    (starts : mapper.startRoutes buttons previousButtons reserved = .ok (started, false)) :
    started.log.Holds := by
  rw [startRoutes_eq] at starts
  obtain ⟨mode, _, looped⟩ := bind_ok starts
  exact loop_ok (fun pass : Pass F => pass.log.Holds) looped holds_nil
    fun _ _ _ _ once goesOn past => routeBinding_holds (goesOn rfl ▸ once) past

/-- A frame with the keyboard hidden that goes on to its end, as far as the axes go: what
    comes before the axis mappings only holds outputs, and what comes after only clicks. -/
structure Completed (mapper : Mapper F) (state : ControllerState F) (pass : Pass F) (mode : Mode F)
    (early late : Log F) (before : Mapper F) : Prop where
  found : mapper.mode = .ok mode
  holds : early.Holds
  clicks : ∀ entry ∈ late, ∃ pad, entry = .output (.trackpadHaptic pad)
  axes : before.gamepadAxes = mapper.gamepadAxes
  log : pass.log = early ++
    ((activeMappings (mode.axes.zip mapper.axisActive) state).flatMap (motion state mapper.previous) ++
      (Mapper.setGamepadAxes (clampAxis (contributions
        (activeMappings (mode.axes.zip mapper.axisActive) state) state mapper.previous))
        GamepadAxis.all before).2) ++ late
  config : pass.mapper.config = mapper.config
  activeMode : pass.mapper.activeMode = mapper.activeMode
  flags : pass.mapper.axisActive = nextFlags (mode.axes.zip mapper.axisActive) state
  gamepadAxes : pass.mapper.gamepadAxes = (Mapper.setGamepadAxes (clampAxis (contributions
    (activeMappings (mode.axes.zip mapper.axisActive) state) state mapper.previous))
    GamepadAxis.all before).1.gamepadAxes
  previous : pass.mapper.previous = some state

theorem haptics_late {mapper next : Mapper F} {state : ControllerState F} {previousButtons : Buttons}
    {log : Log F} (processed : mapper.processTrackpadHaptics state previousButtons = (next, log)) :
    (∀ entry ∈ log, ∃ pad, entry = .output (.trackpadHaptic pad)) ∧
      ∃ haptics, next = { mapper with trackpadHaptics := haptics } := by
  have each : ∀ (mapper next : Mapper F) (pad : Trackpad) (padState : TouchpadState F)
      (click : Button) (log : Log F),
      mapper.padHaptic state previousButtons pad padState click = (next, log) →
        ∀ entry ∈ log, entry = .output (.trackpadHaptic pad) := by
    intro mapper next pad padState click log padded entry member
    unfold Mapper.padHaptic at padded
    split at padded
    · cases padded
      exact List.mem_singleton.mp member
    · cases padded
      exact List.mem_singleton.mp (List.mem_ite_nil_right.mp member).2
  obtain ⟨mid, leftLog, rightLog, left, right, rfl⟩ := processTrackpadHaptics_pads processed
  constructor
  · intro entry member
    cases List.mem_append.mp member with
    | inl first => exact ⟨.left, each _ _ _ _ _ _ left entry first⟩
    | inr second => exact ⟨.right, each _ _ _ _ _ _ right entry second⟩
  · obtain ⟨_, _, rfl⟩ := padHaptic_motion left
    obtain ⟨_, haptics, rfl⟩ := padHaptic_motion right
    exact ⟨haptics, rfl⟩

theorem completed_frame {mapper : Mapper F} {state : ControllerState F} {pass : Pass F}
    (wf : mapper.Wf) (framed : mapper.processFrame state false = .ok (pass, false)) :
    ∃ mode early late before, Completed mapper state pass mode early late before := by
  -- the frame was not cut short, so every stage of it has run to its end
  obtain ⟨⟨globals, interrupted⟩, binds, rest⟩ := bind_ok framed
  cases interrupted with
  | true => cases rest
  | false =>
    obtain ⟨⟨processed, interrupted⟩, processes, rest⟩ := bind_ok rest
    cases rest
    obtain ⟨released, releases, rest⟩ := bind_ok processes
    obtain ⟨⟨started, interrupted⟩, starts, rest⟩ := bind_ok rest
    cases interrupted with
    | true => cases rest
    | false =>
      obtain ⟨⟨mapped, axes⟩, maps, rest⟩ := bind_ok rest
      -- each piece of the frame leaves alone what the axes depend on
      have received : (mapper.receive state).Wf := (receive_advances mapper state).wf wf
      have all : AllGlobals mapper state globals :=
        (globalBindings_done received state.buttons mapper.previousButtons).of_ok binds
      have settled : (globals.mapper.settle state.buttons).Wf :=
        (settle_advances globals.mapper state.buttons globals.log).wf
          ((AllGlobals.advances all).wf wf)
      have ended : RoutesEnded state globals released :=
        (releaseRoutes_done settled state.buttons globals.reserved globals.captured).of_ok releases
      have releasedWf : released.mapper.Wf := RoutesReleased.advances ended |>.wf settled
      obtain ⟨mode, _, done⟩ := (startRoutes_done releasedWf state.buttons mapper.previousButtons
        globals.reserved).of_ok starts
      -- the mode and the flags are those of before the frame
      have frame : started.mapper = { mapper.receive state with
          global := globals.mapper.global
          routes := started.mapper.routes
          quarantined := released.mapper.quarantined
          held := started.mapper.held } := started_frame all ended done
      obtain ⟨mode, found⟩ := wf.mode_ok
      have startedMode : started.mapper.mode = .ok mode := by
        rw [← found, frame]
        rfl
      have flags : started.mapper.axisActive = mapper.axisActive := by
        rw [frame]
        rfl
      have fits : started.mapper.axisActive.length = mode.axes.length := by
        rw [flags]
        exact wf.axisActive mode found
      have mapping := (processAxes_eq state mapper.previous started.mapper startedMode fits).symm.trans
        maps
      rw [flags] at mapping
      obtain ⟨mappedEq, axesEq⟩ := Prod.mk.inj (Except.ok.inj mapping)
      have mappedFrame := setGamepadAxes_eq (clampAxis (contributions
        (activeMappings (mode.axes.zip mapper.axisActive) state) state mapper.previous))
        GamepadAxis.all (started.mapper.flagAxes (nextFlags (mode.axes.zip mapper.axisActive) state))
      rw [mappedEq] at mappedFrame
      -- the haptics come last and do not touch the axes
      cases clicked : mapped.processTrackpadHaptics state mapper.previousButtons with
      | mk final clicks =>
        simp only [clicked] at rest
        cases rest
        obtain ⟨late, haptics, rfl⟩ := haptics_late clicked
        refine ⟨mode, globals.log ++ (released.log ++ started.log), clicks,
          started.mapper.flagAxes (nextFlags (mode.axes.zip mapper.axisActive) state), ?_⟩
        constructor
        case found => exact found
        case holds =>
          exact (globalBindings_holds binds).append
            ((releaseRoutes_holds releases).append (startRoutes_holds starts))
        case clicks => exact late
        case axes =>
          rw [Mapper.flagAxes, frame]
          rfl
        case log => simp [← axesEq]
        case config =>
          dsimp only
          rw [mappedFrame, Mapper.flagAxes, frame]
          rfl
        case activeMode =>
          dsimp only
          rw [mappedFrame, Mapper.flagAxes, frame]
          rfl
        case flags =>
          dsimp only
          rw [mappedFrame, Mapper.flagAxes]
        case gamepadAxes =>
          dsimp only
          rw [← mappedEq]
        case previous =>
          dsimp only
          rw [mappedFrame, Mapper.flagAxes, frame]
          rfl

end

end Scd.Daemon
