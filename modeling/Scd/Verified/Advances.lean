import Scd.Verified.MapperSteps

/-! # Advancing a frame

`Advances` says that a piece of a frame went from one pass to another by moves, with a mode
change at most where the frame stops.  Every iteration of the loops of `Mapper::process` is
such a piece.
-/

namespace Scd.Daemon

open Scd.Core Scd.Foundation

section

variable {F : Type} [Scalar F]

/-! ## Advancing a pass -/

/-- Moves, and possibly a mode change after them. -/
inductive Steps (before : Mapper F) : Log F → Mapper F → Prop where
  | moves {log : Log F} {after : Mapper F} : Moves before log after → Steps before log after
  | changes {first second : Log F} {mid after : Mapper F} : Moves before first mid →
      Changed mid second after → Steps before (first ++ second) after

theorem Steps.wf {before after : Mapper F} {log : Log F} (steps : Steps before log after)
    (wf : before.Wf) : after.Wf := by
  cases steps with
  | moves moves => exact moves.wf wf
  | changes _ changed => exact changed.wf

theorem Steps.after_moves {first mid after : Mapper F} {early late : Log F}
    (moves : Moves first early mid) (steps : Steps mid late after) :
    Steps first (early ++ late) after := by
  cases steps with
  | moves more => exact .moves (moves.trans more)
  | changes more changed =>
    rw [← List.append_assoc]
    exact .changes (moves.trans more) changed

/-- A piece of a frame: moves, and a mode change only where the frame stops. -/
def Advances (stopped : Bool) (before after : Pass F) : Prop :=
  ∃ more, after.log = before.log ++ more ∧
    if stopped then Steps before.mapper more after.mapper else Moves before.mapper more after.mapper

namespace Advances

theorem refl (pass : Pass F) : Advances false pass pass := ⟨[], by simp, .refl⟩

theorem trans {stopped : Bool} {first second third : Pass F} (early : Advances false first second)
    (late : Advances stopped second third) : Advances stopped first third := by
  obtain ⟨more, log, moves⟩ := early
  obtain ⟨rest, log', steps⟩ := late
  refine ⟨more ++ rest, by rw [log', log, List.append_assoc], ?_⟩
  cases stopped with
  | true => exact Steps.after_moves moves steps
  | false => exact Foundation.Path.trans moves steps

theorem steps {stopped : Bool} {before after : Pass F} (advances : Advances stopped before after) :
    ∃ more, after.log = before.log ++ more ∧ Steps before.mapper more after.mapper := by
  obtain ⟨more, log, steps⟩ := advances
  cases stopped with
  | true => exact ⟨more, log, steps⟩
  | false => exact ⟨more, log, .moves steps⟩

theorem wf {stopped : Bool} {before after : Pass F} (advances : Advances stopped before after)
    (wf : before.mapper.Wf) : after.mapper.Wf := by
  obtain ⟨more, _, steps⟩ := advances.steps
  exact steps.wf wf

/-- One move, with the entries it adds to the log. -/
theorem move {before after : Pass F} {more : Log F} (log : after.log = before.log ++ more)
    (move : Move before.mapper more after.mapper) : Advances false before after :=
  ⟨more, log, Path.single move⟩

/-- A move that nobody can see. -/
theorem quiet {before after : Pass F} {more : Log F} (log : after.log = before.log ++ more)
    (same : SameShape before.mapper after.mapper) (held : after.mapper.held = before.mapper.held)
    (axes : after.mapper.gamepadAxes = before.mapper.gamepadAxes) (silent : more.Silent) :
    Advances false before after := move log (.quiet same held axes silent)

end Advances

/-! ## Iterations advance -/

omit [Scalar F] in
theorem silent_fire (position : Nat) : Log.Silent ([.note (.fire position)] : Log F) := by
  intro entry member
  cases List.mem_singleton.mp member
  rfl

theorem visit_advances (binding : GlobalBinding) (buttons previousButtons : Buttons)
    (pass : GlobalPass F) (position : Nat) (runtime : GlobalState) :
    Advances false pass.toPass
      (pass.visit binding buttons previousButtons position runtime).toPass := by
  refine .quiet (List.append_nil _).symm (flag_sameShape _ _ _) rfl rfl ?_
  intro entry member
  cases member

theorem append_advances (pass : GlobalPass F) {log : Log F} (silent : log.Silent) :
    Advances false pass.toPass (pass.append log).toPass :=
  .quiet rfl (.refl _) rfl rfl silent

theorem hold_advances (pass : GlobalPass F) (position : Nat) {notes : Log F} (silent : notes.Silent)
    (output : HeldOutput) (active : Bool) :
    Advances false pass.toPass (pass.hold position notes output active).toPass := by
  refine (append_advances pass silent).trans (.move rfl ?_)
  exact .hold (.global position) output active ⟨rfl, rfl, rfl, rfl⟩ rfl rfl

omit [Scalar F] in
theorem silent_nil : Log.Silent ([] : Log F) := by
  intro entry member
  cases member

omit [Scalar F] in
theorem silent_singleton {entry : Entry F} (silent : entry.isSilent = true) :
    Log.Silent [entry] := by
  intro other member
  cases List.mem_singleton.mp member
  exact silent

omit [Scalar F] in
theorem silent_toggle : Log.Silent ([.output .keyboardToggle] : Log F) := silent_singleton rfl

theorem GlobalStep.advances {binding : GlobalBinding} {buttons previousButtons : Buttons}
    {pass result : GlobalPass F} {position : Nat} {runtime : GlobalState} {stopped : Bool}
    (step : GlobalStep binding buttons previousButtons pass position runtime result stopped) :
    Advances stopped pass.toPass result.toPass := by
  have visited := visit_advances binding buttons previousButtons pass position runtime
  have fired := visited.trans (append_advances _ (silent_fire position))
  cases step with
  | idle => exact visited
  | @release output => exact visited.trans (hold_advances _ position silent_nil output false)
  | @press output => exact visited.trans (hold_advances _ position (silent_fire position) output true)
  | stay => exact fired
  | toggle =>
    obtain ⟨more, log, moves⟩ := fired.trans (append_advances _ silent_toggle)
    exact ⟨more, log, .moves moves⟩
  | @switch action mode next log _ _ _ _ changed =>
    refine fired.trans ⟨log, rfl, ?_⟩
    exact .changes .refl changed

theorem OskStep.advances {buttons reserved : Buttons} {pass result : Pass F} {input : Button}
    {key : KeyCode} (step : OskStep buttons reserved pass input key result) :
    Advances false pass result := by
  cases step with
  | idle => exact .refl pass
  | press => exact .move rfl (.hold (.osk input) (.key key) true ⟨rfl, rfl, rfl, rfl⟩ rfl rfl)
  | release => exact .move rfl (.hold (.osk input) (.key key) false ⟨rfl, rfl, rfl, rfl⟩ rfl rfl)

theorem RouteEnd.advances {buttons reserved captured : Buttons} {pass result : Pass F}
    {position : Nat} {route : ActiveRoute}
    (step : RouteEnd buttons reserved captured pass position route result) :
    Advances false pass result := by
  cases step with
  | keep => exact .refl pass
  | drop => exact .quiet (List.append_nil _).symm ⟨rfl, rfl, rfl, rfl⟩ rfl rfl silent_nil
  | @release output =>
    exact .move rfl (.hold (.route route.trigger) output false ⟨rfl, rfl, rfl, rfl⟩ rfl rfl)

theorem RouteStart.advances {hold : Option Button} {buttons previousButtons reserved : Buttons}
    {pass result : Pass F} {binding : Binding} {stopped : Bool}
    (step : RouteStart hold buttons previousButtons reserved pass binding result stopped) :
    Advances stopped pass result := by
  have started : Advances false pass ⟨pass.mapper, pass.log ++ [.note (.start binding hold)]⟩ :=
    .quiet rfl (.refl _) rfl rfl (silent_singleton rfl)
  cases step with
  | skip => exact .refl pass
  | @hold output =>
    refine started.trans (.move (List.append_cons _ _ _) ?_)
    exact .hold (.route binding.trigger) output true ⟨rfl, rfl, rfl, rfl⟩ rfl rfl
  | stay => exact .quiet rfl ⟨rfl, rfl, rfl, rfl⟩ rfl rfl (silent_singleton rfl)
  | @switch next log _ _ changed =>
    refine started.trans ⟨log, List.append_cons _ _ _, ?_⟩
    exact .changes .refl changed

end

end Scd.Daemon
