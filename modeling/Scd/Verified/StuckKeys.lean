import Scd.Verified.Sessions
import Scd.Verified.Settlement

/-! # No key is left pressed

The count of an output is never above the number of its claims, whatever happens, and who
claims an output has a button down.  So after a frame in which every button is up nothing is
claimed, nothing is held, and every press that the loop has emitted is matched by a release.
-/

namespace Scd.Daemon

open Scd.Core Scd.Foundation

section

variable {F : Type} [Scalar F]

/-! ## Nothing is claimed -/

omit [Scalar F] in
/-- With all buttons up nobody is entitled to claim anything. -/
theorem Settled.nothing_claimed [Scalar F] {mapper : Mapper F} {visible : Bool}
    {claims : List (Owner × HeldOutput)} (settled : Settled mapper visible claims)
    (up : ∀ button, mapper.previousButtons.contains button = false) : claims = [] := by
  apply Ledger.eq_nil_of_ownedBy
  intro owner
  cases owner with
  | global position =>
    -- a binding holds its output only while its trigger is down
    have none : mapper.globalHeld position = none := by
      unfold Mapper.globalHeld
      split
      · next binding runtime _ _ =>
        have released : binding.allActive mapper.previousButtons = false := by
          simp [GlobalBinding.allActive, up]
        simp [released]
      · rfl
    rcases settled.globals position with unclaimed | entitled
    · exact unclaimed
    · rw [entitled, none]
      rfl
  | osk input =>
    rw [settled.osk]
    cases held : mapper.oskHeld input with
    | none => rfl
    | some output =>
      have down := settled.keys input (by simp [held])
      rw [up] at down
      cases down
  | route trigger =>
    rw [settled.routes, Mapper.routeHeld]
    cases found : mapper.routes.find? fun route => route.trigger = trigger with
    | none => rfl
    | some route =>
      have down := (settled.inputs route (List.mem_of_find?_eq_some found)).2
      rw [up] at down
      cases down

theorem Reached.count_le [Platform F] {past : Log F} {main : MainLoop F} (reached : Reached past main)
    (output : HeldOutput) :
    RefCount.count main.mapper.held output ≤ Ledger.holders past.claims output := by
  rw [reached.held]
  have empty : ∀ output, RefCount.count (.empty : IndexMap HeldOutput Nat) output ≤
      Ledger.holders ([] : List (Owner × HeldOutput)) output := fun _ => Nat.le_refl 0
  exact Ledger.tally_le empty past.events output

/-- Nothing is held when nothing is claimed. -/
theorem Reached.nothing_held [Platform F] {past : Log F} {main : MainLoop F}
    (reached : Reached past main) (unclaimed : past.claims = []) : main.mapper.held = .empty := by
  apply IndexMap.ext
  apply RefCount.entries_eq_nil reached.wf.held
  intro output
  have le := reached.count_le output
  rw [unclaimed] at le
  exact Nat.le_zero.mp le

/-! ## The emitted stream -/

omit [Scalar F] in
/-- The press or release that an effect is.  A key that a client asks for is pressed and
    released in one effect. -/
def Effect.stroke? : Effect F → Option (HeldOutput × Bool)
  | .output pushed => pushed.stroke?
  | _ => none

omit [Scalar F] in
/-- The presses and releases that a run emits. -/
def emittedStrokes (turns : List (Transition F)) : List (HeldOutput × Bool) :=
  turns.flatMap fun transition => transition.turn.effects.filterMap Effect.stroke?

omit [Scalar F] in
theorem emitOutput_strokes {mapper : Mapper F} {output : Output F} {effects : List (Effect F)}
    (emitted : emitOutput mapper output = .ok effects) :
    effects.filterMap Effect.stroke? = output.stroke?.toList := by
  cases output with
  | modeChanged name haptic =>
    obtain ⟨gamepad, _, done⟩ := bind_ok emitted
    cases done
    cases haptic <;> rfl
  | key code pressed =>
    cases emitted
    rfl
  | mouseButton button pressed =>
    cases emitted
    rfl
  | gamepadButton button pressed =>
    cases emitted
    rfl
  | trackpadHaptic | gamepadAxis | mouseMotion | scroll | keyboardToggle =>
    cases emitted
    rfl

omit [Scalar F] in
theorem emitOutputs_strokes {mapper : Mapper F} {outputs : List (Output F)}
    {effects : List (List (Effect F))} (emitted : outputs.mapM (emitOutput mapper) = .ok effects) :
    effects.flatten.filterMap Effect.stroke? = outputs.filterMap Output.stroke? := by
  induction outputs generalizing effects with
  | nil =>
    cases emitted
    rfl
  | cons output outputs inductionHypothesis =>
    rw [List.mapM_cons] at emitted
    obtain ⟨first, emits, rest⟩ := bind_ok emitted
    obtain ⟨more, emitsRest, done⟩ := bind_ok rest
    cases done
    rw [List.flatten_cons, List.filterMap_append, emitOutput_strokes emits,
      inductionHypothesis emitsRest]
    cases stroke : output.stroke? <;> simp [stroke]

omit [Scalar F] in
/-- Leaving out the toggles leaves out no stroke. -/
theorem strokes_untoggled (outputs : List (Output F)) :
    (outputs.filter fun output => !output.isToggle).filterMap Output.stroke? =
      outputs.filterMap Output.stroke? := by
  rw [List.filterMap_filter]
  congr 1
  funext output
  cases output <;> rfl

theorem emit_strokes {main : MainLoop F} {log : Log F} {turn : Turn F}
    (emitted : main.emit log = .ok turn) :
    turn.effects.filterMap Effect.stroke? = turn.log.strokes := by
  obtain ⟨effects, emits, done⟩ := bind_ok emitted
  cases done
  have strokes := emitOutputs_strokes emits
  rw [List.filterMap_append, strokes_untoggled] at strokes
  rw [strokes, logStrokes_append]
  rfl

omit [Scalar F] in
theorem publish_strokes (turn : Turn F) :
    turn.publish.effects.filterMap Effect.stroke? = turn.effects.filterMap Effect.stroke? := by
  rw [Turn.publish, List.filterMap_append]
  exact List.append_nil _

theorem carryOut_strokes {main : MainLoop F} {result : Mapper F × Log F} {turn : Turn F}
    (carried : main.carryOut result = .ok turn) :
    turn.effects.filterMap Effect.stroke? = turn.log.strokes := by
  obtain ⟨emitted, emits, done⟩ := bind_ok carried
  cases done
  exact (publish_strokes emitted).trans (emit_strokes emits)

variable [Platform F]

theorem respond_strokes {main : MainLoop F} {request : Request} {device : DeviceInfo} {now : Nat}
    {turn : Turn F} (responded : main.respond request device now = .ok turn) :
    turn.effects.filterMap Effect.stroke? = turn.log.strokes := by
  cases respond_answered responded with
  | reply => rfl
  | haptic => rfl
  | key => rfl
  | switch _ _ _ carries => exact carryOut_strokes carries
  | reload _ _ _ carries =>
    have strokes := carryOut_strokes carries
    exact strokes
  | hide _ _ _ emits =>
    have strokes := emit_strokes emits
    exact (publish_strokes _).trans strokes

omit [Platform F] in
theorem handle_strokes {main : MainLoop F} {event : DeviceEvent F} {now : Nat} {turn : Turn F}
    (handled : main.handle event now = .ok turn) :
    turn.effects.filterMap Effect.stroke? = turn.log.strokes := by
  cases event with
  | state state =>
    obtain ⟨result, _, rest⟩ := bind_ok handled
    obtain ⟨touchpad, _, rest⟩ := bind_ok rest
    obtain ⟨emitted, emits, done⟩ := bind_ok rest
    cases done
    rw [← emit_strokes emits, List.cons_append, List.filterMap_cons, List.filterMap_append]
    exact List.append_nil _
  | battery percent charging =>
    cases handled
    rfl
  | disconnected =>
    obtain ⟨gamepad, _, rest⟩ := bind_ok handled
    obtain ⟨result, _, rest⟩ := bind_ok rest
    obtain ⟨emitted, emits, done⟩ := bind_ok rest
    have strokes := emit_strokes emits
    cases done
    exact (publish_strokes _).trans strokes

/-- What a turn emits are the presses and releases that the mapper has logged. -/
theorem step_strokes {main : MainLoop F} {input : Input F} {turn : Turn F}
    (stepped : main.step input = .ok turn) :
    turn.effects.filterMap Effect.stroke? = turn.log.strokes := by
  cases input with
  | request request device now => exact respond_strokes stepped
  | event event now => exact handle_strokes stepped

theorem run_strokes {start final : MainLoop F} {turns : List (Transition F)}
    (run : start.Run turns final) : emittedStrokes turns = (runLog turns).strokes := by
  induction run with
  | refl => rfl
  | snoc _ turned inductionHypothesis =>
    cases turned with
    | turn stepped =>
      rw [runLog_snoc, logStrokes_append, ← inductionHypothesis, ← step_strokes stepped]
      simp [emittedStrokes]

/-! ## After a frame without buttons -/

/-- In every run of the loop: after a frame in which every button is up nothing is held, and
    in the stream that was emitted presses and releases alternate and every press is followed
    by a release.  Before it, as always, there are no routes while the keyboard is visible
    and no pressed inputs while it is hidden. -/
theorem nothing_stuck {config : Config F} {start main : MainLoop F} {turns : List (Transition F)}
    {state : ControllerState F} {now : Nat} {turn : Turn F} (accepted : config.Accepted)
    (started : MainLoop.start config = .ok start) (run : start.Run turns main)
    (up : ∀ button, state.buttons.contains button = false)
    (stepped : main.step (.event (.state state) now) = .ok turn) :
    (main.keyboard.visible = true → main.mapper.routes = []) ∧
    (main.keyboard.visible = false → main.mapper.activeOskBindings = []) ∧
    turn.main.mapper.held = .empty ∧
    Alternates (emittedStrokes (turns ++ [⟨main, .event (.state state) now, turn⟩])) ∧
    ∀ before output after,
      emittedStrokes (turns ++ [⟨main, .event (.state state) now, turn⟩]) =
        before ++ (output, true) :: after → (output, false) ∈ after := by
  have before := Reached.run accepted started run
  have whole : start.Run (turns ++ [⟨main, .event (.state state) now, turn⟩]) turn.main :=
    run.snoc (.turn stepped)
  have reached := Reached.run accepted started whole
  have previous : turn.main.mapper.previousButtons = state.buttons := by
    rw [Mapper.previousButtons, (step_kind stepped).previous before.wf]
    rfl
  have unclaimed := reached.settled.nothing_claimed (by
    rw [previous]
    exact up)
  have held := reached.nothing_held unclaimed
  have strokes := run_strokes whole
  refine ⟨fun visible => (before.settled.shown visible).1, ?_, held, ?_, ?_⟩
  · intro hidden
    rw [Mapper.activeOskBindings, List.filter_eq_nil_iff]
    intro input _
    rw [before.settled.hidden hidden]
    exact Bool.false_ne_true
  · rw [strokes]
    exact reached.stream.alternates
  · intro first output rest split
    apply released_of_up split
    rw [strokes, reached.stream.down, held]
    rfl

end

/-- The keyboard is opened, a key of it pressed, and every button let go. -/
theorem nothing_stuck_after_a_key :
    ∃ start turns main turn, MainLoop.start exampleConfig = .ok start ∧ start.Run turns main ∧
      main.step (framed [] 3) = .ok turn ∧ emittedStrokes turns = [(.key ⟨30⟩, true)] ∧
      turn.main.mapper.held = .empty ∧
      ∀ before output after, emittedStrokes (turns ++ [⟨main, framed [] 3, turn⟩]) =
        before ++ (output, true) :: after → (output, false) ∈ after := by
  obtain ⟨⟨⟨start, turns, main⟩, turn⟩, runs, pressed⟩ := map_ok
    (show (do
        let run ← MainLoop.runsFrom exampleConfig [framed [.steam] 0, framed [] 1, framed [.a] 2]
        let turn ← run.2.2.step (framed [] 3)
        return (run, turn) : Checked _).map (fun result => emittedStrokes result.1.2.1) =
          .ok [(.key ⟨30⟩, true)] by
      decide +kernel)
  obtain ⟨run, runs, rest⟩ := bind_ok runs
  obtain ⟨turn, stepped, done⟩ := bind_ok rest
  cases done
  obtain ⟨started, run⟩ := runsFrom_run runs
  have up : ∀ button, (Buttons.ofList []).contains button = false := by simp
  obtain ⟨_, _, held, _, released⟩ := nothing_stuck example_accepted started run up stepped
  exact ⟨start, turns, main, turn, started, run, stepped, pressed, held, released⟩

end Scd.Daemon
