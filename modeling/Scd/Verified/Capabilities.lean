import Scd.Daemon.Capabilities
import Scd.Verified.Activation
import Scd.Verified.Composition
import Scd.Verified.Firing
import Scd.Verified.Ownership
import Scd.Verified.StuckKeys
import Scd.Verified.Typing

/-! # No event is dropped by the kernel

Whatever a configuration binds and whatever a client types, the virtual keyboard is only given
keys that it declares, and the gamepad only values within the declared ranges.  The keys that
are typed are checked one by one.  Those of the mapper are not: a key that it presses was
claimed, only a binding of the configuration claims keys, and the parser has checked those.
-/

namespace Scd.Core

/-- A value that is clamped to the range of a stick, in single precision too: a NaN is cast to
    zero. -/
class StickScalar (F : Type) [Scalar F] : Prop extends LawfulScalar F where
  minus_one_lt_one : (-1.0 : F) < 1.0
  scaled_stick : ∀ value : F, ¬ value < -1.0 → ¬ value > 1.0 →
    -32768 ≤ Scalar.toInt (Scalar.round (value * if value < 0.0 then 32768.0 else 32767.0)) ∧
      Scalar.toInt (Scalar.round (value * if value < 0.0 then 32768.0 else 32767.0)) ≤ 32767

instance stickScalarRat : StickScalar ℚ where
  minus_one_lt_one := by norm_num
  scaled_stick := by
    intro value above below
    have cast : ∀ factor : ℚ, Scalar.toInt (Scalar.round (value * factor) : ℚ) =
        round (value * factor) := by
      intro factor
      change ((round (value * factor) : ℤ) : ℚ).num.tdiv ((round (value * factor) : ℤ) : ℚ).den = _
      simp
    have low : (-1 : ℚ) ≤ value := by
      have := not_lt.mp above
      norm_num at this
      exact this
    have high : value ≤ 1 := by
      have := not_lt.mp below
      norm_num at this
      exact this
    rw [cast, round_eq]
    constructor
    · apply Int.le_floor.mpr
      split <;> norm_num <;> linarith
    · apply Int.lt_add_one_iff.mp
      apply Int.floor_lt.mpr
      split
      · next negative =>
        norm_num at negative ⊢
        linarith
      · norm_num
        linarith

end Scd.Core

namespace Scd.Foundation

/-- What is released has been pressed. -/
theorem Alternates.pressed {ρ : Type} [DecidableEq ρ] {log : List (ρ × Bool)}
    (alternates : Alternates log) {resource : ρ} (released : (resource, false) ∈ log) :
    (resource, true) ∈ log := by
  have chain := alternates resource
  have moved : false ∈ strokes log resource := by
    simpa [strokes] using released
  cases own : strokes log resource with
  | nil => simp [own] at moved
  | cons first rest =>
    rw [own, List.isChain_cons_cons] at chain
    have pressed : true ∈ strokes log resource := by
      rw [own]
      cases first with
      | true => exact List.mem_cons_self
      | false => exact absurd rfl chain.1
    simpa [strokes] using pressed

end Scd.Foundation

namespace Scd.Daemon

open Scd.Core Scd.Foundation
open Evdev (KeyEvent MouseEvent InputEvent)

/-! ## The keys of the configuration -/

/-- A key that the output holds is one that a keyboard has. -/
def HeldOutput.Supported (output : HeldOutput) : Prop :=
  ∀ key, output = .key key → isKeyboardKey key = true

theorem supported_fromAction {action : Action} {output : HeldOutput}
    (keyboard : (GlobalAction.action action).OnKeyboard)
    (held : HeldOutput.fromAction action = some output) : output.Supported := by
  rintro key rfl
  cases action with
  | key code =>
    cases held
    exact keyboard key rfl
  | mouse | gamepad => cases held
  | modeSet | modeNext => cases held

theorem supported_global {binding : GlobalBinding} {output : HeldOutput}
    (keyboard : binding.action.OnKeyboard) (held : binding.held = some output) :
    output.Supported := by
  unfold GlobalBinding.held at held
  cases isAction : binding.action with
  | keyboardToggle => simp [isAction] at held
  | action action =>
    rw [isAction] at held keyboard
    exact supported_fromAction keyboard held

section

variable {F : Type} [Scalar F]

omit [Scalar F] in
/-- Only outputs that a keyboard has are claimed. -/
def Log.Supported (log : Log F) : Prop :=
  ∀ owner output, .claim owner output ∈ log.events → output.Supported

omit [Scalar F] in
theorem Log.Supported.append {first second : Log F} (early : first.Supported)
    (late : second.Supported) : Log.Supported (first ++ second) := by
  intro owner output claimed
  rw [events_append, List.mem_append] at claimed
  exact claimed.elim (early owner output) (late owner output)

omit [Scalar F] in
theorem Log.Supported.congr {log other : Log F} (supported : log.Supported)
    (same : other.events = log.events) : other.Supported := by
  intro owner output claimed
  rw [same] at claimed
  exact supported owner output claimed

omit [Scalar F] in
theorem supported_cancel {log : Log F} (cancels : log.events = [.cancel]) : log.Supported := by
  intro owner output claimed
  simp [cancels] at claimed

theorem GlobalsDone.supported {start : Mapper F} {buttons previousButtons : Buttons}
    {done : List (GlobalBinding × Nat)} {pass : GlobalPass F}
    (keyboard : ∀ item ∈ done, item.1.action.OnKeyboard)
    (past : GlobalsDone start buttons previousButtons done pass) : pass.log.Supported := by
  intro owner output claimed
  rw [past.events] at claimed
  obtain ⟨item, member, emitted⟩ := List.mem_flatMap.mp claimed
  obtain ⟨_, _, held⟩ := mem_visitEvents emitted
  exact supported_global (keyboard item member) held

omit [Scalar F] in
theorem zipIdx_onKeyboard [Scalar F] {mapper : Mapper F} (valid : mapper.config.Valid) :
    ∀ item ∈ mapper.config.globalBindings.zipIdx, item.1.action.OnKeyboard := by
  rintro ⟨binding, position⟩ member
  exact valid.globals binding (List.fst_mem_of_mem_zipIdx member)

theorem AllGlobals.supported {mapper : Mapper F} {state : ControllerState F} {globals : GlobalPass F}
    (all : AllGlobals mapper state globals) (valid : mapper.config.Valid) :
    globals.log.Supported :=
  GlobalsDone.supported (zipIdx_onKeyboard valid) all

/-- The binding that cuts the frame short claims nothing. -/
theorem GlobalsCut.supported {mapper : Mapper F} {state : ControllerState F}
    {buttons previousButtons : Buttons} {result : GlobalPass F} (valid : mapper.config.Valid)
    (cut : GlobalsCut (mapper.receive state) buttons previousButtons result) :
    result.log.Supported := by
  obtain ⟨done, binding, position, rest, pass, runtime, split, _, past, step⟩ := cut
  have keyboard : ∀ item ∈ done, item.1.action.OnKeyboard := by
    intro item member
    have listed : item ∈ (mapper.receive state).config.globalBindings.zipIdx := by
      rw [split]
      exact List.mem_append_left _ member
    exact zipIdx_onKeyboard valid item listed
  have before := GlobalsDone.supported keyboard past
  cases step with
  | toggle =>
    refine before.congr ?_
    simp [GlobalPass.append, GlobalPass.visit, Log.events, Entry.event?, Note.event?]
  | switch _ _ _ _ changed =>
    have fired : Log.Supported (pass.log ++ [.note (.fire position)]) := by
      refine before.congr ?_
      simp [Log.events, Entry.event?, Note.event?]
    exact fired.append (supported_cancel changed.events)

theorem OskDone.supported {start : Mapper F} {buttons reserved : Buttons}
    {pass : Pass F} (valid : start.config.Valid)
    (past : OskDone start buttons reserved start.config.oskBindings.entries pass) :
    pass.log.Supported := by
  rintro owner output claimed key rfl
  rw [past.events] at claimed
  obtain ⟨⟨input, bound⟩, member, emitted⟩ := List.mem_flatMap.mp claimed
  unfold oskEvents at emitted
  split at emitted
  · cases emitted
  · unfold heldEvent at emitted
    split at emitted
    · cases List.mem_singleton.mp emitted
      exact valid.osk_keys input bound (IndexMap.get?_eq_some_iff.mpr member)
    · cases List.mem_singleton.mp emitted

theorem RoutesReleased.supported {start : Mapper F} {buttons reserved captured : Buttons}
    {pass : Pass F} (released : RoutesReleased start buttons reserved captured 0 pass) :
    pass.log.Supported := by
  intro owner output claimed
  rw [released.events] at claimed
  obtain ⟨route, _, emitted⟩ := List.mem_flatMap.mp claimed
  obtain ⟨held, _, same⟩ := Option.map_eq_some_iff.mp (Option.mem_toList.mp emitted)
  cases same

theorem candidate_onKeyboard {mode : Mode F} (valid : mode.Valid) {buttons reserved : Buttons}
    {candidate : Candidate} (member : candidate ∈ candidates mode buttons reserved) :
    (GlobalAction.action candidate.binding.action).OnKeyboard := by
  rw [candidates_eq] at member
  obtain ⟨offer, offered, rfl⟩ := List.mem_map.mp member
  cases mem_rulebook (List.mem_of_mem_filter offered) with
  | inl ofMode => exact valid.bindings.keys offer.1 ofMode
  | inr ofLayer =>
    obtain ⟨layer, inMode, found⟩ := ofLayer
    exact (valid.layers layer inMode).keys offer.1 found

theorem StartsDone.supported {start : Mapper F} {buttons previousButtons : Buttons}
    {done : List Candidate} {pass : Pass F}
    (keyboard : ∀ candidate ∈ done, (GlobalAction.action candidate.binding.action).OnKeyboard)
    (past : StartsDone start buttons previousButtons done pass) : pass.log.Supported := by
  intro owner output claimed
  rw [past.events] at claimed
  obtain ⟨candidate, member, emitted⟩ := List.mem_flatMap.mp claimed
  obtain ⟨held, isHeld, same⟩ := Option.map_eq_some_iff.mp (Option.mem_toList.mp emitted)
  cases same
  exact supported_fromAction (keyboard candidate (not_busy_of_starting member).1) isHeld

/-- Neither does the candidate that does. -/
theorem StartsCut.supported {start : Mapper F} {buttons previousButtons : Buttons}
    {items : List Candidate} {result : Pass F}
    (keyboard : ∀ candidate ∈ items, (GlobalAction.action candidate.binding.action).OnKeyboard)
    (cut : StartsCut start buttons previousButtons items result) : result.log.Supported := by
  obtain ⟨done, candidate, rest, pass, rfl, past, step⟩ := cut
  have before := past.supported fun item member =>
    keyboard item (List.mem_append_left _ member)
  cases step with
  | switch _ _ changed => exact before.append (supported_cancel changed.events)

/-! ## Frames and turns -/

theorem Mapper.mode_valid {mapper : Mapper F} (valid : mapper.config.Valid) {mode : Mode F}
    (found : mapper.mode = .ok mode) : mode.Valid :=
  valid.modes mode (List.mem_of_getElem? (index_ok_iff.mp found))

theorem FrameKind.supported {mapper : Mapper F} {state : ControllerState F} {visible stopped : Bool}
    {pass : Pass F} (kind : FrameKind mapper state visible pass stopped)
    (valid : mapper.config.Valid) : pass.log.Supported := by
  have ended {globals : GlobalPass F} {released : Pass F} (all : AllGlobals mapper state globals)
      (routes : RoutesEnded state globals released) :
      Log.Supported (globals.log ++ released.log) ∧ released.mapper.config = mapper.config := by
    refine ⟨(AllGlobals.supported all valid).append (RoutesReleased.supported routes), ?_⟩
    rw [RoutesReleased.frame routes, Mapper.settle, AllGlobals.frame all]
    rfl
  cases kind with
  | globalsCut cut => exact cut.supported valid
  | @keyboard globals osk _ _ all done aside =>
    have same : globals.mapper.config = mapper.config := by
      rw [AllGlobals.frame all]
      rfl
    have keys := done.supported (same ▸ valid)
    exact ((AllGlobals.supported all valid).append keys).congr aside.events
  | startsCut _ all routes found cut =>
    obtain ⟨before, same⟩ := ended all routes
    have mode := Mapper.mode_valid (same ▸ valid) found
    have started := cut.supported fun candidate => candidate_onKeyboard mode
    rw [← List.append_assoc]
    exact before.append started
  | bindings _ all routes found done aside =>
    obtain ⟨before, same⟩ := ended all routes
    have mode := Mapper.mode_valid (same ▸ valid) found
    have started := done.supported fun candidate => candidate_onKeyboard mode
    refine (before.append started).congr ?_
    rw [aside.events, List.append_assoc]

omit [Scalar F] in
theorem supported_nil : Log.Supported ([] : Log F) := by
  intro owner output claimed
  simp at claimed

variable [Platform F]

theorem TurnKind.supported {main : MainLoop F} {input : Input F} {turn : Turn F}
    (kind : TurnKind main input turn) (wf : main.mapper.Wf) (valid : main.mapper.config.Valid) :
    turn.log.Supported := by
  cases kind with
  | idle _ _ _ _ log =>
    rw [log]
    exact supported_nil
  | switch mode _ switches =>
    rcases switchMode_changes wf switches with ⟨_, log⟩ | changed
    · rw [log]
      exact supported_nil
    · exact supported_cancel changed.events
  | reload config accepted reloads =>
    exact supported_cancel (changed_of_reload accepted.wellFormed reloads).1.events
  | hide _ _ _ suspends =>
    have log : turn.log = main.mapper.suspend.2 := congrArg Prod.snd suspends
    rw [log]
    exact supported_cancel (events_releaseOutputs main.mapper)
  | @frame state now turn mapper log processes _ logged =>
    obtain ⟨stopped, kind⟩ := process_kind wf processes
    rw [logged]
    refine (kind.supported valid).append ?_
    split
    · exact supported_cancel (events_releaseOutputs mapper)
    · exact supported_nil
  | disconnect released =>
    obtain ⟨reset, _, _, log⟩ := releaseAll_cases released
    rw [log]
    exact supported_cancel (events_releaseOutputs main.mapper)

/-! ## Keys that are pressed -/

omit [Scalar F] [Platform F] in
/-- What is pressed is claimed. -/
def Log.Backed (log : Log F) : Prop :=
  ∀ output, (output, true) ∈ log.strokes → ∃ owner, .claim owner output ∈ log.events

omit [Scalar F] [Platform F] in
theorem Log.Backed.append {first second : Log F} (early : first.Backed) (late : second.Backed) :
    Log.Backed (first ++ second) := by
  intro output pressed
  rw [logStrokes_append, List.mem_append] at pressed
  rw [events_append]
  cases pressed with
  | inl old =>
    obtain ⟨owner, claimed⟩ := early output old
    exact ⟨owner, List.mem_append_left _ claimed⟩
  | inr new =>
    obtain ⟨owner, claimed⟩ := late output new
    exact ⟨owner, List.mem_append_right _ claimed⟩

omit [Scalar F] [Platform F] in
theorem backed_of_unpressed {log : Log F} (unpressed : ∀ output, (output, true) ∉ log.strokes) :
    log.Backed := fun output pressed => absurd pressed (unpressed output)

omit [Platform F] in
theorem releaseOutputs_unpressed (mapper : Mapper F) (output : HeldOutput) :
    (output, true) ∉ mapper.releaseOutputs.2.strokes := by
  obtain ⟨cleared, _, log, _⟩ := releaseOutputs_log mapper
  obtain ⟨released, _⟩ := @releases_stream F mapper.held.keys.reverse
  rw [log, logStrokes_append, logStrokes_append, released,
    (setGamepadAxes_log (fun _ => 0.0) GamepadAxis.all cleared).1]
  simp [Log.strokes, Log.outputs, Entry.output?]

omit [Platform F] in
theorem Move.backed {before after : Mapper F} {log : Log F} (move : Move before log after) :
    log.Backed := by
  cases move with
  | quiet _ _ _ silent =>
    refine backed_of_unpressed fun output => ?_
    simp [silent.stream.1]
  | hold owner output active =>
    intro other pressed
    rw [(heldLog_stream before.held owner output active).1] at pressed
    split at pressed
    · cases List.mem_singleton.mp pressed
      exact ⟨owner, by simp [heldEvent]⟩
    · cases pressed
  | axis axis value =>
    refine backed_of_unpressed fun output => ?_
    simp [(setGamepadAxis_log before axis value).1]
  | release => exact backed_of_unpressed (releaseOutputs_unpressed before)

omit [Scalar F] [Platform F] in
theorem backed_nil : Log.Backed ([] : Log F) := backed_of_unpressed fun output => by
  simp [Log.strokes, Log.outputs]

omit [Platform F] in
theorem Moves.backed {before after : Mapper F} {log : Log F} (moves : Moves before log after) :
    log.Backed := by
  induction moves with
  | refl => exact backed_nil
  | snoc _ move inductionHypothesis => exact inductionHypothesis.append move.backed

omit [Platform F] in
theorem Steps.backed {before after : Mapper F} {log : Log F} (steps : Steps before log after) :
    log.Backed := by
  cases steps with
  | moves moves => exact Moves.backed moves
  | @changes first _ mid _ moves changed =>
    obtain ⟨name, haptic, rfl⟩ := changed.log
    refine (Moves.backed moves).append (backed_of_unpressed fun output pressed => ?_)
    rw [logStrokes_append, List.mem_append] at pressed
    cases pressed with
    | inl released => exact releaseOutputs_unpressed mid output released
    | inr changed => simp [Log.strokes, Log.outputs, Entry.output?, Output.stroke?] at changed

omit [Platform F] in
theorem Calls.backed {before after : Mapper F} {log : Log F} (calls : Calls before log after) :
    log.Backed := by
  induction calls with
  | refl => exact backed_nil
  | snoc _ steps inductionHypothesis => exact inductionHypothesis.append steps.backed

/-! ## Keys that are typed -/

omit [Scalar F] [Platform F] in
/-- A key that a client types. -/
def Effect.typed? : Effect F → Option KeyCode
  | .key typed _ => some typed
  | _ => none

omit [Scalar F] [Platform F] in
theorem emitOutputs_typed {mapper : Mapper F} {outputs : List (Output F)}
    {effects : List (List (Effect F))} (emitted : outputs.mapM (emitOutput mapper) = .ok effects) :
    effects.flatten.filterMap Effect.typed? = [] := by
  induction outputs generalizing effects with
  | nil =>
    cases emitted
    rfl
  | cons output outputs inductionHypothesis =>
    rw [List.mapM_cons] at emitted
    obtain ⟨first, emits, rest⟩ := bind_ok emitted
    obtain ⟨more, emitsRest, done⟩ := bind_ok rest
    cases done
    rw [List.flatten_cons, List.filterMap_append, inductionHypothesis emitsRest, List.append_nil]
    cases output with
    | modeChanged name haptic =>
      obtain ⟨gamepad, _, done⟩ := bind_ok emits
      cases done
      cases haptic <;> rfl
    | trackpadHaptic | key | mouseButton | gamepadButton | gamepadAxis | mouseMotion | scroll
      | keyboardToggle =>
      cases emits
      rfl

omit [Platform F] in
theorem emit_typed {main : MainLoop F} {log : Log F} {turn : Turn F}
    (emitted : main.emit log = .ok turn) : turn.effects.filterMap Effect.typed? = [] := by
  obtain ⟨effects, emits, done⟩ := bind_ok emitted
  cases done
  exact emitOutputs_typed emits

omit [Scalar F] [Platform F] in
theorem publish_typed (turn : Turn F) :
    turn.publish.effects.filterMap Effect.typed? = turn.effects.filterMap Effect.typed? := by
  rw [Turn.publish, List.filterMap_append]
  exact List.append_nil _

omit [Platform F] in
theorem carryOut_typed {main : MainLoop F} {result : Mapper F × Log F} {turn : Turn F}
    (carried : main.carryOut result = .ok turn) : turn.effects.filterMap Effect.typed? = [] := by
  obtain ⟨emitted, emits, done⟩ := bind_ok carried
  cases done
  exact (publish_typed emitted).trans (emit_typed emits)

/-- The code of a request is checked before it is typed. -/
theorem respond_typed {main : MainLoop F} {request : Request} {device : DeviceInfo} {now : Nat}
    {turn : Turn F} (responded : main.respond request device now = .ok turn) :
    ∀ key ∈ turn.effects.filterMap Effect.typed?, isKeyboardKey key = true := by
  have none (nothing : turn.effects.filterMap Effect.typed? = []) :
      ∀ key ∈ turn.effects.filterMap Effect.typed?, isKeyboardKey key = true := by
    simp [nothing]
  cases respond_answered responded with
  | reply => exact none rfl
  | haptic => exact none rfl
  | @key session code shift =>
    intro key typed
    obtain rfl : key = ⟨code⟩ := by simpa [Effect.typed?] using typed
    simp only [MainLoop.respond, MainLoop.key, Except.ok.injEq] at responded
    split at responded
    · have effects := congrArg Turn.effects responded
      simp [MainLoop.reply] at effects
    · split at responded
      · have effects := congrArg Turn.effects responded
        simp [MainLoop.reply] at effects
      · next checked => simpa using checked
  | switch _ _ _ carries => exact none (carryOut_typed carries)
  | reload _ _ _ carries =>
    have typed := carryOut_typed carries
    exact none typed
  | hide _ _ _ emits =>
    have typed := emit_typed emits
    exact none ((publish_typed _).trans typed)

omit [Platform F] in
theorem handle_typed {main : MainLoop F} {event : DeviceEvent F} {now : Nat} {turn : Turn F}
    (handled : main.handle event now = .ok turn) :
    turn.effects.filterMap Effect.typed? = [] := by
  cases event with
  | state state =>
    obtain ⟨result, _, rest⟩ := bind_ok handled
    obtain ⟨touchpad, _, rest⟩ := bind_ok rest
    obtain ⟨emitted, emits, done⟩ := bind_ok rest
    cases done
    rw [← emit_typed emits, List.cons_append, List.filterMap_cons, List.filterMap_append]
    exact List.append_nil _
  | battery percent charging =>
    cases handled
    rfl
  | disconnected =>
    obtain ⟨gamepad, _, rest⟩ := bind_ok handled
    obtain ⟨result, _, rest⟩ := bind_ok rest
    obtain ⟨emitted, emits, done⟩ := bind_ok rest
    have typed := emit_typed emits
    cases done
    exact (publish_typed _).trans typed

theorem step_typed {main : MainLoop F} {input : Input F} {turn : Turn F}
    (stepped : main.step input = .ok turn) :
    ∀ key ∈ turn.effects.filterMap Effect.typed?, isKeyboardKey key = true := by
  cases input with
  | request request device now => exact respond_typed stepped
  | event event now =>
    intro key typed
    rw [handle_typed stepped] at typed
    cases typed

/-! ## Runs of the loop -/

theorem run_typed {start final : MainLoop F} {turns : List (Transition F)}
    (run : start.Run turns final) :
    ∀ key ∈ (turns.flatMap (·.turn.effects)).filterMap Effect.typed?, isKeyboardKey key = true := by
  induction run with
  | refl => simp
  | snoc _ turned inductionHypothesis =>
    cases turned with
    | turn stepped =>
      intro key typed
      rw [List.flatMap_append, List.filterMap_append, List.mem_append] at typed
      cases typed with
      | inl earlier => exact inductionHypothesis key earlier
      | inr now => exact step_typed stepped key (by simpa using now)

omit [Scalar F] [Platform F] in
/-- The effect gives the keyboard only a key that it has. -/
def Effect.Supported (effect : Effect F) : Prop :=
  (∀ output pressed, effect.stroke? = some (output, pressed) → output.Supported) ∧
    ∀ key, effect.typed? = some key → isKeyboardKey key = true

variable [LawfulScalar F]

theorem config_valid_run {config : Config F} {start final : MainLoop F} {turns : List (Transition F)}
    (accepted : config.Accepted) (started : MainLoop.start config = .ok start)
    (run : start.Run turns final) : final.mapper.config.Valid :=
  (activated_run accepted started run).valid

/-- The mapper claims and presses only what a keyboard has. -/
theorem log_supported {config : Config F} {start final : MainLoop F} {turns : List (Transition F)}
    (accepted : config.Accepted) (started : MainLoop.start config = .ok start)
    (run : start.Run turns final) : (runLog turns).Supported ∧ (runLog turns).Backed := by
  induction run with
  | refl => exact ⟨supported_nil, backed_nil⟩
  | @snoc _ _ _ mid earlier turned inductionHypothesis =>
    cases turned with
    | turn stepped =>
      have wf := (Reached.run accepted started earlier).wf
      have valid := config_valid_run accepted started earlier
      rw [runLog_snoc]
      exact ⟨inductionHypothesis.1.append ((step_kind stepped).supported wf valid),
        inductionHypothesis.2.append ((step_kind stepped).calls wf).backed⟩

/-- What is pressed has been claimed, and what is released has been pressed. -/
theorem stroke_supported {config : Config F} {start final : MainLoop F}
    {turns : List (Transition F)} (accepted : config.Accepted)
    (started : MainLoop.start config = .ok start) (run : start.Run turns final)
    {output : HeldOutput} {pressed : Bool} (stroke : (output, pressed) ∈ (runLog turns).strokes) :
    output.Supported := by
  have down : (output, true) ∈ (runLog turns).strokes := by
    cases pressed with
    | true => exact stroke
    | false => exact (Reached.run accepted started run).stream.alternates.pressed stroke
  obtain ⟨supported, backed⟩ := log_supported accepted started run
  obtain ⟨owner, claimed⟩ := backed output down
  exact supported owner output claimed

theorem effects_supported {config : Config F} {start final : MainLoop F}
    {turns : List (Transition F)} (accepted : config.Accepted)
    (started : MainLoop.start config = .ok start) (run : start.Run turns final) {effect : Effect F}
    (member : effect ∈ turns.flatMap (·.turn.effects)) : effect.Supported := by
  constructor
  · intro output pressed stroke
    obtain ⟨transition, turned, emitted⟩ := List.mem_flatMap.mp member
    have logged : (output, pressed) ∈ (runLog turns).strokes := by
      rw [← run_strokes run, emittedStrokes]
      exact List.mem_flatMap.mpr
        ⟨transition, turned, List.mem_filterMap.mpr ⟨effect, emitted, stroke⟩⟩
    exact stroke_supported accepted started run logged
  · intro key typed
    exact run_typed run key (List.mem_filterMap.mpr ⟨effect, member, typed⟩)

end

/-! ## The devices -/

theorem mem_keyboardKeys {key : KeyCode} : key ∈ Outputs.keyboardKeys ↔ isKeyboardKey key = true := by
  rw [Outputs.keyboardKeys, List.mem_filter]
  constructor
  · exact And.right
  · intro keyboard
    refine ⟨List.mem_map.mpr ⟨key.code.toNat, ?_, ?_⟩, keyboard⟩
    · simp only [isKeyboardKey, Bool.and_eq_true, bne_iff_ne, ne_eq, decide_eq_true_eq,
        ← UInt16.toNat_inj, UInt16.le_iff_toNat_le] at keyboard
      simp only [List.mem_range'_1]
      have positive := keyboard.1.1.1.1
      have small := keyboard.1.1.1.2
      simp at positive small
      omega
    · cases key
      simp

theorem stroke_pressedValue (pressed : Bool) : isStroke (Outputs.pressedValue pressed) := by
  cases pressed with
  | true => exact .inr rfl
  | false => exact .inl rfl

theorem stroke_fromBool (pressed : Bool) : isStroke (Xbox.fromBool pressed) :=
  stroke_pressedValue pressed

section

variable {F : Type} [Scalar F] [StickScalar F]

theorem stickValue_range (value : F) :
    -32768 ≤ Xbox.stickValue value ∧ Xbox.stickValue value ≤ 32767 := by
  obtain ⟨low, high⟩ := clamp_within StickScalar.minus_one_lt_one value
  exact StickScalar.scaled_stick _ low high

theorem hat_range (left right : Bool) :
    -1 ≤ Xbox.fromBool left - Xbox.fromBool right ∧ Xbox.fromBool left - Xbox.fromBool right ≤ 1 := by
  cases left <;> cases right <;> decide

omit [Scalar F] [StickScalar F] in
theorem declared_absolute {code : Evdev.AbsoluteAxis} (info : Evdev.AbsInfo) {value : Int}
    (declared : (code, info) ∈ Xbox.axes) (low : info.minimum ≤ value) (high : value ≤ info.maximum) :
    (InputEvent.absolute code value).Declared := ⟨info, declared, low, high⟩

/-- A button of the gamepad is a key of it, or lies on an axis. -/
theorem emitButton_declared (xbox : Xbox) (button : GamepadButton) (pressed : Bool) :
    ∀ event ∈ (xbox.emitButton button pressed).2, event.Declared := by
  have pulled : 0 ≤ Xbox.fromBool pressed * 255 ∧ Xbox.fromBool pressed * 255 ≤ 255 := by
    cases pressed <;> decide
  intro event emitted
  cases button with
  | leftTrigger | rightTrigger =>
    cases emitted
    exact declared_absolute Xbox.trigger (by simp [Xbox.axes]) pulled.1 pulled.2
  | dpadUp | dpadDown | dpadLeft | dpadRight =>
    cases emitted
    exact declared_absolute Xbox.hat (by simp [Xbox.axes]) (hat_range _ _).1
      (hat_range _ _).2
  | paddleLeftUpper | paddleLeftLower | paddleRightUpper | paddleRightLower => cases emitted
  | south | east | north | west | leftBumper | rightBumper | select | start | guide | leftStick
    | rightStick =>
    cases emitted
    exact ⟨by simp [Xbox.keys], stroke_fromBool pressed⟩

theorem emitAxis_declared (axis : GamepadAxis) (value : F) :
    (Xbox.emitAxis axis value).Declared := by
  cases axis with
  | leftX | leftY | rightX | rightY =>
    exact declared_absolute Xbox.stick (by simp [Xbox.axes]) (stickValue_range value).1
      (stickValue_range value).2
  | leftTrigger | rightTrigger =>
    exact declared_absolute Xbox.trigger (by simp [Xbox.axes])
      (Xbox.triggerValue_range value).1 (Xbox.triggerValue_range value).2

omit [StickScalar F] in
theorem toI32_range (value : F) :
    -2147483648 ≤ Outputs.toI32 value ∧ Outputs.toI32 value ≤ 2147483647 := by
  unfold Outputs.toI32
  omega

omit [StickScalar F] in
theorem emitRelative_declared {remainder value : F × F}
    {axes : Evdev.RelativeAxis × Evdev.RelativeAxis} (across : axes.1 ∈ Outputs.mouseAxes)
    (along : axes.2 ∈ Outputs.mouseAxes) :
    ∀ event ∈ (Outputs.emitRelative remainder axes value).1, event.Declared := by
  intro event emitted
  unfold Outputs.emitRelative at emitted
  dsimp only at emitted
  split at emitted
  · cases emitted
  · simp only [List.mem_cons, List.not_mem_nil, or_false] at emitted
    rcases emitted with rfl | rfl
    · exact ⟨across, toI32_range _⟩
    · exact ⟨along, toI32_range _⟩

namespace Outputs.Declared

variable {outputs : Outputs F}

omit [Scalar F] [StickScalar F] in
/-- The events of an effect that only gives the keyboard keys that it has. -/
theorem eventsOf {effect : Effect F} (supported : effect.Supported) :
    ∀ event ∈ outputs.eventsOf effect, event.Declared := by
  intro event emitted
  cases effect with
  | output output =>
    cases output with
    | key key pressed =>
      cases List.mem_singleton.mp emitted
      exact ⟨mem_keyboardKeys.mpr (supported.1 (.key key) pressed rfl key rfl),
        stroke_pressedValue pressed⟩
    | _ => cases emitted
  | key key shift =>
    have typed : key ∈ keyboardKeys := mem_keyboardKeys.mpr (supported.2 key rfl)
    have shifted : KeyCode.leftShift ∈ keyboardKeys := mem_keyboardKeys.mpr rfl
    simp only [Outputs.eventsOf, keyEvents] at emitted
    split at emitted
    · simp only [List.mem_cons, List.not_mem_nil, or_false] at emitted
      rcases emitted with rfl | rfl | rfl | rfl
      · exact ⟨shifted, .inr rfl⟩
      · exact ⟨typed, .inr rfl⟩
      · exact ⟨typed, .inl rfl⟩
      · exact ⟨shifted, .inl rfl⟩
    · simp only [List.mem_cons, List.not_mem_nil, or_false] at emitted
      rcases emitted with rfl | rfl
      · exact ⟨typed, .inr rfl⟩
      · exact ⟨typed, .inl rfl⟩
  | _ => cases emitted

omit [StickScalar F] in
/-- The events of the mouse. -/
theorem mouse_perform (declared : outputs.Declared) (effect : Effect F) :
    ∀ event ∈ (outputs.perform effect).mouse, event.Declared := by
  have appended {events : List MouseEvent} (new : ∀ event ∈ events, event.Declared) :
      ∀ event ∈ outputs.mouse ++ events, event.Declared := by
    intro event member
    exact (List.mem_append.mp member).elim (declared.mouse event) (new event)
  cases effect with
  | output output =>
    cases output with
    | mouseButton button pressed =>
      apply appended
      intro event emitted
      cases List.mem_singleton.mp emitted
      exact ⟨by cases button <;> simp [mouseKeys], stroke_pressedValue pressed⟩
    | mouseMotion x y =>
      exact appended (emitRelative_declared (by simp [mouseAxes]) (by simp [mouseAxes]))
    | scroll x y =>
      exact appended (emitRelative_declared (by simp [mouseAxes]) (by simp [mouseAxes]))
    | key key pressed =>
      simp only [perform, emit]
      split
      · exact declared.mouse
      split <;> exact declared.mouse
    | _ => exact declared.mouse
  | setGamepad gamepad =>
    simp only [perform, setGamepad]
    split <;> exact declared.mouse
  | _ => exact declared.mouse

/-- The events of the Xbox gamepad. -/
theorem gamepad_perform (declared : outputs.Declared) (effect : Effect F) {xbox : Xbox}
    {events : List InputEvent}
    (plugged : (outputs.perform effect).gamepad = some (.xbox xbox events)) :
    ∀ event ∈ events, event.Declared := by
  cases effect with
  | output output =>
    cases output with
    | gamepadButton button pressed =>
      obtain ⟨gamepad, before, emits⟩ := Option.map_eq_some_iff.mp plugged
      cases gamepad with
      | dualShock4 gamepad => cases emits
      | xbox gamepad earlier =>
        cases emits
        intro event member
        rw [List.mem_append, Option.mem_toList] at member
        exact member.elim (declared.gamepad gamepad earlier before event)
          (emitButton_declared gamepad button pressed event)
    | gamepadAxis axis value =>
      obtain ⟨gamepad, before, emits⟩ := Option.map_eq_some_iff.mp plugged
      cases gamepad with
      | dualShock4 gamepad => cases emits
      | xbox gamepad earlier =>
        cases emits
        intro event member
        rw [List.mem_append, List.mem_singleton] at member
        cases member with
        | inl old => exact declared.gamepad xbox earlier before event old
        | inr new =>
          rw [new]
          exact emitAxis_declared axis value
    | key key pressed =>
      simp only [perform, emit] at plugged
      split at plugged
      · exact declared.gamepad xbox events plugged
      split at plugged <;> exact declared.gamepad xbox events plugged
    | _ => exact declared.gamepad xbox events plugged
  | setGamepad kind =>
    simp only [perform, setGamepad] at plugged
    split at plugged
    · exact declared.gamepad xbox events plugged
    · -- a new gamepad has no events
      cases kind with
      | none | dualShock4 => cases plugged
      | xbox =>
        cases plugged
        simp
  | gamepadSource state touchpad =>
    obtain ⟨gamepad, before, emits⟩ := Option.map_eq_some_iff.mp plugged
    cases gamepad with
    | dualShock4 gamepad => cases emits
    | xbox gamepad earlier =>
      cases emits
      exact declared.gamepad xbox events before
  | gamepadBattery percent =>
    obtain ⟨gamepad, before, emits⟩ := Option.map_eq_some_iff.mp plugged
    cases gamepad with
    | dualShock4 gamepad => cases emits
    | xbox gamepad earlier =>
      cases emits
      exact declared.gamepad xbox events before
  | _ => exact declared.gamepad xbox events plugged

theorem perform (declared : outputs.Declared) {effect : Effect F} (supported : effect.Supported) :
    (outputs.perform effect).Declared where
  keyboard := by
    rw [keyboard_perform]
    intro event member
    exact (List.mem_append.mp member).elim (declared.keyboard event) (eventsOf supported event)
  mouse := declared.mouse_perform effect
  gamepad := fun _ _ => declared.gamepad_perform effect

theorem performAll (declared : outputs.Declared) {effects : List (Effect F)}
    (supported : ∀ effect ∈ effects, effect.Supported) : (outputs.performAll effects).Declared := by
  induction effects generalizing outputs with
  | nil => exact declared
  | cons effect effects inductionHypothesis =>
    have first := declared.perform (supported effect List.mem_cons_self)
    exact inductionHypothesis first fun later member =>
      supported later (List.mem_cons_of_mem effect member)

omit [StickScalar F] in
theorem new (kind : Gamepad) : (Outputs.new kind : Outputs F).Declared := by
  cases kind with
  | none | dualShock4 =>
    refine ⟨by simp [Outputs.new, setGamepad], by simp [Outputs.new, setGamepad], ?_⟩
    intro xbox events plugged
    cases plugged
  | xbox =>
    refine ⟨by simp [Outputs.new, setGamepad], by simp [Outputs.new, setGamepad], ?_⟩
    intro xbox events plugged
    cases plugged
    simp

end Outputs.Declared

/-! ## Runs of the daemon -/

variable {P : Type} [DecidableEq (OskState F)] [Platform F]

/-- In every run of the daemon, whatever configurations it is given and whatever its clients
    send: each event that a virtual device gets is one of those that it declares, so that the
    kernel drops none. -/
theorem devices_declare_events {config : Config F} (accepted : config.Accepted) {world : World P}
    {start final : Program P F} (started : Program.start config world = .ok start)
    {fromStr : List UInt8 → Option Request} {seen : List (Occurrence F)}
    (run : start.Run fromStr seen final) : final.outputs.Declared := by
  have initial : Program.Parts fromStr config [] start := Program.start_parts started
  obtain ⟨_, composed⟩ := Program.Run.composed run (Program.Sound.start accepted started)
  obtain ⟨main, begins, rest⟩ := initial.main
  obtain ⟨gamepad, outputs⟩ := initial.outputs
  have whole : main.Run (turnsOf seen) final.main := by simpa using rest.trans composed.main
  rw [composed.outputs, outputs]
  refine Outputs.Declared.performAll (.new gamepad) fun effect performed => ?_
  -- what is performed was the effect of a turn
  apply effects_supported accepted begins whole
  have pending : start.place.pending = [] := by simpa using initial.effects.symm
  have effects := composed.effects
  rw [pending, List.nil_append] at effects
  rw [effects]
  exact List.mem_append_left _ performed

/-- The loop comes to the press of a key. -/
theorem devices_declare_events_pressed :
    ∃ final : Program Unit ℚ, final.outputs.keyboard = [⟨⟨48⟩, 1⟩] ∧ final.outputs.Declared := by
  obtain ⟨⟨start, final, seen⟩, runs, keyboard⟩ := map_ok
    (show (do
        let start ← Program.start exampleConfig pressingWorld
        let (final, seen) ← start.advances pressingWorld 5
        return (start, final, seen) : Checked (Program Unit ℚ × Program Unit ℚ × _)).map
          (·.2.1.outputs.keyboard) = .ok [⟨⟨48⟩, 1⟩] by decide +kernel)
  obtain ⟨start, started, rest⟩ := bind_ok runs
  obtain ⟨⟨final, seen⟩, advances, done⟩ := bind_ok rest
  cases done
  exact ⟨final, keyboard, devices_declare_events example_accepted started
    (Program.advances_run Ipc.parseLine advances)⟩

end

end Scd.Daemon
