import Scd.Daemon.Outputs
import Scd.Verified.Settlement

/-! # The battery level of the virtual gamepad

A DualShock 4 reports a battery level.  A new one starts at fifty percent and is not told
what is known of the battery, so its report is wrong until the controller sends the level
again.  A run shows the last level throughout exactly when it never plugs in a DualShock 4
while a level is known that a new one does not show.
-/

namespace Scd.Daemon

open Scd.Core Scd.Foundation
open DualShock (State DualShock4)

/-- The battery byte of a report, for a percentage. -/
def batteryLevel (percent : UInt8) : UInt8 := 0x10 ||| (if percent ≥ 100 then 11 else percent / 10)

/-- The percentage that a new DualShock 4 reports. -/
def newBattery : UInt8 := State.default.batteryPercent

/-! ## The gamepad -/

namespace DualShock.DualShock4

/-- The report shows a percentage, and will go on doing so. -/
structure ReportsBattery (gamepad : DualShock4) (percent : UInt8) : Prop where
  state : gamepad.state.batteryPercent = percent
  report : gamepad.report[30] = batteryLevel percent

variable {gamepad : DualShock4} {percent : UInt8}

theorem reportsBattery_new : DualShock4.new.ReportsBattery newBattery := ⟨rfl, rfl⟩

theorem reportsBattery_setBattery (gamepad : DualShock4) (percent : UInt8) :
    (gamepad.setBattery percent).ReportsBattery percent := ⟨rfl, rfl⟩

namespace ReportsBattery

/-- Whatever changes the state makes a report of it, the battery included. -/
theorem emitButton (reports : gamepad.ReportsBattery percent) (button : GamepadButton)
    (pressed : Bool) : (gamepad.emitButton button pressed).ReportsBattery percent := by
  cases button with
  | paddleLeftUpper | paddleLeftLower | paddleRightUpper | paddleRightLower => exact reports
  | _ => exact ⟨reports.state, congrArg batteryLevel reports.state⟩

variable {F : Type} [Scalar F]

theorem emitAxis (reports : gamepad.ReportsBattery percent) (axis : GamepadAxis) (value : F) :
    (gamepad.emitAxis axis value).ReportsBattery percent := by
  cases axis <;> exact ⟨reports.state, congrArg batteryLevel reports.state⟩

theorem updateSource (reports : gamepad.ReportsBattery percent) (state : ControllerState F)
    (touchpad : Option Trackpad) : (gamepad.updateSource state touchpad).ReportsBattery percent :=
  ⟨reports.state, congrArg batteryLevel reports.state⟩

end ReportsBattery

end DualShock.DualShock4

/-! ## What is plugged in -/

/-- What the battery depends on: the kind of the gamepad, and the percentage that a
    DualShock 4 was told last. -/
structure Plugged where
  kind : Gamepad
  percent : UInt8

/-- A change of what is plugged in. -/
inductive PlugEvent where
  | plug (kind : Gamepad)
  | tell (percent : UInt8)

def Plugged.after (plugged : Plugged) : PlugEvent → Plugged
  | .plug kind => if kind = plugged.kind then plugged else ⟨kind, newBattery⟩
  | .tell percent => { plugged with percent }

def Effect.plugEvent? {F : Type} : Effect F → Option PlugEvent
  | .setGamepad kind => some (.plug kind)
  | .gamepadBattery percent => some (.tell percent)
  | _ => none

def plugEvents {F : Type} (effects : List (Effect F)) : List PlugEvent :=
  effects.filterMap Effect.plugEvent?

section

variable {F : Type} [Scalar F]

namespace Outputs

/-- The gamepad is of this kind, and a DualShock 4 reports this percentage. -/
structure Shows (outputs : Outputs F) (plugged : Plugged) : Prop where
  kind : outputs.gamepadType = plugged.kind
  present : plugged.kind = .dualShock4 → ∃ gamepad, outputs.gamepad = some (.dualShock4 gamepad)
  reports : ∀ gamepad, outputs.gamepad = some (.dualShock4 gamepad) →
    plugged.kind = .dualShock4 ∧ gamepad.ReportsBattery plugged.percent

variable {outputs : Outputs F} {plugged : Plugged}

omit [Scalar F] in
/-- What becomes of the gamepad when it is given something. -/
theorem Shows.map (shows : outputs.Shows plugged) {percent : UInt8}
    {change : VirtualGamepad → VirtualGamepad} {moved : DualShock4 → DualShock4}
    (other : ∀ gamepad events, ∃ more, ∃ after, change (.xbox gamepad events) = .xbox after more)
    (same : ∀ gamepad, change (.dualShock4 gamepad) = .dualShock4 (moved gamepad))
    (keeps : ∀ gamepad : DualShock4, gamepad.ReportsBattery plugged.percent →
      (moved gamepad).ReportsBattery percent) :
    Shows { outputs with gamepad := outputs.gamepad.map change } ⟨plugged.kind, percent⟩ where
  kind := shows.kind
  present := by
    intro dualShock
    obtain ⟨gamepad, found⟩ := shows.present dualShock
    exact ⟨moved gamepad, by simp only [found, Option.map_some, same]⟩
  reports := by
    intro gamepad found
    obtain ⟨before, present, rest⟩ := Option.map_eq_some_iff.mp found
    cases before with
    | xbox xbox events =>
      obtain ⟨more, after, isXbox⟩ := other xbox events
      rw [isXbox] at rest
      cases rest
    | dualShock4 before =>
      rw [same] at rest
      cases rest
      obtain ⟨dualShock, reports⟩ := shows.reports before present
      exact ⟨dualShock, keeps before reports⟩

/-- An output for the gamepad does not touch the battery. -/
theorem Shows.emit (shows : outputs.Shows plugged) (command : Output F) :
    (outputs.emit command).Shows plugged := by
  cases command with
  | gamepadButton button pressed =>
    exact shows.map (fun _ _ => ⟨_, _, rfl⟩) (fun _ => rfl) fun _ reports =>
      reports.emitButton button pressed
  | gamepadAxis axis value =>
    exact shows.map (fun _ _ => ⟨_, _, rfl⟩) (fun _ => rfl) fun _ reports =>
      reports.emitAxis axis value
  | key key pressed =>
    simp only [Outputs.emit]
    split
    · exact ⟨shows.kind, shows.present, shows.reports⟩
    split <;> exact ⟨shows.kind, shows.present, shows.reports⟩
  | _ => exact ⟨shows.kind, shows.present, shows.reports⟩

omit [Scalar F] in
/-- A new gamepad replaces one of another kind only. -/
theorem Shows.setGamepad (shows : outputs.Shows plugged) (kind : Gamepad) :
    (outputs.setGamepad kind).Shows (plugged.after (.plug kind)) := by
  simp only [Outputs.setGamepad, shows.kind, Plugged.after]
  split
  · exact shows
  · refine ⟨rfl, ?_, ?_⟩
    · intro dualShock
      have isNew : kind = .dualShock4 := dualShock
      exact ⟨.new, by rw [isNew]; rfl⟩
    · intro gamepad found
      cases kind with
      | none | xbox => cases found
      | dualShock4 =>
        cases found
        exact ⟨rfl, DualShock4.reportsBattery_new⟩

theorem Shows.perform (shows : outputs.Shows plugged) (effect : Effect F) :
    (outputs.perform effect).Shows (effect.plugEvent?.elim plugged plugged.after) := by
  cases effect with
  | output output => exact shows.emit output
  | key key shift => exact ⟨shows.kind, shows.present, shows.reports⟩
  | setGamepad kind => exact shows.setGamepad kind
  | gamepadSource state touchpad =>
    exact shows.map (fun _ _ => ⟨_, _, rfl⟩) (fun _ => rfl) fun _ reports =>
      reports.updateSource state touchpad
  | gamepadBattery percent =>
    exact shows.map (fun _ _ => ⟨_, _, rfl⟩) (fun _ => rfl) fun gamepad _ =>
      gamepad.reportsBattery_setBattery percent
  | haptic | clickPressure | publish => exact shows

/-- The outputs after some effects, as the battery sees them. -/
theorem Shows.performAll (shows : outputs.Shows plugged) (effects : List (Effect F)) :
    (outputs.performAll effects).Shows ((plugEvents effects).foldl Plugged.after plugged) := by
  induction effects generalizing outputs plugged with
  | nil => exact shows
  | cons effect effects inductionHypothesis =>
    have next := inductionHypothesis (shows.perform effect)
    cases event : effect.plugEvent? with
    | none => simpa [plugEvents, event] using next
    | some happened => simpa [plugEvents, event] using next

theorem shows_new (kind : Gamepad) :
    (Outputs.new kind : Outputs F).Shows (Plugged.after ⟨.none, newBattery⟩ (.plug kind)) := by
  apply Shows.setGamepad
  exact ⟨rfl, nofun, nofun⟩

end Outputs

/-! ## Turns -/

omit [Scalar F] in
theorem emitOutputs_plugEvents {mapper : Mapper F} {kind : Gamepad}
    (entered : mapper.gamepad = .ok kind) {outputs : List (Output F)}
    {effects : List (List (Effect F))} (emitted : outputs.mapM (emitOutput mapper) = .ok effects) :
    plugEvents effects.flatten = List.replicate (outputs.countP Output.isModeChange) (.plug kind) := by
  induction outputs generalizing effects with
  | nil =>
    cases emitted
    rfl
  | cons output outputs inductionHypothesis =>
    rw [List.mapM_cons] at emitted
    obtain ⟨first, emits, rest⟩ := bind_ok emitted
    obtain ⟨more, emitsRest, done⟩ := bind_ok rest
    cases done
    have tail := inductionHypothesis emitsRest
    rw [List.flatten_cons, plugEvents, List.filterMap_append, ← plugEvents, ← plugEvents, tail]
    cases output with
    | modeChanged name haptic =>
      -- the gamepad of the mode that has been entered
      simp only [emitOutput, entered, ok_bind] at emits
      cases emits
      rw [List.countP_cons_of_pos rfl, List.replicate_succ]
      cases haptic <;> rfl
    | trackpadHaptic | key | mouseButton | gamepadButton | gamepadAxis | mouseMotion | scroll
      | keyboardToggle =>
      cases emits
      rw [List.countP_cons_of_neg (by exact Bool.false_ne_true)]
      rfl

theorem emit_plugEvents {main : MainLoop F} {log : Log F} {turn : Turn F} {kind : Gamepad}
    (emitted : main.emit log = .ok turn) (entered : turn.main.mapper.gamepad = .ok kind) :
    plugEvents turn.effects =
      List.replicate (turn.log.outputs.countP Output.isModeChange) (.plug kind) := by
  obtain ⟨effects, emits, done⟩ := bind_ok emitted
  cases done
  rw [emitOutputs_plugEvents entered emits, outputs_append, List.countP_append, List.countP_append,
    List.countP_filter]
  congr 2
  apply List.countP_congr
  intro output _
  cases output <;> simp [Output.isModeChange, Output.isToggle]

omit [Scalar F] in
theorem plugEvents_publish (effects : List (Effect F)) (keyboard : OskState F) :
    plugEvents (effects ++ [.publish keyboard]) = plugEvents effects := by
  simp [plugEvents, Effect.plugEvent?]

theorem carryOut_plugEvents {main : MainLoop F} {result : Mapper F × Log F} {turn : Turn F}
    {kind : Gamepad} (carried : main.carryOut result = .ok turn)
    (entered : turn.main.mapper.gamepad = .ok kind) :
    plugEvents turn.effects =
      List.replicate (turn.log.outputs.countP Output.isModeChange) (.plug kind) := by
  obtain ⟨emitted, emits, done⟩ := bind_ok carried
  cases done
  exact (plugEvents_publish _ _).trans (emit_plugEvents emits entered)

/-- What an input does to the gamepad besides changing the mode. -/
def Input.plugEvents (kind : Gamepad) : Input F → List PlugEvent
  | .event (.battery percent _) _ => [.tell percent]
  | .event .disconnected _ => [.plug .none, .plug kind]
  | _ => []

variable [Platform F]

theorem respond_plugEvents {main : MainLoop F} {request : Request} {device : DeviceInfo} {now : Nat}
    {turn : Turn F} {kind : Gamepad} (responded : main.respond request device now = .ok turn)
    (entered : turn.main.mapper.gamepad = .ok kind) :
    plugEvents turn.effects =
      List.replicate (turn.log.outputs.countP Output.isModeChange) (.plug kind) := by
  cases respond_answered responded with
  | reply => rfl
  | haptic => rfl
  | key => rfl
  | switch _ _ _ carries => exact carryOut_plugEvents carries entered
  | reload _ _ _ carries =>
    -- the click pressure is no event of a gamepad
    have events := carryOut_plugEvents carries entered
    exact events
  | hide _ _ _ emits =>
    have events := emit_plugEvents emits entered
    exact (plugEvents_publish _ _).trans events

/-- A turn plugs in the gamepad of the mode it ends in, once for each change of the mode. -/
theorem step_plugEvents {main : MainLoop F} {input : Input F} {turn : Turn F} {before after : Gamepad}
    (stepped : main.step input = .ok turn) (left : main.mapper.gamepad = .ok before)
    (entered : turn.main.mapper.gamepad = .ok after) :
    plugEvents turn.effects = input.plugEvents before ++
      List.replicate (turn.log.outputs.countP Output.isModeChange) (.plug after) := by
  cases input with
  | request request device now => exact respond_plugEvents stepped entered
  | event event now =>
    cases event with
    | state state =>
      obtain ⟨result, _, rest⟩ := bind_ok stepped
      obtain ⟨touchpad, _, rest⟩ := bind_ok rest
      obtain ⟨emitted, emits, done⟩ := bind_ok rest
      cases done
      exact (plugEvents_publish _ _).trans (emit_plugEvents emits entered)
    | battery percent charging =>
      cases stepped
      rfl
    | disconnected =>
      obtain ⟨gamepad, found, rest⟩ := bind_ok stepped
      cases left.symm.trans found
      obtain ⟨result, _, rest⟩ := bind_ok rest
      obtain ⟨emitted, emits, done⟩ := bind_ok rest
      cases done
      refine (plugEvents_publish _ _).trans ?_
      have events := emit_plugEvents emits entered
      simp only [plugEvents, List.filterMap_cons, Effect.plugEvent?, Input.plugEvents,
        List.cons_append, List.nil_append] at events ⊢
      rw [events]
      rfl

/-! ## Runs -/

omit [Platform F] in
/-- Without a change of the mode the gamepad stays. -/
theorem Steps.gamepad {log : Log F} {before after : Mapper F} (steps : Steps before log after)
    (unchanged : log.changesMode = false) : after.gamepad = before.gamepad := by
  cases steps with
  | moves moves =>
    have same := Moves.sameShape moves
    rw [Mapper.gamepad, Mapper.gamepad, Mapper.mode, Mapper.mode, same.config, same.activeMode]
  | changes moves changed =>
    obtain ⟨name, haptic, rfl⟩ := changed.log
    simp [Log.changesMode, Output.isModeChange] at unchanged

omit [Platform F] in
theorem Calls.gamepad {log : Log F} {before after : Mapper F} (calls : Calls before log after)
    (unchanged : log.changesMode = false) : after.gamepad = before.gamepad := by
  induction calls with
  | refl => rfl
  | snoc _ steps inductionHypothesis =>
    rw [changesMode_append, Bool.or_eq_false_iff] at unchanged
    rw [steps.gamepad unchanged.2, inductionHypothesis unchanged.1]

/-- The battery as the controller has reported it last, since it was connected. -/
def batteryAfter (last : Option UInt8) : Input F → Option UInt8
  | .event (.battery percent _) _ => some percent
  | .event .disconnected _ => none
  | _ => last

def lastBattery (turns : List (Transition F)) : Option UInt8 :=
  turns.foldl (fun last transition => batteryAfter last transition.input) none

omit [Scalar F] [Platform F] in
theorem lastBattery_snoc (turns : List (Transition F)) (transition : Transition F) :
    lastBattery (turns ++ [transition]) = batteryAfter (lastBattery turns) transition.input := by
  simp [lastBattery]

/-- The outputs after a run that starts with a gamepad of this kind. -/
def outputsOf (kind : Gamepad) (turns : List (Transition F)) : Outputs F :=
  (Outputs.new kind).performAll (turns.flatMap fun transition => transition.turn.effects)

/-- What is plugged in after a run. -/
def pluggedAfter (kind : Gamepad) (turns : List (Transition F)) : Plugged :=
  (plugEvents (turns.flatMap fun transition => transition.turn.effects)).foldl Plugged.after
    (Plugged.after ⟨.none, newBattery⟩ (.plug kind))

omit [Platform F] in
theorem shows_pluggedAfter (kind : Gamepad) (turns : List (Transition F)) :
    (outputsOf kind turns).Shows (pluggedAfter kind turns) := (Outputs.shows_new kind).performAll _

omit [Scalar F] [Platform F] in
theorem pluggedAfter_snoc (kind : Gamepad) (turns : List (Transition F)) (transition : Transition F) :
    pluggedAfter kind (turns ++ [transition]) =
      (plugEvents transition.turn.effects).foldl Plugged.after (pluggedAfter kind turns) := by
  simp [pluggedAfter, plugEvents]

theorem after_plug_kind (plugged : Plugged) (kind : Gamepad) :
    (plugged.after (.plug kind)).kind = kind := by
  simp only [Plugged.after]
  split
  · next same => exact same.symm
  · rfl

/-- Plugging in the same gamepad again does nothing. -/
theorem after_same {plugged : Plugged} {kind : Gamepad} (same : plugged.kind = kind) (count : Nat) :
    (List.replicate count (.plug kind)).foldl Plugged.after plugged = plugged := by
  induction count with
  | zero => rfl
  | succ count inductionHypothesis =>
    rw [List.replicate_succ, List.foldl_cons, Plugged.after, if_pos same.symm, inductionHypothesis]

theorem after_replicate {plugged : Plugged} {kind : Gamepad} {count : Nat}
    (stays : count = 0 → kind = plugged.kind) :
    (List.replicate count (.plug kind)).foldl Plugged.after plugged = plugged.after (.plug kind) := by
  cases count with
  | zero => simp [Plugged.after, stays rfl]
  | succ count =>
    rw [List.replicate_succ, List.foldl_cons]
    exact after_same (after_plug_kind plugged kind) count

omit [Scalar F] [Platform F] in
theorem changesMode_of_count {log : Log F} (none : log.outputs.countP Output.isModeChange = 0) :
    log.changesMode = false := by
  rw [List.countP_eq_zero] at none
  exact List.any_eq_false.mpr none

/-- What a turn does to what is plugged in: the gamepad is that of the mode the turn ends in,
    and its percentage is new if the gamepad is, or if the controller reports one. -/
theorem step_plugged {main : MainLoop F} {input : Input F} {turn : Turn F} {plugged : Plugged}
    {kind : Gamepad} (wf : main.mapper.Wf) (stepped : main.step input = .ok turn)
    (left : main.mapper.gamepad = .ok plugged.kind) (entered : turn.main.mapper.gamepad = .ok kind) :
    ((plugEvents turn.effects).foldl Plugged.after plugged).kind = kind ∧
    ∀ last, (plugEvents turn.effects).foldl Plugged.after plugged = plugged.after (.plug kind) ∧
        batteryAfter last input = last ∨
      kind = plugged.kind ∧ ∀ percent, batteryAfter last input = some percent →
        ((plugEvents turn.effects).foldl Plugged.after plugged).percent = percent := by
  have calls := (step_kind stepped).calls wf
  -- without a change of the mode the gamepad is the one that is plugged in
  have stays : turn.log.outputs.countP Output.isModeChange = 0 → kind = plugged.kind := by
    intro none
    have same := Calls.gamepad calls (changesMode_of_count none)
    rw [entered, left] at same
    exact Except.ok.inj same
  have events := step_plugEvents stepped left entered
  cases input with
  | request request device now =>
    rw [show plugEvents turn.effects = List.replicate _ _ from events, after_replicate stays]
    exact ⟨after_plug_kind _ _, fun last => .inl ⟨rfl, rfl⟩⟩
  | event event now =>
    cases event with
    | state state =>
      rw [show plugEvents turn.effects = List.replicate _ _ from events, after_replicate stays]
      exact ⟨after_plug_kind _ _, fun last => .inl ⟨rfl, rfl⟩⟩
    | battery percent charging =>
      cases stepped
      cases left.symm.trans entered
      refine ⟨rfl, fun last => .inr ⟨rfl, ?_⟩⟩
      intro reported isReported
      cases isReported
      rfl
    | disconnected =>
      -- a disconnect releases everything, which does not change the mode
      have unchanged : turn.log.outputs.countP Output.isModeChange = 0 := by
        cases step_kind stepped with
        | idle _ notDisconnected => exact absurd rfl (notDisconnected now)
        | disconnect released =>
          obtain ⟨_, _, _, logged⟩ := releaseAll_cases released
          have silent := releaseOutputs_changesMode main.mapper
          rw [logged, List.countP_eq_zero]
          exact List.any_eq_false.mp silent
      have same := stays unchanged
      rw [events, Input.plugEvents, unchanged, List.replicate_zero, List.append_nil]
      refine ⟨(after_plug_kind _ _).trans same.symm, fun last => .inr ⟨same, ?_⟩⟩
      intro percent reported
      cases reported

omit [Scalar F] [Platform F] in
theorem Mapper.Wf.gamepad_ok {mapper : Mapper F} (wf : mapper.Wf) :
    ∃ kind, mapper.gamepad = .ok kind := by
  obtain ⟨mode, found⟩ := wf.mode_ok
  exact ⟨mode.gamepad, by rw [Mapper.gamepad, found]; rfl⟩

/-- The gamepad is always that of the active mode. -/
theorem kind_pluggedAfter {config : Config F} {start main : MainLoop F} {turns : List (Transition F)}
    {kind : Gamepad} (accepted : config.Accepted) (started : MainLoop.start config = .ok start)
    (first : start.mapper.gamepad = .ok kind) (run : start.Run turns main) :
    main.mapper.gamepad = .ok (pluggedAfter kind turns).kind := by
  induction run with
  | refl =>
    rw [first]
    exact congrArg _ (after_plug_kind _ _).symm
  | snoc path turned inductionHypothesis =>
    cases turned with
    | turn stepped =>
      have reached := Reached.run accepted started path
      have next := Reached.run accepted started (path.snoc (.turn stepped))
      obtain ⟨entering, entered⟩ := next.wf.gamepad_ok
      rw [entered, pluggedAfter_snoc,
        (step_plugged reached.wf stepped inductionHypothesis entered).1]

/-! ## The level that is shown -/

/-- A DualShock 4 reports the last level of the battery, if one is known. -/
def ShowsBattery (kind : Gamepad) (turns : List (Transition F)) : Prop :=
  ∀ gamepad percent, (outputsOf kind turns).gamepad = some (.dualShock4 gamepad) →
    lastBattery turns = some percent → gamepad.report[30] = batteryLevel percent

/-- No DualShock 4 is plugged in in a turn, unless nothing is known of the battery or the
    level is that of a new one. -/
def Transition.KeepsBattery (before : List (Transition F)) (transition : Transition F) : Prop :=
  transition.before.mapper.gamepad ≠ .ok .dualShock4 →
    transition.turn.main.mapper.gamepad = .ok .dualShock4 →
    ∀ percent, lastBattery before = some percent → batteryLevel newBattery = batteryLevel percent

/-- The battery byte that the gamepad reports. -/
def Outputs.batteryShown (outputs : Outputs F) : Option UInt8 :=
  match outputs.gamepad with
  | some (.dualShock4 gamepad) => some gamepad.report[30]
  | _ => none

omit [Scalar F] [Platform F] in
theorem batteryShown_some {outputs : Outputs F} {level : UInt8}
    (shown : outputs.batteryShown = some level) :
    ∃ gamepad, outputs.gamepad = some (.dualShock4 gamepad) ∧ gamepad.report[30] = level := by
  unfold Outputs.batteryShown at shown
  split at shown
  · next gamepad present => exact ⟨gamepad, present, Option.some.inj shown⟩
  · cases shown

omit [Platform F] in
theorem showsBattery_iff (kind : Gamepad) (turns : List (Transition F)) :
    ShowsBattery kind turns ↔
      ((pluggedAfter kind turns).kind = .dualShock4 → ∀ percent, lastBattery turns = some percent →
        batteryLevel (pluggedAfter kind turns).percent = batteryLevel percent) := by
  have shows := shows_pluggedAfter kind turns
  constructor
  · intro right dualShock percent known
    obtain ⟨gamepad, present⟩ := shows.present dualShock
    rw [← (shows.reports gamepad present).2.report]
    exact right gamepad percent present known
  · intro right gamepad percent present known
    obtain ⟨dualShock, reports⟩ := shows.reports gamepad present
    rw [reports.report]
    exact right dualShock percent known

/-- What one turn keeps. -/
theorem showsBattery_snoc {config : Config F} {start main : MainLoop F} {turns : List (Transition F)}
    {transition : Transition F} {kind : Gamepad} (accepted : config.Accepted)
    (started : MainLoop.start config = .ok start) (first : start.mapper.gamepad = .ok kind)
    (run : start.Run (turns ++ [transition]) main) (right : ShowsBattery kind turns) :
    ShowsBattery kind (turns ++ [transition]) ↔ transition.KeepsBattery turns := by
  have entered := kind_pluggedAfter accepted started first run
  obtain ⟨path, stepped, rfl⟩ := run_snoc run
  have left := kind_pluggedAfter accepted started first path
  have reached := Reached.run accepted started path
  have step := (step_plugged reached.wf stepped left entered).2 (lastBattery turns)
  rw [showsBattery_iff] at right ⊢
  rw [Transition.KeepsBattery, left, entered, lastBattery_snoc]
  rw [← pluggedAfter_snoc] at step
  generalize pluggedAfter kind (turns ++ [transition]) = next at step
  simp only [ne_eq, Except.ok.injEq]
  rcases step with ⟨moved, same⟩ | ⟨same, told⟩
  · -- the mode may have changed, but the battery has not
    rw [same]
    by_cases stays : next.kind = (pluggedAfter kind turns).kind
    · have unmoved : next = pluggedAfter kind turns := by
        rw [moved, Plugged.after, if_pos stays]
      rw [unmoved]
      exact iff_of_true right fun other isDualShock => absurd isDualShock other
    · have percent : next.percent = newBattery := by
        rw [moved, Plugged.after, if_neg stays]
      rw [percent]
      constructor
      · intro shows _ isDualShock
        exact shows isDualShock
      · intro keeps isDualShock
        exact keeps (fun was => stays (isDualShock.trans was.symm)) isDualShock
  · -- the gamepad has stayed, and knows the battery
    rw [same]
    refine iff_of_true ?_ fun other isDualShock => absurd isDualShock other
    intro _ percent known
    rw [told percent known]

/-- In every run of the loop: the report of a DualShock 4 shows the last battery report after
    every turn exactly when no turn plugs in a DualShock 4 that shows another level. -/
theorem battery_shown_iff {config : Config F} {start main : MainLoop F} {turns : List (Transition F)}
    {kind : Gamepad} (accepted : config.Accepted) (started : MainLoop.start config = .ok start)
    (first : start.mapper.gamepad = .ok kind) (run : start.Run turns main) :
    (∀ before, before <+: turns → ShowsBattery kind before) ↔
      ∀ before transition, before ++ [transition] <+: turns → transition.KeepsBattery before := by
  refine forall_prefix_iff ?_ ?_
  · intro gamepad percent _ known
    cases known
  · intro before transition initial right
    obtain ⟨mid, path⟩ := run_prefix run initial
    exact showsBattery_snoc accepted started first path right

end

/-! ## A level that is lost -/

/-- A mode without a gamepad, and one with a DualShock 4. -/
def padDocument : KdlDocument ℚ where
  nodes := [
    .mk "version" [⟨none, .integer 1, ⟨0, 0⟩⟩] [] ⟨0, 0⟩,
    wordNode "default-mode" ["desk"] [],
    wordNode "mode" ["desk"] [],
    .mk "mode" [⟨none, .string "game", ⟨0, 0⟩⟩, ⟨some "gamepad", .string "dualshock4", ⟨0, 0⟩⟩] []
      ⟨0, 0⟩]
  span := ⟨0, 0⟩

def padConfig : Config ℚ where
  defaultMode := ⟨0⟩
  modeSwitchHaptic := none
  clickPressure := 25
  oskBindings := .empty
  globalBindings := []
  modeNames := (IndexMap.empty.insert "desk" ⟨0⟩).insert "game" ⟨1⟩
  modes := [⟨.none, none, [], [], []⟩, ⟨.dualShock4, none, [], [], []⟩]

theorem pad_accepted : padConfig.Accepted := ⟨padDocument, rfl⟩

/-- The mode with the DualShock 4 is entered, and then the battery reported as almost full. -/
theorem battery_shown_after_switch :
    ∃ start turns main, MainLoop.start padConfig = .ok start ∧ start.Run turns main ∧
      lastBattery turns = some 90 ∧ ∀ before, before <+: turns → ShowsBattery .none before := by
  obtain ⟨⟨start, turns, main⟩, runs, facts⟩ := map_ok
    (show (MainLoop.runsFrom padConfig
        [.request .modeNext ⟨true, none⟩ 0, .event (.battery 90 false) 1]).map
          (fun run => (run.1.mapper.gamepad, lastBattery run.2.1,
            run.2.1.map fun transition => transition.before.mapper.gamepad)) =
          .ok (.ok .none, some 90, [.ok .none, .ok .dualShock4]) by
      decide +kernel)
  obtain ⟨started, run⟩ := runsFrom_run runs
  simp only [Prod.mk.injEq] at facts
  obtain ⟨first, known, modes⟩ := facts
  refine ⟨start, turns, main, started, run, known, ?_⟩
  rw [battery_shown_iff pad_accepted started first run]
  intro before transition initial changes
  have prefixes := initial.map fun transition => transition.before.mapper.gamepad
  rw [modes, List.map_append, List.map_singleton] at prefixes
  -- nothing is known in the first turn, and the second starts with the DualShock 4
  match before with
  | [] =>
    intro _ percent reported
    cases reported
  | [earlier] =>
    simp only [List.map_cons, List.map_nil, List.cons_append, List.nil_append,
      List.cons_prefix_cons] at prefixes
    exact absurd prefixes.2.1 changes
  | earlier :: second :: rest => simp [List.cons_prefix_cons] at prefixes

/-- The battery is reported as almost full, and then the mode with the DualShock 4 entered:
    its report says that half is left. -/
theorem battery_lost_at_switch :
    ¬ ∀ (config : Config ℚ) (start main : MainLoop ℚ) (turns : List (Transition ℚ)) (kind : Gamepad),
      config.Accepted → MainLoop.start config = .ok start → start.mapper.gamepad = .ok kind →
      start.Run turns main → ∀ before, before <+: turns → ShowsBattery kind before := by
  intro always
  obtain ⟨⟨start, turns, main⟩, runs, facts⟩ := map_ok
    (show (MainLoop.runsFrom padConfig
        [.event (.battery 90 false) 0, .request .modeNext ⟨true, none⟩ 1]).map
          (fun run => (run.1.mapper.gamepad, lastBattery run.2.1,
            (outputsOf .none run.2.1).batteryShown)) = .ok (.ok .none, some 90, some 0x15) by
      decide +kernel)
  obtain ⟨started, run⟩ := runsFrom_run runs
  simp only [Prod.mk.injEq] at facts
  obtain ⟨first, known, shown⟩ := facts
  have right := always padConfig start main turns .none pad_accepted started first run turns
    List.prefix_rfl
  obtain ⟨gamepad, present, level⟩ := batteryShown_some shown
  have wrong := right gamepad 90 present known
  rw [level] at wrong
  exact absurd wrong (by decide)

end Scd.Daemon
