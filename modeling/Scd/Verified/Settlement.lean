import Scd.Verified.Accounts
import Scd.Verified.OutputStream

/-! # Claims over whole runs

A frame keeps the accounts, and every turn of the main loop leaves them settled: `Settled`
holds in every state that a run of the loop reaches.
-/

namespace Scd.Daemon

open Scd.Core Scd.Foundation

section

variable {F : Type} [Scalar F]

/-! ## Frames -/

omit [Scalar F] in
theorem Accounted.congr {before after : Mapper F} {claims : List (Owner × HeldOutput)}
    (accounted : Accounted before claims) (config : after.config = before.config)
    (routes : after.routes = before.routes) (oskActive : after.oskActive = before.oskActive) :
    Accounted after claims where
  triggers := by
    rw [routes]
    exact accounted.triggers
  routes := by
    intro trigger
    rw [Mapper.routeHeld, routes]
    exact accounted.routes trigger
  osk := by
    intro input
    rw [Mapper.oskHeld, oskActive, config]
    exact accounted.osk input

theorem AllGlobals.accounted {mapper : Mapper F} {state : ControllerState F} {globals : GlobalPass F}
    {claims : List (Owner × HeldOutput)} (all : AllGlobals mapper state globals)
    (accounted : Accounted mapper claims) :
    Accounted globals.mapper (Ledger.claims claims globals.log.events) := by
  have received : Accounted (mapper.receive state) claims := accounted.congr rfl rfl rfl
  exact received.visit all

/-- The accounts before the routes of earlier frames end. -/
theorem AllGlobals.settle_accounted {mapper : Mapper F} {state : ControllerState F}
    {globals : GlobalPass F} {claims : List (Owner × HeldOutput)}
    (all : AllGlobals mapper state globals) (accounted : Accounted mapper claims) :
    Accounted (globals.mapper.settle state.buttons) (Ledger.claims claims globals.log.events) :=
  (AllGlobals.accounted all accounted).congr rfl rfl rfl

theorem AllGlobals.frame {mapper : Mapper F} {state : ControllerState F} {globals : GlobalPass F}
    (all : AllGlobals mapper state globals) : globals.mapper =
      { mapper.receive state with global := globals.mapper.global, held := globals.mapper.held } :=
  GlobalsDone.frame all

/-- The claims after a piece of a frame that says nothing about them. -/
theorem Aside.events {before after : Pass F} (aside : Aside before after) :
    after.log.events = before.log.events := by
  rw [events_eq, events_eq, aside.notes]

omit [Scalar F] in
theorem oskHeld_ne_none {mapper : Mapper F} {input : Button} (held : mapper.oskHeld input ≠ none) :
    mapper.oskActive.contains input = true ∧
      input ∈ mapper.config.oskBindings.entries.map Prod.fst := by
  unfold Mapper.oskHeld at held
  split at held
  · next active =>
    refine ⟨active, IndexMap.mem_keys_iff_get?.mpr ?_⟩
    cases bound : mapper.config.oskBindings.get? input with
    | none => simp [bound] at held
    | some key => exact ⟨key, rfl⟩
  · exact absurd rfl held

/-- A frame that goes on to its end with the keyboard visible. -/
theorem keyboard_settled {mapper : Mapper F} {state : ControllerState F} {globals : GlobalPass F}
    {osk final : Pass F} {claims : List (Owner × HeldOutput)} (wf : mapper.Wf)
    (settled : Settled mapper true claims) (all : AllGlobals mapper state globals)
    (done : OskDone globals.mapper state.buttons globals.reserved
      globals.mapper.config.oskBindings.entries osk)
    (aside : Aside ⟨osk.mapper, globals.log ++ osk.log⟩ final) :
    Settled final.mapper true (Ledger.claims claims final.log.events) := by
  -- the axes and the haptics, which come after the keyboard, change no claim and no route
  have frame : final.mapper = { mapper.receive state with
      global := globals.mapper.global
      oskActive := osk.mapper.oskActive
      held := final.mapper.held
      gamepadAxes := final.mapper.gamepadAxes
      axisActive := final.mapper.axisActive
      trackpadHaptics := final.mapper.trackpadHaptics } := by
    rw [aside.frame, done.frame, AllGlobals.frame all]
  have previous : final.mapper.previousButtons = state.buttons := by
    rw [frame]
    rfl
  obtain ⟨routes, quarantined⟩ := settled.shown rfl
  have noRoutes : final.mapper.routes = [] := by
    rw [frame]
    exact routes
  have noQuarantine : final.mapper.quarantined = {} := by
    rw [frame]
    exact quarantined
  rw [aside.events, events_append, Ledger.claims_append]
  constructor
  case toAccounted =>
    have accounted := done.accounted (AllGlobals.accounted all settled.toAccounted)
    exact accounted.congr (by rw [aside.frame]) (by rw [aside.frame]) (by rw [aside.frame])
  case globals =>
    -- the keys of the keyboard are claimed by other owners than the global bindings
    intro position
    have untouched : ∀ claims, Ledger.ownedBy (.global position)
        (Ledger.claims claims osk.log.events) = Ledger.ownedBy (.global position) claims := by
      intro claims
      rw [Ledger.ownedBy_claims, done.concerning]
      simp
    have same : final.mapper.globalHeld position = globals.mapper.globalHeld position := by
      apply globalHeld_congr
      · rw [frame, AllGlobals.frame all]
      · rw [frame]
      · rw [frame, AllGlobals.frame all]
    rw [untouched, same]
    exact AllGlobals.globals all wf settled.globals position
  case inputs => simp [noRoutes]
  case quarantined =>
    intro button
    rw [noQuarantine, Buttons.contains_empty]
    simp
  case keys =>
    intro input held
    obtain ⟨active, visited⟩ := oskHeld_ne_none held
    have config : final.mapper.config = globals.mapper.config := by
      rw [frame, AllGlobals.frame all]
    have oskActive : final.mapper.oskActive = osk.mapper.oskActive := by rw [frame]
    -- an active key was visited in this frame, and was left active because it is pressed
    rw [config] at visited
    rw [oskActive, done.active, if_pos visited, oskPressed, Bool.and_eq_true] at active
    rw [previous]
    exact active.1
  case shown => exact fun _ => ⟨noRoutes, noQuarantine⟩
  case hidden =>
    intro impossible
    cases impossible

/-- The mapper after the routes of a frame are started. -/
theorem started_frame {mapper : Mapper F} {state : ControllerState F} {globals : GlobalPass F}
    {released started : Pass F} {done : List Candidate} (all : AllGlobals mapper state globals)
    (ended : RoutesEnded state globals released)
    (starts : StartsDone released.mapper state.buttons mapper.previousButtons done started) :
    started.mapper = { mapper.receive state with
      global := globals.mapper.global
      routes := started.mapper.routes
      quarantined := released.mapper.quarantined
      held := started.mapper.held } := by
  rw [starts.frame, RoutesReleased.frame ended, Mapper.settle, AllGlobals.frame all]

/-- The routes after a frame have their triggers down. -/
theorem started_inputs {mapper : Mapper F} {state : ControllerState F} {globals : GlobalPass F}
    {released started : Pass F} {mode : Mode F} (all : AllGlobals mapper state globals)
    (ended : RoutesEnded state globals released) (wf : released.mapper.Wf)
    (found : released.mapper.mode = .ok mode)
    (starts : StartsDone released.mapper state.buttons mapper.previousButtons
      (candidates mode state.buttons globals.reserved) started)
    (inputs : ∀ route ∈ mapper.routes, route.inputs.contains route.trigger = true) :
    ∀ route ∈ started.mapper.routes, route.inputs.contains route.trigger = true ∧
      state.buttons.contains route.trigger = true := by
  intro route member
  rw [starts.routes] at member
  rcases List.mem_append.mp member with kept | new
  · -- a route that did not end has all its inputs down
    have routes := RoutesReleased.routes ended
    rw [List.take_zero, List.nil_append, List.drop_zero, Mapper.settle, AllGlobals.frame all] at routes
    rw [routes] at kept
    obtain ⟨old, stays⟩ := List.mem_filter.mp kept
    have hasTrigger := inputs route old
    simp only [Mapper.routeEnds, Bool.not_eq_true', Bool.or_eq_false_iff, Bool.not_eq_false'] at stays
    exact ⟨hasTrigger, Buttons.containsAll_contains stays.1.1 hasTrigger⟩
  · obtain ⟨candidate, starting, rfl⟩ := List.mem_map.mp new
    obtain ⟨listed, eligible, _⟩ := not_busy_of_starting starting
    have wellFormed := candidate_wellFormed
      (wf.config.modes mode (List.mem_of_getElem? (index_ok_iff.mp found))) listed
    simp only [Candidate.eligible, buttonPressed, Bool.and_eq_true] at eligible
    exact ⟨wellFormed.trigger, eligible.1.1.1.1⟩

/-- A frame that goes on to its end with the keyboard hidden. -/
theorem bindings_settled {mapper : Mapper F} {state : ControllerState F} {globals : GlobalPass F}
    {released started final : Pass F} {mode : Mode F} {claims : List (Owner × HeldOutput)}
    (wf : mapper.Wf) (settled : Settled mapper false claims) (all : AllGlobals mapper state globals)
    (ended : RoutesEnded state globals released) (found : released.mapper.mode = .ok mode)
    (starts : StartsDone released.mapper state.buttons mapper.previousButtons
      (candidates mode state.buttons globals.reserved) started)
    (aside : Aside ⟨started.mapper, globals.log ++ (released.log ++ started.log)⟩ final) :
    Settled final.mapper false (Ledger.claims claims final.log.events) := by
  have frame : final.mapper = { mapper.receive state with
      global := globals.mapper.global
      routes := started.mapper.routes
      quarantined := released.mapper.quarantined
      held := final.mapper.held
      gamepadAxes := final.mapper.gamepadAxes
      axisActive := final.mapper.axisActive
      trackpadHaptics := final.mapper.trackpadHaptics } := by
    rw [aside.frame, started_frame all ended starts]
  have previous : final.mapper.previousButtons = state.buttons := by
    rw [frame]
    rfl
  -- no key of a hidden keyboard is down, and a frame does not press one
  have up : ∀ input, final.mapper.oskActive.contains input = false := by
    rw [frame]
    exact settled.hidden rfl
  have releasedWf : released.mapper.Wf :=
    ((AllGlobals.advances all).trans (RoutesEnded.advances ended)).wf wf
  rw [aside.events, events_append, events_append, Ledger.claims_append, Ledger.claims_append]
  constructor
  case toAccounted =>
    have settle := AllGlobals.settle_accounted all settled.toAccounted
    have accounted := starts.accounted (RoutesReleased.accounted ended settle)
    exact accounted.congr (by rw [aside.frame]) (by rw [aside.frame]) (by rw [aside.frame])
  case globals =>
    -- releasing and starting routes is the business of their triggers
    intro position
    have untouched : ∀ claims, Ledger.ownedBy (.global position)
        (Ledger.claims (Ledger.claims claims released.log.events) started.log.events) =
          Ledger.ownedBy (.global position) claims := by
      intro claims
      rw [Ledger.ownedBy_claims, starts.concerning, Ledger.ownedBy_claims,
        RoutesReleased.concerning ended]
      simp
    have same : final.mapper.globalHeld position = globals.mapper.globalHeld position := by
      apply globalHeld_congr
      · rw [frame, AllGlobals.frame all]
      · rw [frame]
      · rw [frame, AllGlobals.frame all]
    rw [untouched, same]
    exact AllGlobals.globals all wf settled.globals position
  case inputs =>
    have routes : final.mapper.routes = started.mapper.routes := by rw [frame]
    rw [routes, previous]
    exact started_inputs all ended releasedWf found starts fun route member =>
      (settled.inputs route member).1
  case quarantined =>
    intro button member
    have quarantined : final.mapper.quarantined = released.mapper.quarantined := by rw [frame]
    rw [quarantined, RoutesReleased.quarantined ended] at member
    rw [previous]
    -- what was quarantined and is still down, and what a route that ended leaves down
    rcases member with old | ⟨route, _, _, _, down⟩
    · rw [Mapper.settle, Buttons.contains_removeInactive, Bool.and_eq_true] at old
      exact old.2
    · exact down
  case keys =>
    intro input held
    have active := (oskHeld_ne_none held).1
    rw [up] at active
    cases active
  case shown =>
    intro impossible
    cases impossible
  case hidden => exact fun _ => up

/-- A frame keeps the accounts; one that is not cut short by a toggle leaves them settled. -/
theorem FrameKind.settles {mapper : Mapper F} {state : ControllerState F} {visible stopped : Bool}
    {pass : Pass F} {claims : List (Owner × HeldOutput)}
    (kind : FrameKind mapper state visible pass stopped) (wf : mapper.Wf)
    (settled : Settled mapper visible claims) :
    (pass.log.toggles = true ∧ Accounted pass.mapper (Ledger.claims claims pass.log.events)) ∨
      Settled pass.mapper visible (Ledger.claims claims pass.log.events) := by
  cases kind with
  | globalsCut cut =>
    obtain ⟨done, binding, position, rest, before, runtime, _, _, past, step⟩ := cut
    have received : Accounted (mapper.receive state) claims :=
      settled.toAccounted.congr rfl rfl rfl
    have accounted := received.visit past
    cases step with
    | toggle =>
      left
      refine ⟨by simp [GlobalPass.append, Output.isToggle], ?_⟩
      simp only [GlobalPass.append, GlobalPass.visit, events_append, events_fire, events_output,
        events_nil, List.append_nil]
      exact accounted.congr rfl rfl rfl
    | switch _ _ _ _ changed =>
      right
      simp only [GlobalPass.append, GlobalPass.visit, events_append, Ledger.claims_append,
        changed.claims]
      exact changed.settled visible
  | keyboard isVisible all done aside =>
    subst isVisible
    exact .inr (keyboard_settled wf settled all done aside)
  | startsCut _ _ _ _ cut =>
    obtain ⟨done, candidate, rest, before, _, _, step⟩ := cut
    cases step with
    | switch _ _ changed =>
      right
      simp only [events_append, events_start, Ledger.claims_append, changed.claims]
      exact changed.settled visible
  | bindings isHidden all ended found starts aside =>
    subst isHidden
    exact .inr (bindings_settled wf settled all ended found starts aside)

/-- The frame is what the next one compares itself with, also when it is cut short. -/
theorem FrameKind.previous {mapper : Mapper F} {state : ControllerState F} {visible stopped : Bool}
    {pass : Pass F} (kind : FrameKind mapper state visible pass stopped) :
    pass.mapper.previous = some state := by
  cases kind with
  | globalsCut cut =>
    obtain ⟨done, binding, position, rest, before, runtime, _, _, past, step⟩ := cut
    have before : before.mapper.previous = some state := by
      rw [past.frame]
      rfl
    cases step with
    | toggle => exact before
    | switch _ _ _ _ changed => exact changed.previous.trans before
  | keyboard _ all done aside =>
    rw [aside.frame, done.frame, AllGlobals.frame all]
    rfl
  | startsCut _ all ended _ cut =>
    obtain ⟨done, candidate, rest, before, _, past, step⟩ := cut
    have before : before.mapper.previous = some state := by
      rw [started_frame all ended past]
      rfl
    cases step with
    | switch _ _ changed => exact changed.previous.trans before
  | bindings _ all ended _ starts aside =>
    rw [aside.frame, started_frame all ended starts]
    rfl

/-! ## Turns -/

/-- The calls of a turn: each of them moves, and may change the mode at its end. -/
abbrev Calls : Mapper F → Log F → Mapper F → Prop := Path Steps

theorem Calls.wf {before after : Mapper F} {log : Log F} (calls : Calls before log after)
    (wf : before.Wf) : after.Wf := calls.invariant Mapper.Wf Steps.wf wf

theorem Calls.stream {past log : Log F} {before after : Mapper F} (calls : Calls before log after)
    (stream : OutputStream past before) : OutputStream (past ++ log) after :=
  calls.history OutputStream Steps.stream stream

/-- The counts follow the claims. -/
theorem Steps.held {before after : Mapper F} {log : Log F} (steps : Steps before log after) :
    after.held = Ledger.tally before.held log.events := by
  cases steps with
  | moves moves => exact Moves.held moves
  | changes moves changed =>
    rw [events_append, changed.events, Ledger.tally_append, changed.held]
    rfl

theorem Calls.held {before after : Mapper F} {log : Log F} (calls : Calls before log after) :
    after.held = Ledger.tally before.held log.events := by
  induction calls with
  | refl => rfl
  | snoc _ steps inductionHypothesis =>
    rw [steps.held, inductionHypothesis, events_append, Ledger.tally_append]

theorem suspend_steps (mapper : Mapper F) : Steps mapper mapper.suspend.2 mapper.suspend.1 :=
  .moves (Path.single .release)

theorem suspend_settled (mapper : Mapper F) (visible : Bool) (claims : List (Owner × HeldOutput)) :
    Settled mapper.suspend.1 visible (Ledger.claims claims mapper.suspend.2.events) := by
  rw [Mapper.suspend, events_releaseOutputs]
  exact releaseOutputs_settled mapper visible

/-- A mode switch that returns has changed the mode, or has done nothing. -/
theorem switchMode_changes {mapper next : Mapper F} {mode : ModeId} {log : Log F} (wf : mapper.Wf)
    (switched : mapper.switchMode mode = .ok (next, log)) :
    (next = mapper ∧ log = []) ∨ Changed mapper log next := by
  rcases switchMode_cases switched with ⟨_, same⟩ | ⟨_, _, resets, _, _⟩
  · exact .inl same
  · -- the flags could be reset, so the mode exists
    obtain ⟨found, foundMode, _⟩ := resetRuntime_ok resets
    have lt : mode.index < mapper.config.modes.length := by
      have present := index_ok_iff.mp foundMode
      rw [releaseOutputs_eq] at present
      exact (List.getElem?_eq_some_iff.mp present).1
    rcases changed_of_switch wf lt switched with ⟨_, same⟩ | ⟨_, changed, _⟩
    · exact .inl same
    · exact .inr changed

theorem process_kind {mapper next : Mapper F} {state : ControllerState F} {visible : Bool}
    {log : Log F} (wf : mapper.Wf) (processed : mapper.process state visible = .ok (next, log)) :
    ∃ stopped, FrameKind mapper state visible ⟨next, log⟩ stopped := by
  obtain ⟨⟨pass, stopped⟩, framed, done⟩ := bind_ok processed
  cases done
  exact ⟨stopped, (processFrame_kind wf state visible).of_ok framed⟩

theorem releaseAll_settled {mapper next : Mapper F} {log : Log F}
    (released : mapper.releaseAll = .ok (next, log)) (visible : Bool)
    (claims : List (Owner × HeldOutput)) :
    Settled next visible (Ledger.claims claims log.events) := by
  obtain ⟨reset, resets, rfl, rfl⟩ := releaseAll_cases released
  obtain ⟨mode, _, rfl⟩ := resetRuntime_ok resets
  rw [events_releaseOutputs]
  refine .of_cleared ?_ ?_ ?_ visible <;> rw [releaseOutputs_eq]

variable [Platform F]

theorem TurnKind.calls {main : MainLoop F} {input : Input F} {turn : Turn F}
    (kind : TurnKind main input turn) (wf : main.mapper.Wf) :
    Calls main.mapper turn.log turn.main.mapper := by
  cases kind with
  | idle _ _ _ same log =>
    rw [same, log]
    exact .refl
  | switch mode _ switches =>
    rcases switchMode_changes wf switches with ⟨same, log⟩ | changed
    · rw [same, log]
      exact .refl
    · exact Path.single (.changes .refl changed)
  | reload config accepted reloads =>
    exact Path.single (.changes .refl (changed_of_reload accepted.wellFormed reloads).1)
  | @hide session device now turn _ _ _ suspends =>
    have same : turn.main.mapper = main.mapper.suspend.1 := congrArg Prod.fst suspends
    have log : turn.log = main.mapper.suspend.2 := congrArg Prod.snd suspends
    rw [same, log]
    exact Path.single (suspend_steps main.mapper)
  | @frame state now turn mapper log processes same logged =>
    have processed := (process_steps wf state main.keyboard.visible).of_ok processes
    rw [same, logged]
    cases log.toggles with
    | true => exact (Path.single processed).trans (Path.single (suspend_steps mapper))
    | false => simpa using Path.single processed
  | disconnect released => exact Path.single ((releaseAll_steps wf).of_ok released)

/-- Every turn leaves the accounts settled. -/
theorem TurnKind.settled {main : MainLoop F} {input : Input F} {turn : Turn F}
    {claims : List (Owner × HeldOutput)} (kind : TurnKind main input turn) (wf : main.mapper.Wf)
    (settled : Settled main.mapper main.keyboard.visible claims) :
    Settled turn.main.mapper turn.main.keyboard.visible
      (Ledger.claims claims turn.log.events) := by
  cases kind with
  | idle _ _ _ same log keyboard =>
    rw [same, log, keyboard]
    exact settled
  | switch mode _ switches session =>
    rcases switchMode_changes wf switches with ⟨same, log⟩ | changed
    · rw [same, log, session.visible]
      exact settled
    · rw [changed.claims]
      exact changed.settled _
  | reload config accepted reloads =>
    have changed := (changed_of_reload accepted.wellFormed reloads).1
    rw [changed.claims]
    exact changed.settled _
  | @hide session device now turn _ _ _ suspends =>
    have same : turn.main.mapper = main.mapper.suspend.1 := congrArg Prod.fst suspends
    have log : turn.log = main.mapper.suspend.2 := congrArg Prod.snd suspends
    rw [same, log]
    exact suspend_settled main.mapper _ claims
  | @frame state now turn mapper log processes same logged session =>
    obtain ⟨stopped, kind⟩ := process_kind wf processes
    have visible := session.visible
    rw [same, logged]
    cases toggles : log.toggles with
    | true =>
      -- the daemon suspends the mapper, whatever the frame has left
      rw [if_pos rfl, if_pos rfl, events_append, Ledger.claims_append]
      exact suspend_settled mapper _ _
    | false =>
      rcases kind.settles wf settled with ⟨toggled, _⟩ | after
      · exact absurd (toggles.symm.trans toggled) Bool.false_ne_true
      · simp only [toggles, Bool.false_eq_true, if_false] at visible
        rw [visible]
        simpa using after
  | disconnect released => exact releaseAll_settled released _ claims

theorem TurnKind.previous {main : MainLoop F} {state : ControllerState F} {now : Nat}
    {turn : Turn F} (kind : TurnKind main (.event (.state state) now) turn) (wf : main.mapper.Wf) :
    turn.main.mapper.previous = some state := by
  cases kind with
  | idle noFrame => exact absurd rfl (noFrame state now)
  | @frame state now turn mapper log processes same =>
    obtain ⟨stopped, kind⟩ := process_kind wf processes
    have previous : mapper.previous = some state := kind.previous
    rw [same]
    split
    · rw [Mapper.suspend, releaseOutputs_eq]
      exact previous
    · exact previous

/-! ## Runs -/

omit [Platform F] in
/-- What holds of a state of the loop that is reached with a log. -/
structure Reached [Scalar F] (past : Log F) (main : MainLoop F) : Prop where
  wf : main.mapper.Wf
  held : main.mapper.held = Ledger.tally .empty past.events
  stream : OutputStream past main.mapper
  settled : Settled main.mapper main.keyboard.visible past.claims

omit [Scalar F] [Platform F] in
theorem runLog_snoc (turns : List (Transition F)) (transition : Transition F) :
    runLog (turns ++ [transition]) = runLog turns ++ transition.turn.log := by
  simp [runLog]

theorem Reached.start {config : Config F} {start : MainLoop F} (accepted : config.Accepted)
    (started : MainLoop.start config = .ok start) : Reached [] start := by
  obtain ⟨mapper, news, done⟩ := bind_ok started
  cases done
  obtain ⟨same, newSame, wf⟩ := new_wf accepted.wellFormed
  cases news.symm.trans newSame
  refine ⟨wf, ?_, new_stream news, ?_⟩
  · obtain ⟨mode, _, done⟩ := bind_ok news
    cases done
    rfl
  · obtain ⟨mode, _, done⟩ := bind_ok news
    cases done
    exact .of_cleared rfl rfl rfl _

theorem Reached.step {past : Log F} {main : MainLoop F} {input : Input F} {turn : Turn F}
    (reached : Reached past main) (kind : TurnKind main input turn) :
    Reached (past ++ turn.log) turn.main where
  wf := (kind.calls reached.wf).wf reached.wf
  held := by
    rw [(kind.calls reached.wf).held, reached.held, events_append, Ledger.tally_append]
  stream := (kind.calls reached.wf).stream reached.stream
  settled := by
    rw [claims_append]
    exact kind.settled reached.wf reached.settled

theorem Reached.run {config : Config F} {start final : MainLoop F} {turns : List (Transition F)}
    (accepted : config.Accepted) (started : MainLoop.start config = .ok start)
    (run : start.Run turns final) : Reached (runLog turns) final := by
  have initial : Reached (runLog []) start := Reached.start accepted started
  refine run.history (fun past => Reached (runLog past)) ?_ initial
  intro past before more after turned reached
  cases turned with
  | turn stepped =>
    rw [runLog_snoc]
    exact reached.step (step_kind stepped)

end

end Scd.Daemon
