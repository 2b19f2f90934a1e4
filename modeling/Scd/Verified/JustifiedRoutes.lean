import Scd.Verified.Reservation
import Scd.Verified.Settlement

/-! # The routes of a frame

A route outlives the frame that starts it.  After every frame that goes on to its end the
active routes are nevertheless those that the frame itself allows: their inputs are down, no
global binding has captured any of them, and the button that holds their layer is down and
free.  No two routes ever have the same trigger.
-/

namespace Scd.Daemon

open Scd.Core Scd.Foundation

section

variable {F : Type} [Scalar F]

/-! ## Global bindings -/

/-- A global binding that has fired keeps this button. -/
def Mapper.HasCaptured (mapper : Mapper F) (button : Button) : Prop :=
  ∃ (position : Nat) (binding : GlobalBinding) (runtime : GlobalState),
    mapper.config.globalBindings[position]? = some binding ∧
    mapper.global[position]? = some runtime ∧ runtime.captured = true ∧
    binding.inputs.contains button = true

/-- A global binding claims this button while these are down. -/
def Mapper.HasReserved (mapper : Mapper F) (buttons : Buttons) (button : Button) : Prop :=
  ∃ (position : Nat) (binding : GlobalBinding) (runtime : GlobalState),
    mapper.config.globalBindings[position]? = some binding ∧
    mapper.global[position]? = some runtime ∧
    binding.reserves runtime.captured buttons button = true

/-- What the loop over the global bindings has found out about one of them. -/
theorem AllGlobals.visit {mapper : Mapper F} {state : ControllerState F} {globals : GlobalPass F}
    (all : AllGlobals mapper state globals) (wf : mapper.Wf) {position : Nat}
    {binding : GlobalBinding} {runtime : GlobalState}
    (present : globals.mapper.config.globalBindings[position]? = some binding)
    (found : globals.mapper.global[position]? = some runtime) :
    (binding, position) ∈ mapper.config.globalBindings.zipIdx ∧
      ∃ before, mapper.global[position]? = some before ∧
        runtime = binding.next before state.buttons mapper.previousButtons := by
  have config : globals.mapper.config = mapper.config := by rw [AllGlobals.frame all]; rfl
  rw [config] at present
  have member : (binding, position) ∈ mapper.config.globalBindings.zipIdx :=
    List.mk_mem_zipIdx_iff_getElem?.mpr present
  have lt : position < mapper.global.length := by
    rw [wf.global]
    exact (List.getElem?_eq_some_iff.mp present).1
  have before : mapper.global[position]? = some mapper.global[position] :=
    List.getElem?_eq_getElem lt
  have visited := GlobalsDone.visited all (binding, position) member _ before
  rw [found] at visited
  exact ⟨member, _, before, Option.some.inj visited⟩

/-- The buttons that are captured are in the set that the loop collects. -/
theorem AllGlobals.captured_of {mapper : Mapper F} {state : ControllerState F}
    {globals : GlobalPass F} (all : AllGlobals mapper state globals) (wf : mapper.Wf)
    {button : Button} (captures : globals.mapper.HasCaptured button) :
    globals.captured.contains button = true := by
  obtain ⟨position, binding, runtime, present, found, captured, member⟩ := captures
  obtain ⟨visited, before, stood, rfl⟩ := AllGlobals.visit all wf present found
  exact (GlobalsDone.captured all button).mpr ⟨_, visited, before, stood, captured, member⟩

theorem AllGlobals.reserved_of {mapper : Mapper F} {state : ControllerState F}
    {globals : GlobalPass F} (all : AllGlobals mapper state globals) (wf : mapper.Wf)
    {button : Button} (reserves : globals.mapper.HasReserved state.buttons button) :
    globals.reserved.contains button = true := by
  obtain ⟨position, binding, runtime, present, found, reserved⟩ := reserves
  obtain ⟨visited, before, stood, rfl⟩ := AllGlobals.visit all wf present found
  exact (GlobalsDone.reserved all button).mpr ⟨_, visited, before, stood, reserved⟩

/-- What is captured is reserved. -/
theorem AllGlobals.reserved_of_captured {mapper : Mapper F} {state : ControllerState F}
    {globals : GlobalPass F} (all : AllGlobals mapper state globals) {button : Button}
    (captured : globals.captured.contains button = true) :
    globals.reserved.contains button = true := by
  obtain ⟨item, visited, before, stood, isCaptured, member⟩ :=
    (GlobalsDone.captured all button).mp captured
  refine (GlobalsDone.reserved all button).mpr ⟨item, visited, before, stood, ?_⟩
  simp [GlobalBinding.reserves, isCaptured, member]

/-! ## Justified routes -/

/-- The state of the controller allows a route. -/
structure Justified (mapper : Mapper F) (buttons : Buttons) (route : ActiveRoute) : Prop where
  inputs : ∀ button, route.inputs.contains button = true → buttons.contains button = true
  captured : ∀ button, route.inputs.contains button = true → ¬mapper.HasCaptured button
  hold : ∀ hold, route.hold = some hold →
    buttons.contains hold = true ∧ ¬mapper.HasReserved buttons hold

omit [Scalar F] in
/-- A layer that gives a candidate is active. -/
theorem hold_of_candidate {mode : Mode F} {buttons reserved : Buttons} {candidate : Candidate}
    (member : candidate ∈ candidates mode buttons reserved) {hold : Button}
    (held : candidate.hold = some hold) :
    buttons.contains hold = true ∧ reserved.contains hold = false := by
  obtain ⟨chord, _, member⟩ := List.mem_flatMap.mp member
  cases List.mem_append.mp member with
  | inl ofMode =>
    obtain ⟨binding, _, rfl⟩ := List.mem_map.mp ofMode
    cases held
  | inr ofLayer =>
    obtain ⟨layer, found, ofLayer⟩ := List.mem_flatMap.mp ofLayer
    obtain ⟨binding, _, rfl⟩ := List.mem_map.mp ofLayer
    cases held
    have active := (List.mem_filter.mp found).2
    simpa [layerActive] using active

omit [Scalar F] in
/-- A route that starts would not have been ended by the frame that starts it. -/
theorem stays_of_candidate {mode : Mode F} {buttons previousButtons reserved captured : Buttons}
    {candidate : Candidate} (member : candidate ∈ candidates mode buttons reserved)
    (eligible : candidate.eligible buttons previousButtons = true)
    (within : ∀ button, captured.contains button = true → reserved.contains button = true) :
    Mapper.routeEnds buttons reserved captured candidate.route = false := by
  simp only [Candidate.eligible, Bool.and_eq_true, Bool.not_eq_true'] at eligible
  obtain ⟨⟨⟨_, down⟩, _⟩, free⟩ := eligible
  have holds : (candidate.hold.any fun hold => !buttons.contains hold || reserved.contains hold) =
      false := by
    cases held : candidate.hold with
    | none => rfl
    | some hold =>
      obtain ⟨isDown, isFree⟩ := hold_of_candidate member held
      simp [isDown, isFree]
  have uncaptured : candidate.binding.inputs.meets captured = false := by
    rw [Buttons.meets_eq_false_iff] at free ⊢
    intro button input
    by_contra isCaptured
    -- what is captured is reserved, and what is reserved is unavailable
    have taken := unavailable_of_reserved member (within button (Bool.of_not_eq_false isCaptured))
    rw [free button input] at taken
    cases taken
  simp [Mapper.routeEnds, Candidate.route, down, holds, uncaptured]

/-- A route that the frame does not end is justified by it. -/
theorem justified_of_stays {mapper final : Mapper F} {state : ControllerState F}
    {globals : GlobalPass F} (all : AllGlobals mapper state globals) (wf : mapper.Wf)
    (config : final.config = globals.mapper.config) (flags : final.global = globals.mapper.global)
    {route : ActiveRoute}
    (stays : Mapper.routeEnds state.buttons globals.reserved globals.captured route = false) :
    Justified final state.buttons route := by
  simp only [Mapper.routeEnds, Bool.or_eq_false_iff, Bool.not_eq_false', Option.any_eq_false]
    at stays
  obtain ⟨⟨down, holds⟩, free⟩ := stays
  constructor
  · intro button input
    exact Buttons.containsAll_contains down input
  · intro button input captures
    rw [Mapper.HasCaptured, config, flags] at captures
    have captured := AllGlobals.captured_of all wf captures
    rw [(Buttons.meets_eq_false_iff _ _).mp free button input] at captured
    cases captured
  · intro hold held
    obtain ⟨isDown, isFree⟩ := holds hold held
    refine ⟨isDown, ?_⟩
    intro reserves
    rw [Mapper.HasReserved, config, flags] at reserves
    rw [AllGlobals.reserved_of all wf reserves] at isFree
    cases isFree

/-- A frame that goes on to its end with the keyboard hidden leaves justified routes. -/
theorem FrameKind.justified {mapper : Mapper F} {state : ControllerState F} {final : Pass F}
    (kind : FrameKind mapper state false final false) (wf : mapper.Wf) :
    ∀ route ∈ final.mapper.routes, Justified final.mapper state.buttons route := by
  cases kind with
  | keyboard visible => cases visible
  | @bindings globals released started final mode _ all ended found starts aside =>
    have frame := started_frame all ended starts
    have routes : final.mapper.routes = started.mapper.routes := by rw [aside.frame]
    intro route member
    apply justified_of_stays all wf
    · rw [aside.frame, frame, AllGlobals.frame all]
    · rw [aside.frame, frame]
    rw [routes, starts.routes] at member
    cases List.mem_append.mp member with
    | inl kept =>
      rw [RoutesReleased.left ended] at kept
      simpa using (List.mem_filter.mp kept).2
    | inr new =>
      obtain ⟨candidate, starting, rfl⟩ := List.mem_map.mp new
      obtain ⟨listed, eligible, _⟩ := not_busy_of_starting starting
      exact stays_of_candidate listed eligible fun _ => AllGlobals.reserved_of_captured all

/-! ## Distinct triggers -/

/-- No two active routes have the same trigger. -/
def Mapper.Distinct (mapper : Mapper F) : Prop := (mapper.routes.map ActiveRoute.trigger).Nodup

omit [Scalar F] in
theorem Mapper.Distinct.of_routes {before after : Mapper F} (distinct : before.Distinct)
    (same : after.routes = before.routes) : after.Distinct := by
  rw [Mapper.Distinct, same]
  exact distinct

omit [Scalar F] in
theorem distinct_of_cleared {mapper : Mapper F} (cleared : mapper.routes = []) :
    mapper.Distinct := by
  simp [Mapper.Distinct, cleared]

theorem FrameKind.distinct {mapper : Mapper F} {state : ControllerState F} {visible stopped : Bool}
    {pass : Pass F} (kind : FrameKind mapper state visible pass stopped)
    (distinct : mapper.Distinct) : pass.mapper.Distinct := by
  cases kind with
  | globalsCut cut =>
    obtain ⟨done, binding, position, rest, before, runtime, _, _, past, step⟩ := cut
    cases step with
    | toggle =>
      apply distinct.of_routes
      show before.mapper.routes = mapper.routes
      rw [past.frame]
      rfl
    | switch _ _ _ _ changed => exact distinct_of_cleared changed.routes
  | keyboard _ all done aside =>
    apply distinct.of_routes
    rw [aside.frame, done.frame, AllGlobals.frame all]
    rfl
  | startsCut _ _ _ _ cut =>
    obtain ⟨done, candidate, rest, before, _, past, step⟩ := cut
    cases step with
    | switch _ _ changed => exact distinct_of_cleared changed.routes
  | @bindings globals _ _ _ _ _ all ended found starts aside =>
    have settled : (globals.mapper.settle state.buttons).Distinct := by
      apply distinct.of_routes
      rw [Mapper.settle, AllGlobals.frame all]
      rfl
    have started := starts.triggers (RoutesReleased.triggers ended settled)
    rw [Mapper.Distinct, aside.frame]
    exact started

variable [Platform F]

/-- What one call of the mapper keeps. -/
theorem perform_distinct {mapper next : Mapper F} {operation : Operation F} {log : Log F}
    (wf : mapper.Wf) (accepts : ∀ config, operation = .reload config → config.Accepted)
    (performed : mapper.perform operation = .ok (next, log)) (distinct : mapper.Distinct) :
    next.Distinct := by
  cases perform_performed performed with
  | frame processed =>
    obtain ⟨stopped, kind⟩ := process_kind wf processed
    exact kind.distinct distinct
  | suspend =>
    apply distinct_of_cleared
    rw [Mapper.suspend, releaseOutputs_eq]
  | refused => exact distinct
  | switch switches =>
    cases switchMode_changes wf switches with
    | inl same => exact distinct.of_routes (congrArg Mapper.routes same.1)
    | inr changed => exact distinct_of_cleared changed.routes
  | reload reloads =>
    exact distinct_of_cleared (changed_of_reload (accepts _ rfl).wellFormed reloads).1.routes
  | releaseAll released =>
    obtain ⟨reset, resets, rfl, _⟩ := releaseAll_cases released
    obtain ⟨mode, _, rfl⟩ := resetRuntime_ok resets
    apply distinct_of_cleared
    rw [releaseOutputs_eq]

theorem performAll_distinct {mapper final : Mapper F} {operations : List (Operation F)}
    {logs : List (Log F)} (wf : mapper.Wf)
    (accepts : ∀ config, .reload config ∈ operations → config.Accepted)
    (performed : mapper.performAll operations = .ok (final, logs)) (distinct : mapper.Distinct) :
    final.Distinct :=
  performAll_ok (fun _ => Mapper.Distinct) wf accepts performed distinct
    fun _ _ _ _ _ stateWf accepted once => perform_distinct stateWf accepted once

/-- After any sequence of calls no two active routes have the same trigger, and if the next
    call is a frame with the keyboard hidden that no toggle and no mode switch cuts short,
    then every route that is active after it is justified by that frame. -/
theorem routes_justified {config : Config F} (accepted : config.Accepted)
    {operations : List (Operation F)}
    (accepts : ∀ config, .reload config ∈ operations → config.Accepted)
    {start mapper : Mapper F} {logs : List (Log F)} (news : Mapper.new config = .ok start)
    (performed : start.performAll operations = .ok (mapper, logs)) :
    (mapper.routes.map ActiveRoute.trigger).Nodup ∧
    ∀ state pass, mapper.processFrame state false = .ok (pass, false) →
      ∀ route ∈ pass.mapper.routes, Justified pass.mapper state.buttons route := by
  obtain ⟨same, newSame, wf⟩ := new_wf accepted.wellFormed
  cases news.symm.trans newSame
  have distinct : start.Distinct := by
    obtain ⟨mode, _, done⟩ := bind_ok news
    cases done
    exact distinct_of_cleared rfl
  constructor
  · exact performAll_distinct wf accepts performed distinct
  · intro state pass framed
    have reached := (performAll_wf wf operations accepts).of_ok performed
    exact ((processFrame_kind reached state false).of_ok framed).justified reached

end

/-- A mode binding is started by the press of its trigger. -/
theorem routes_justified_example :
    ∃ start mapper logs pass, Mapper.new exampleConfig = .ok start ∧
      start.performAll [.process (.withButtons (.ofList [])) false] = .ok (mapper, logs) ∧
      mapper.processFrame (.withButtons (.ofList [.b])) false = .ok (pass, false) ∧
      pass.mapper.routes = [⟨.ofList [.b], .b, none, some (.key ⟨48⟩)⟩] ∧
      ∀ route ∈ pass.mapper.routes, Justified pass.mapper (.ofList [.b]) route := by
  obtain ⟨⟨start, ⟨mapper, logs⟩, ⟨pass, stopped⟩⟩, runs, facts⟩ := map_ok
    (show (do
        let start ← Mapper.new exampleConfig
        let earlier ← start.performAll [.process (.withButtons (.ofList [])) false]
        let frame ← earlier.1.processFrame (.withButtons (.ofList [.b])) false
        return (start, earlier, frame) :
          Checked (Mapper ℚ × (Mapper ℚ × List (Log ℚ)) × Pass ℚ × Bool)).map
        (fun run => (run.2.2.1.mapper.routes, run.2.2.2)) =
          .ok ([⟨.ofList [.b], .b, none, some (.key ⟨48⟩)⟩], false) by
      decide +kernel)
  obtain ⟨start, news, rest⟩ := bind_ok runs
  obtain ⟨earlier, performed, rest⟩ := bind_ok rest
  obtain ⟨frame, framed, done⟩ := bind_ok rest
  cases done
  simp only [Prod.mk.injEq] at facts
  obtain ⟨routes, rfl⟩ := facts
  have justified := (routes_justified example_accepted (by simp) news performed).2 _ _ framed
  exact ⟨start, mapper, logs, pass, news, performed, framed, routes, justified⟩

end Scd.Daemon
