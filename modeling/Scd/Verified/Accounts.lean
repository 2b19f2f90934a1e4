import Scd.Verified.MapperSafety

/-! # Who claims what

The claims that stand at some point of a run are read off the log; who is entitled to claim
is read off the state of the mapper.  For routes and for inputs of the on-screen keyboard
the two agree at all times.  A global binding can lose its claim, when everything is
released, and still be active: then it is entitled to a claim that does not stand.
-/

namespace Scd.Daemon

open Scd.Core Scd.Foundation

section

variable {F : Type} [Scalar F]

/-! ## Entitled owners -/

/-- The output that a global binding holds while it is active and its buttons are down. -/
def Mapper.globalHeld (mapper : Mapper F) (position : Nat) : Option HeldOutput :=
  match mapper.config.globalBindings[position]?, mapper.global[position]? with
  | some binding, some runtime =>
    if runtime.active && binding.allActive mapper.previousButtons then binding.held else none
  | _, _ => none

omit [Scalar F] in
/-- The key of an input of the on-screen keyboard that is pressed. -/
def Mapper.oskHeld (mapper : Mapper F) (input : Button) : Option HeldOutput :=
  if mapper.oskActive.contains input then
    (mapper.config.oskBindings.get? input).map HeldOutput.key
  else none

omit [Scalar F] in
/-- The output of the route with a trigger. -/
def Mapper.routeHeld (mapper : Mapper F) (trigger : Button) : Option HeldOutput :=
  (mapper.routes.find? fun route => route.trigger = trigger).bind ActiveRoute.held

/-- The claims that stand, compared with the state of the mapper. -/
structure Accounted (mapper : Mapper F) (claims : List (Owner × HeldOutput)) : Prop where
  triggers : (mapper.routes.map ActiveRoute.trigger).Nodup
  routes : ∀ trigger, Ledger.ownedBy (.route trigger) claims = (mapper.routeHeld trigger).toList
  osk : ∀ input, Ledger.ownedBy (.osk input) claims = (mapper.oskHeld input).toList

/-- At the end of a turn, in addition: who claims has its buttons down, and the keyboard and
    the routes exclude each other. -/
structure Settled (mapper : Mapper F) (visible : Bool) (claims : List (Owner × HeldOutput)) : Prop
    extends Accounted mapper claims where
  globals : ∀ position, Ledger.ownedBy (.global position) claims = [] ∨
    Ledger.ownedBy (.global position) claims = (mapper.globalHeld position).toList
  inputs : ∀ route ∈ mapper.routes, route.inputs.contains route.trigger = true ∧
    mapper.previousButtons.contains route.trigger = true
  quarantined : ∀ button, mapper.quarantined.contains button = true →
    mapper.previousButtons.contains button = true
  keys : ∀ input, mapper.oskHeld input ≠ none → mapper.previousButtons.contains input = true
  shown : visible = true → mapper.routes = [] ∧ mapper.quarantined = {}
  hidden : visible = false → ∀ input, mapper.oskActive.contains input = false

omit [Scalar F] in
/-- After a full release nobody claims anything. -/
theorem Settled.of_cleared [Scalar F] {mapper : Mapper F} (routes : mapper.routes = [])
    (oskActive : mapper.oskActive = {}) (quarantined : mapper.quarantined = {}) (visible : Bool) :
    Settled mapper visible [] where
  triggers := by simp [routes]
  routes := by
    intro trigger
    simp [Mapper.routeHeld, routes]
  osk := by
    intro input
    rw [Mapper.oskHeld, oskActive, Buttons.contains_empty]
    rfl
  globals := fun _ => .inl rfl
  inputs := by simp [routes]
  quarantined := by
    intro button
    rw [quarantined, Buttons.contains_empty]
    simp
  keys := by
    intro input
    rw [Mapper.oskHeld, oskActive, Buttons.contains_empty]
    simp
  shown := fun _ => ⟨routes, quarantined⟩
  hidden := by
    intro _ input
    rw [oskActive, Buttons.contains_empty]

theorem releaseOutputs_settled (mapper : Mapper F) (visible : Bool) :
    Settled mapper.releaseOutputs.1 visible [] := by
  rw [releaseOutputs_eq]
  exact .of_cleared rfl rfl rfl visible

theorem Changed.settled {before after : Mapper F} {log : Log F} (changed : Changed before log after)
    (visible : Bool) : Settled after visible [] :=
  .of_cleared changed.routes changed.oskActive changed.quarantined visible

theorem Changed.claims {before after : Mapper F} {log : Log F} (changed : Changed before log after)
    (claims : List (Owner × HeldOutput)) : Ledger.claims claims log.events = [] := by
  rw [changed.events]
  rfl

/-! ## The global bindings -/

/-- What a global binding does to the claims. -/
def globalEvents (binding : GlobalBinding) (runtime : GlobalState) (buttons previousButtons : Buttons)
    (position : Nat) : List (ClaimEvent Owner HeldOutput) :=
  if binding.pressed buttons previousButtons then
    (binding.held.map (.claim (.global position))).toList
  else if runtime.active && !binding.allActive buttons then
    (binding.held.map (.unclaim (.global position))).toList
  else []

theorem globalNotes_events (binding : GlobalBinding) (runtime : GlobalState)
    (buttons previousButtons : Buttons) (position : Nat) :
    (globalNotes binding runtime buttons previousButtons position).filterMap Note.event? =
      globalEvents binding runtime buttons previousButtons position := by
  unfold globalNotes globalEvents
  cases binding.held <;> split <;> (try split) <;> rfl

/-- They concern the binding only. -/
theorem concerns_globalEvents {binding : GlobalBinding} {runtime : GlobalState}
    {buttons previousButtons : Buttons} {position : Nat} {event : ClaimEvent Owner HeldOutput}
    (member : event ∈ globalEvents binding runtime buttons previousButtons position) (owner : Owner) :
    Ledger.concerns owner event = decide (Owner.global position = owner) := by
  unfold globalEvents at member
  cases held : binding.held with
  | none => simp [held] at member
  | some output =>
    simp only [held, Option.map_some, Option.toList_some] at member
    split at member
    · cases List.mem_singleton.mp member
      rfl
    · split at member
      · cases List.mem_singleton.mp member
        rfl
      · cases member

/-- The events of one item of the loop. -/
def visitEvents (start : Mapper F) (buttons previousButtons : Buttons) (item : GlobalBinding × Nat) :
    List (ClaimEvent Owner HeldOutput) :=
  ((start.global[item.2]?).map fun runtime =>
    globalEvents item.1 runtime buttons previousButtons item.2).getD []

theorem GlobalsDone.events {start : Mapper F} {buttons previousButtons : Buttons}
    {done : List (GlobalBinding × Nat)} {pass : GlobalPass F}
    (past : GlobalsDone start buttons previousButtons done pass) :
    pass.log.events = done.flatMap (visitEvents start buttons previousButtons) := by
  rw [events_eq, past.notes, List.filterMap_flatMap]
  congr 1
  funext item
  unfold visitEvents
  cases start.global[item.2]? with
  | none => rfl
  | some runtime => exact globalNotes_events _ _ _ _ _

omit [Scalar F] in
theorem concerning_visited (start : Mapper F) (buttons previousButtons : Buttons)
    (done : List (GlobalBinding × Nat)) (owner : Owner) :
    (done.flatMap (visitEvents start buttons previousButtons)).filter (Ledger.concerns owner) =
      (done.filter fun item => Owner.global item.2 = owner).flatMap
        (visitEvents start buttons previousButtons) := by
  apply Ledger.concerning_flatMap fun item : GlobalBinding × Nat => Owner.global item.2
  intro item _ event emitted
  unfold visitEvents at emitted
  cases found : start.global[item.2]? with
  | none => simp [found] at emitted
  | some runtime =>
    rw [found] at emitted
    exact concerns_globalEvents emitted

omit [Scalar F] in
/-- Nothing changes for an owner that is not visited. -/
theorem ownedBy_unvisited (start : Mapper F) (buttons previousButtons : Buttons)
    {done : List (GlobalBinding × Nat)} {owner : Owner}
    (unvisited : ∀ item ∈ done, Owner.global item.2 ≠ owner) (claims : List (Owner × HeldOutput)) :
    Ledger.ownedBy owner
        (Ledger.claims claims (done.flatMap (visitEvents start buttons previousButtons))) =
      Ledger.ownedBy owner claims := by
  have none : (done.filter fun item => Owner.global item.2 = owner) = [] := by
    rw [List.filter_eq_nil_iff]
    intro item member same
    exact unvisited item member (of_decide_eq_true same)
  rw [Ledger.ownedBy_claims, concerning_visited, none]
  rfl

omit [Scalar F] in
/-- A visited binding claims its output, or gives it back, or keeps what it has. -/
theorem ownedBy_visited {start : Mapper F} (buttons previousButtons : Buttons)
    {done rest : List (GlobalBinding × Nat)}
    (split : start.config.globalBindings.zipIdx = done ++ rest) {binding : GlobalBinding}
    {position : Nat} (member : (binding, position) ∈ done) {runtime : GlobalState}
    (found : start.global[position]? = some runtime) (claims : List (Owner × HeldOutput)) :
    Ledger.ownedBy (.global position)
        (Ledger.claims claims (done.flatMap (visitEvents start buttons previousButtons))) =
      (globalEvents binding runtime buttons previousButtons position).foldl Ledger.ownStep
        (Ledger.ownedBy (.global position) claims) := by
  obtain ⟨lt, here⟩ := zipIdx_before split member
  have only : (done.filter fun item => Owner.global item.2 = .global position) =
      [(binding, position)] := by
    have filtered := zipIdx_filter (start.config.globalBindings.take done.length) position
    rw [← zipIdx_prefix split, List.getElem?_take_of_lt lt, here] at filtered
    simpa using filtered
  rw [Ledger.ownedBy_claims, concerning_visited, only, List.flatMap_singleton, visitEvents, found]
  rfl

/-- A binding that loses its claim, or never had it, has none afterwards; the others are
    entitled to what they claim. -/
theorem globalEvents_settled (binding : GlobalBinding) (runtime : GlobalState)
    (buttons previousButtons : Buttons) (position : Nat) {owned : List HeldOutput}
    (before : owned = [] ∨ owned =
      (if runtime.active && binding.allActive previousButtons then binding.held else none).toList) :
    let after := (globalEvents binding runtime buttons previousButtons position).foldl
      Ledger.ownStep owned
    after = [] ∨ after = (if (binding.next runtime buttons previousButtons).active &&
      binding.allActive buttons then binding.held else none).toList := by
  dsimp only
  cases pressed : binding.pressed buttons previousButtons with
  | true =>
    -- a trigger edge: the trigger was up, so nothing was claimed before
    have wasUp : binding.allActive previousButtons = false := by
      simp only [GlobalBinding.pressed, Bool.and_eq_true, Bool.not_eq_true'] at pressed
      simp [GlobalBinding.allActive, pressed.1.2]
    have none : owned = [] := by simpa [wasUp] using before
    right
    rw [next_active binding runtime pressed, pressed_allActive pressed, none]
    cases held : binding.held <;> simp [globalEvents, pressed, held, Ledger.ownStep]
  | false =>
    cases active : runtime.active with
    | false =>
      left
      simpa [globalEvents, pressed, active] using before
    | true =>
      cases down : binding.allActive buttons with
      | true =>
        have stays : (binding.next runtime buttons previousButtons).active = true := by
          simp [GlobalBinding.next, active, down]
        rw [stays]
        simp only [globalEvents, pressed, active, down, Bool.false_eq_true, if_false, Bool.not_true,
          Bool.and_false, List.foldl_nil, Bool.and_self, if_true]
        rcases before with none | entitled
        · exact .inl none
        · by_cases wasDown : binding.allActive previousButtons = true
          · exact .inr (by simpa [active, wasDown] using entitled)
          · exact .inl (by simpa [active, wasDown] using entitled)
      | false =>
        left
        rcases before with none | entitled
        · cases held : binding.held <;>
            simp [globalEvents, pressed, active, down, held, Ledger.ownStep, none]
        · cases held : binding.held with
          | none => simpa [globalEvents, pressed, active, down, held] using entitled
          | some output =>
            by_cases wasDown : binding.allActive previousButtons = true <;>
              simp [globalEvents, pressed, active, down, held, Ledger.ownStep, entitled, wasDown]

omit [Scalar F] in
theorem globalHeld_congr {left right : Mapper F} (config : left.config = right.config)
    (global : left.global = right.global) (previous : left.previous = right.previous)
    (position : Nat) : left.globalHeld position = right.globalHeld position := by
  unfold Mapper.globalHeld Mapper.previousButtons
  rw [config, global, previous]

theorem Accounted.visit {start : Mapper F} {buttons previousButtons : Buttons}
    {done : List (GlobalBinding × Nat)} {pass : GlobalPass F} {claims : List (Owner × HeldOutput)}
    (accounted : Accounted start claims)
    (past : GlobalsDone start buttons previousButtons done pass) :
    Accounted pass.mapper (Ledger.claims claims pass.log.events) := by
  rw [past.events, past.frame]
  constructor
  case triggers => exact accounted.triggers
  case routes =>
    intro trigger
    rw [ownedBy_unvisited start buttons previousButtons (by simp), accounted.routes]
    rfl
  case osk =>
    intro input
    rw [ownedBy_unvisited start buttons previousButtons (by simp), accounted.osk]
    rfl

omit [Scalar F] in
/-- A binding that the loop of a frame has visited claims nothing, or what it is entitled to. -/
theorem visited_settled {mapper : Mapper F} (state : ControllerState F)
    {done rest : List (GlobalBinding × Nat)} {claims : List (Owner × HeldOutput)} (wf : mapper.Wf)
    (split : mapper.config.globalBindings.zipIdx = done ++ rest) {binding : GlobalBinding}
    {position : Nat} (member : (binding, position) ∈ done)
    (before : Ledger.ownedBy (.global position) claims = [] ∨
      Ledger.ownedBy (.global position) claims = (mapper.globalHeld position).toList) :
    ∃ runtime, mapper.global[position]? = some runtime ∧
      let after := Ledger.ownedBy (.global position) (Ledger.claims claims
        (done.flatMap (visitEvents (mapper.receive state) state.buttons mapper.previousButtons)))
      after = [] ∨ after =
        (if (binding.next runtime state.buttons mapper.previousButtons).active &&
          binding.allActive state.buttons then binding.held else none).toList := by
  have present : mapper.config.globalBindings[position]? = some binding :=
    (zipIdx_before split member).2
  have lt : position < mapper.global.length := by
    rw [wf.global]
    exact (List.getElem?_eq_some_iff.mp present).1
  have found := List.getElem?_eq_getElem lt
  have received : (mapper.receive state).config.globalBindings.zipIdx = done ++ rest := split
  refine ⟨_, found, ?_⟩
  dsimp only
  rw [ownedBy_visited state.buttons mapper.previousButtons received member found]
  apply globalEvents_settled binding mapper.global[position] state.buttons mapper.previousButtons
  simpa only [Mapper.globalHeld, present, found] using before

/-- After all global bindings are visited. -/
theorem AllGlobals.globals {mapper : Mapper F} {state : ControllerState F} {globals : GlobalPass F}
    {claims : List (Owner × HeldOutput)} (all : AllGlobals mapper state globals) (wf : mapper.Wf)
    (before : ∀ position, Ledger.ownedBy (.global position) claims = [] ∨
      Ledger.ownedBy (.global position) claims = (mapper.globalHeld position).toList)
    (position : Nat) :
    Ledger.ownedBy (.global position) (Ledger.claims claims globals.log.events) = [] ∨
      Ledger.ownedBy (.global position) (Ledger.claims claims globals.log.events) =
        (globals.mapper.globalHeld position).toList := by
  have previous : globals.mapper.previousButtons = state.buttons := by
    rw [GlobalsDone.frame all]
    rfl
  have config : globals.mapper.config = mapper.config := by
    rw [GlobalsDone.frame all]
    rfl
  rw [GlobalsDone.events all]
  cases present : mapper.config.globalBindings[position]? with
  | none =>
    -- no such binding, and so no claim
    have unvisited : ∀ item ∈ mapper.config.globalBindings.zipIdx,
        Owner.global item.2 ≠ .global position := by
      intro item member same
      have here := (zipIdx_before (List.append_nil _).symm member).2
      cases same
      cases present.symm.trans here
    rw [ownedBy_unvisited (mapper.receive state) state.buttons mapper.previousButtons unvisited]
    exact .inl (by simpa [Mapper.globalHeld, present] using before position)
  | some binding =>
    have member : (binding, position) ∈ mapper.config.globalBindings.zipIdx := by
      rw [List.mem_zipIdx_iff_getElem?]
      exact present
    obtain ⟨runtime, found, after⟩ :=
      visited_settled state wf (List.append_nil _).symm member (before position)
    have flags := GlobalsDone.visited all _ member _ found
    simp only [Mapper.globalHeld, config, present, flags, previous]
    exact after

/-! ## The on-screen keyboard -/

def oskEvents (buttons reserved active : Buttons) (binding : Button × KeyCode) :
    List (ClaimEvent Owner HeldOutput) :=
  if oskPressed buttons reserved binding.1 = active.contains binding.1 then []
  else [heldEvent (.osk binding.1) (.key binding.2) (oskPressed buttons reserved binding.1)]

theorem OskDone.events {start : Mapper F} {buttons reserved : Buttons}
    {done : List (Button × KeyCode)} {pass : Pass F} (past : OskDone start buttons reserved done pass) :
    pass.log.events = done.flatMap (oskEvents buttons reserved start.oskActive) := by
  rw [events_eq, past.notes, List.filterMap_flatMap]
  congr 1
  funext binding
  unfold oskNotes oskEvents heldNote heldEvent
  split
  · rfl
  · split <;> rfl

theorem concerns_heldEvent (owner other : Owner) (output : HeldOutput) (active : Bool) :
    Ledger.concerns owner (heldEvent other output active) = decide (other = owner) := by
  cases active <;> rfl

/-- The entries of a map under a key. -/
theorem filter_entries {κ ν : Type} [DecidableEq κ] (map : IndexMap κ ν) (key : κ) :
    (map.entries.filter fun entry => entry.1 = key) =
      ((map.get? key).map fun value => (key, value)).toList := by
  rw [filter_of_nodup map.nodup key, IndexMap.get?]
  cases found : map.entries.find? fun entry => entry.1 = key with
  | none => rfl
  | some entry =>
    have same : entry.1 = key := by simpa using List.find?_some found
    simp [← same]

theorem concerns_oskEvents {buttons reserved active : Buttons} {binding : Button × KeyCode}
    {event : ClaimEvent Owner HeldOutput}
    (emitted : event ∈ oskEvents buttons reserved active binding) (owner : Owner) :
    Ledger.concerns owner event = decide (Owner.osk binding.1 = owner) := by
  unfold oskEvents at emitted
  split at emitted
  · cases emitted
  · cases List.mem_singleton.mp emitted
    exact concerns_heldEvent owner (.osk binding.1) _ _

/-- An input's events concern the input only. -/
theorem OskDone.concerning {start : Mapper F} {buttons reserved : Buttons}
    {done : List (Button × KeyCode)} {pass : Pass F} (past : OskDone start buttons reserved done pass)
    (owner : Owner) :
    pass.log.events.filter (Ledger.concerns owner) =
      (done.filter fun entry => Owner.osk entry.1 = owner).flatMap
        (oskEvents buttons reserved start.oskActive) := by
  rw [past.events]
  apply Ledger.concerning_flatMap fun entry : Button × KeyCode => Owner.osk entry.1
  intro entry _ event emitted
  exact concerns_oskEvents emitted

theorem OskDone.accounted {start : Mapper F} {buttons reserved : Buttons} {pass : Pass F}
    {claims : List (Owner × HeldOutput)}
    (done : OskDone start buttons reserved start.config.oskBindings.entries pass)
    (accounted : Accounted start claims) :
    Accounted pass.mapper (Ledger.claims claims pass.log.events) := by
  have routes : pass.mapper.routes = start.routes := by rw [done.frame]
  have config : pass.mapper.config = start.config := by rw [done.frame]
  constructor
  case triggers =>
    rw [routes]
    exact accounted.triggers
  case routes =>
    intro trigger
    rw [Ledger.ownedBy_claims, done.concerning, Mapper.routeHeld, routes]
    simpa [Mapper.routeHeld] using accounted.routes trigger
  case osk =>
    intro input
    have only : (start.config.oskBindings.entries.filter fun entry =>
        Owner.osk entry.1 = .osk input) =
          ((start.config.oskBindings.get? input).map fun key => (input, key)).toList := by
      simpa using filter_entries start.config.oskBindings input
    rw [Ledger.ownedBy_claims, done.concerning, only, accounted.osk, Mapper.oskHeld, Mapper.oskHeld,
      config, done.active]
    cases bound : start.config.oskBindings.get? input with
    | none => simp
    | some key =>
      have visited : input ∈ start.config.oskBindings.entries.map Prod.fst :=
        IndexMap.mem_keys_iff_get?.mpr ⟨key, bound⟩
      rw [if_pos visited]
      simp only [Option.map_some, Option.toList_some, List.flatMap_singleton, oskEvents]
      cases oskPressed buttons reserved input <;> cases start.oskActive.contains input <;>
        simp [heldEvent, Ledger.ownStep]

/-! ## Routes -/

omit [Scalar F] in
theorem routeHeld_toList {mapper : Mapper F} (triggers : (mapper.routes.map ActiveRoute.trigger).Nodup)
    (trigger : Button) :
    (mapper.routeHeld trigger).toList =
      (mapper.routes.filter fun route => route.trigger = trigger).filterMap ActiveRoute.held := by
  rw [filter_of_nodup triggers, Mapper.routeHeld]
  cases mapper.routes.find? fun route => route.trigger = trigger with
  | none => rfl
  | some route => cases held : route.held <;> simp [held]

theorem RoutesReleased.events {start : Mapper F} {buttons reserved captured : Buttons} {pass : Pass F}
    (released : RoutesReleased start buttons reserved captured 0 pass) :
    pass.log.events = (start.routes.filter (Mapper.routeEnds buttons reserved captured)).reverse.flatMap
      fun route => (route.held.map (.unclaim (.route route.trigger))).toList := by
  rw [events_eq, released.notes, List.drop_zero, List.filterMap_filterMap, List.filterMap_eq_flatMap_toList]
  congr 1
  funext route
  cases route.held <;> rfl

theorem RoutesReleased.concerning {start : Mapper F} {buttons reserved captured : Buttons}
    {pass : Pass F} (released : RoutesReleased start buttons reserved captured 0 pass)
    (owner : Owner) :
    pass.log.events.filter (Ledger.concerns owner) =
      ((start.routes.filter (Mapper.routeEnds buttons reserved captured)).reverse.filter fun route =>
        Owner.route route.trigger = owner).flatMap fun route =>
          (route.held.map (.unclaim (.route route.trigger))).toList := by
  rw [released.events]
  apply Ledger.concerning_flatMap fun route : ActiveRoute => Owner.route route.trigger
  intro route _ event emitted
  obtain ⟨output, _, rfl⟩ := Option.map_eq_some_iff.mp (Option.mem_toList.mp emitted)
  exact fun owner => rfl

/-- The routes that have not ended. -/
theorem RoutesReleased.left {start : Mapper F} {buttons reserved captured : Buttons} {pass : Pass F}
    (released : RoutesReleased start buttons reserved captured 0 pass) :
    pass.mapper.routes =
      start.routes.filter fun route => !Mapper.routeEnds buttons reserved captured route := by
  simpa using released.routes

theorem RoutesReleased.triggers {start : Mapper F} {buttons reserved captured : Buttons}
    {pass : Pass F} (released : RoutesReleased start buttons reserved captured 0 pass)
    (distinct : (start.routes.map ActiveRoute.trigger).Nodup) :
    (pass.mapper.routes.map ActiveRoute.trigger).Nodup := by
  rw [released.left]
  exact distinct.sublist (List.filter_sublist.map _)

theorem RoutesReleased.accounted {start : Mapper F} {buttons reserved captured : Buttons}
    {pass : Pass F} {claims : List (Owner × HeldOutput)}
    (released : RoutesReleased start buttons reserved captured 0 pass)
    (accounted : Accounted start claims) :
    Accounted pass.mapper (Ledger.claims claims pass.log.events) := by
  have routes := released.left
  have triggers := released.triggers accounted.triggers
  refine ⟨triggers, ?_, ?_⟩
  · intro trigger
    rw [Ledger.ownedBy_claims, released.concerning, accounted.routes, routeHeld_toList triggers,
      routeHeld_toList accounted.triggers, routes]
    -- at most one route has the trigger, and it stays or ends
    have only : ∀ keep : ActiveRoute → Bool,
        ((start.routes.filter keep).filter fun route => route.trigger = trigger) =
          (start.routes.find? fun route => route.trigger = trigger).toList.filter keep := by
      intro keep
      rw [← filter_of_nodup accounted.triggers, List.filter_filter, List.filter_filter]
      congr 1
      funext route
      exact Bool.and_comm _ _
    simp only [Owner.route.injEq, List.filter_reverse, only, filter_of_nodup accounted.triggers]
    cases start.routes.find? fun route => route.trigger = trigger with
    | none => rfl
    | some route =>
      cases ends : Mapper.routeEnds buttons reserved captured route <;>
        cases held : route.held <;> simp [ends, held, Ledger.ownStep]
  · intro input
    rw [Ledger.ownedBy_claims, released.concerning, Mapper.oskHeld, released.frame]
    simpa [Mapper.oskHeld] using accounted.osk input

theorem StartsDone.events {start : Mapper F} {buttons previousButtons : Buttons}
    {done : List Candidate} {pass : Pass F}
    (past : StartsDone start buttons previousButtons done pass) :
    pass.log.events = (start.starting buttons previousButtons done).flatMap fun candidate =>
      (candidate.held.map (.claim (.route candidate.trigger))).toList := by
  rw [events_eq, past.notes, List.filterMap_flatMap]
  congr 1
  funext candidate
  unfold Candidate.notes
  cases candidate.held <;> rfl

theorem StartsDone.concerning {start : Mapper F} {buttons previousButtons : Buttons}
    {done : List Candidate} {pass : Pass F} (past : StartsDone start buttons previousButtons done pass)
    (owner : Owner) :
    pass.log.events.filter (Ledger.concerns owner) =
      ((start.starting buttons previousButtons done).filter fun candidate =>
        Owner.route candidate.trigger = owner).flatMap fun candidate =>
          (candidate.held.map (.claim (.route candidate.trigger))).toList := by
  rw [past.events]
  apply Ledger.concerning_flatMap fun candidate : Candidate => Owner.route candidate.trigger
  intro candidate _ event emitted
  obtain ⟨output, _, rfl⟩ := Option.map_eq_some_iff.mp (Option.mem_toList.mp emitted)
  exact fun owner => rfl

omit [Scalar F] in
/-- A candidate that starts has a free trigger. -/
theorem not_busy_of_starting {mapper : Mapper F} {buttons previousButtons : Buttons}
    {items : List Candidate} {candidate : Candidate}
    (member : candidate ∈ mapper.starting buttons previousButtons items) :
    candidate ∈ items ∧ candidate.eligible buttons previousButtons = true ∧
      ∀ route ∈ mapper.routes, route.trigger ≠ candidate.trigger := by
  obtain ⟨listed, kept⟩ := mem_firsts member
  simp only [Mapper.busy, Bool.and_eq_true, Bool.not_eq_true', Bool.or_eq_false_iff,
    List.any_eq_false, decide_eq_true_eq] at kept
  exact ⟨listed, kept.1, kept.2.1⟩

/-- The routes that start have triggers of their own. -/
theorem StartsDone.triggers {start : Mapper F} {buttons previousButtons : Buttons}
    {done : List Candidate} {pass : Pass F} (past : StartsDone start buttons previousButtons done pass)
    (distinct : (start.routes.map ActiveRoute.trigger).Nodup) :
    (pass.mapper.routes.map ActiveRoute.trigger).Nodup := by
  rw [past.routes, List.map_append, List.map_map, List.nodup_append]
  refine ⟨distinct, nodup_firsts Candidate.trigger _ done, ?_⟩
  intro trigger old other new same
  obtain ⟨route, active, rfl⟩ := List.mem_map.mp old
  obtain ⟨candidate, starts, rfl⟩ := List.mem_map.mp new
  exact (not_busy_of_starting starts).2.2 route active same

theorem StartsDone.accounted {start : Mapper F} {buttons previousButtons : Buttons}
    {done : List Candidate} {pass : Pass F} {claims : List (Owner × HeldOutput)}
    (past : StartsDone start buttons previousButtons done pass) (accounted : Accounted start claims) :
    Accounted pass.mapper (Ledger.claims claims pass.log.events) := by
  have triggers := past.triggers accounted.triggers
  refine ⟨triggers, ?_, ?_⟩
  · intro trigger
    have started : (pass.mapper.routes.filter fun route => route.trigger = trigger) =
        (start.routes.filter fun route => route.trigger = trigger) ++
          ((start.starting buttons previousButtons done).filter fun candidate =>
            candidate.trigger = trigger).map Candidate.route := by
      rw [past.routes, List.filter_append, List.filter_map]
      rfl
    rw [Ledger.ownedBy_claims, past.concerning, accounted.routes, routeHeld_toList triggers,
      routeHeld_toList accounted.triggers, started]
    simp only [Owner.route.injEq]
    have only := filter_firsts Candidate.trigger (fun candidate =>
      candidate.eligible buttons previousButtons && !start.busy candidate.trigger) done trigger
    rw [← Mapper.starting] at only
    cases first : (start.starting buttons previousButtons done).filter fun candidate =>
        candidate.trigger = trigger with
    | nil => simp
    | cons candidate rest =>
      -- a route starts with this trigger, so there was none before
      obtain ⟨starts, same⟩ := List.mem_filter.mp (first ▸ List.mem_cons_self)
      have fresh : (start.routes.filter fun route => route.trigger = trigger) = [] := by
        rw [List.filter_eq_nil_iff]
        intro route active isTrigger
        exact (not_busy_of_starting starts).2.2 route active
          ((of_decide_eq_true isTrigger).trans (of_decide_eq_true same).symm)
      have alone : rest = [] := by
        rw [first] at only
        generalize done.find? _ = found at only
        cases found with
        | none => cases only
        | some _ => exact (List.cons.inj only).2
      rw [fresh, alone]
      cases held : candidate.held <;> simp [Candidate.route, held, Ledger.ownStep]
  · intro input
    rw [Ledger.ownedBy_claims, past.concerning, Mapper.oskHeld, past.frame]
    simpa [Mapper.oskHeld] using accounted.osk input

end

end Scd.Daemon
