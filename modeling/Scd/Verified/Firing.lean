import Mathlib.Data.List.Find
import Scd.Verified.MapperSafety
import Scd.Verified.Reservation
import Scd.Verified.Sessions
import Scd.Verified.Settlement

/-! # Which bindings fire

The rule by which a frame with the keyboard hidden starts mode and layer bindings, stated
without the loops: of each button that goes down, the first binding in a fixed order that is
eligible.  Routes and quarantine are not part of the rule.  In a state that a run reaches they
concern only buttons that were down before.
-/

namespace Scd.Daemon

open Scd.Core Scd.Foundation

section

variable {F : Type}

/-! ## The rule -/

/-- The bindings of the mode, then those of its layers with the holds of these. -/
def offers (mode : Mode F) : List (Binding × Option Button) :=
  (mode.bindings.map fun binding => (binding, none)) ++
    mode.layers.flatMap fun layer => layer.bindings.map fun binding => (binding, some layer.hold)

/-- Mode chords, layer chords, single-button bindings of the mode, and those of the layers. -/
def rulebook (mode : Mode F) : List (Binding × Option Button) :=
  ((offers mode).filter fun offer => offer.1.isChord) ++
    (offers mode).filter fun offer => !offer.1.isChord

section

variable (mode : Mode F) (buttons previousButtons : Buttons) (reserved : Button → Bool)

/-- The hold of the layer is down, and no global binding has reserved it. -/
def holdActive (hold : Button) : Bool := buttons.contains hold && !reserved hold

/-- The binding may use this input: it is down, was down before unless it is the trigger, and is
    reserved neither by global bindings nor, for a single-button binding, by a chord. -/
def usable (binding : Binding) (input : Button) : Bool :=
  buttons.contains input && (input = binding.trigger || previousButtons.contains input) &&
    !reserved input && (binding.isChord ||
      !chordReserves mode (fun layer => holdActive buttons reserved layer.hold) buttons input)

/-- A binding of the mode must not be overridden, one of a layer needs the hold. -/
def offered (offer : Binding × Option Button) : Bool :=
  match offer.2 with
  | none => !overrides mode (fun layer => holdActive buttons reserved layer.hold) offer.1.trigger
  | some hold => holdActive buttons reserved hold

def eligible (offer : Binding × Option Button) : Bool :=
  offered mode buttons reserved offer && Button.all.all fun input =>
    !offer.1.inputs.contains input || usable mode buttons previousButtons reserved offer.1 input

/-- The binding that fires for a trigger, with the hold of its layer. -/
def firing (trigger : Button) : Option (Binding × Option Button) :=
  if buttons.contains trigger && !previousButtons.contains trigger then
    (rulebook mode).find? fun offer =>
      offer.1.trigger = trigger && eligible mode buttons previousButtons reserved offer
  else none

end

/-- A global binding reserves the button in this frame. -/
def Mapper.reserves (mapper : Mapper F) (buttons previousButtons : Buttons) (button : Button) : Bool :=
  mapper.config.globalBindings.zipIdx.any fun item => mapper.global[item.2]?.any fun runtime =>
    item.1.reserves (item.1.next runtime buttons previousButtons).captured buttons button

/-- The mode and layer bindings that fire in a log. -/
def Note.started? : Note → Option (Binding × Option Button)
  | .start binding hold => some (binding, hold)
  | _ => none

def Log.fired (log : Log F) : List (Binding × Option Button) := log.notes.filterMap Note.started?

/-! ## Candidates and the rulebook -/

/-- The candidate that the loops make of an offer. -/
def candidateOf (mode : Mode F) (buttons reserved : Buttons) (offer : Binding × Option Button) :
    Candidate :=
  ⟨offer.1, offer.2, if offer.1.isChord then reserved
    else chordReserved mode buttons reserved (overriddenTriggers mode buttons reserved)⟩

/-- The offers of one list of bindings in one of the two passes. -/
theorem pass_offers (mode : Mode F) (buttons reserved : Buttons) (chord : Bool)
    (bindings : List Binding) (hold : Option Button) :
    ((bindings.map fun binding => (binding, hold)).filter fun offer =>
        offer.1.isChord = chord && offered mode buttons reserved.contains offer).map
          (candidateOf mode buttons reserved) =
      (bindings.filter fun binding => binding.isChord = chord &&
        offered mode buttons reserved.contains (binding, hold)).map fun binding =>
          ⟨binding, hold, if chord then reserved
            else chordReserved mode buttons reserved (overriddenTriggers mode buttons reserved)⟩ := by
  rw [List.filter_map, List.map_map]
  apply List.map_congr_left
  intro binding member
  have kind : binding.isChord = chord := by
    have kept := (List.mem_filter.mp member).2
    simp only [Function.comp_apply, Bool.and_eq_true, decide_eq_true_eq] at kept
    exact kept.1
  rw [Function.comp_apply, candidateOf, kind]

theorem pass_layers {α : Type} (active : Layer → Bool) (candidates : Layer → List α)
    (layers : List Layer) :
    (layers.filter active).flatMap candidates =
      layers.flatMap fun layer => if active layer then candidates layer else [] := by
  induction layers with
  | nil => rfl
  | cons layer layers inductionHypothesis =>
    cases isActive : active layer with
    | true => simp [isActive, inductionHypothesis]
    | false => simp [isActive, inductionHypothesis]

theorem passCandidates_eq (mode : Mode F) (buttons reserved : Buttons) (chord : Bool) :
    passCandidates mode buttons reserved chord =
      ((offers mode).filter fun offer => offer.1.isChord = chord &&
        offered mode buttons reserved.contains offer).map (candidateOf mode buttons reserved) := by
  rw [offers, List.filter_append, List.map_append, pass_offers, passCandidates, modeCandidates]
  congr 1
  · congr 1
    apply List.filter_congr
    intro binding _
    rw [contains_overriddenTriggers]
    rfl
  · rw [pass_layers, List.filter_flatMap, List.map_flatMap]
    apply List.flatMap_congr
    intro layer _
    rw [pass_offers, layerCandidates]
    -- every binding of a layer stands or falls with the hold
    cases active : layerActive buttons reserved layer with
    | true =>
      have offered : ∀ binding, offered mode buttons reserved.contains (binding, some layer.hold) = true :=
        fun _ => active
      simp [offered]
    | false =>
      have offered : ∀ binding, offered mode buttons reserved.contains (binding, some layer.hold) = false :=
        fun _ => active
      simp [offered]

theorem candidates_eq (mode : Mode F) (buttons reserved : Buttons) :
    candidates mode buttons reserved =
      ((rulebook mode).filter (offered mode buttons reserved.contains)).map
        (candidateOf mode buttons reserved) := by
  have chords : (fun offer : Binding × Option Button => decide (offer.1.isChord = true)) =
      fun offer => offer.1.isChord := by
    funext offer
    exact Bool.decide_eq_true
  have singles : (fun offer : Binding × Option Button => decide (offer.1.isChord = false)) =
      fun offer => !offer.1.isChord := by
    funext offer
    cases offer.1.isChord <;> rfl
  simp only [candidates, List.flatMap_cons, List.flatMap_nil, List.append_nil, passCandidates_eq,
    rulebook, List.filter_append, List.map_append, List.filter_filter, ← chords, ← singles]
  simp only [Bool.and_comm]

/-! ## Eligible offers -/

theorem mem_rulebook {mode : Mode F} {offer : Binding × Option Button}
    (member : offer ∈ rulebook mode) :
    offer.1 ∈ mode.bindings ∨ ∃ layer ∈ mode.layers, offer.1 ∈ layer.bindings := by
  have offered : offer ∈ offers mode := by
    cases List.mem_append.mp member with
    | inl chord => exact List.mem_of_mem_filter chord
    | inr single => exact List.mem_of_mem_filter single
  cases List.mem_append.mp offered with
  | inl ofMode =>
    obtain ⟨binding, found, rfl⟩ := List.mem_map.mp ofMode
    exact .inl found
  | inr ofLayer =>
    obtain ⟨layer, inMode, ofLayer⟩ := List.mem_flatMap.mp ofLayer
    obtain ⟨binding, found, rfl⟩ := List.mem_map.mp ofLayer
    exact .inr ⟨layer, inMode, found⟩

theorem rulebook_wellFormed {mode : Mode F} {modes : Nat} (wellFormed : mode.WellFormed modes)
    {offer : Binding × Option Button} (member : offer ∈ rulebook mode) :
    offer.1.WellFormed modes := by
  cases mem_rulebook member with
  | inl ofMode => exact wellFormed.bindings _ ofMode
  | inr ofLayer =>
    obtain ⟨layer, inMode, found⟩ := ofLayer
    exact wellFormed.layers layer inMode _ found

theorem unavailable_candidateOf (mode : Mode F) (buttons reserved : Buttons)
    (offer : Binding × Option Button) (input : Button) :
    (candidateOf mode buttons reserved offer).unavailable.contains input =
      (reserved.contains input || (!offer.1.isChord && chordReserves mode
        (fun layer => holdActive buttons reserved.contains layer.hold) buttons input)) := by
  unfold candidateOf
  cases chord : offer.1.isChord with
  | true => simp
  | false =>
    rw [if_neg Bool.false_ne_true, contains_chordReserved]
    rfl

theorem usable_iff {mode : Mode F} {buttons previousButtons : Buttons} {reserved : Button → Bool}
    {binding : Binding} {input : Button} :
    usable mode buttons previousButtons reserved binding input = true ↔
      buttons.contains input = true ∧
      (input ≠ binding.trigger → previousButtons.contains input = true) ∧
      (reserved input || (!binding.isChord && chordReserves mode
        (fun layer => holdActive buttons reserved layer.hold) buttons input)) = false := by
  simp only [usable, Bool.and_eq_true, Bool.or_eq_true, Bool.not_eq_true', Bool.or_eq_false_iff,
    Bool.and_eq_false_iff, Bool.not_eq_false', decide_eq_true_eq, and_assoc, ne_eq,
    Classical.or_iff_not_imp_left]

/-- The conditions of the loops on the inputs of a pressed binding, input by input. -/
theorem candidate_eligible (mode : Mode F) (buttons previousButtons reserved : Buttons)
    {offer : Binding × Option Button} (named : offer.1.inputs.Named)
    (pressed : buttonPressed offer.1.trigger buttons previousButtons = true) :
    (candidateOf mode buttons reserved offer).eligible buttons previousButtons =
      Button.all.all fun input => !offer.1.inputs.contains input ||
        usable mode buttons previousButtons reserved.contains offer.1 input := by
  have namedBefore : offer.1.prerequisites.Named := named.remove _
  have before : ∀ input, offer.1.prerequisites.contains input = true ↔
      offer.1.inputs.contains input = true ∧ input ≠ offer.1.trigger := by
    intro input
    simp [Binding.prerequisites]
  have trigger : (candidateOf mode buttons reserved offer).trigger = offer.1.trigger := rfl
  have binding : (candidateOf mode buttons reserved offer).binding = offer.1 := rfl
  rw [Candidate.eligible, trigger, binding, pressed, Bool.true_and, Bool.eq_iff_iff]
  simp only [Bool.and_eq_true, Bool.or_eq_true, Bool.not_eq_true', Buttons.containsAll_iff named,
    Buttons.containsAll_iff namedBefore, Buttons.meets_eq_false_iff, unavailable_candidateOf,
    List.all_eq_true, Button.mem_all, forall_const, before, and_imp]
  constructor
  · rintro ⟨⟨down, previous⟩, free⟩ input
    cases isInput : offer.1.inputs.contains input with
    | false => exact .inl rfl
    | true =>
      exact .inr (usable_iff.mpr ⟨down input isInput, previous input isInput, free input isInput⟩)
  · intro all
    have uses : ∀ input, offer.1.inputs.contains input = true → _ := fun input isInput =>
      usable_iff.mp ((all input).resolve_left (by simp [isInput]))
    exact ⟨⟨fun input isInput => (uses input isInput).1,
      fun input isInput => (uses input isInput).2.1⟩, fun input isInput => (uses input isInput).2.2⟩

end

/-! ## One frame -/

section

variable {F : Type} [Scalar F]

omit [Scalar F] in
theorem fired_append (left right : Log F) :
    Log.fired (left ++ right) = Log.fired left ++ Log.fired right := by
  simp [Log.fired]

omit [Scalar F] in
/-- The binding that the loops start for a trigger, if no route and no quarantine has it. -/
theorem Mapper.starting_filter {mapper : Mapper F} {mode : Mode F} {modes : Nat}
    (wellFormed : mode.WellFormed modes) (buttons previousButtons reserved : Buttons)
    (trigger : Button) (idle : previousButtons.contains trigger = false →
      mapper.busy trigger = false) :
    ((mapper.starting buttons previousButtons (candidates mode buttons reserved)).filter
        fun candidate => candidate.trigger = trigger) =
      ((firing mode buttons previousButtons reserved.contains trigger).map
        (candidateOf mode buttons reserved)).toList := by
  rw [Mapper.starting, filter_firsts]
  congr 1
  unfold firing
  cases pressed : buttonPressed trigger buttons previousButtons with
  | false =>
    have up : (buttons.contains trigger && !previousButtons.contains trigger) = false := pressed
    rw [up, if_neg Bool.false_ne_true, Option.map_none, List.find?_eq_none]
    intro candidate _ keeps
    simp only [Candidate.eligible, Bool.and_eq_true, decide_eq_true_eq] at keeps
    obtain ⟨⟨⟨⟨⟨edge, _⟩, _⟩, _⟩, _⟩, same⟩ := keeps
    rw [same, pressed] at edge
    cases edge
  | true =>
    have down : (buttons.contains trigger && !previousButtons.contains trigger) = true := pressed
    have free : mapper.busy trigger = false := by
      rw [Bool.and_eq_true, Bool.not_eq_true'] at down
      exact idle down.2
    rw [down, if_pos rfl, candidates_eq, List.find?_map, List.find?_filter]
    congr 1
    apply List.find?_congr
    intro offer member
    by_cases same : offer.1.trigger = trigger
    · have named := (rulebook_wellFormed wellFormed member).named
      have eligible := candidate_eligible mode buttons previousButtons reserved named
        (same.symm ▸ pressed)
      have candidate : (candidateOf mode buttons reserved offer).trigger = trigger := same
      simp [eligible, candidate, free, same, Scd.Daemon.eligible]
    · have candidate : (candidateOf mode buttons reserved offer).trigger ≠ trigger := same
      simp [candidate, same]

omit [Scalar F] in
theorem fired_notes (candidate : Candidate) :
    candidate.notes.filterMap Note.started? = [(candidate.binding, candidate.hold)] := by
  unfold Candidate.notes
  cases candidate.held <;> rfl

/-- What starts, as offers. -/
theorem StartsDone.fired {start : Mapper F} {buttons previousButtons : Buttons}
    {done : List Candidate} {pass : Pass F} (past : StartsDone start buttons previousButtons done pass) :
    pass.log.fired = (start.starting buttons previousButtons done).map fun candidate =>
      (candidate.binding, candidate.hold) := by
  rw [Log.fired, past.notes, List.filterMap_flatMap, List.map_eq_flatMap]
  simp only [fired_notes]

theorem GlobalsDone.unstarted {start : Mapper F} {buttons previousButtons : Buttons}
    {done : List (GlobalBinding × Nat)} {pass : GlobalPass F}
    (past : GlobalsDone start buttons previousButtons done pass) : pass.log.fired = [] := by
  rw [Log.fired, past.notes, List.filterMap_flatMap, List.flatMap_eq_nil_iff]
  intro item _
  cases start.global[item.2]? with
  | none => rfl
  | some runtime =>
    show (globalNotes item.1 runtime buttons previousButtons item.2).filterMap Note.started? = []
    unfold globalNotes
    cases item.1.held <;> split <;> first | rfl | (split <;> rfl)

theorem RoutesReleased.unstarted {start : Mapper F} {buttons reserved captured : Buttons}
    {left : Nat} {pass : Pass F} (past : RoutesReleased start buttons reserved captured left pass) :
    pass.log.fired = [] := by
  rw [Log.fired, past.notes, List.filterMap_filterMap, List.filterMap_eq_nil_iff]
  intro route _
  cases route.held <;> rfl

/-- Only buttons that were down before have a route or are quarantined. -/
theorem not_busy_of_up {mapper : Mapper F} {state : ControllerState F} {globals : GlobalPass F}
    {released : Pass F} {visible : Bool} {claims : List (Owner × HeldOutput)}
    (all : AllGlobals mapper state globals) (ended : RoutesEnded state globals released)
    (settled : Settled mapper visible claims) {trigger : Button}
    (up : mapper.previousButtons.contains trigger = false) :
    released.mapper.busy trigger = false := by
  have frame := AllGlobals.frame all
  have noRoute : ∀ route ∈ mapper.routes, route.trigger ≠ trigger := by
    rintro route member rfl
    exact Bool.false_ne_true (up.symm.trans (settled.inputs route member).2)
  have routes : (globals.mapper.settle state.buttons).routes = mapper.routes := by
    rw [Mapper.settle, frame]
    rfl
  rw [Mapper.busy, Bool.or_eq_false_iff, List.any_eq_false]
  constructor
  · intro route member
    rw [RoutesReleased.routes ended, List.take_zero, List.drop_zero, List.nil_append, routes] at member
    simpa using noRoute route (List.mem_of_mem_filter member)
  · rw [← Bool.not_eq_true, RoutesReleased.quarantined ended]
    rintro (old | ⟨route, member, _, same, _⟩)
    · rw [Mapper.settle, frame, Buttons.contains_removeInactive, Bool.and_eq_true] at old
      exact Bool.false_ne_true (up.symm.trans (settled.quarantined trigger old.1))
    · rw [List.drop_zero, routes] at member
      exact noRoute route member same

theorem AllGlobals.contains_reserved {mapper : Mapper F} {state : ControllerState F}
    {globals : GlobalPass F} (all : AllGlobals mapper state globals) :
    globals.reserved.contains = mapper.reserves state.buttons mapper.previousButtons := by
  funext button
  rw [Bool.eq_iff_iff, GlobalsDone.reserved all, Mapper.reserves, List.any_eq_true]
  refine exists_congr fun item => and_congr_right fun _ => ?_
  rw [Option.any_eq_true]
  rfl

/-- A frame that is handled to its end with the keyboard hidden follows the rule. -/
theorem FrameKind.fires {mapper : Mapper F} {state : ControllerState F} {pass : Pass F}
    {claims : List (Owner × HeldOutput)} (kind : FrameKind mapper state false pass false)
    (wf : mapper.Wf) (settled : Settled mapper false claims) :
    ∃ mode, mapper.mode = .ok mode ∧ ∀ trigger,
      (pass.log.fired.filter fun offer => offer.1.trigger = trigger) =
        (firing mode state.buttons mapper.previousButtons
          (mapper.reserves state.buttons mapper.previousButtons) trigger).toList := by
  cases kind with
  | keyboard shown => cases shown
  | @bindings globals released started _ mode _ all ended found starts aside =>
    have sameMode : released.mapper.mode = mapper.mode := by
      rw [RoutesReleased.frame ended, Mapper.settle, AllGlobals.frame all]
      rfl
    have current := sameMode.symm.trans found
    have wellFormed := wf.config.modes mode (List.mem_of_getElem? (index_ok_iff.mp current))
    refine ⟨mode, current, ?_⟩
    intro trigger
    have fired : pass.log.fired = started.log.fired := by
      rw [Log.fired, aside.notes]
      show Log.fired (globals.log ++ (released.log ++ started.log)) = _
      rw [fired_append, fired_append, GlobalsDone.unstarted all, RoutesReleased.unstarted ended]
      rfl
    have starting := Mapper.starting_filter wellFormed state.buttons mapper.previousButtons
      globals.reserved trigger (not_busy_of_up all ended settled)
    rw [AllGlobals.contains_reserved all] at starting
    rw [fired, starts.fired, List.filter_map]
    show List.map _ (List.filter (fun candidate : Candidate => candidate.trigger = trigger) _) = _
    rw [starting]
    -- a candidate and its offer have the same binding and hold
    cases firing mode state.buttons mapper.previousButtons
      (mapper.reserves state.buttons mapper.previousButtons) trigger <;> rfl

/-! ## Runs -/

variable [Platform F]

/-- The previous frame: none at the start and after the controller was disconnected. -/
def previousState (turns : List (Transition F)) : Option (ControllerState F) :=
  turns.foldl (fun previous transition =>
    match transition.input with
    | .event (.state state) _ => some state
    | .event .disconnected _ => none
    | _ => previous) none

omit [Scalar F] [Platform F] in
theorem previousState_snoc (turns : List (Transition F)) (transition : Transition F) :
    previousState (turns ++ [transition]) =
      match transition.input with
      | .event (.state state) _ => some state
      | .event .disconnected _ => none
      | _ => previousState turns := by
  rw [previousState, List.foldl_append]
  rfl

/-- What one turn makes of the mapper's previous frame. -/
theorem TurnKind.previousState {main : MainLoop F} {input : Input F} {turn : Turn F}
    {turns : List (Transition F)} (kind : TurnKind main input turn) (wf : main.mapper.Wf)
    (previous : main.mapper.previous = previousState turns) :
    turn.main.mapper.previous = Daemon.previousState (turns ++ [⟨main, input, turn⟩]) := by
  rw [previousState_snoc]
  cases kind with
  | idle noFrame connected _ same =>
    rw [same, previous]
    cases input with
    | request request device now => rfl
    | event event now =>
      cases event with
      | state state => exact absurd rfl (noFrame state now)
      | battery percent charging => rfl
      | disconnected => exact absurd rfl (connected now)
  | switch mode _ switches =>
    rcases switchMode_changes wf switches with ⟨same, _⟩ | changed
    · rw [same, previous]
    · rw [changed.previous, previous]
  | reload config accepted reloads =>
    rw [(changed_of_reload accepted.wellFormed reloads).1.previous, previous]
  | hide _ _ _ suspends =>
    have mapper : turn.main.mapper = main.mapper.suspend.1 := congrArg Prod.fst suspends
    rw [mapper, Mapper.suspend, releaseOutputs_eq]
    exact previous
  | frame processes same logged session closed =>
    exact (TurnKind.frame processes same logged session closed).previous wf
  | disconnect released =>
    obtain ⟨reset, _, after, _⟩ := releaseAll_cases released
    rw [after]

theorem previous_of_run {config : Config F} {start final : MainLoop F}
    {turns : List (Transition F)} (accepted : config.Accepted)
    (started : MainLoop.start config = .ok start) (run : start.Run turns final) :
    final.mapper.previous = previousState turns := by
  induction run with
  | refl =>
    obtain ⟨mapper, news, done⟩ := bind_ok started
    cases done
    obtain ⟨mode, _, made⟩ := bind_ok news
    cases made
    rfl
  | @snoc mid final early more path turned inductionHypothesis =>
    cases turned with
    | turn stepped =>
      exact (step_kind stepped).previousState (Reached.run accepted started path).wf
        inductionHypothesis

/-- In every run, a frame that is handled to its end with the keyboard hidden starts, for each
    button, what the rule says: the first eligible binding for a button that goes down, and
    nothing for any other. -/
theorem bindings_fire_by_rule {config : Config F} {start main : MainLoop F}
    {turns : List (Transition F)} (accepted : config.Accepted)
    (started : MainLoop.start config = .ok start) (run : start.Run turns main)
    (hidden : main.keyboard.visible = false) {state : ControllerState F} {pass : Pass F}
    (handled : main.mapper.processFrame state main.keyboard.visible = .ok (pass, false)) :
    ∃ mode, main.mapper.mode = .ok mode ∧ ∀ trigger,
      let previousButtons := (previousState turns).elim {} ControllerState.buttons
      (pass.log.fired.filter fun offer => offer.1.trigger = trigger) =
        (firing mode state.buttons previousButtons
          (main.mapper.reserves state.buttons previousButtons) trigger).toList := by
  have reached := Reached.run accepted started run
  have settled := reached.settled
  rw [hidden] at handled settled
  have kind := (processFrame_kind reached.wf state false).of_ok handled
  have previous : main.mapper.previousButtons =
      (previousState turns).elim {} ControllerState.buttons := by
    rw [Mapper.previousButtons, previous_of_run accepted started run]
  rw [← previous]
  exact kind.fires reached.wf settled

end

/-- After the switch to its mode, a chord fires whose prerequisite was down before. -/
theorem bindings_fire_by_rule_chord :
    ∃ start main turns pass, ∃ mode : Mode ℚ, MainLoop.start exampleConfig = .ok start ∧
      start.Run turns main ∧ main.mapper.processFrame (.withButtons (.ofList [.r4, .x])) false =
        .ok (pass, false) ∧
      pass.log.fired = [(⟨.ofList [.r4, .x], .x, .key ⟨46⟩⟩, none)] ∧
      firing mode (.ofList [.r4, .x]) ((previousState turns).elim {} ControllerState.buttons)
        (main.mapper.reserves (.ofList [.r4, .x])
          ((previousState turns).elim {} ControllerState.buttons)) .x =
        some (⟨.ofList [.r4, .x], .x, .key ⟨46⟩⟩, none) := by
  obtain ⟨⟨⟨start, turns, main⟩, pass, stopped⟩, handles, facts⟩ := map_ok
    (show (do
        let run ← MainLoop.runsFrom exampleConfig
          [framed [.l4] 0, framed [.l4, .r4] 1, framed [] 2, framed [.r4] 3]
        let result ← run.2.2.mapper.processFrame (.withButtons (.ofList [.r4, .x])) false
        return (run, result) : Checked _).map (fun result =>
          (result.1.2.2.keyboard.visible, result.2.1.log.fired, result.2.2)) =
        .ok (false, [(⟨.ofList [.r4, .x], .x, .key ⟨46⟩⟩, none)], false) by
      decide +kernel)
  obtain ⟨_, runs, rest⟩ := bind_ok handles
  obtain ⟨_, handled, done⟩ := bind_ok rest
  cases done
  obtain ⟨started, run⟩ := runsFrom_run runs
  simp only [Prod.mk.injEq] at facts
  obtain ⟨hidden, fired, rfl⟩ := facts
  have shown : main.mapper.processFrame (.withButtons (.ofList [.r4, .x])) main.keyboard.visible =
      .ok (pass, false) := by
    rw [hidden]
    exact handled
  obtain ⟨mode, _, rule⟩ := bindings_fire_by_rule example_accepted started run hidden shown
  have fires := rule .x
  rw [fired] at fires
  refine ⟨start, main, turns, pass, mode, started, run, handled, fired, ?_⟩
  exact Option.toList_eq_singleton_iff.mp fires.symm

end Scd.Daemon
