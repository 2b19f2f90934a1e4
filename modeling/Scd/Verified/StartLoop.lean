import Scd.Foundation.FirstOfKey
import Scd.Verified.Advances

/-! # The loop that starts routes

`Mapper::process` looks for bindings that fire in two passes over the bindings of the mode
and of its layers.  The four nested loops are one loop over a list of candidates; what has
started after some of the candidates is the first eligible one of each trigger.
-/

namespace Scd.Daemon

open Scd.Core Scd.Foundation

/-- A binding in the place where the loop comes to it: with the hold button of its layer and
    the buttons it must not use. -/
structure Candidate where
  binding : Binding
  hold : Option Button
  unavailable : Buttons

namespace Candidate

variable (candidate : Candidate)

def trigger : Button := candidate.binding.trigger

/-- The binding could start, if no route and no quarantine stood in its way. -/
def eligible (buttons previousButtons : Buttons) : Bool :=
  buttonPressed candidate.trigger buttons previousButtons &&
    buttons.containsAll candidate.binding.inputs &&
    previousButtons.containsAll candidate.binding.prerequisites &&
    !candidate.binding.inputs.meets candidate.unavailable

def held : Option HeldOutput := HeldOutput.fromAction candidate.binding.action

def route : ActiveRoute :=
  ⟨candidate.binding.inputs, candidate.trigger, candidate.hold, candidate.held⟩

def notes : List Note :=
  .start candidate.binding candidate.hold ::
    (candidate.held.map (.claim (.route candidate.trigger))).toList

end Candidate

section

variable {F : Type} [Scalar F]

/-! ## Candidates -/

def modeCandidates (mode : Mode F) (chord : Bool) (overridden unavailable : Buttons) :
    List Candidate :=
  (mode.bindings.filter fun binding =>
    binding.isChord = chord && !overridden.contains binding.trigger).map fun binding =>
      ⟨binding, none, unavailable⟩

omit [Scalar F] in
def layerCandidates (chord : Bool) (unavailable : Buttons) (layer : Layer) : List Candidate :=
  (layer.bindings.filter fun binding => binding.isChord = chord).map fun binding =>
    ⟨binding, some layer.hold, unavailable⟩

/-- The candidates of one pass. -/
def passCandidates (mode : Mode F) (buttons reserved : Buttons) (chord : Bool) : List Candidate :=
  let overridden := overriddenTriggers mode buttons reserved
  let unavailable := if chord then reserved else chordReserved mode buttons reserved overridden
  modeCandidates mode chord overridden unavailable ++
    (mode.layers.filter (layerActive buttons reserved)).flatMap (layerCandidates chord unavailable)

/-- Mode chords, layer chords, single-button bindings of the mode, and those of the layers. -/
def candidates (mode : Mode F) (buttons reserved : Buttons) : List Candidate :=
  [true, false].flatMap (passCandidates mode buttons reserved)

def startCandidate (buttons previousButtons : Buttons) (pass : Pass F) (candidate : Candidate) :
    Checked (Pass F × Bool) :=
  Mapper.routeBinding candidate.hold buttons previousButtons candidate.unavailable pass
    candidate.binding

theorem modeBindings_eq (mode : Mode F) (chord : Bool)
    (buttons previousButtons unavailable overridden : Buttons) (pass : Pass F) :
    loop (Mapper.modeBinding chord buttons previousButtons unavailable overridden) pass
        mode.bindings =
      loop (startCandidate buttons previousButtons) pass
        (modeCandidates mode chord overridden unavailable) := by
  rw [modeCandidates, ← loop_map, ← loop_filter]
  congr 1
  funext pass binding
  unfold Mapper.modeBinding
  by_cases sameKind : binding.isChord = chord
  · cases overridden.contains binding.trigger <;> simp [sameKind, startCandidate]
  · simp [sameKind]

theorem layerBindings_eq (layer : Layer) (chord : Bool)
    (buttons previousButtons unavailable : Buttons) (pass : Pass F) :
    loop (Mapper.layerBinding chord layer.hold buttons previousButtons unavailable) pass
        layer.bindings =
      loop (startCandidate buttons previousButtons) pass (layerCandidates chord unavailable layer) := by
  rw [layerCandidates, ← loop_map, ← loop_filter]
  congr 1
  funext pass binding
  unfold Mapper.layerBinding
  by_cases sameKind : binding.isChord = chord <;> simp [sameKind, startCandidate]

theorem bindingPass_eq (mode : Mode F) (buttons previousButtons reserved : Buttons) (pass : Pass F)
    (chord : Bool) :
    Mapper.bindingPass mode buttons previousButtons reserved pass chord =
      loop (startCandidate buttons previousButtons) pass
        (passCandidates mode buttons reserved chord) := by
  rw [passCandidates, loop_append, ← modeBindings_eq]
  unfold Mapper.bindingPass
  dsimp only
  congr 1
  funext result
  cases result.2 with
  | true => rfl
  | false =>
    -- the loop over the layers: the inactive ones are skipped, the others are nested loops
    simp only [Bool.false_eq_true, if_false]
    rw [← loop_flatMap, ← loop_filter]
    congr 1
    funext pass layer
    rw [← layerBindings_eq, Mapper.layerBindings]
    cases layerActive buttons reserved layer <;> rfl

theorem startRoutes_eq (mapper : Mapper F) (buttons previousButtons reserved : Buttons) :
    mapper.startRoutes buttons previousButtons reserved = mapper.mode >>= fun mode =>
      loop (startCandidate buttons previousButtons) ⟨mapper, []⟩ (candidates mode buttons reserved) := by
  unfold Mapper.startRoutes
  congr 1
  funext mode
  rw [candidates, ← loop_flatMap]
  congr 1
  funext pass chord
  exact bindingPass_eq mode buttons previousButtons reserved pass chord

omit [Scalar F] in
theorem candidate_wellFormed {mode : Mode F} {modes : Nat} (wellFormed : mode.WellFormed modes)
    {buttons reserved : Buttons} {candidate : Candidate}
    (member : candidate ∈ candidates mode buttons reserved) :
    candidate.binding.WellFormed modes := by
  obtain ⟨chord, _, member⟩ := List.mem_flatMap.mp member
  rcases List.mem_append.mp member with ofMode | ofLayer
  · obtain ⟨binding, found, rfl⟩ := List.mem_map.mp ofMode
    exact wellFormed.bindings binding (List.mem_of_mem_filter found)
  · obtain ⟨layer, found, ofLayer⟩ := List.mem_flatMap.mp ofLayer
    obtain ⟨binding, foundBinding, rfl⟩ := List.mem_map.mp ofLayer
    exact wellFormed.layers layer (List.mem_of_mem_filter found) binding
      (List.mem_of_mem_filter foundBinding)

/-! ## What has started -/

/-- A route of an earlier frame has this trigger, or the trigger is quarantined. -/
def Mapper.busy (mapper : Mapper F) (trigger : Button) : Bool :=
  (mapper.routes.any fun route => route.trigger = trigger) || mapper.quarantined.contains trigger

/-- The candidates that start: of each trigger the first eligible one. -/
def Mapper.starting (mapper : Mapper F) (buttons previousButtons : Buttons) :
    List Candidate → List Candidate :=
  firsts Candidate.trigger fun candidate =>
    candidate.eligible buttons previousButtons && !mapper.busy candidate.trigger

/-- The loop has gone past the candidates `done`. -/
structure StartsDone (start : Mapper F) (buttons previousButtons : Buttons) (done : List Candidate)
    (pass : Pass F) : Prop where
  advances : Advances false ⟨start, []⟩ pass
  frame : pass.mapper = { start with routes := pass.mapper.routes, held := pass.mapper.held }
  routes : pass.mapper.routes =
    start.routes ++ (start.starting buttons previousButtons done).map Candidate.route
  notes : pass.log.notes = (start.starting buttons previousButtons done).flatMap Candidate.notes
  untoggled : pass.log.toggles = false

theorem StartsDone.start (mapper : Mapper F) (buttons previousButtons : Buttons) :
    StartsDone mapper buttons previousButtons [] ⟨mapper, []⟩ where
  advances := .refl _
  frame := rfl
  routes := by simp [Mapper.starting]
  notes := by simp [Mapper.starting]
  untoggled := rfl

/-- A candidate starts unless one of the same trigger has started before. -/
theorem StartsDone.starting_snoc {start : Mapper F} {buttons previousButtons : Buttons}
    {done : List Candidate} {pass : Pass F} (past : StartsDone start buttons previousButtons done pass)
    (candidate : Candidate) :
    start.starting buttons previousButtons (done ++ [candidate]) =
      start.starting buttons previousButtons done ++
        if pass.mapper.blocks buttons previousButtons candidate.unavailable candidate.binding then []
        else [candidate] := by
  have quarantined : pass.mapper.quarantined = start.quarantined := by rw [past.frame]
  have blocks : pass.mapper.blocks buttons previousButtons candidate.unavailable candidate.binding =
      !(candidate.eligible buttons previousButtons && !start.busy candidate.trigger &&
        !((start.starting buttons previousButtons done).any fun earlier =>
          earlier.trigger = candidate.trigger)) := by
    simp only [Mapper.blocks, Candidate.eligible, Mapper.busy, past.routes, quarantined,
      List.any_append, List.any_map, Candidate.trigger, Candidate.route, Function.comp_def,
      Bool.not_and, Bool.not_not]
    ac_rfl
  rw [blocks, Mapper.starting, firsts_snoc, takeFirst]
  split
  · next taken => simp [taken]
  · next left =>
    rw [Bool.not_eq_true] at left
    simp [left]

/-- What an iteration that does not stop leaves. -/
theorem RouteStart.frame {buttons previousButtons : Buttons} {pass result : Pass F}
    {candidate : Candidate}
    (step : RouteStart candidate.hold buttons previousButtons candidate.unavailable pass
      candidate.binding result false) :
    result.mapper = { pass.mapper with routes := result.mapper.routes, held := result.mapper.held } ∧
      result.mapper.routes = pass.mapper.routes ++
        (if pass.mapper.blocks buttons previousButtons candidate.unavailable candidate.binding then []
          else [candidate]).map Candidate.route ∧
      result.log.notes = pass.log.notes ++
        (if pass.mapper.blocks buttons previousButtons candidate.unavailable candidate.binding then []
          else [candidate]).flatMap Candidate.notes ∧
      result.log.toggles = pass.log.toggles := by
  cases step with
  | skip blocks => simp [blocks]
  | hold free held =>
    simp [free, Candidate.route, Candidate.notes, Candidate.held, Candidate.trigger, held, heldNote]
  | stay free unheld =>
    simp [free, Candidate.route, Candidate.notes, Candidate.held, Candidate.trigger, unheld]

theorem StartsDone.step {start : Mapper F} {buttons previousButtons : Buttons}
    {done : List Candidate} {pass result : Pass F} {candidate : Candidate}
    (past : StartsDone start buttons previousButtons done pass)
    (step : RouteStart candidate.hold buttons previousButtons candidate.unavailable pass
      candidate.binding result false) :
    StartsDone start buttons previousButtons (done ++ [candidate]) result := by
  obtain ⟨frame, routes, notes, toggles⟩ := step.frame
  have starting := past.starting_snoc candidate
  constructor
  case advances => exact past.advances.trans step.advances
  case frame => rw [frame, past.frame]
  case routes => rw [routes, past.routes, starting, List.map_append, List.append_assoc]
  case notes => rw [notes, past.notes, starting, List.flatMap_append]
  case untoggled => rw [toggles, past.untoggled]

/-- The loop was cut short by a binding that switches the mode. -/
def StartsCut (start : Mapper F) (buttons previousButtons : Buttons) (items : List Candidate)
    (result : Pass F) : Prop :=
  ∃ done candidate rest pass, items = done ++ candidate :: rest ∧
    StartsDone start buttons previousButtons done pass ∧
    RouteStart candidate.hold buttons previousButtons candidate.unavailable pass candidate.binding
      result true

theorem startRoutes_done {mapper : Mapper F} (wf : mapper.Wf)
    (buttons previousButtons reserved : Buttons) :
    Returns (mapper.startRoutes buttons previousButtons reserved) fun result =>
      ∃ mode, mapper.mode = .ok mode ∧
        if result.2 then
          StartsCut mapper buttons previousButtons (candidates mode buttons reserved) result.1
        else StartsDone mapper buttons previousButtons (candidates mode buttons reserved) result.1 := by
  rw [startRoutes_eq]
  obtain ⟨mode, found⟩ := wf.mode_ok
  have wellFormed : mode.WellFormed mapper.config.modes.length :=
    wf.config.modes mode (List.mem_of_getElem? (index_ok_iff.mp found))
  rw [found, ok_bind]
  have looped : Returns (loop (startCandidate buttons previousButtons) ⟨mapper, []⟩
      (candidates mode buttons reserved)) fun result =>
        if result.2 then
          StartsCut mapper buttons previousButtons (candidates mode buttons reserved) result.1
        else
          StartsDone mapper buttons previousButtons (candidates mode buttons reserved) result.1 := by
    refine Returns.loop (StartsDone mapper buttons previousButtons)
      (StartsCut mapper buttons previousButtons (candidates mode buttons reserved))
      (.start mapper buttons previousButtons) ?_
    intro done candidate rest pass split past
    have config : pass.mapper.config = mapper.config := by rw [past.frame]
    have member : candidate ∈ candidates mode buttons reserved := by simp [split]
    have binding : candidate.binding.WellFormed pass.mapper.config.modes.length := by
      rw [config]
      exact candidate_wellFormed wellFormed member
    refine (routeBinding_steps (past.advances.wf wf) binding).mono ?_
    rintro ⟨result, stopped⟩ step
    cases stopped with
    | true => exact ⟨done, candidate, rest, pass, split, past, step⟩
    | false => exact past.step step
  exact looped.mono fun result holds => ⟨mode, rfl, holds⟩

end

end Scd.Daemon
