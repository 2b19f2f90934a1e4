import Scd.Verified.MapperSafety
import Scd.Verified.Reservation
import Scd.Verified.Settlement

/-! # Buttons of a global binding that has fired

A run of frames: calls of `Mapper::process`, each followed by `suspend` where it asked to
toggle the keyboard.  A global binding that fires is `captured` until its trigger goes up, so
its buttons stay reserved.  The flag outlives every way to leave a frame early but one: a mode
switch resets it, and from then on the chord must stay down to keep its trigger.
-/

namespace Scd.Daemon

open Scd.Core Scd.Foundation

section

variable {F : Type} [Scalar F]

/-! ## Frames -/

/-- A call of `process`, and what it has left after the daemon's reaction to a toggle. -/
structure Frame (F : Type) where
  before : Mapper F
  state : ControllerState F
  visible : Bool
  log : Log F
  after : Mapper F

inductive Frames : Mapper F → List (Frame F) → Mapper F → Prop where
  | frame {before next after : Mapper F} {state : ControllerState F} {visible : Bool} {log : Log F} :
      before.process state visible = .ok (next, log) →
      after = (if log.toggles then next.suspend.1 else next) →
      Frames before [⟨before, state, visible, log, after⟩] after

abbrev FrameRun : Mapper F → List (Frame F) → Mapper F → Prop := Path Frames

omit [Scalar F] in
/-- The global binding fires on its trigger edge. -/
def Frame.Fires (frame : Frame F) (position : Nat) : Prop := .fire position ∈ frame.log.notes

/-- A route starts that uses one of these inputs, or a keyboard input among them is pressed. -/
def Note.uses (inputs : Buttons) : Note → Bool
  | .start binding _ => binding.inputs.meets inputs
  | .claim (.osk input) _ => inputs.contains input
  | _ => false

omit [Scalar F] in
/-- The frame uses none of the inputs, and with the keyboard visible none of them is a pressed
    key after it. -/
structure Frame.Spares (frame : Frame F) (inputs : Buttons) : Prop where
  notes : ∀ note ∈ frame.log.notes, note.uses inputs = false
  pressed : frame.visible = true → ∀ entry ∈ frame.before.config.oskBindings.entries,
    inputs.contains entry.1 = true → frame.after.oskActive.contains entry.1 = false

omit [Scalar F] in
/-- The flag that keeps the buttons of a binding reserved. -/
def Mapper.Captures (mapper : Mapper F) (position : Nat) : Prop :=
  ∃ runtime, mapper.global[position]? = some runtime ∧ runtime.captured = true

/-! ## The flag -/

theorem captured_next {binding : GlobalBinding} {runtime : GlobalState}
    {buttons previousButtons : Buttons}
    (holds : binding.pressed buttons previousButtons = true ∨
      (runtime.captured = true ∧ buttons.contains binding.trigger = true)) :
    (binding.next runtime buttons previousButtons).captured = true := by
  cases pressed : binding.pressed buttons previousButtons with
  | true => simp [GlobalBinding.next, pressed]
  | false =>
    obtain ⟨captured, down⟩ := holds.resolve_left (by simp [pressed])
    simp [GlobalBinding.next, pressed, captured, down]

theorem reserves_of_captured {binding : GlobalBinding} {captured : Bool} {buttons : Buttons}
    (holds : captured = true ∨ binding.allActive buttons = true) {button : Button}
    (isInput : binding.inputs.contains button = true) :
    binding.reserves captured buttons button = true := by
  cases holds with
  | inl captured => simp [GlobalBinding.reserves, isInput, captured]
  | inr active =>
    -- every input of a chord that is down is the trigger or a prerequisite that is down
    by_cases isTrigger : button = binding.trigger
    · simp [GlobalBinding.reserves, isTrigger ▸ isInput, isTrigger, active]
    · have prerequisite : binding.prerequisites.contains button = true := by
        simp [GlobalBinding.prerequisites, isInput, isTrigger]
      rw [GlobalBinding.allActive, Bool.and_eq_true] at active
      have down := Buttons.containsAll_contains active.2 prerequisite
      simp [GlobalBinding.reserves, isInput, prerequisite, down]

/-! ## What the loops note -/

omit [Scalar F] in
theorem mem_globalNotes {binding : GlobalBinding} {runtime : GlobalState}
    {buttons previousButtons : Buttons} {position : Nat} {note : Note}
    (member : note ∈ globalNotes binding runtime buttons previousButtons position) :
    (note = .fire position ∧ binding.pressed buttons previousButtons = true) ∨
      ∃ output, note = .claim (.global position) output ∨ note = .unclaim (.global position) output := by
  unfold globalNotes at member
  split at member
  · next pressed =>
    cases member with
    | head => exact .inl ⟨rfl, pressed⟩
    | tail _ claimed =>
      obtain ⟨output, _, rfl⟩ := Option.map_eq_some_iff.mp (Option.mem_toList.mp claimed)
      exact .inr ⟨output, .inl rfl⟩
  · split at member
    · obtain ⟨output, _, rfl⟩ := Option.map_eq_some_iff.mp (Option.mem_toList.mp member)
      exact .inr ⟨output, .inr rfl⟩
    · cases member

theorem GlobalsDone.mem_notes {start : Mapper F} {buttons previousButtons : Buttons}
    {done : List (GlobalBinding × Nat)} {pass : GlobalPass F}
    (past : GlobalsDone start buttons previousButtons done pass) {note : Note}
    (member : note ∈ pass.log.notes) :
    ∃ item ∈ done, ∃ runtime,
      note ∈ globalNotes item.1 runtime buttons previousButtons item.2 := by
  rw [past.notes] at member
  obtain ⟨item, visited, member⟩ := List.mem_flatMap.mp member
  cases found : start.global[item.2]? with
  | none => simp [found] at member
  | some runtime =>
    rw [found] at member
    exact ⟨item, visited, runtime, member⟩

/-- A binding that has fired was visited and pressed. -/
theorem GlobalsDone.fired {start : Mapper F} {buttons previousButtons : Buttons}
    {bindings : List GlobalBinding} {done rest : List (GlobalBinding × Nat)} {pass : GlobalPass F}
    (split : bindings.zipIdx = done ++ rest)
    (past : GlobalsDone start buttons previousButtons done pass) {position : Nat}
    (fires : .fire position ∈ pass.log.notes) {binding : GlobalBinding}
    (present : bindings[position]? = some binding) :
    position < done.length ∧ binding.pressed buttons previousButtons = true := by
  obtain ⟨item, visited, runtime, member⟩ := past.mem_notes fires
  obtain ⟨before, here⟩ := zipIdx_before split visited
  cases mem_globalNotes member with
  | inl firing =>
    obtain ⟨same, pressed⟩ := firing
    cases same
    cases here.symm.trans present
    exact ⟨before, pressed⟩
  | inr holding =>
    obtain ⟨output, claim | unclaim⟩ := holding
    · cases claim
    · cases unclaim

/-- Global bindings use nothing. -/
theorem GlobalsDone.spares {start : Mapper F} {buttons previousButtons : Buttons}
    {done : List (GlobalBinding × Nat)} {pass : GlobalPass F}
    (past : GlobalsDone start buttons previousButtons done pass) (inputs : Buttons) :
    ∀ note ∈ pass.log.notes, note.uses inputs = false := by
  intro note member
  obtain ⟨item, _, runtime, member⟩ := past.mem_notes member
  cases mem_globalNotes member with
  | inl firing =>
    obtain ⟨rfl, _⟩ := firing
    rfl
  | inr holding =>
    obtain ⟨output, rfl | rfl⟩ := holding
    · rfl
    · rfl

theorem OskDone.mem_notes {start : Mapper F} {buttons reserved : Buttons}
    {done : List (Button × KeyCode)} {pass : Pass F} (past : OskDone start buttons reserved done pass)
    {note : Note} (member : note ∈ pass.log.notes) :
    ∃ entry ∈ done, note = heldNote (.osk entry.1) (.key entry.2)
      (oskPressed buttons reserved entry.1) := by
  rw [past.notes] at member
  obtain ⟨entry, visited, member⟩ := List.mem_flatMap.mp member
  unfold oskNotes at member
  split at member
  · cases member
  · exact ⟨entry, visited, List.mem_singleton.mp member⟩

theorem OskDone.spares {start : Mapper F} {buttons reserved inputs : Buttons}
    {done : List (Button × KeyCode)} {pass : Pass F} (past : OskDone start buttons reserved done pass)
    (consumed : ∀ button, inputs.contains button = true → reserved.contains button = true) :
    ∀ note ∈ pass.log.notes, note.uses inputs = false := by
  intro note member
  obtain ⟨entry, _, rfl⟩ := past.mem_notes member
  cases pressed : oskPressed buttons reserved entry.1 with
  | false => rfl
  | true =>
    rw [oskPressed, Bool.and_eq_true, Bool.not_eq_true'] at pressed
    show inputs.contains entry.1 = false
    cases isInput : inputs.contains entry.1 with
    | false => rfl
    | true => exact (consumed _ isInput).symm.trans pressed.2

omit [Scalar F] in
/-- A candidate that keeps off its forbidden buttons keeps off the consumed ones. -/
theorem spares_of_free {mode : Mode F} {buttons reserved inputs : Buttons} {candidate : Candidate}
    (member : candidate ∈ candidates mode buttons reserved)
    (free : candidate.binding.inputs.meets candidate.unavailable = false)
    (consumed : ∀ button, inputs.contains button = true → reserved.contains button = true) :
    candidate.binding.inputs.meets inputs = false := by
  rw [Buttons.meets_eq_false_iff] at free ⊢
  intro button isInput
  cases isConsumed : inputs.contains button with
  | false => rfl
  | true =>
    have unavailable := unavailable_of_reserved member (consumed button isConsumed)
    exact unavailable.symm.trans (free button isInput)

theorem StartsDone.spares {start : Mapper F} {mode : Mode F}
    {buttons previousButtons reserved inputs : Buttons} {done : List Candidate} {pass : Pass F}
    (past : StartsDone start buttons previousButtons done pass)
    (members : ∀ candidate ∈ done, candidate ∈ candidates mode buttons reserved)
    (consumed : ∀ button, inputs.contains button = true → reserved.contains button = true) :
    ∀ note ∈ pass.log.notes, note.uses inputs = false := by
  intro note member
  rw [past.notes] at member
  obtain ⟨candidate, starts, member⟩ := List.mem_flatMap.mp member
  obtain ⟨visited, eligible⟩ := mem_firsts starts
  cases member with
  | head =>
    simp only [Candidate.eligible, Bool.and_eq_true, Bool.not_eq_true'] at eligible
    exact spares_of_free (members candidate visited) eligible.1.2 consumed
  | tail _ claimed =>
    obtain ⟨output, _, rfl⟩ := Option.map_eq_some_iff.mp (Option.mem_toList.mp claimed)
    rfl

theorem RoutesReleased.spares {start : Mapper F} {buttons reserved captured : Buttons}
    {left : Nat} {pass : Pass F} (past : RoutesReleased start buttons reserved captured left pass)
    (inputs : Buttons) : ∀ note ∈ pass.log.notes, note.uses inputs = false := by
  intro note member
  rw [past.notes] at member
  obtain ⟨route, _, same⟩ := List.mem_filterMap.mp member
  obtain ⟨output, _, rfl⟩ := Option.map_eq_some_iff.mp same
  rfl

/-! ## Frames that are cut short -/

/-- How a global binding interrupts the loop. -/
inductive Interrupted (pass result : GlobalPass F) (position : Nat) (next : GlobalState) : Prop where
  | toggle : result.mapper = pass.mapper.flag position next → result.log.toggles = true →
      result.log.notes = pass.log.notes ++ [.fire position] → Interrupted pass result position next
  | switch : result.mapper.activeMode ≠ pass.mapper.activeMode → result.mapper.oskActive = {} →
      result.mapper.config = pass.mapper.config →
      result.log.notes = pass.log.notes ++ [.fire position, .cancel] →
      Interrupted pass result position next

theorem GlobalStep.interrupted {binding : GlobalBinding} {buttons previousButtons : Buttons}
    {pass result : GlobalPass F} {position : Nat} {runtime : GlobalState}
    (step : GlobalStep binding buttons previousButtons pass position runtime result true) :
    binding.pressed buttons previousButtons = true ∧
      Interrupted pass result position (binding.next runtime buttons previousButtons) := by
  cases step with
  | toggle pressed =>
    refine ⟨pressed, .toggle rfl ?_ ?_⟩
    · simp [GlobalPass.visit, GlobalPass.append, Output.isToggle]
    · simp [GlobalPass.visit, GlobalPass.append]
  | @switch action mode next log pressed _ _ target changed entered config =>
    refine ⟨pressed, .switch ?_ changed.oskActive config ?_⟩
    · rw [entered]
      exact switchTarget_ne target
    · simp [GlobalPass.visit, GlobalPass.append, changed.notes]

/-! ## Later loops fire no global binding -/

omit [Scalar F] in
theorem heldNote_ne_fire (owner : Owner) (output : HeldOutput) (active : Bool) (position : Nat) :
    heldNote owner output active ≠ .fire position := by
  unfold heldNote
  split <;> exact fun same => Note.noConfusion same

theorem OskDone.unfired {start : Mapper F} {buttons reserved : Buttons}
    {done : List (Button × KeyCode)} {pass : Pass F} (past : OskDone start buttons reserved done pass)
    (position : Nat) : .fire position ∉ pass.log.notes := by
  intro member
  obtain ⟨entry, _, same⟩ := past.mem_notes member
  exact heldNote_ne_fire _ _ _ position same.symm

theorem RoutesReleased.unfired {start : Mapper F} {buttons reserved captured : Buttons}
    {left : Nat} {pass : Pass F} (past : RoutesReleased start buttons reserved captured left pass)
    (position : Nat) : .fire position ∉ pass.log.notes := by
  intro member
  rw [past.notes] at member
  obtain ⟨route, _, same⟩ := List.mem_filterMap.mp member
  obtain ⟨output, _, unclaim⟩ := Option.map_eq_some_iff.mp same
  cases unclaim

theorem StartsDone.unfired {start : Mapper F} {buttons previousButtons : Buttons}
    {done : List Candidate} {pass : Pass F} (past : StartsDone start buttons previousButtons done pass)
    (position : Nat) : .fire position ∉ pass.log.notes := by
  intro member
  rw [past.notes] at member
  obtain ⟨candidate, _, member⟩ := List.mem_flatMap.mp member
  cases member with
  | tail _ claimed =>
    obtain ⟨output, _, claim⟩ := Option.map_eq_some_iff.mp (Option.mem_toList.mp claimed)
    cases claim

/-! ## One frame -/

variable {mapper : Mapper F} {state : ControllerState F} {visible stopped : Bool} {pass : Pass F}
  {position : Nat} {binding : GlobalBinding}

theorem AllGlobals.fired {globals : GlobalPass F} (all : AllGlobals mapper state globals)
    (present : mapper.config.globalBindings[position]? = some binding)
    (fires : .fire position ∈ globals.log.notes) :
    binding.pressed state.buttons mapper.previousButtons = true :=
  (GlobalsDone.fired (List.append_nil _).symm all fires present).2

/-- Whatever cuts a frame short, a binding that fires in it was pressed. -/
theorem FrameKind.fired (kind : FrameKind mapper state visible pass stopped)
    (present : mapper.config.globalBindings[position]? = some binding)
    (fires : .fire position ∈ pass.log.notes) :
    binding.pressed state.buttons mapper.previousButtons = true := by
  cases kind with
  | globalsCut cut =>
    obtain ⟨done, last, place, rest, before, runtime, split, _, past, step⟩ := cut
    obtain ⟨pressed, interrupted⟩ := step.interrupted
    have earlier : .fire position ∈ before.log.notes ∨ position = place := by
      cases interrupted with
      | toggle _ _ notes => simpa [notes] using fires
      | switch _ _ _ notes => simpa [notes] using fires
    cases earlier with
    | inl before => exact (past.fired split before present).2
    | inr here =>
      obtain ⟨placed, found⟩ := zipIdx_split split
      dsimp only at placed found
      rw [← placed, ← here, show (mapper.receive state).config = mapper.config from rfl] at found
      cases found.symm.trans present
      exact pressed
  | @keyboard globals osk _ _ all done aside =>
    rw [aside.notes, notes_append, List.mem_append] at fires
    exact AllGlobals.fired all present (fires.resolve_right (done.unfired position))
  | @startsCut globals released started mode _ all ended found cut =>
    obtain ⟨done, candidate, rest, before, _, past, step⟩ := cut
    cases step with
    | switch _ _ changed =>
      have later : .fire position ∉ released.log.notes ++ (before.log.notes ++
          [.start candidate.binding candidate.hold, .cancel]) := by
        simp [RoutesReleased.unfired ended position, past.unfired position]
      simp only [notes_append, notes_note, changed.notes] at fires
      exact AllGlobals.fired all present ((List.mem_append.mp fires).resolve_right later)
  | @bindings globals released started _ mode _ all ended found done aside =>
    have later : .fire position ∉ released.log.notes ++ started.log.notes := by
      simp [RoutesReleased.unfired ended position, done.unfired position]
    rw [aside.notes, notes_append, notes_append] at fires
    exact AllGlobals.fired all present ((List.mem_append.mp fires).resolve_right later)

/-- In this frame the binding is pressed, or it is captured and its trigger stays down. -/
def Mapper.HoldsOn (mapper : Mapper F) (buttons : Buttons) (position : Nat)
    (binding : GlobalBinding) : Prop :=
  binding.pressed buttons mapper.previousButtons = true ∨
    (mapper.Captures position ∧ buttons.contains binding.trigger = true)

omit [Scalar F] in
theorem Mapper.HoldsOn.next {buttons : Buttons} {runtime : GlobalState}
    (holds : mapper.HoldsOn buttons position binding)
    (found : mapper.global[position]? = some runtime) :
    (binding.next runtime buttons mapper.previousButtons).captured = true := by
  apply captured_next
  cases holds with
  | inl pressed => exact .inl pressed
  | inr stays =>
    obtain ⟨⟨other, present, captured⟩, down⟩ := stays
    cases found.symm.trans present
    exact .inr ⟨captured, down⟩

theorem GlobalsDone.captures (mapper : Mapper F) {globals : GlobalPass F}
    {done rest : List (GlobalBinding × Nat)}
    (split : mapper.config.globalBindings.zipIdx = done ++ rest)
    (past : GlobalsDone (mapper.receive state) state.buttons mapper.previousButtons done globals)
    (wf : mapper.Wf) (present : mapper.config.globalBindings[position]? = some binding)
    (holds : mapper.HoldsOn state.buttons position binding) (lt : position < done.length) :
    globals.mapper.Captures position := by
  have inside : position < mapper.global.length := by
    rw [wf.global]
    exact (List.getElem?_eq_some_iff.mp present).1
  have found := List.getElem?_eq_getElem inside
  exact ⟨_, past.visited _ (mem_zipIdx_done split lt present) _ found, holds.next found⟩

theorem AllGlobals.captures {globals : GlobalPass F} (all : AllGlobals mapper state globals)
    (wf : mapper.Wf) (present : mapper.config.globalBindings[position]? = some binding)
    (holds : mapper.HoldsOn state.buttons position binding) : globals.mapper.Captures position := by
  refine GlobalsDone.captures mapper (List.append_nil _).symm all wf present holds ?_
  rw [List.length_zipIdx]
  exact (List.getElem?_eq_some_iff.mp present).1

omit [Scalar F] in
theorem Mapper.Captures.congr {before after : Mapper F} (captures : before.Captures position)
    (same : after.global = before.global) : after.Captures position := by
  obtain ⟨runtime, present, captured⟩ := captures
  exact ⟨runtime, same ▸ present, captured⟩

/-- The flag outlives the frame, unless the frame switches the mode. -/
theorem FrameKind.captures (kind : FrameKind mapper state visible pass stopped) (wf : mapper.Wf)
    (present : mapper.config.globalBindings[position]? = some binding)
    (reached : .fire position ∈ pass.log.notes ∨
      (mapper.Captures position ∧ state.buttons.contains binding.trigger = true))
    (sameMode : pass.mapper.activeMode = mapper.activeMode) : pass.mapper.Captures position := by
  have holds : mapper.HoldsOn state.buttons position binding :=
    reached.imp_left (kind.fired present)
  cases kind with
  | globalsCut cut =>
    obtain ⟨done, last, place, rest, before, runtime, split, found, past, step⟩ := cut
    obtain ⟨_, interrupted⟩ := step.interrupted
    have activeMode : before.mapper.activeMode = mapper.activeMode := by
      rw [past.frame]
      rfl
    cases interrupted with
    | switch changes => exact absurd (sameMode.trans activeMode.symm) changes
    | toggle flagged _ notes =>
      -- the loop has passed the binding, stands at it, or has not come to it
      obtain ⟨placed, here⟩ := zipIdx_split split
      dsimp only at placed here
      rw [flagged, placed]
      rcases Nat.lt_trichotomy position done.length with earlier | same | later
      · obtain ⟨next, now, captured⟩ :=
          past.captures mapper split wf present holds earlier
        refine ⟨next, ?_, captured⟩
        rw [Mapper.flag, List.getElem?_set_ne (by omega)]
        exact now
      · subst same
        cases here.symm.trans present
        have lt : done.length < before.mapper.global.length := by
          have now := past.unvisited done.length (Nat.le_refl _)
          rw [← placed, found] at now
          exact (List.getElem?_eq_some_iff.mp (placed ▸ now)).1
        refine ⟨_, List.getElem?_set_self lt, ?_⟩
        rw [← placed] at holds
        exact holds.next found
      · have captures : mapper.Captures position := by
          refine (reached.resolve_left ?_).1
          intro fires
          rw [notes, List.mem_append, List.mem_singleton, Note.fire.injEq] at fires
          cases fires with
          | inl before =>
            have := (past.fired split before present).1
            omega
          | inr here => omega
        obtain ⟨next, now, captured⟩ := captures
        refine ⟨next, ?_, captured⟩
        rw [Mapper.flag, List.getElem?_set_ne (by omega), past.unvisited position (by omega)]
        exact now
  | @keyboard globals osk _ _ all done aside =>
    refine (AllGlobals.captures all wf present holds).congr ?_
    rw [aside.frame, done.frame]
  | @startsCut globals released started mode _ all ended found cut =>
    obtain ⟨done, candidate, rest, before, _, past, step⟩ := cut
    have activeMode : before.mapper.activeMode = mapper.activeMode := by
      rw [started_frame all ended past]
      rfl
    cases step with
    | switch _ _ _ _ changes => exact absurd (sameMode.trans activeMode.symm) changes
  | @bindings globals released started _ mode _ all ended found done aside =>
    refine (AllGlobals.captures all wf present holds).congr ?_
    rw [aside.frame, started_frame all ended done]

/-- The buttons that are reserved are not used, however the frame ends. -/
theorem FrameKind.spares {inputs : Buttons} (kind : FrameKind mapper state visible pass stopped)
    (consumed : ∀ globals, AllGlobals mapper state globals → ∀ button,
      inputs.contains button = true → globals.reserved.contains button = true) :
    ∀ note ∈ pass.log.notes, note.uses inputs = false := by
  intro note member
  cases kind with
  | globalsCut cut =>
    -- the binding that cuts the loop short uses no input beyond its own
    obtain ⟨done, last, place, rest, before, runtime, _, _, past, step⟩ := cut
    obtain ⟨_, interrupted⟩ := step.interrupted
    cases interrupted with
    | toggle _ _ notes =>
      rw [notes, List.mem_append, List.mem_singleton] at member
      cases member with
      | inl early => exact past.spares inputs note early
      | inr fires => rw [fires]; rfl
    | switch _ _ _ notes =>
      rw [notes, List.mem_append, List.mem_pair] at member
      obtain early | rfl | rfl := member
      · exact past.spares inputs note early
      · rfl
      · rfl
  | @keyboard globals osk _ _ all done aside =>
    rw [aside.notes, notes_append, List.mem_append] at member
    cases member with
    | inl early => exact GlobalsDone.spares all inputs note early
    | inr late => exact done.spares (consumed globals all) note late
  | @startsCut globals released started mode _ all ended found cut =>
    obtain ⟨done, candidate, rest, before, split, past, step⟩ := cut
    have members : ∀ earlier ∈ done, earlier ∈ candidates mode state.buttons globals.reserved := by
      intro earlier visited
      rw [split]
      exact List.mem_append_left _ visited
    cases step with
    | switch free _ changed =>
      simp only [notes_append, notes_note, changed.notes, List.mem_append, List.mem_pair] at member
      obtain early | ended' | started | rfl | rfl := member
      · exact GlobalsDone.spares all inputs note early
      · exact RoutesReleased.spares ended inputs note ended'
      · exact past.spares members (consumed globals all) note started
      · have member : candidate ∈ candidates mode state.buttons globals.reserved := by simp [split]
        -- the route that switches the mode is started, so that none of its inputs is reserved
        simp only [Mapper.blocks, Bool.or_eq_false_iff] at free
        exact spares_of_free member free.2 (consumed globals all)
      · rfl
  | @bindings globals released started _ mode _ all ended found done aside =>
    rw [aside.notes, notes_append, notes_append, List.mem_append, List.mem_append] at member
    obtain early | released | started := member
    · exact GlobalsDone.spares all inputs note early
    · exact RoutesReleased.spares ended inputs note released
    · exact done.spares (fun _ visited => visited) (consumed globals all) note started

/-- With the keyboard visible a reserved input is no pressed key after the frame. -/
theorem FrameKind.unpressed {input : Button} {key : KeyCode}
    (kind : FrameKind mapper state true pass stopped) (untoggled : pass.log.toggles = false)
    (bound : (input, key) ∈ mapper.config.oskBindings.entries)
    (consumed : ∀ globals, AllGlobals mapper state globals → globals.reserved.contains input = true) :
    pass.mapper.oskActive.contains input = false := by
  cases kind with
  | globalsCut cut =>
    obtain ⟨_, _, _, _, _, _, _, _, _, step⟩ := cut
    cases step.interrupted.2 with
    | toggle _ toggles => exact absurd (untoggled.symm.trans toggles) Bool.false_ne_true
    | switch _ unpressed =>
      rw [unpressed]
      exact Buttons.contains_empty input
  | @keyboard globals osk _ _ all done aside =>
    have config : globals.mapper.config = mapper.config := by
      rw [AllGlobals.frame all]
      rfl
    have member : input ∈ globals.mapper.config.oskBindings.entries.map Prod.fst := by
      rw [config]
      exact List.mem_map.mpr ⟨_, bound, rfl⟩
    rw [aside.frame, done.active, if_pos member, oskPressed, consumed globals all, Bool.not_true,
      Bool.and_false]
  | startsCut hidden => cases hidden
  | bindings hidden => cases hidden

/-- What it takes that the frame reserves all buttons of the binding. -/
def FrameKind.Consumes (mapper : Mapper F) (state : ControllerState F) (pass : Pass F) (position : Nat)
    (binding : GlobalBinding) : Prop :=
  .fire position ∈ pass.log.notes ∨
    (mapper.Captures position ∧ state.buttons.contains binding.trigger = true) ∨
    binding.allActive state.buttons = true

theorem FrameKind.consumed (kind : FrameKind mapper state visible pass stopped) (wf : mapper.Wf)
    (present : mapper.config.globalBindings[position]? = some binding)
    (consumes : FrameKind.Consumes mapper state pass position binding) {globals : GlobalPass F}
    (all : AllGlobals mapper state globals) {button : Button}
    (isInput : binding.inputs.contains button = true) : globals.reserved.contains button = true := by
  have lt := (List.getElem?_eq_some_iff.mp present).1
  have found := List.getElem?_eq_getElem (wf.global.symm ▸ lt)
  have visited : (binding, position) ∈ mapper.config.globalBindings.zipIdx := by
    rw [List.mem_zipIdx_iff_getElem?]
    exact present
  refine (GlobalsDone.reserved all button).mpr ⟨_, visited, _, found, ?_⟩
  refine reserves_of_captured ?_ isInput
  obtain fires | stays | active := consumes
  · exact .inr (pressed_allActive (kind.fired present fires))
  · exact .inl (Mapper.HoldsOn.next (.inr stays) found)
  · exact .inr active

theorem FrameKind.frame_spares {after : Mapper F}
    (kind : FrameKind mapper state visible pass stopped) (wf : mapper.Wf)
    (present : mapper.config.globalBindings[position]? = some binding)
    (consumes : FrameKind.Consumes mapper state pass position binding)
    (result : after = if pass.log.toggles then pass.mapper.suspend.1 else pass.mapper) :
    Frame.Spares ⟨mapper, state, visible, pass.log, after⟩ binding.inputs where
  notes := kind.spares fun _ all _ isInput => kind.consumed wf present consumes all isInput
  pressed := by
    rintro (rfl : visible = true) ⟨input, key⟩ bound isInput
    show after.oskActive.contains input = false
    rw [result]
    cases toggles : pass.log.toggles with
    | true =>
      rw [if_pos rfl, Mapper.suspend, releaseOutputs_eq]
      exact Buttons.contains_empty input
    | false =>
      exact kind.unpressed toggles bound fun _ all => kind.consumed wf present consumes all isInput

/-! ## Runs -/

/-- At every frame the binding can still rely on its flag, or on its chord that is down: the
    mode is the one in which it fired, or all its buttons are down. -/
def Unbroken (binding : GlobalBinding) (fired : Frame F) (window : List (Frame F)) : Prop :=
  ∀ past frame rest, window = past ++ frame :: rest →
    (∀ earlier ∈ past ++ [frame], earlier.before.activeMode = fired.before.activeMode) ∨
      binding.allActive frame.state.buttons = true

/-- What a run keeps for a binding that has fired in it and whose trigger has stayed down. -/
structure Consumed (position : Nat) (binding : GlobalBinding) (fired : Frame F)
    (window : List (Frame F)) (mapper : Mapper F) : Prop where
  spares : ∀ frame ∈ fired :: window, frame.Spares binding.inputs
  captures : (∀ earlier ∈ window, earlier.before.activeMode = fired.before.activeMode) →
    mapper.activeMode = fired.before.activeMode → mapper.Captures position

theorem Frames.after {next after : Mapper F} {log : Log F}
    (result : after = if log.toggles then next.suspend.1 else next) :
    after.global = next.global ∧ after.activeMode = next.activeMode ∧ after.config = next.config := by
  rw [result]
  split
  · rw [Mapper.suspend, releaseOutputs_eq]
    exact ⟨rfl, rfl, rfl⟩
  · exact ⟨rfl, rfl, rfl⟩

theorem Consumed.start {after : Mapper F} (kind : FrameKind mapper state visible pass stopped)
    (wf : mapper.Wf) (present : mapper.config.globalBindings[position]? = some binding)
    (fires : .fire position ∈ pass.log.notes)
    (result : after = if pass.log.toggles then pass.mapper.suspend.1 else pass.mapper) :
    Consumed position binding ⟨mapper, state, visible, pass.log, after⟩ [] after where
  spares := by
    intro frame member
    rw [List.mem_singleton.mp member]
    exact kind.frame_spares wf present (.inl fires) result
  captures := by
    intro _ sameMode
    obtain ⟨global, activeMode, _⟩ := Frames.after result
    exact (kind.captures wf present (.inl fires) (activeMode.symm.trans sameMode)).congr global

theorem Consumed.step {after : Mapper F} {fired : Frame F} {window : List (Frame F)}
    (consumed : Consumed position binding fired window mapper)
    (kind : FrameKind mapper state visible pass stopped) (wf : mapper.Wf)
    (present : mapper.config.globalBindings[position]? = some binding)
    (down : state.buttons.contains binding.trigger = true)
    (unbroken : Unbroken binding fired (window ++ [⟨mapper, state, visible, pass.log, after⟩]))
    (result : after = if pass.log.toggles then pass.mapper.suspend.1 else pass.mapper) :
    Consumed position binding fired (window ++ [⟨mapper, state, visible, pass.log, after⟩]) after where
  spares := by
    intro frame member
    rw [← List.cons_append, List.mem_append, List.mem_singleton] at member
    cases member with
    | inl earlier => exact consumed.spares frame earlier
    | inr now =>
      rw [now]
      refine kind.frame_spares wf present (.inr ?_) result
      cases unbroken window _ [] rfl with
      | inl sameMode =>
        have captures := consumed.captures
          (fun earlier visited => sameMode earlier (List.mem_append_left _ visited))
          (sameMode ⟨mapper, state, visible, pass.log, after⟩ (by simp))
        exact .inl ⟨captures, down⟩
      | inr active => exact .inr active
  captures := by
    intro sameMode now
    obtain ⟨global, activeMode, _⟩ := Frames.after result
    have before : mapper.activeMode = fired.before.activeMode :=
      sameMode ⟨mapper, state, visible, pass.log, after⟩ (by simp)
    have captures := consumed.captures
      (fun earlier visited => sameMode earlier (List.mem_append_left _ visited)) before
    have kept : pass.mapper.activeMode = mapper.activeMode := by rw [← activeMode, now, before]
    exact (kind.captures wf present (.inr ⟨captures, down⟩) kept).congr global

omit [Scalar F] in
theorem Unbroken.prefix {fired last : Frame F} {window : List (Frame F)}
    (unbroken : Unbroken binding fired (window ++ [last])) : Unbroken binding fired window := by
  intro past frame rest split
  refine unbroken past frame (rest ++ [last]) ?_
  rw [split, List.append_assoc, List.cons_append]

theorem FrameKind.config (kind : FrameKind mapper state visible pass stopped) :
    pass.mapper.config = mapper.config := by
  cases kind with
  | globalsCut cut =>
    obtain ⟨_, _, _, _, before, _, _, _, past, step⟩ := cut
    have config : before.mapper.config = mapper.config := by
      rw [past.frame]
      rfl
    cases step.interrupted.2 with
    | toggle flagged =>
      rw [flagged]
      exact config
    | switch _ _ same => exact same.trans config
  | keyboard _ all done aside =>
    rw [aside.frame, done.frame, AllGlobals.frame all]
    rfl
  | startsCut _ all ended _ cut =>
    obtain ⟨_, _, _, before, _, past, step⟩ := cut
    have config : before.mapper.config = mapper.config := by
      rw [started_frame all ended past]
      rfl
    cases step with
    | switch _ _ _ same => exact same.trans config
  | bindings _ all ended _ starts aside =>
    rw [aside.frame, started_frame all ended starts]
    rfl

/-- The run lemma: every binding that has fired is consumed as long as nothing breaks it. -/
theorem consumed_of_run {start final : Mapper F} {frames : List (Frame F)} (wf : start.Wf)
    (run : FrameRun start frames final)
    (present : start.config.globalBindings[position]? = some binding) :
    ∀ early fired window, frames = early ++ fired :: window → fired.Fires position →
      (∀ frame ∈ window, frame.state.buttons.contains binding.trigger = true) →
      Unbroken binding fired window → Consumed position binding fired window final := by
  suffices holds : final.Wf ∧ final.config = start.config ∧ ∀ early fired window,
      frames = early ++ fired :: window → fired.Fires position →
      (∀ frame ∈ window, frame.state.buttons.contains binding.trigger = true) →
      Unbroken binding fired window → Consumed position binding fired window final from holds.2.2
  induction run with
  | refl => exact ⟨wf, rfl, fun early fired window split => by simp at split⟩
  | @snoc before after earlier more path last inductionHypothesis =>
    obtain ⟨beforeWf, config, consumed⟩ := inductionHypothesis
    cases last with
    | @frame next _ state visible log processes result =>
      obtain ⟨stopped, kind⟩ := process_kind beforeWf processes
      obtain ⟨_, _, sameConfig⟩ := Frames.after result
      have here : before.config.globalBindings[position]? = some binding := config.symm ▸ present
      refine ⟨?_, sameConfig.trans (kind.config.trans config), ?_⟩
      · have nextWf : next.Wf := ((process_steps beforeWf state visible).of_ok processes).wf beforeWf
        rw [result]
        split
        · exact (suspend_steps next).wf nextWf
        · exact nextWf
      · intro early fired window split fires down unbroken
        -- the window of a binding that has fired is empty, or ends with this frame
        cases window using List.reverseRecOn with
        | nil =>
          obtain ⟨_, same⟩ := List.append_inj' split rfl
          cases same
          exact .start kind beforeWf here fires result
        | append_singleton window newest =>
          rw [← List.cons_append, ← List.append_assoc] at split
          obtain ⟨same, isNewest⟩ := List.append_inj' split rfl
          cases isNewest
          have past := consumed early fired window same fires
            (fun frame member => down frame (List.mem_append_left _ member)) unbroken.prefix
          have stays := down ⟨before, state, visible, log, after⟩ (by simp)
          exact past.step kind beforeWf here stays unbroken result

variable [Platform F]

/-- In every run of frames, from the frame in which a global binding fires and as long as its
    trigger is down, its buttons are not used: provided that at every frame the mode is still
    the one in which it fired, or all its buttons are down. -/
theorem fired_global_consumes {config : Config F} {start final : Mapper F}
    {early window : List (Frame F)} {fired : Frame F} (accepted : config.Accepted)
    (news : Mapper.new config = .ok start) (run : FrameRun start (early ++ fired :: window) final)
    (present : config.globalBindings[position]? = some binding) (fires : fired.Fires position)
    (down : ∀ frame ∈ window, frame.state.buttons.contains binding.trigger = true)
    (unbroken : Unbroken binding fired window) :
    ∀ frame ∈ fired :: window, frame.Spares binding.inputs := by
  obtain ⟨mapper, created, wf⟩ := new_wf accepted.wellFormed
  cases news.symm.trans created
  have sameConfig : start.config = config := by
    obtain ⟨_, _, done⟩ := bind_ok news
    cases done
    rfl
  have consumed := consumed_of_run wf run (sameConfig.symm ▸ present) early fired window rfl fires
    down unbroken
  exact consumed.spares

end

/-! ## Examples -/

section

variable {F : Type} [Scalar F]

/-- Calls of `process` with the keyboard hidden, and what they leave. -/
def Mapper.frames (mapper : Mapper F) :
    List (ControllerState F) → Checked (List (Frame F) × Mapper F)
  | [] => return ([], mapper)
  | state :: states => do
    let (next, log) ← mapper.process state false
    let after := if log.toggles then next.suspend.1 else next
    let (frames, final) ← after.frames states
    return (⟨mapper, state, false, log, after⟩ :: frames, final)

theorem frames_run {mapper final : Mapper F} {states : List (ControllerState F)}
    {frames : List (Frame F)} (runs : mapper.frames states = .ok (frames, final)) :
    FrameRun mapper frames final := by
  induction states generalizing mapper frames with
  | nil =>
    cases runs
    exact .refl
  | cons state states inductionHypothesis =>
    obtain ⟨⟨next, log⟩, processes, rest⟩ := bind_ok runs
    obtain ⟨⟨later, last⟩, continues, done⟩ := bind_ok rest
    cases done
    exact (Path.single (.frame processes rfl)).trans (inductionHypothesis continues)

end

/-- The frames of a run of the example, and the mapper after them. -/
def exampleFrames (buttons : List (List Button)) : Checked (Mapper ℚ × List (Frame ℚ) × Mapper ℚ) := do
  let start ← Mapper.new exampleConfig
  let (frames, final) ← start.frames (buttons.map fun pressed => .withButtons (.ofList pressed))
  return (start, frames, final)

theorem exampleFrames_run {buttons : List (List Button)} {start final : Mapper ℚ}
    {frames : List (Frame ℚ)} (runs : exampleFrames buttons = .ok (start, frames, final)) :
    Mapper.new exampleConfig = .ok start ∧ FrameRun start frames final := by
  obtain ⟨mapper, created, rest⟩ := bind_ok runs
  obtain ⟨⟨found, last⟩, framed, done⟩ := bind_ok rest
  cases done
  exact ⟨created, frames_run framed⟩

/-- The chord that switches the mode stays down while a binding of the new mode is pressed that
    shares a button with it. -/
theorem fired_global_consumes_chord :
    ∃ start early fired window final, Mapper.new exampleConfig = .ok start ∧
      FrameRun start (early ++ fired :: window) final ∧ fired.Fires 2 ∧ window ≠ [] ∧
      final.activeMode ≠ start.activeMode ∧
      ∀ frame ∈ fired :: window, frame.Spares (.ofList [.l4, .r4]) := by
  obtain ⟨⟨start, frames, final⟩, runs, facts⟩ := map_ok
    (show (exampleFrames [[.l4], [.l4, .r4], [.l4, .r4, .x]]).map (fun run =>
        (run.2.1.length, run.2.1.tail.head?.map fun fired => decide (.fire 2 ∈ fired.log.notes),
          run.2.1.getLast?.map fun last => (last.state.buttons.contains .r4,
            last.state.buttons.containsAll (.ofList [.l4])),
          run.1.activeMode, run.2.2.activeMode)) =
        .ok (3, some true, some (true, true), ⟨0⟩, ⟨1⟩) by
      decide +kernel)
  obtain ⟨news, run⟩ := exampleFrames_run runs
  simp only [Prod.mk.injEq] at facts
  obtain ⟨length, fires, last, before, after⟩ := facts
  obtain ⟨first, fired, held, rfl⟩ := List.length_eq_three.mp length
  simp only [List.tail_cons, List.head?_cons, Option.map_some, Option.some.injEq,
    decide_eq_true_eq] at fires
  simp only [List.getLast?_cons_cons, List.getLast?_singleton, Option.map_some, Option.some.injEq,
    Prod.mk.injEq] at last
  refine ⟨start, [first], fired, [held], final, news, run, fires, by simp, ?_, ?_⟩
  · rw [before, after]
    decide
  · have present : exampleConfig.globalBindings[2]? =
        some ⟨.ofList [.l4, .r4], .r4, .action .modeNext⟩ := rfl
    have split : FrameRun start ([first] ++ fired :: [held]) final := run
    apply fired_global_consumes example_accepted news split present fires
    · simpa using last.1
    · intro past frame rest split
      right
      cases past with
      | nil =>
        cases split
        have prerequisites : (Buttons.ofList [.l4, .r4]).remove .r4 = .ofList [.l4] := by decide
        rw [GlobalBinding.allActive, GlobalBinding.prerequisites, prerequisites, last.1, last.2]
        rfl
      | cons earlier past => simp at split

/-- Without the whole chord, a binding of the new mode uses the trigger of the global binding
    that has fired and is still down. -/
theorem switched_mode_uses_trigger :
    ∃ start early fired window final, Mapper.new exampleConfig = .ok start ∧
      FrameRun start (early ++ fired :: window) final ∧ fired.Fires 2 ∧
      (∀ frame ∈ window, frame.state.buttons.contains .r4 = true) ∧
      ¬ ∀ frame ∈ fired :: window, frame.Spares (.ofList [.l4, .r4]) := by
  obtain ⟨⟨start, frames, final⟩, runs, facts⟩ := map_ok
    (show (exampleFrames [[.l4], [.l4, .r4], [.r4, .x]]).map (fun run =>
        (run.2.1.length, run.2.1.tail.head?.map fun fired => decide (.fire 2 ∈ fired.log.notes),
          run.2.1.getLast?.map fun last => (last.state.buttons.contains .r4, last.log.notes))) =
        .ok (3, some true, some (true,
          [.start ⟨.ofList [.r4, .x], .x, .key ⟨46⟩⟩ none, .claim (.route .x) (.key ⟨46⟩)])) by
      decide +kernel)
  obtain ⟨news, run⟩ := exampleFrames_run runs
  simp only [Prod.mk.injEq] at facts
  obtain ⟨length, fires, last⟩ := facts
  obtain ⟨first, fired, used, rfl⟩ := List.length_eq_three.mp length
  simp only [List.tail_cons, List.head?_cons, Option.map_some, Option.some.injEq,
    decide_eq_true_eq] at fires
  simp only [List.getLast?_cons_cons, List.getLast?_singleton, Option.map_some, Option.some.injEq,
    Prod.mk.injEq] at last
  refine ⟨start, [first], fired, [used], final, news, run, fires, by simpa using last.1, ?_⟩
  intro spares
  have unused := (spares used (by simp)).notes _ (last.2 ▸ List.mem_cons_self)
  revert unused
  decide

end Scd.Daemon
