import Scd.Verified.MapperMoves

/-! # The iterations of the mapper's loops

For the body of each loop of `Mapper::process` an inductive relation lists what an iteration
can do, with everything that it reads and writes, and a lemma says that on a well-formed
mapper the body returns and does one of these things.  The later modules do not unfold the
bodies again.
-/

namespace Scd.Daemon

open Scd.Core Scd.Foundation

section

variable {F : Type} [Scalar F]

/-! ## Actions -/

/-- The other mode that an action switches to. -/
def switchTarget (config : Config F) (activeMode : ModeId) (action : Action) : Option ModeId :=
  match action with
  | .modeSet mode => if mode = activeMode then none else some mode
  | .modeNext =>
    let next : ModeId := ⟨(activeMode.index + 1) % config.modes.length⟩
    if next = activeMode then none else some next
  | _ => none

omit [Scalar F] in
theorem switchTarget_ne {config : Config F} {activeMode mode : ModeId} {action : Action}
    (target : switchTarget config activeMode action = some mode) : mode ≠ activeMode := by
  unfold switchTarget at target
  cases action with
  | key | mouse | gamepad => cases target
  | modeSet other =>
    simp only [Option.ite_none_left_eq_some, Option.some.injEq] at target
    obtain ⟨differs, rfl⟩ := target
    exact differs
  | modeNext =>
    simp only [Option.ite_none_left_eq_some, Option.some.injEq] at target
    obtain ⟨differs, rfl⟩ := target
    exact differs

inductive Applies (mapper : Mapper F) (owner : Owner) (action : Action) (active : Bool) :
    Mapper.Applied F → Prop where
  | held {output : HeldOutput} : HeldOutput.fromAction action = some output →
      Applies mapper owner action active
        ⟨{ mapper with held := Ledger.tallyStep mapper.held (heldEvent owner output active) },
          heldLog mapper.held owner output active, false, some output⟩
  | nothing : HeldOutput.fromAction action = none →
      (active = true → switchTarget mapper.config mapper.activeMode action = none) →
      Applies mapper owner action active ⟨mapper, [], false, none⟩
  | switch {mode : ModeId} {next : Mapper F} {log : Log F} :
      HeldOutput.fromAction action = none → active = true →
      switchTarget mapper.config mapper.activeMode action = some mode →
      Changed mapper log next → next.activeMode = mode → next.config = mapper.config →
      Applies mapper owner action active ⟨next, log, true, none⟩

/-- Switching to the mode of an action, or staying in it. -/
theorem applyMode_applies {mapper : Mapper F} (wf : mapper.Wf) {owner : Owner} {action : Action}
    {mode : ModeId} (isMode : HeldOutput.fromAction action = none)
    (lt : mode.index < mapper.config.modes.length)
    (target : switchTarget mapper.config mapper.activeMode action =
      if mode = mapper.activeMode then none else some mode) :
    Returns (do
      if mode = mapper.activeMode then return ⟨mapper, [], false, none⟩
      let (mapper, log) ← mapper.switchMode mode
      return (⟨mapper, log, true, none⟩ : Mapper.Applied F) : Checked (Mapper.Applied F))
      (Applies mapper owner action true) := by
  by_cases same : mode = mapper.activeMode
  · simp only [same, if_true] at target ⊢
    exact .pure (.nothing isMode fun _ => target)
  · simp only [same, if_false] at target ⊢
    obtain ⟨⟨next, log⟩, switched⟩ := switchMode_returns wf lt
    rw [switched, ok_bind]
    rcases changed_of_switch wf lt switched with ⟨equal, _⟩ | ⟨_, changed, entered, config⟩
    · exact absurd equal.symm same
    · exact .pure (.switch isMode rfl target changed entered config)

theorem applyAction_applies {mapper : Mapper F} (wf : mapper.Wf) (owner : Owner) {action : Action}
    (active : Bool) (targets : ∀ mode, action = .modeSet mode →
      mode.index < mapper.config.modes.length) :
    Returns (mapper.applyAction owner action active) (Applies mapper owner action active) := by
  unfold Mapper.applyAction
  cases found : HeldOutput.fromAction action with
  | some output =>
    simp only [setHeld_eq wf.held, ok_bind]
    exact .pure (.held found)
  | none =>
    cases active with
    | false => exact .pure (.nothing found (by simp))
    | true =>
      cases action with
      | key | mouse | gamepad => cases found
      | modeSet mode => exact applyMode_applies wf found (targets mode rfl) rfl
      | modeNext =>
        obtain ⟨next, nexts, lt⟩ := nextMode_of_lt wf.activeMode
        simp only [nexts]
        refine applyMode_applies wf found lt ?_
        unfold Config.nextMode at nexts
        split at nexts
        · cases nexts
        · cases nexts
          rfl

/-! ## Global bindings -/

omit [Scalar F] in
/-- A global binding that fires cuts the frame short. -/
def interrupts (config : Config F) (activeMode : ModeId) (binding : GlobalBinding) : Bool :=
  match binding.action with
  | .action action => (switchTarget config activeMode action).isSome
  | .keyboardToggle => true

omit [Scalar F] in
/-- The mapper with the flags of one global binding set. -/
def Mapper.flag (mapper : Mapper F) (position : Nat) (runtime : GlobalState) : Mapper F :=
  { mapper with global := mapper.global.set position runtime }

section

variable (binding : GlobalBinding) (buttons previousButtons : Buttons)

/-- The binding's flags are set, and its buttons reserved. -/
def GlobalPass.visit (pass : GlobalPass F) (position : Nat) (runtime : GlobalState) :
    GlobalPass F :=
  let next := binding.next runtime buttons previousButtons
  let sets := binding.reserve next.captured buttons (pass.reserved, pass.captured)
  ⟨⟨pass.mapper.flag position next, pass.log⟩, sets.1, sets.2⟩

omit [Scalar F] in
/-- Claim or give back the output of the binding, after some notes. -/
def GlobalPass.hold (pass : GlobalPass F) (position : Nat) (notes : Log F) (output : HeldOutput)
    (active : Bool) : GlobalPass F :=
  { pass with
    mapper := { pass.mapper with
      held := Ledger.tallyStep pass.mapper.held (heldEvent (.global position) output active) }
    log := pass.log ++ notes ++ heldLog pass.mapper.held (.global position) output active }

omit [Scalar F] in
def GlobalPass.append (pass : GlobalPass F) (log : Log F) : GlobalPass F :=
  { pass with log := pass.log ++ log }

inductive GlobalStep (pass : GlobalPass F) (position : Nat) (runtime : GlobalState) :
    GlobalPass F → Bool → Prop where
  | idle : binding.pressed buttons previousButtons = false →
      (runtime.active = false ∨ binding.allActive buttons = true ∨ binding.held = none) →
      GlobalStep pass position runtime
        (pass.visit binding buttons previousButtons position runtime) false
  | release {output : HeldOutput} : binding.pressed buttons previousButtons = false →
      runtime.active = true → binding.allActive buttons = false → binding.held = some output →
      GlobalStep pass position runtime
        ((pass.visit binding buttons previousButtons position runtime).hold position [] output false)
        false
  | press {output : HeldOutput} : binding.pressed buttons previousButtons = true →
      binding.held = some output →
      GlobalStep pass position runtime
        ((pass.visit binding buttons previousButtons position runtime).hold position
          [.note (.fire position)] output true) false
  | stay : binding.pressed buttons previousButtons = true → binding.held = none →
      interrupts pass.mapper.config pass.mapper.activeMode binding = false →
      GlobalStep pass position runtime
        ((pass.visit binding buttons previousButtons position runtime).append
          [.note (.fire position)]) false
  | toggle : binding.pressed buttons previousButtons = true → binding.action = .keyboardToggle →
      GlobalStep pass position runtime
        (((pass.visit binding buttons previousButtons position runtime).append
          [.note (.fire position)]).append [.output .keyboardToggle]) true
  | switch {action : Action} {mode : ModeId} {next : Mapper F} {log : Log F} :
      binding.pressed buttons previousButtons = true → binding.action = .action action →
      binding.held = none →
      switchTarget pass.mapper.config pass.mapper.activeMode action = some mode →
      Changed (pass.visit binding buttons previousButtons position runtime).mapper log next →
      next.activeMode = mode → next.config = pass.mapper.config →
      GlobalStep pass position runtime
        { ((pass.visit binding buttons previousButtons position runtime).append
            [.note (.fire position)]).append log with mapper := next } true

end

omit [Scalar F] in
theorem flag_sameShape (mapper : Mapper F) (position : Nat) (runtime : GlobalState) :
    SameShape mapper (mapper.flag position runtime) := ⟨rfl, rfl, List.length_set, rfl⟩

theorem pressed_allActive {binding : GlobalBinding} {buttons previousButtons : Buttons}
    (pressed : binding.pressed buttons previousButtons = true) :
    binding.allActive buttons = true := by
  simp only [GlobalBinding.pressed, Bool.and_eq_true] at pressed
  exact pressed.1.1

theorem next_active (binding : GlobalBinding) (runtime : GlobalState)
    {buttons previousButtons : Buttons} (pressed : binding.pressed buttons previousButtons = true) :
    (binding.next runtime buttons previousButtons).active = true := by
  simp [GlobalBinding.next, pressed, pressed_allActive pressed]

theorem globalBinding_steps {binding : GlobalBinding} {buttons previousButtons : Buttons}
    {pass : GlobalPass F} {position : Nat} {runtime : GlobalState} (wf : pass.mapper.Wf)
    (wellFormed : binding.WellFormed pass.mapper.config.modes.length)
    (found : pass.mapper.global[position]? = some runtime) :
    Returns (Mapper.globalBinding buttons previousButtons pass (binding, position)) fun result =>
      GlobalStep binding buttons previousButtons pass position runtime result.1 result.2 := by
  have flagged : (pass.mapper.flag position (binding.next runtime buttons previousButtons)).Wf :=
    wf.sameShape (flag_sameShape _ _ _) wf.held
  unfold Mapper.globalBinding
  simp only [index_ok_iff.mpr found, ok_bind]
  cases pressed : binding.pressed buttons previousButtons with
  | true =>
    simp only [Bool.true_or, if_true]
    cases isAction : binding.action with
    | keyboardToggle => exact .pure (.toggle pressed isAction)
    | action action =>
      have targets : ∀ mode, action = .modeSet mode → mode.index < pass.mapper.config.modes.length := by
        rintro mode rfl
        exact wellFormed.target mode isAction
      have isHeld : binding.held = HeldOutput.fromAction action := by
        simp only [GlobalBinding.held, isAction]
      rw [next_active binding runtime pressed]
      -- the binding is pressed: its action holds an output, changes nothing, or switches the mode
      refine (applyAction_applies flagged (.global position) true targets).bind ?_
      intro applied applies
      cases applies with
      | held found => exact .pure (.press pressed (isHeld.trans found))
      | nothing found stays =>
        have stayed : interrupts pass.mapper.config pass.mapper.activeMode binding = false := by
          simp only [interrupts, isAction]
          exact Option.isSome_eq_false_iff.mpr (Option.isNone_iff_eq_none.mpr (stays rfl))
        refine .pure ?_
        rw [List.append_nil]
        exact .stay pressed (isHeld.trans found) stayed
      | switch found _ target changed entered config =>
        exact .pure (.switch pressed isAction (isHeld.trans found) target changed entered config)
  | false =>
    have nextActive : (binding.next runtime buttons previousButtons).active =
        (runtime.active && binding.allActive buttons) := by
      cases active : runtime.active <;> simp [GlobalBinding.next, pressed, active]
    -- not pressed: the loop acts only if the binding lets go of an output
    by_cases releases : runtime.active = true ∧ binding.allActive buttons = false ∧ binding.held ≠ none
    · obtain ⟨active, up, isHeld⟩ := releases
      obtain ⟨output, held⟩ := Option.ne_none_iff_exists'.mp isHeld
      have inactive : (binding.next runtime buttons previousButtons).active = false := by
        rw [nextActive, active, up]
        rfl
      simp only [active, inactive, held, Bool.not_false, Option.isSome_some, Bool.and_self,
        Bool.or_true, if_true]
      cases isAction : binding.action with
      | keyboardToggle => simp [GlobalBinding.held, isAction] at held
      | action action =>
        have found : HeldOutput.fromAction action = some output := by
          simpa only [GlobalBinding.held, isAction] using held
        have applies := applyAction_applies flagged (.global position) false
          (fun mode isSet => wellFormed.target mode (isSet ▸ isAction))
        -- actions that change the mode hold nothing, so that there is nothing to release
        refine applies.bind ?_
        intro applied applies
        cases applies with
        | held held' =>
          cases found.symm.trans held'
          exact .pure (.release pressed active up held)
        | nothing isMode => cases found.symm.trans isMode
        | switch isMode => cases found.symm.trans isMode
    · have idle : runtime.active = false ∨ binding.allActive buttons = true ∨ binding.held = none := by
        by_contra busy
        simp only [not_or, Bool.not_eq_false, Bool.not_eq_true] at busy
        exact releases ⟨busy.1, busy.2.1, busy.2.2⟩
      have quiet : (runtime.active && !(binding.next runtime buttons previousButtons).active &&
          binding.held.isSome) = false := by
        rw [nextActive]
        rcases idle with inactive | down | unheld
        · simp [inactive]
        · simp [down]
        · simp [unheld]
      simp only [quiet, Bool.or_self, Bool.false_eq_true, if_false]
      exact .pure (.idle pressed idle)

/-! ## On-screen keyboard bindings -/

inductive OskStep (buttons reserved : Buttons) (pass : Pass F) (input : Button) (key : KeyCode) :
    Pass F → Prop where
  | idle : (buttons.contains input && !reserved.contains input) = pass.mapper.oskActive.contains input →
      OskStep buttons reserved pass input key pass
  | press : buttons.contains input = true → reserved.contains input = false →
      pass.mapper.oskActive.contains input = false →
      OskStep buttons reserved pass input key
        ⟨{ pass.mapper with
            oskActive := pass.mapper.oskActive.insert input
            held := Ledger.tallyStep pass.mapper.held (heldEvent (.osk input) (.key key) true) },
          pass.log ++ heldLog pass.mapper.held (.osk input) (.key key) true⟩
  | release : (buttons.contains input && !reserved.contains input) = false →
      pass.mapper.oskActive.contains input = true →
      OskStep buttons reserved pass input key
        ⟨{ pass.mapper with
            oskActive := pass.mapper.oskActive.remove input
            held := Ledger.tallyStep pass.mapper.held (heldEvent (.osk input) (.key key) false) },
          pass.log ++ heldLog pass.mapper.held (.osk input) (.key key) false⟩

omit [Scalar F] in
theorem oskBinding_steps {buttons reserved : Buttons} {pass : Pass F} {input : Button} {key : KeyCode}
    (positive : RefCount.Positive pass.mapper.held) :
    Returns (Mapper.oskBinding buttons reserved pass (input, key)) fun result =>
      result.2 = false ∧ OskStep buttons reserved pass input key result.1 := by
  unfold Mapper.oskBinding
  simp only [setHeld_eq positive, ok_bind]
  cases active : buttons.contains input && !reserved.contains input with
  | true =>
    cases wasActive : pass.mapper.oskActive.contains input with
    | true => exact .pure ⟨rfl, .idle (active.trans wasActive.symm)⟩
    | false =>
      simp only [Bool.and_eq_true, Bool.not_eq_true'] at active
      exact .pure ⟨rfl, .press active.1 active.2 wasActive⟩
  | false =>
    cases wasActive : pass.mapper.oskActive.contains input with
    | true => exact .pure ⟨rfl, .release active wasActive⟩
    | false => exact .pure ⟨rfl, .idle (active.trans wasActive.symm)⟩

/-! ## Ending routes -/

omit [Scalar F] in
/-- The mapper without the route at a position. -/
def Mapper.dropRoute (mapper : Mapper F) (buttons : Buttons) (position : Nat) (trigger : Button) :
    Mapper F :=
  { mapper with
    routes := mapper.routes.eraseIdx position
    quarantined :=
      if buttons.contains trigger then mapper.quarantined.insert trigger else mapper.quarantined }

inductive RouteEnd (buttons reserved captured : Buttons) (pass : Pass F) (position : Nat)
    (route : ActiveRoute) : Pass F → Prop where
  | keep : Mapper.routeEnds buttons reserved captured route = false →
      RouteEnd buttons reserved captured pass position route pass
  | drop : Mapper.routeEnds buttons reserved captured route = true → route.held = none →
      RouteEnd buttons reserved captured pass position route
        ⟨pass.mapper.dropRoute buttons position route.trigger, pass.log⟩
  | release {output : HeldOutput} : Mapper.routeEnds buttons reserved captured route = true →
      route.held = some output →
      RouteEnd buttons reserved captured pass position route
        ⟨{ pass.mapper.dropRoute buttons position route.trigger with
            held := Ledger.tallyStep pass.mapper.held
              (heldEvent (.route route.trigger) output false) },
          pass.log ++ heldLog pass.mapper.held (.route route.trigger) output false⟩

omit [Scalar F] in
theorem releaseRoute_steps {buttons reserved captured : Buttons} {pass : Pass F} {position : Nat}
    {route : ActiveRoute} (positive : RefCount.Positive pass.mapper.held)
    (found : pass.mapper.routes[position]? = some route) :
    Returns (Mapper.releaseRoute buttons reserved captured pass position) fun result =>
      result.2 = false ∧ RouteEnd buttons reserved captured pass position route result.1 := by
  unfold Mapper.releaseRoute
  simp only [index_ok_iff.mpr found, ok_bind]
  cases ends : Mapper.routeEnds buttons reserved captured route with
  | false => exact .pure ⟨rfl, .keep ends⟩
  | true =>
    cases isHeld : route.held with
    | none => exact .pure ⟨rfl, .drop ends isHeld⟩
    | some output =>
      simp only [setHeld_eq positive, ok_bind]
      exact .pure ⟨rfl, .release ends isHeld⟩

/-! ## Starting routes -/

omit [Scalar F] in
/-- The conditions under which `route_binding` does nothing. -/
def Mapper.blocks (mapper : Mapper F) (buttons previousButtons reserved : Buttons)
    (binding : Binding) : Bool :=
  !buttonPressed binding.trigger buttons previousButtons ||
    !buttons.containsAll binding.inputs ||
    !previousButtons.containsAll binding.prerequisites ||
    (mapper.routes.any fun route => route.trigger = binding.trigger) ||
    mapper.quarantined.contains binding.trigger ||
    binding.inputs.meets reserved

inductive RouteStart (hold : Option Button) (buttons previousButtons reserved : Buttons)
    (pass : Pass F) (binding : Binding) : Pass F → Bool → Prop where
  | skip : pass.mapper.blocks buttons previousButtons reserved binding = true →
      RouteStart hold buttons previousButtons reserved pass binding pass false
  | hold {output : HeldOutput} :
      pass.mapper.blocks buttons previousButtons reserved binding = false →
      HeldOutput.fromAction binding.action = some output →
      RouteStart hold buttons previousButtons reserved pass binding
        ⟨{ pass.mapper with
            held := Ledger.tallyStep pass.mapper.held (heldEvent (.route binding.trigger) output true)
            routes := pass.mapper.routes ++
              [⟨binding.inputs, binding.trigger, hold, some output⟩] },
          pass.log ++ .note (.start binding hold) ::
            heldLog pass.mapper.held (.route binding.trigger) output true⟩ false
  | stay : pass.mapper.blocks buttons previousButtons reserved binding = false →
      HeldOutput.fromAction binding.action = none →
      RouteStart hold buttons previousButtons reserved pass binding
        ⟨{ pass.mapper with
            routes := pass.mapper.routes ++ [⟨binding.inputs, binding.trigger, hold, none⟩] },
          pass.log ++ [.note (.start binding hold)]⟩ false
  | switch {next : Mapper F} {log : Log F} :
      pass.mapper.blocks buttons previousButtons reserved binding = false →
      HeldOutput.fromAction binding.action = none →
      Changed pass.mapper log next → next.config = pass.mapper.config →
      next.activeMode ≠ pass.mapper.activeMode →
      RouteStart hold buttons previousButtons reserved pass binding
        ⟨next, pass.log ++ .note (.start binding hold) :: log⟩ true

theorem routeBinding_steps {hold : Option Button} {buttons previousButtons reserved : Buttons}
    {pass : Pass F} {binding : Binding} (wf : pass.mapper.Wf)
    (wellFormed : binding.WellFormed pass.mapper.config.modes.length) :
    Returns (Mapper.routeBinding hold buttons previousButtons reserved pass binding) fun result =>
      RouteStart hold buttons previousButtons reserved pass binding result.1 result.2 := by
  unfold Mapper.routeBinding
  cases blocks : pass.mapper.blocks buttons previousButtons reserved binding with
  | true =>
    simp only [show (_ || _) = true from blocks, if_true]
    exact .pure (.skip blocks)
  | false =>
    simp only [show (_ || _) = false from blocks, Bool.false_eq_true, if_false]
    refine (applyAction_applies wf (.route binding.trigger) true
      fun mode isSet => wellFormed.target mode (congrArg _ isSet)).bind ?_
    intro applied applies
    cases applies with
    | held found => exact .pure (.hold blocks found)
    | nothing found => exact .pure (.stay blocks found)
    | switch found _ target changed entered config =>
      refine .pure (.switch blocks found changed config ?_)
      rw [entered]
      exact switchTarget_ne target

end

end Scd.Daemon
