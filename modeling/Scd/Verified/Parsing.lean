import Scd.Core.Parse
import Scd.Verified.Buttons

/-! # What the parser does

One lemma for each function of the parser, which says what a result is made of when no error
has ended the parse.  A pass collects issues: what counts of an issue is the place where it is
added and the condition, so that its text is left open.
-/

namespace Scd.Core

open Scd.Foundation

/-! ## Issues -/

/-- No issue is forgotten. -/
def Kept (before after : List Issue) : Prop := after = [] → before = []

theorem Kept.refl (issues : List Issue) : Kept issues issues := id

theorem Kept.trans {first second third : List Issue} (early : Kept first second)
    (late : Kept second third) : Kept first third := early ∘ late

theorem snoc_ne_nil {issues : List Issue} {issue : Issue} (empty : issues ++ [issue] = []) :
    False := by
  simp at empty

theorem report_nil {issues : List Issue} {condition : Bool} {issue : Issue}
    (empty : report issues condition issue = []) : issues = [] ∧ condition = false := by
  unfold report at empty
  split at empty
  · exact (snoc_ne_nil empty).elim
  · next holds => exact ⟨empty, by simpa using holds⟩

theorem kept_snoc (issues : List Issue) (issue : Issue) : Kept issues (issues ++ [issue]) :=
  fun empty => (snoc_ne_nil empty).elim

theorem kept_report (issues : List Issue) (condition : Bool) (issue : Issue) :
    Kept issues (report issues condition issue) := fun empty => (report_nil empty).1

theorem append_cases {T : Type} (issues : List Issue) (result : Except Issue T) :
    (∃ value, result = .ok value ∧ append issues result = (issues, some value)) ∨
      ∃ issue, append issues result = (issues ++ [issue], none) := by
  cases result with
  | ok value => exact .inl ⟨value, rfl, rfl⟩
  | error issue => exact .inr ⟨issue, rfl⟩

theorem throwing_ok {T : Type} {result : Except Issue T} {value : T}
    (thrown : throwing result = .ok value) : result = .ok value := by
  cases result with
  | ok found =>
    cases thrown
    rfl
  | error issue => cases thrown

/-- A check that would end the program has not failed. -/
theorem guard_ok {ε α : Type} {condition : Prop} [Decidable condition] {error : ε}
    {next : Unit → Except ε α} {result : α}
    (passes : (if condition then (Except.error error : Except ε Unit) >>= next else next ()) =
      .ok result) : ¬ condition ∧ next () = .ok result := by
  split at passes
  · cases passes
  · next holds => exact ⟨holds, passes⟩

section

variable {F : Type} [Platform F] {modeName : String} {modeNames : IndexMap String ModeId}

/-! ## Bindings -/

/-- The buttons read so far, with the last one as the trigger. -/
def ReadInputs (state : Buttons × Option Button) : Prop :=
  state.1.Named ∧ ∀ trigger, state.2 = some trigger → state.1.contains trigger = true

theorem bindingInput_reads {node : KdlNode F} {state next : Buttons × Option Button}
    {position : Nat} (read : bindingInput node state position = .ok next)
    (reads : ReadInputs state) : ReadInputs next := by
  obtain ⟨text, _, rest⟩ := bind_ok read
  obtain ⟨button, _, rest⟩ := bind_ok rest
  split at rest
  · cases rest
  · cases rest
    refine ⟨reads.1.insert button, ?_⟩
    intro trigger found
    cases found
    simp

/-- What an action node may stand for. -/
inductive ParsedAction (F : Type) [Platform F] (modeNames : IndexMap String ModeId) :
    GlobalAction → Prop where
  | key {text : String} {key : KeyCode} : parseKey F text = .ok key →
      ParsedAction F modeNames (.action (.key key))
  | mouse (button : MouseButton) : ParsedAction F modeNames (.action (.mouse button))
  | gamepad (button : GamepadButton) : ParsedAction F modeNames (.action (.gamepad button))
  | modeSet {name : String} {mode : ModeId} : modeNames.get? name = some mode →
      ParsedAction F modeNames (.action (.modeSet mode))
  | modeNext : ParsedAction F modeNames (.action .modeNext)
  | keyboardToggle : ParsedAction F modeNames .keyboardToggle

theorem parseAction_ok {action : KdlNode F} {global : Bool} {parsed : GlobalAction}
    (parses : parseAction action modeNames global = .ok parsed) :
    ParsedAction F modeNames parsed := by
  obtain ⟨_, _, rest⟩ := bind_ok parses
  obtain ⟨kind, _, rest⟩ := bind_ok rest
  cases kind with
  | key =>
    obtain ⟨text, _, rest⟩ := bind_ok rest
    split at rest
    · next found =>
      cases rest
      exact .key found
    · cases rest
  | mouse =>
    obtain ⟨text, _, rest⟩ := bind_ok rest
    obtain ⟨button, _, done⟩ := bind_ok rest
    cases done
    exact .mouse button
  | gamepad =>
    obtain ⟨text, _, rest⟩ := bind_ok rest
    obtain ⟨button, _, done⟩ := bind_ok rest
    cases done
    exact .gamepad button
  | modeSet =>
    obtain ⟨name, _, rest⟩ := bind_ok rest
    split at rest
    · next found =>
      cases rest
      exact .modeSet found
    · cases rest
  | modeNext =>
    cases rest
    exact .modeNext
  | keyboardToggle =>
    dsimp only at rest
    split at rest
    · cases rest
      exact .keyboardToggle
    · cases rest

theorem parseBinding_ok {node : KdlNode F} {global : Bool} {inputs : Buttons} {trigger : Button}
    {action : GlobalAction} (parses : parseBinding node modeNames global = .ok (inputs, trigger, action)) :
    ReadInputs (inputs, some trigger) ∧ ParsedAction F modeNames action := by
  unfold parseBinding at parses
  obtain ⟨_, rest⟩ := guard_ok parses
  obtain ⟨_, _, rest⟩ := bind_ok rest
  obtain ⟨⟨read, last⟩, folded, rest⟩ := bind_ok rest
  have reads : ReadInputs (read, last) :=
    foldlM_ok (fun _ => ReadInputs) folded ⟨Buttons.named_empty, by simp⟩
      fun _ _ _ _ _ _ stepped => bindingInput_reads stepped
  cases last with
  | none => cases rest
  | some last =>
    dsimp only at rest
    split at rest
    · obtain ⟨parsed, parsedAction, done⟩ := bind_ok rest
      cases done
      exact ⟨reads, parseAction_ok parsedAction⟩
    · cases rest

theorem localAction_ok {action : GlobalAction} {result : Action}
    (isLocal : localAction action = .ok result) : action = .action result := by
  cases action with
  | action found =>
    cases isLocal
    rfl
  | keyboardToggle => cases isLocal

/-! ## Modes -/

theorem parseModeBinding_cases {draft next : ModeDraft F} {child : KdlNode F}
    (parses : parseModeBinding modeName modeNames draft child = .ok next) :
    (∃ issue, next = { draft with issues := draft.issues ++ [issue] }) ∨
      ∃ inputs trigger action issue,
        parseBinding child modeNames false = .ok (inputs, trigger, .action action) ∧
        next = { draft with
          issues := report draft.issues (draft.bindings.any (sameInput inputs trigger)) issue
          bindings := draft.bindings ++ [⟨inputs, trigger, action⟩] } := by
  unfold parseModeBinding at parses
  rcases append_cases draft.issues (parseBinding child modeNames false) with
    ⟨⟨inputs, trigger, action⟩, parsed, appended⟩ | ⟨issue, appended⟩
  · simp only [appended] at parses
    obtain ⟨result, isLocal, done⟩ := bind_ok parses
    cases done
    rw [localAction_ok isLocal] at parsed
    exact .inr ⟨inputs, trigger, result, _, parsed, rfl⟩
  · simp only [appended] at parses
    cases parses
    exact .inl ⟨issue, rfl⟩

theorem parseModeAxis_cases [Scalar F] (modeName : String) (draft : ModeDraft F) (child : KdlNode F) :
    (∃ issue, parseModeAxis modeName draft child =
        { draft with issues := draft.issues ++ [issue] }) ∨
      ∃ axis issue, parseAxis child = .ok axis ∧
        parseModeAxis modeName draft child = { draft with
          issues := report draft.issues
            (draft.axes.any fun earlier => duplicateAxisTarget earlier axis) issue
          axes := draft.axes ++ [axis] } := by
  unfold parseModeAxis
  rcases append_cases draft.issues (parseAxis child) with ⟨axis, parsed, appended⟩ | ⟨issue, appended⟩
  · rw [appended]
    exact .inr ⟨axis, _, parsed, rfl⟩
  · rw [appended]
    exact .inl ⟨issue, rfl⟩

theorem parseLayerBinding_cases {state next : List Binding × List Issue} {layerName : String}
    {hold : Button} {item : KdlNode F × Nat}
    (parses : parseLayerBinding modeName layerName hold modeNames state item = .ok next) :
    (∃ issue, next = (state.1, state.2 ++ [issue])) ∨
      ∃ inputs trigger action first second,
        parseBinding item.1 modeNames false = .ok (inputs, trigger, .action action) ∧
        next = (state.1 ++ [⟨inputs, trigger, action⟩],
          report (report state.2 (inputs.contains hold) first)
            (state.1.any (sameInput inputs trigger)) second) := by
  unfold parseLayerBinding at parses
  rcases append_cases state.2 (parseBinding item.1 modeNames false) with
    ⟨⟨inputs, trigger, action⟩, parsed, appended⟩ | ⟨issue, appended⟩
  · simp only [appended] at parses
    obtain ⟨result, isLocal, done⟩ := bind_ok parses
    cases done
    rw [localAction_ok isLocal] at parsed
    exact .inr ⟨inputs, trigger, result, _, _, parsed, rfl⟩
  · simp only [appended] at parses
    cases parses
    exact .inl ⟨issue, rfl⟩

/-- A layer is added with its hold, and `checked` are the issues after the checks of its name. -/
theorem parseModeLayer_ok {draft next : ModeDraft F} {child : KdlNode F}
    {earlier : List (KdlNode F)}
    (parses : parseModeLayer modeName modeNames earlier draft child = .ok next) :
    ∃ layerName hold checked issue bindings issues, Kept draft.issues checked ∧
      child.children.zipIdx.foldlM (parseLayerBinding modeName layerName hold modeNames)
          ([], report checked (draft.layerHolds.contains hold) issue) = .ok (bindings, issues) ∧
        next = { draft with
          issues
          layerHolds := draft.layerHolds.insert hold
          layers := draft.layers ++ [⟨hold, bindings⟩] } := by
  unfold parseModeLayer at parses
  obtain ⟨layerName, _, rest⟩ := bind_ok parses
  obtain ⟨_, _, rest⟩ := bind_ok rest
  obtain ⟨holdName, _, rest⟩ := bind_ok rest
  obtain ⟨hold, _, rest⟩ := bind_ok rest
  -- the test of the name is not to be evaluated
  generalize (trim layerName).isEmpty = blank at rest
  obtain ⟨⟨bindings, issues⟩, folded, done⟩ := bind_ok rest
  cases done
  exact ⟨layerName, hold, _, _, bindings, issues, (kept_report _ _ _).trans (kept_report _ _ _),
    folded, rfl⟩

/-- Which child of a mode a name stands for. -/
theorem modeChild_layer {child : KdlNode F} {kind : ModeChild}
    (named : oneOf child child.name "mode child"
      [(["bind"], .bind), (["axis"], .axis), (["layer"], ModeChild.layer)] = .ok kind) :
    child.name = "layer" ↔ kind = .layer := by
  unfold oneOf at named
  by_cases bind : child.name = "bind"
  · simp [bind] at named
    simp [bind, ← named]
  by_cases axis : child.name = "axis"
  · simp [axis] at named
    simp [axis, ← named]
  by_cases layer : child.name = "layer"
  · simp [layer] at named
    simp [layer, ← named]
  · simp [bind, axis, layer] at named

theorem parseModeChild_cases [Scalar F] {state next : List (KdlNode F) × ModeDraft F}
    {child : KdlNode F} (parses : parseModeChild modeName modeNames state child = .ok next) :
    next.1 = state.1 ++ [child] ∧
      (child.name ≠ "layer" ∧ parseModeBinding modeName modeNames state.2 child = .ok next.2 ∨
        child.name ≠ "layer" ∧ next.2 = parseModeAxis modeName state.2 child ∨
        child.name = "layer" ∧
          parseModeLayer modeName modeNames state.1 state.2 child = .ok next.2) := by
  obtain ⟨kind, named, rest⟩ := bind_ok parses
  have isLayer := modeChild_layer (throwing_ok named)
  cases kind with
  | bind =>
    obtain ⟨draft, parsed, done⟩ := bind_ok rest
    cases done
    exact ⟨rfl, .inl ⟨by simp [isLayer], parsed⟩⟩
  | axis =>
    cases rest
    exact ⟨rfl, .inr (.inl ⟨by simp [isLayer], rfl⟩)⟩
  | layer =>
    obtain ⟨draft, parsed, done⟩ := bind_ok rest
    cases done
    exact ⟨rfl, .inr (.inr ⟨isLayer.mpr rfl, parsed⟩)⟩

theorem checkLayerHold_cases {bindings : List Binding} {issues next : List Issue}
    {item : KdlNode F × Layer} (checks : checkLayerHold modeName bindings issues item = .ok next) :
    (∃ issue, next = issues ++ [issue]) ∨
      next = issues ∧ ∀ binding ∈ bindings, binding.inputs.contains item.2.hold = false := by
  unfold checkLayerHold at checks
  dsimp only at checks
  split at checks
  · obtain ⟨layerName, _, done⟩ := bind_ok checks
    cases done
    exact .inl ⟨_, rfl⟩
  · next unused =>
    cases checks
    simp only [List.any_eq_true, not_exists, not_and, Bool.not_eq_true] at unused
    exact .inr ⟨rfl, unused⟩

/-- The pass over the children of a mode, and the second pass over its layers. -/
theorem parseMode_ok [Scalar F] {node : KdlNode F} {issues after : List Issue} {mode : Mode F}
    (parses : parseMode node modeNames issues = .ok (mode, after)) :
    ∃ name gamepad touchpad earlier draft,
      node.children.foldlM (parseModeChild name modeNames) ([], ⟨[], [], [], {}, issues⟩) =
          .ok (earlier, draft) ∧
        ((node.children.filter (·.name = "layer")).zip draft.layers).foldlM
            (checkLayerHold name draft.bindings) draft.issues = .ok after ∧
          mode = ⟨gamepad, touchpad, draft.bindings, draft.axes, draft.layers⟩ := by
  obtain ⟨name, _, rest⟩ := bind_ok parses
  obtain ⟨_, _, rest⟩ := bind_ok rest
  obtain ⟨gamepadName, _, rest⟩ := bind_ok rest
  obtain ⟨touchpad, _, rest⟩ := bind_ok rest
  obtain ⟨gamepad, _, rest⟩ := bind_ok rest
  cases touchpad <;>
  · obtain ⟨gamepadTouchpad, _, rest⟩ := bind_ok rest
    obtain ⟨⟨earlier, draft⟩, folded, rest⟩ := bind_ok rest
    obtain ⟨checked, checks, done⟩ := bind_ok rest
    cases done
    exact ⟨name, gamepad, gamepadTouchpad, earlier, draft, folded, checks, rfl⟩

/-! ## Issues that a mode keeps -/

theorem parseLayerBinding_kept {layerName : String} {hold : Button}
    {state next : List Binding × List Issue} {item : KdlNode F × Nat}
    (parses : parseLayerBinding modeName layerName hold modeNames state item = .ok next) :
    Kept state.2 next.2 := by
  obtain ⟨issue, rfl⟩ | ⟨_, _, _, _, _, _, rfl⟩ := parseLayerBinding_cases parses
  · exact kept_snoc _ _
  · exact (kept_report _ _ _).trans (kept_report _ _ _)

theorem parseModeLayer_kept {earlier : List (KdlNode F)} {draft next : ModeDraft F}
    {child : KdlNode F}
    (parses : parseModeLayer modeName modeNames earlier draft child = .ok next) :
    Kept draft.issues next.issues := by
  obtain ⟨layerName, hold, checked, issue, bindings, issues, kept, folded, rfl⟩ :=
    parseModeLayer_ok parses
  have layer : Kept checked issues :=
    foldlM_ok (fun _ state => Kept checked state.2) folded (kept_report _ _ _)
      fun _ _ _ _ _ _ stepped earlier => earlier.trans (parseLayerBinding_kept stepped)
  exact kept.trans layer

theorem parseModeChild_kept [Scalar F] {state next : List (KdlNode F) × ModeDraft F} {child : KdlNode F}
    (parses : parseModeChild modeName modeNames state child = .ok next) :
    Kept state.2.issues next.2.issues := by
  obtain ⟨_, ⟨_, parsed⟩ | ⟨_, result⟩ | ⟨_, parsed⟩⟩ := parseModeChild_cases parses
  · obtain ⟨issue, same⟩ | ⟨_, _, _, _, _, same⟩ := parseModeBinding_cases parsed
    · rw [same]
      exact kept_snoc _ _
    · rw [same]
      exact kept_report _ _ _
  · obtain ⟨issue, same⟩ | ⟨_, _, _, same⟩ := parseModeAxis_cases modeName state.2 child
    · rw [result, same]
      exact kept_snoc _ _
    · rw [result, same]
      exact kept_report _ _ _
  · exact parseModeLayer_kept parsed

theorem checkLayerHold_kept {bindings : List Binding} {issues next : List Issue}
    {item : KdlNode F × Layer} (checks : checkLayerHold modeName bindings issues item = .ok next) :
    Kept issues next := by
  obtain ⟨issue, rfl⟩ | ⟨rfl, _⟩ := checkLayerHold_cases checks
  · exact kept_snoc _ _
  · exact .refl _

theorem parseMode_kept [Scalar F] {node : KdlNode F} {issues after : List Issue} {mode : Mode F}
    (parses : parseMode node modeNames issues = .ok (mode, after)) : Kept issues after := by
  obtain ⟨name, _, _, earlier, draft, folded, checks, _⟩ := parseMode_ok parses
  have drafted : Kept issues draft.issues :=
    foldlM_ok (fun _ state => Kept issues state.2.issues) folded (.refl issues)
      fun _ _ _ _ _ _ stepped earlier => earlier.trans (parseModeChild_kept stepped)
  exact foldlM_ok (fun _ => Kept issues) checks drafted
    fun _ _ _ _ _ _ stepped earlier => earlier.trans (checkLayerHold_kept stepped)

/-! ## Documents -/

/-- A new name takes the position of its mode; a name that is there is reported. -/
theorem parseModeName_cases {item : KdlNode F × Nat} {state next : IndexMap String ModeId × List Issue}
    (parses : parseModeName state item = .ok next) :
    ∃ name checked, Kept state.2 checked ∧
      ((∃ issue, next = (state.1, checked ++ [issue])) ∨
        state.1.contains name = false ∧ next = (state.1.insert name ⟨item.2⟩, checked)) := by
  unfold parseModeName at parses
  obtain ⟨name, _, rest⟩ := bind_ok parses
  generalize (trim name).isEmpty = blank at rest
  split at rest
  · cases rest
    exact ⟨name, _, kept_report _ _ _, .inl ⟨_, rfl⟩⟩
  · next absent =>
    cases rest
    exact ⟨name, _, kept_report _ _ _, .inr ⟨Bool.eq_false_iff.mpr absent, rfl⟩⟩

theorem parseOskBinding_ok {state next : IndexMap Button KeyCode × List Issue} {child : KdlNode F}
    (parses : parseOskBinding state child = .ok next) :
    ∃ input text key first second, parseKey F text = .ok key ∧
      next = (state.1.insert input key,
        report (report state.2 (state.1.contains input) first) (isPointing input) second) := by
  unfold parseOskBinding at parses
  obtain ⟨_, rest⟩ := guard_ok parses
  obtain ⟨_, _, rest⟩ := bind_ok rest
  obtain ⟨text, _, rest⟩ := bind_ok rest
  obtain ⟨input, _, rest⟩ := bind_ok rest
  obtain ⟨keyName, _, rest⟩ := bind_ok rest
  split at rest
  · next parsed =>
    cases rest
    exact ⟨input, keyName, _, _, _, parsed, rfl⟩
  · cases rest

theorem parseGlobalBinding_cases (modeNames : IndexMap String ModeId)
    (state : List GlobalBinding × List Issue) (item : KdlNode F × Nat) :
    (∃ issue, parseGlobalBinding modeNames state item = (state.1, state.2 ++ [issue])) ∨
      ∃ inputs trigger action issue,
        parseBinding item.1 modeNames true = .ok (inputs, trigger, action) ∧
        parseGlobalBinding modeNames state item =
          (state.1 ++ [⟨inputs, trigger, action⟩],
            report state.2 (state.1.any fun binding =>
              binding.inputs = inputs && binding.trigger = trigger) issue) := by
  unfold parseGlobalBinding
  rcases append_cases state.2 (parseBinding item.1 modeNames true) with
    ⟨⟨inputs, trigger, action⟩, parsed, appended⟩ | ⟨issue, appended⟩
  · simp only [appended]
    exact .inr ⟨inputs, trigger, action, _, parsed, rfl⟩
  · simp only [appended]
    exact .inl ⟨issue, rfl⟩

theorem parseOskBinding_kept {state next : IndexMap Button KeyCode × List Issue} {child : KdlNode F}
    (parses : parseOskBinding state child = .ok next) : Kept state.2 next.2 := by
  obtain ⟨input, text, key, first, second, _, rfl⟩ := parseOskBinding_ok parses
  exact (kept_report _ _ _).trans (kept_report _ _ _)

theorem parseGlobalBinding_kept (state : List GlobalBinding × List Issue) (item : KdlNode F × Nat) :
    Kept state.2 (parseGlobalBinding modeNames state item).2 := by
  obtain ⟨issue, result⟩ | ⟨_, _, _, _, _, result⟩ := parseGlobalBinding_cases modeNames state item
  · rw [result]
    exact kept_snoc _ _
  · rw [result]
    exact kept_report _ _ _

/-- One node of the pass over the modes. -/
def parseModeNode [Scalar F] (modeNames : IndexMap String ModeId)
    (state : List (Mode F) × List Issue) (node : KdlNode F) :
    Except Rejection (List (Mode F) × List Issue) := do
  let parsed ← parseMode node modeNames state.2
  return (state.1 ++ [parsed.1], parsed.2)

theorem parseModeNode_kept [Scalar F] {state next : List (Mode F) × List Issue} {node : KdlNode F}
    (parses : parseModeNode modeNames state node = .ok next) : Kept state.2 next.2 := by
  obtain ⟨⟨mode, after⟩, parsed, done⟩ := bind_ok parses
  cases done
  exact parseMode_kept parsed

/-- The passes over an accepted document.  The next pass begins with the issues that one has left,
    and the last leaves none. -/
theorem fromDocument_ok [Scalar F] {document : KdlDocument F} {config : Config F}
    (parses : Config.fromDocument document = .ok config) :
    ∃ (checked named resolved oskIssues globalIssues : List Issue)
        (oskNodes globalNodes : List (KdlNode F)),
      (allNodes document "mode").zipIdx.foldlM parseModeName (.empty, checked) =
          .ok (config.modeNames, named) ∧
        (∃ name, config.modeNames.get? name = some config.defaultMode) ∧ Kept named resolved ∧
        oskNodes.foldlM parseOskBinding (.empty, resolved) = .ok (config.oskBindings, oskIssues) ∧
        globalNodes.zipIdx.foldl (parseGlobalBinding config.modeNames) ([], oskIssues) =
          (config.globalBindings, globalIssues) ∧
        (allNodes document "mode").foldlM (parseModeNode config.modeNames) ([], globalIssues) =
          .ok (config.modes, []) := by
  obtain ⟨_, _, rest⟩ := bind_ok parses
  obtain ⟨⟨version, versionSpan⟩, _, rest⟩ := bind_ok rest
  obtain ⟨⟨defaultMode, defaultModeSpan⟩, _, rest⟩ := bind_ok rest
  obtain ⟨hapticNode, _, rest⟩ := bind_ok rest
  obtain ⟨trackpad, _, rest⟩ := bind_ok rest
  obtain ⟨osk, _, rest⟩ := bind_ok rest
  obtain ⟨global, _, rest⟩ := bind_ok rest
  obtain ⟨modeSwitchHaptic, _, rest⟩ := bind_ok rest
  obtain ⟨clickPressure, _, rest⟩ := bind_ok rest
  obtain ⟨checked, _, rest⟩ := bind_ok rest
  obtain ⟨⟨modeNames, named⟩, names, rest⟩ := bind_ok rest
  obtain ⟨oskNodes, _, rest⟩ := bind_ok rest
  obtain ⟨⟨oskBindings, oskIssues⟩, osks, rest⟩ := bind_ok rest
  obtain ⟨globalNodes, _, rest⟩ := bind_ok rest
  obtain ⟨⟨modes, issues⟩, folded, rest⟩ := bind_ok rest
  dsimp only at rest
  split at rest
  · cases rest
  · next noIssues =>
    split at rest
    · cases rest
    · next default resolved =>
      cases rest
      have none : issues = [] := by simpa using noIssues
      subst none
      exact ⟨checked, named, _, oskIssues, _, oskNodes, globalNodes, names, ⟨_, resolved⟩,
        kept_report _ _ _, osks, rfl, folded⟩

end

end Scd.Core
