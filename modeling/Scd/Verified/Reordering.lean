import Scd.Foundation.Shuffle
import Scd.Verified.Parsing
import Scd.Verified.Reading
import Scd.Verified.Validation

/-! # The order of nodes

A document is accepted whatever the order of its nodes, of the children of its modes and of those
of its axes, as long as nodes of one name stay in their order; and the configuration is the same.
The messages of a document that is rejected may differ, so the parser is compared by what it
returns when nothing was reported.
-/

namespace Scd.Core

open Scd.Foundation

section

variable {F : Type} [Scalar F] [Platform F]

/-! ## Equal results -/

/-- The programs return the same, or both fail. -/
def Agree {ε α : Type} (left right : Except ε α) : Prop := left.toOption = right.toOption

theorem Agree.of_eq {ε α : Type} {left right : Except ε α} (same : left = right) :
    Agree left right := by rw [Agree, same]

theorem Agree.bind {ε α β : Type} {left right : Except ε α} {next next' : α → Except ε β}
    (first : Agree left right) (rest : ∀ value, Agree (next value) (next' value)) :
    Agree (left >>= next) (right >>= next') := by
  have rest : (fun value => (next value).toOption) = fun value => (next' value).toOption := funext rest
  rw [Agree, toOption_bind, toOption_bind, first, rest]

theorem Agree.throwing {α : Type} {left right : Except Issue α} (same : Agree left right) :
    Agree (throwing left) (throwing right) := by
  have view : ∀ result : Except Issue α, (Core.throwing result).toOption = result.toOption := by
    intro result
    cases result <;> rfl
  rw [Agree, view, view, same]

/-- The same check before both. -/
theorem Agree.guard {ε α : Type} {condition : Prop} [Decidable condition] {error : ε}
    {next next' : Unit → Except ε α} (rest : Agree (next ()) (next' ())) :
    Agree (if condition then (Except.error error : Except ε Unit) >>= next else next ())
      (if condition then (Except.error error : Except ε Unit) >>= next' else next' ()) := by
  split
  · exact .of_eq rfl
  · exact rest

/-- The same program before both. -/
theorem view_bind {ε α β γ : Type} {first : Except ε α} {next next' : α → Except ε β}
    {view : β → Option γ}
    (rest : ∀ value, (next value).toOption.bind view = (next' value).toOption.bind view) :
    (first >>= next).toOption.bind view = (first >>= next').toOption.bind view := by
  cases first with
  | error error => rfl
  | ok value => exact rest value

/-! ## Axes -/

/-- The components that a child names. -/
def readComponents (child : KdlNode F) : Except Issue (AxisComponent × AxisComponent) := do
  properties child []
  let first ← parseAxisComponent (← argument String child 0) child
  let second ← parseAxisComponent (← argument String child 1) child
  return (first, second)

/-- The effect of one child of an axis: it gives an activation, or the components, where there are
    none yet. -/
inductive AxisEffect (child : KdlNode F) : Prop where
  | none : (∀ found, (parseAxisChild found child).toOption = .none) → AxisEffect child
  | activation (read : Option (AxisActivation F)) : child.name ≠ "components" →
      (∀ found, (parseAxisChild found child).toOption =
        if found.activation.isSome then .none
        else read.map fun activation => { found with activation := some activation }) →
      AxisEffect child
  | components (read : Option (AxisComponent × AxisComponent)) : child.name = "components" →
      (∀ found, (parseAxisChild found child).toOption =
        if found.components.isSome then .none
        else read.map fun components => { found with components := some components }) →
      AxisEffect child

theorem axisChild_effect (child : KdlNode F) : AxisEffect child := by
  by_cases trigger : child.name = "trigger"
  · refine .activation (parseActivationTrigger child).toOption (by simp [trigger]) ?_
    intro found
    simp only [parseAxisChild, oneOf, trigger]
    cases found.activation <;> cases parseActivationTrigger child <;> rfl
  by_cases buttons : child.name = "buttons"
  · refine .activation (parseActivationButtons child).toOption (by simp [buttons]) ?_
    intro found
    simp only [parseAxisChild, oneOf, buttons]
    cases found.activation <;> cases parseActivationButtons child <;> rfl
  by_cases components : child.name = "components"
  · refine .components (readComponents child).toOption components ?_
    intro found
    have reads : ∀ after : AxisComponent × AxisComponent → AxisChildren F,
        (readComponents child >>= fun read => .ok (after read)).toOption =
          (readComponents child).toOption.map after := by
      intro after
      cases readComponents child <;> rfl
    rw [← reads]
    simp only [parseAxisChild, oneOf, components, readComponents]
    cases found.components with
    | some other => rfl
    | none =>
      simp only [Option.isSome_none, Bool.false_eq_true, if_false, bind_assoc]
      rfl
  · refine .none fun found => ?_
    simp [parseAxisChild, oneOf, trigger, buttons, components]
    rfl

/-- One child of an axis, if it is accepted. -/
def axisStep (found : AxisChildren F) (child : KdlNode F) : Option (AxisChildren F) :=
  (parseAxisChild found child).toOption

/-- Children of different names do not see each other, or there is one activation too many. -/
theorem axisStep_commute (found : AxisChildren F) {child other : KdlNode F}
    (differs : other.name ≠ child.name) :
    (axisStep found other).bind (axisStep · child) = (axisStep found child).bind (axisStep · other) := by
  unfold axisStep
  cases axisChild_effect child with
  | none first => simp only [first, Option.bind_none, Option.bind_fun_none]
  | activation read notComponents first =>
    cases axisChild_effect other with
    | none second => simp only [second, Option.bind_none, Option.bind_fun_none]
    | activation read' _ second =>
      simp only [first, second]
      cases found.activation <;> cases read <;> cases read' <;> rfl
    | components read' _ second =>
      simp only [first, second]
      obtain ⟨activation, components⟩ := found
      cases activation <;> cases components <;> cases read <;> cases read' <;> rfl
  | components read isComponents first =>
    cases axisChild_effect other with
    | none second => simp only [second, Option.bind_none, Option.bind_fun_none]
    | activation read' _ second =>
      simp only [first, second]
      obtain ⟨activation, components⟩ := found
      cases activation <;> cases components <;> cases read <;> cases read' <;> rfl
    | components read' alsoComponents second =>
      exact absurd (alsoComponents.trans isComponents.symm) differs

theorem axisChildren_agree {children others : List (KdlNode F)}
    (shuffled : Shuffled KdlNode.name children others) (found : AxisChildren F) :
    Agree (children.foldlM parseAxisChild found) (others.foldlM parseAxisChild found) := by
  have steps : ∀ items : List (KdlNode F), (items.foldlM parseAxisChild found).toOption =
      items.foldlM axisStep found := by
    intro items
    have view : (items.foldlM parseAxisChild found).toOption.bind some =
        (some found).bind (items.foldlM axisStep) :=
      foldlM_view (fun found child => Option.bind_fun_some _) items found
    rwa [Option.bind_fun_some] at view
  rw [Agree, steps, steps]
  exact foldlM_shuffled shuffled (fun found child other => axisStep_commute found) found

/-- The children of an axis may change places. -/
theorem parseAxis_agree {name : String} {entries : List (KdlEntry F)} {span : SourceSpan}
    {children others : List (KdlNode F)} (shuffled : Shuffled KdlNode.name children others) :
    Agree (parseAxis (.mk name entries children span)) (parseAxis (.mk name entries others span)) := by
  have alike := readAlike_entries 2 name entries children others span
  unfold parseAxis
  refine .bind (.of_eq (alike.argument Nat.zero_lt_two)) fun source => ?_
  refine .bind (.of_eq (alike.argument Nat.one_lt_two)) fun target => ?_
  simp only [alike.span]
  refine .guard ?_
  refine .bind (axisChildren_agree shuffled _) fun found => ?_
  refine .guard ?_
  refine .of_eq ?_
  simp only [parseAxisOptions_alike alike, alike.oneOf]

/-! ## Children of modes -/

variable {modeName : String} {modeNames : IndexMap String ModeId}

/-- The layers so far, with their holds and their nodes. -/
structure LayerParts (F : Type) where
  layers : List Layer
  holds : Buttons
  nodes : List (KdlNode F)

/-- What a mode is made of: each child adds to one part. -/
structure ModeParts (F : Type) where
  bindings : List Binding
  axes : List (AxisMapping F)
  layers : LayerParts F

/-- The draft, if nothing has been reported. -/
def ModeDraft.clean? (draft : ModeDraft F) : Option (ModeDraft F) :=
  if draft.issues.isEmpty then some draft else none

/-- The parts so far, if nothing has been reported. -/
def modeParts? (state : List (KdlNode F) × ModeDraft F) : Option (ModeParts F) :=
  state.2.clean?.map fun draft =>
    ⟨draft.bindings, draft.axes, draft.layers, draft.layerHolds, state.1.filter (·.name = "layer")⟩

def bindingStep (modeNames : IndexMap String ModeId) (bindings : List Binding) (child : KdlNode F) :
    Option (List Binding) :=
  match parseBinding child modeNames false with
  | .ok (inputs, trigger, .action action) =>
    if bindings.any (sameInput inputs trigger) then none
    else some (bindings ++ [⟨inputs, trigger, action⟩])
  | _ => none

def mappingStep (axes : List (AxisMapping F)) (child : KdlNode F) : Option (List (AxisMapping F)) :=
  (parseAxis child).toOption.bind fun axis =>
    if axes.any fun earlier => duplicateAxisTarget earlier axis then none else some (axes ++ [axis])

def layerStep (modeName : String) (modeNames : IndexMap String ModeId) (parts : LayerParts F)
    (child : KdlNode F) : Option (LayerParts F) :=
  ((parseModeLayer modeName modeNames parts.nodes ⟨[], [], parts.layers, parts.holds, []⟩
    child).toOption.bind ModeDraft.clean?).map fun draft =>
      ⟨draft.layers, draft.layerHolds, parts.nodes ++ [child]⟩

/-- One child of a mode, if nothing is reported. -/
def modeStep (modeName : String) (modeNames : IndexMap String ModeId) (parts : ModeParts F)
    (child : KdlNode F) : Option (ModeParts F) :=
  if child.name = "bind" then
    (bindingStep modeNames parts.bindings child).map fun bindings => { parts with bindings }
  else if child.name = "axis" then
    (mappingStep parts.axes child).map fun axes => { parts with axes }
  else if child.name = "layer" then
    (layerStep modeName modeNames parts.layers child).map fun layers => { parts with layers }
  else none

/-- The effect of one child of a mode: it adds to one part, whatever the others are. -/
inductive ModeEffect (modeName : String) (modeNames : IndexMap String ModeId) (child : KdlNode F) :
    Prop where
  | none : (∀ parts, modeStep modeName modeNames parts child = .none) →
      ModeEffect modeName modeNames child
  | bindings (add : List Binding → Option (List Binding)) : child.name = "bind" →
      (∀ parts, modeStep modeName modeNames parts child =
        (add parts.bindings).map fun bindings => { parts with bindings }) →
      ModeEffect modeName modeNames child
  | axes (add : List (AxisMapping F) → Option (List (AxisMapping F))) : child.name = "axis" →
      (∀ parts, modeStep modeName modeNames parts child =
        (add parts.axes).map fun axes => { parts with axes }) →
      ModeEffect modeName modeNames child
  | layers (add : LayerParts F → Option (LayerParts F)) : child.name = "layer" →
      (∀ parts, modeStep modeName modeNames parts child =
        (add parts.layers).map fun layers => { parts with layers }) →
      ModeEffect modeName modeNames child

theorem modeChild_effect (modeName : String) (modeNames : IndexMap String ModeId)
    (child : KdlNode F) : ModeEffect modeName modeNames child := by
  by_cases bind : child.name = "bind"
  · exact .bindings (bindingStep modeNames · child) bind fun parts => by simp [modeStep, bind]
  by_cases axis : child.name = "axis"
  · exact .axes (mappingStep · child) axis fun parts => by simp [modeStep, axis]
  by_cases layer : child.name = "layer"
  · exact .layers (layerStep modeName modeNames · child) layer fun parts => by simp [modeStep, layer]
  · exact .none fun parts => by simp [modeStep, bind, axis, layer]

/-- Children of different names add to different parts. -/
theorem modeStep_commute (parts : ModeParts F) {child other : KdlNode F}
    (differs : other.name ≠ child.name) :
    (modeStep modeName modeNames parts other).bind (modeStep modeName modeNames · child) =
      (modeStep modeName modeNames parts child).bind (modeStep modeName modeNames · other) := by
  obtain ⟨bindings, axes, layers⟩ := parts
  cases modeChild_effect modeName modeNames child with
  | none first => simp only [first, Option.bind_none, Option.bind_fun_none]
  | bindings add named first =>
    cases modeChild_effect modeName modeNames other with
    | none second => simp only [second, Option.bind_none, Option.bind_fun_none]
    | bindings _ named' => exact absurd (named'.trans named.symm) differs
    | axes add' _ second =>
      simp only [first, second]
      cases one : add bindings <;> cases two : add' axes <;> simp [one, two]
    | layers add' _ second =>
      simp only [first, second]
      cases one : add bindings <;> cases two : add' layers <;> simp [one, two]
  | axes add named first =>
    cases modeChild_effect modeName modeNames other with
    | none second => simp only [second, Option.bind_none, Option.bind_fun_none]
    | bindings add' _ second =>
      simp only [first, second]
      cases one : add axes <;> cases two : add' bindings <;> simp [one, two]
    | axes _ named' => exact absurd (named'.trans named.symm) differs
    | layers add' _ second =>
      simp only [first, second]
      cases one : add axes <;> cases two : add' layers <;> simp [one, two]
  | layers add named first =>
    cases modeChild_effect modeName modeNames other with
    | none second => simp only [second, Option.bind_none, Option.bind_fun_none]
    | bindings add' _ second =>
      simp only [first, second]
      cases one : add layers <;> cases two : add' bindings <;> simp [one, two]
    | axes add' _ second =>
      simp only [first, second]
      cases one : add layers <;> cases two : add' axes <;> simp [one, two]
    | layers _ named' => exact absurd (named'.trans named.symm) differs

omit [Scalar F] [Platform F] in
theorem clean?_report (bindings : List Binding) (axes : List (AxisMapping F)) (layers : List Layer)
    (holds : Buttons) (condition : Bool) (issue : Issue) :
    ModeDraft.clean? ⟨bindings, axes, layers, holds, report [] condition issue⟩ =
      if condition then none else some ⟨bindings, axes, layers, holds, []⟩ := by
  cases condition <;> rfl

omit [Scalar F] in
theorem parseModeBinding_clean {draft : ModeDraft F} {child : KdlNode F} (clean : draft.issues = []) :
    (parseModeBinding modeName modeNames draft child).toOption.bind ModeDraft.clean? =
      (bindingStep modeNames draft.bindings child).map fun bindings => { draft with bindings } := by
  obtain ⟨bindings, axes, layers, holds, issues⟩ := draft
  obtain rfl : issues = [] := clean
  unfold parseModeBinding bindingStep
  cases parseBinding child modeNames false with
  | error issue => rfl
  | ok parsed =>
    obtain ⟨inputs, trigger, action⟩ := parsed
    cases action with
    | keyboardToggle => rfl
    | action action =>
      refine (clean?_report _ _ _ _ _ _).trans ?_
      dsimp only
      split <;> rfl

theorem parseModeAxis_clean {draft : ModeDraft F} {child : KdlNode F} (clean : draft.issues = []) :
    (parseModeAxis modeName draft child).clean? =
      (mappingStep draft.axes child).map fun axes => { draft with axes } := by
  obtain ⟨bindings, axes, layers, holds, issues⟩ := draft
  obtain rfl : issues = [] := clean
  unfold parseModeAxis mappingStep
  cases parseAxis child with
  | error issue => rfl
  | ok axis =>
    refine (clean?_report _ _ _ _ _ _).trans ?_
    simp only [Except.toOption, Option.bind_some]
    split <;> rfl

omit [Scalar F] [Platform F] in
/-- The layer nodes among the children before this one decide. -/
theorem isLayerNamed_filter (layerName : String) (earlier : List (KdlNode F)) :
    earlier.any (isLayerNamed layerName) =
      (earlier.filter (·.name = "layer")).any (isLayerNamed layerName) := by
  rw [List.any_filter]
  congr 1
  funext node
  simp [isLayerNamed]

omit [Scalar F] in
theorem parseModeLayer_clean {earlier : List (KdlNode F)} {draft : ModeDraft F} {child : KdlNode F}
    (clean : draft.issues = []) :
    (parseModeLayer modeName modeNames earlier draft child).toOption.bind ModeDraft.clean? =
      (layerStep modeName modeNames
        ⟨draft.layers, draft.layerHolds, earlier.filter (·.name = "layer")⟩ child).map fun parts =>
          { draft with layers := parts.layers, layerHolds := parts.holds } := by
  obtain ⟨bindings, axes, layers, holds, issues⟩ := draft
  obtain rfl : issues = [] := clean
  unfold layerStep parseModeLayer
  simp only [← isLayerNamed_filter]
  cases argument String child 0 with
  | error issue => rfl
  | ok layerName =>
    cases properties child ["hold"] with
    | error issue => rfl
    | ok checked =>
      cases property String child "hold" with
      | error issue => rfl
      | ok holdName =>
        simp only [throwing, ok_bind]
        cases parseButton holdName child with
        | error issue => rfl
        | ok hold =>
          simp only [ok_bind]
          generalize child.children.zipIdx.foldlM
            (parseLayerBinding modeName layerName hold modeNames) _ = folded
          cases folded with
          | error rejection => rfl
          | ok read =>
            obtain ⟨found, issues⟩ := read
            cases issues <;> rfl

omit [Scalar F] [Platform F] in
theorem modeParts?_child (result : Except Rejection (ModeDraft F)) (children : List (KdlNode F)) :
    (result >>= fun draft => .ok (children, draft)).toOption.bind modeParts? =
      (result.toOption.bind ModeDraft.clean?).map fun draft => ⟨draft.bindings, draft.axes,
        ⟨draft.layers, draft.layerHolds, children.filter (·.name = "layer")⟩⟩ := by
  cases result <;> rfl

/-- The parser's loop over the children does what `modeStep` does, if nothing is reported. -/
theorem parseModeChild_steps (state : List (KdlNode F) × ModeDraft F) (child : KdlNode F) :
    (parseModeChild modeName modeNames state child).toOption.bind modeParts? =
      (modeParts? state).bind (modeStep modeName modeNames · child) := by
  obtain ⟨earlier, draft⟩ := state
  cases issues : draft.issues with
  | cons issue rest =>
    -- once something is reported it stays reported, and neither side has a result
    have reported : modeParts? (earlier, draft) = none := by
      simp [modeParts?, ModeDraft.clean?, issues]
    rw [reported, Option.bind_none]
    cases parses : parseModeChild modeName modeNames (earlier, draft) child with
    | error rejection => rfl
    | ok next =>
      have kept := parseModeChild_kept parses
      have still : next.2.issues ≠ [] := by
        intro none
        rw [kept none] at issues
        cases issues
      simp [modeParts?, ModeDraft.clean?, still, Except.toOption]
  | nil =>
    have parts : modeParts? (earlier, draft) = some ⟨draft.bindings, draft.axes, draft.layers,
        draft.layerHolds, earlier.filter (·.name = "layer")⟩ := by
      simp [modeParts?, ModeDraft.clean?, issues]
    rw [parts, Option.bind_some]
    -- nothing is reported yet: the child has one of the three names, or is refused
    by_cases bind : child.name = "bind"
    · have isBinding : parseModeChild modeName modeNames (earlier, draft) child =
          parseModeBinding modeName modeNames draft child >>= fun draft =>
            .ok (earlier ++ [child], draft) := by
        simp [parseModeChild, oneOf, bind, throwing]
        rfl
      rw [isBinding, modeParts?_child, parseModeBinding_clean issues]
      simp [modeStep, bind, Function.comp_def]
    by_cases axis : child.name = "axis"
    · have isAxis : parseModeChild modeName modeNames (earlier, draft) child =
          .ok (parseModeAxis modeName draft child) >>= fun draft => .ok (earlier ++ [child], draft) := by
        simp [parseModeChild, oneOf, axis, throwing]
      have clean : (Except.ok (parseModeAxis modeName draft child) :
          Except Rejection (ModeDraft F)).toOption.bind ModeDraft.clean? =
            (mappingStep draft.axes child).map fun axes => { draft with axes } :=
        parseModeAxis_clean issues
      rw [isAxis, modeParts?_child, clean]
      simp [modeStep, axis, Function.comp_def]
    by_cases layer : child.name = "layer"
    · have isLayer : parseModeChild modeName modeNames (earlier, draft) child =
          parseModeLayer modeName modeNames earlier draft child >>= fun draft =>
            .ok (earlier ++ [child], draft) := by
        simp [parseModeChild, oneOf, layer, throwing]
        rfl
      rw [isLayer, modeParts?_child, parseModeLayer_clean issues]
      simp [modeStep, layer, Function.comp_def, layerStep]
    · have refused : (parseModeChild modeName modeNames (earlier, draft) child).toOption = none := by
        simp [parseModeChild, oneOf, bind, axis, layer, throwing]
        rfl
      simp [refused, modeStep, bind, axis, layer]

/-! ## Modes -/

/-- Nodes in another place and changed below: the new order of a list of changed nodes. -/
def Rearranged (below : KdlNode F → KdlNode F → Prop) (left right : List (KdlNode F)) : Prop :=
  ∃ mid, List.Forall₂ below left mid ∧ Shuffled KdlNode.name mid right

/-- The children of an axis may be shuffled. -/
inductive AxisReordered : KdlNode F → KdlNode F → Prop where
  | same (node : KdlNode F) : AxisReordered node node
  | axis (entries : List (KdlEntry F)) (span : SourceSpan) {children others : List (KdlNode F)} :
      Shuffled KdlNode.name children others →
      AxisReordered (.mk "axis" entries children span) (.mk "axis" entries others span)

/-- The children of a mode may be shuffled, and those of its axes. -/
inductive ModeReordered : KdlNode F → KdlNode F → Prop where
  | same (node : KdlNode F) : ModeReordered node node
  | mode (entries : List (KdlEntry F)) (span : SourceSpan) {children others : List (KdlNode F)} :
      Rearranged AxisReordered children others →
      ModeReordered (.mk "mode" entries children span) (.mk "mode" entries others span)

theorem modeStep_alike (parts : ModeParts F) {child other : KdlNode F}
    (alike : AxisReordered child other) :
    modeStep modeName modeNames parts child = modeStep modeName modeNames parts other := by
  cases alike with
  | same => rfl
  | @axis entries span children others shuffled =>
    have parsed : Agree (parseAxis (.mk "axis" entries children span))
        (parseAxis (.mk "axis" entries others span)) := parseAxis_agree shuffled
    have added : mappingStep parts.axes (.mk "axis" entries children span) =
        mappingStep parts.axes (.mk "axis" entries others span) := by
      rw [mappingStep, parsed, mappingStep]
    simp [modeStep, KdlNode.name, added]

theorem modeChildren_agree {children others : List (KdlNode F)}
    (rearranged : Rearranged AxisReordered children others) (state : List (KdlNode F) × ModeDraft F) :
    (children.foldlM (parseModeChild modeName modeNames) state).toOption.bind modeParts? =
      (others.foldlM (parseModeChild modeName modeNames) state).toOption.bind modeParts? := by
  obtain ⟨mid, pairs, shuffled⟩ := rearranged
  rw [foldlM_view parseModeChild_steps, foldlM_view parseModeChild_steps]
  congr 1
  funext parts
  rw [foldlM_alike pairs fun parts child other => modeStep_alike parts,
    foldlM_shuffled shuffled fun parts child other => modeStep_commute parts]

omit [Scalar F] [Platform F] in
/-- The nodes with another name than those that are changed. -/
theorem Rearranged.filter {below : KdlNode F → KdlNode F → Prop} {left right : List (KdlNode F)}
    (rearranged : Rearranged below left right) {which : String}
    (unchanged : ∀ node other, below node other →
      node = other ∨ node.name ≠ which ∧ other.name ≠ which) :
    left.filter (·.name = which) = right.filter (·.name = which) := by
  obtain ⟨mid, pairs, shuffled⟩ := rearranged
  rw [← shuffled which]
  clear shuffled
  induction pairs with
  | nil => rfl
  | cons first _ inductionHypothesis =>
    cases unchanged _ _ first with
    | inl same => rw [same, List.filter_cons, List.filter_cons, inductionHypothesis]
    | inr other =>
      rw [List.filter_cons_of_neg (by simpa using other.1),
        List.filter_cons_of_neg (by simpa using other.2), inductionHypothesis]

/-- What counts of a parsed mode if nothing has been reported. -/
def cleanMode? (result : Mode F × List Issue) : Option (Mode F) :=
  if result.2.isEmpty then some result.1 else none

/-- The second pass over the layers, and the mode. -/
def modeEnd (modeName : String) (gamepad : Gamepad) (touchpad : Option Trackpad)
    (nodes : List (KdlNode F)) (draft : ModeDraft F) : Except Rejection (Mode F × List Issue) := do
  let issues ← (nodes.zip draft.layers).foldlM (checkLayerHold modeName draft.bindings) draft.issues
  return (⟨gamepad, touchpad, draft.bindings, draft.axes, draft.layers⟩, issues)

omit [Scalar F] in
/-- The end of a mode depends on its parts, and reports what was reported before. -/
theorem modeEnd_parts (gamepad : Gamepad) (touchpad : Option Trackpad) (nodes : List (KdlNode F))
    (state : List (KdlNode F) × ModeDraft F) :
    (modeEnd modeName gamepad touchpad nodes state.2).toOption.bind cleanMode? =
      (modeParts? state).bind fun parts => (modeEnd modeName gamepad touchpad nodes
        ⟨parts.bindings, parts.axes, parts.layers.layers, parts.layers.holds, []⟩).toOption.bind
          cleanMode? := by
  obtain ⟨earlier, bindings, axes, layers, holds, issues⟩ := state
  cases issues with
  | nil => rfl
  | cons issue issues =>
    have reported : modeParts? (earlier, ⟨bindings, axes, layers, holds, issue :: issues⟩) = none := rfl
    rw [reported, Option.bind_none]
    cases ends : modeEnd modeName gamepad touchpad nodes
        ⟨bindings, axes, layers, holds, issue :: issues⟩ with
    | error rejection => rfl
    | ok result =>
      obtain ⟨after, checks, done⟩ := bind_ok ends
      cases done
      have kept : Kept (issue :: issues) after :=
        foldlM_ok (fun _ => Kept (issue :: issues)) checks (.refl _)
          fun _ _ _ _ _ _ stepped earlier => earlier.trans (checkLayerHold_kept stepped)
      have still : after ≠ [] := fun none => by cases kept none
      simp [Except.toOption, cleanMode?, still]

theorem parseMode_agree {entries : List (KdlEntry F)} {span : SourceSpan}
    {children others : List (KdlNode F)} (rearranged : Rearranged AxisReordered children others)
    (issues : List Issue) :
    (parseMode (.mk "mode" entries children span) modeNames issues).toOption.bind cleanMode? =
      (parseMode (.mk "mode" entries others span) modeNames issues).toOption.bind cleanMode? := by
  have alike := readAlike_entries 1 "mode" entries children others span
  have layers : children.filter (·.name = "layer") = others.filter (·.name = "layer") := by
    refine rearranged.filter fun node other changed => ?_
    cases changed with
    | same => exact .inl rfl
    | axis => exact .inr (by simp [KdlNode.name])
  have through : ∀ name gamepad touchpad (nodes kids : List (KdlNode F)),
      (kids.foldlM (parseModeChild name modeNames) ([], ⟨[], [], [], {}, issues⟩) >>= fun state =>
        modeEnd name gamepad touchpad nodes state.2).toOption.bind cleanMode? =
      ((kids.foldlM (parseModeChild name modeNames) ([], ⟨[], [], [], {}, issues⟩)).toOption.bind
        modeParts?).bind fun parts => (modeEnd name gamepad touchpad nodes
          ⟨parts.bindings, parts.axes, parts.layers.layers, parts.layers.holds, []⟩).toOption.bind
            cleanMode? := by
    intro name gamepad touchpad nodes kids
    rw [toOption_bind, Option.bind_assoc, Option.bind_assoc, funext (modeEnd_parts _ _ _)]
  simp only [parseMode, alike.argument Nat.zero_lt_one, alike.properties, alike.propertyOr,
    alike.optionalProperty, alike.oneOf, parseTrackpad]
  refine view_bind fun name => view_bind fun _ => view_bind fun gamepadName => ?_
  refine view_bind fun touchpad => view_bind fun gamepad => ?_
  cases touchpad <;>
  · refine view_bind fun gamepadTouchpad => ?_
    refine (through name gamepad gamepadTouchpad _ children).trans (.trans ?_
      (through name gamepad gamepadTouchpad _ others).symm)
    rw [modeChildren_agree rearranged]
    simp only [KdlNode.children, layers]

/-! ## Documents -/

/-- The nodes of a document may be shuffled, and the children of its modes, and those of their
    axes. -/
structure DocumentReordered (left right : KdlDocument F) : Prop where
  nodes : Rearranged ModeReordered left.nodes right.nodes
  span : left.span = right.span

omit [Scalar F] [Platform F] in
theorem ModeReordered.name {node other : KdlNode F} (reordered : ModeReordered node other) :
    node.name = other.name := by
  cases reordered <;> rfl

omit [Scalar F] [Platform F] in
theorem all_names {nodes others : List (KdlNode F)}
    (pairs : List.Forall₂ ModeReordered nodes others) (test : String → Bool) :
    (nodes.all fun node => test node.name) = others.all fun node => test node.name := by
  induction pairs with
  | nil => rfl
  | cons first _ inductionHypothesis =>
    rw [List.all_cons, List.all_cons, first.name, inductionHypothesis]

omit [Scalar F] [Platform F] in
theorem filter_modes {nodes others : List (KdlNode F)}
    (pairs : List.Forall₂ ModeReordered nodes others) :
    List.Forall₂ ModeReordered (nodes.filter (·.name = "mode")) (others.filter (·.name = "mode")) := by
  induction pairs with
  | nil => exact .nil
  | cons first _ inductionHypothesis =>
    rw [List.filter_cons, List.filter_cons, first.name]
    split
    · exact .cons first inductionHypothesis
    · exact inductionHypothesis

omit [Scalar F] in
theorem validateNodes_agree {left right : KdlDocument F} (reordered : DocumentReordered left right)
    (allowed : List String) : Agree (validateNodes left allowed) (validateNodes right allowed) := by
  have accepted : ∀ document : KdlDocument F, (validateNodes document allowed).toOption =
      if document.nodes.all (·.name ∈ allowed) then some () else none := by
    intro document
    unfold validateNodes
    split
    · next node found =>
      have isNode := List.mem_of_find?_eq_some found
      have refused := List.find?_some found
      have some : document.nodes.all (·.name ∈ allowed) = false := by
        rw [List.all_eq_false]
        exact ⟨node, isNode, by simpa using refused⟩
      rw [some]
      rfl
    · next all =>
      have every : document.nodes.all (·.name ∈ allowed) = true := by
        simpa [List.find?_eq_none] using all
      rw [every]
      rfl
  obtain ⟨mid, pairs, shuffled⟩ := reordered.nodes
  have names := all_names pairs fun name => name ∈ allowed
  have moved : mid.all (·.name ∈ allowed) = right.nodes.all (·.name ∈ allowed) := by
    rw [Bool.eq_iff_iff, List.all_eq_true, List.all_eq_true]
    simp only [shuffled.mem_iff]
  rw [Agree, accepted, accepted, names, moved]

/-- The modes so far, if nothing has been reported. -/
def cleanModes? (state : List (Mode F) × List Issue) : Option (List (Mode F)) :=
  if state.2.isEmpty then some state.1 else none

def modesStep (modeNames : IndexMap String ModeId) (modes : List (Mode F)) (node : KdlNode F) :
    Option (List (Mode F)) :=
  ((parseMode node modeNames []).toOption.bind cleanMode?).map fun mode => modes ++ [mode]

theorem parseModeNode_steps (state : List (Mode F) × List Issue) (node : KdlNode F) :
    (parseModeNode modeNames state node).toOption.bind cleanModes? =
      (cleanModes? state).bind (modesStep modeNames · node) := by
  obtain ⟨modes, issues⟩ := state
  cases issues with
  | nil =>
    show _ = modesStep modeNames modes node
    unfold parseModeNode modesStep
    cases parseMode node modeNames [] with
    | error rejection => rfl
    | ok result =>
      obtain ⟨mode, after⟩ := result
      cases after <;> rfl
  | cons issue issues =>
    have reported : cleanModes? (modes, issue :: issues) = none := rfl
    rw [reported, Option.bind_none]
    cases parses : parseModeNode modeNames (modes, issue :: issues) node with
    | error rejection => rfl
    | ok result =>
      obtain ⟨⟨mode, after⟩, parsed, done⟩ := bind_ok parses
      cases done
      have still : after ≠ [] := fun none => by cases parseMode_kept parsed none
      simp [Except.toOption, cleanModes?, still]

theorem modes_agree {nodes others : List (KdlNode F)}
    (pairs : List.Forall₂ ModeReordered nodes others) (state : List (Mode F) × List Issue) :
    (nodes.foldlM (parseModeNode modeNames) state).toOption.bind cleanModes? =
      (others.foldlM (parseModeNode modeNames) state).toOption.bind cleanModes? := by
  have same : ∀ (modes : List (Mode F)) node other, ModeReordered node other →
      modesStep modeNames modes node = modesStep modeNames modes other := by
    intro modes node other reordered
    cases reordered with
    | same => rfl
    | mode entries span rearranged => rw [modesStep, parseMode_agree rearranged, modesStep]
  rw [foldlM_view parseModeNode_steps, foldlM_view parseModeNode_steps]
  congr 1
  funext modes
  exact foldlM_alike pairs same modes

omit [Scalar F] [Platform F] in
/-- The last check: nothing has been reported. -/
theorem modesEnd_agree {left right : Except Rejection (List (Mode F) × List Issue)}
    (same : left.toOption.bind cleanModes? = right.toOption.bind cleanModes?)
    (next : List (Mode F) → Except Rejection (Config F)) :
    Agree
      (left >>= fun result =>
        if !result.2.isEmpty then .error (.issues result.2) >>= fun _ : Unit => next result.1
        else next result.1)
      (right >>= fun result =>
        if !result.2.isEmpty then .error (.issues result.2) >>= fun _ : Unit => next result.1
        else next result.1) := by
  have shown : ∀ program : Except Rejection (List (Mode F) × List Issue), (program >>= fun result =>
      if !result.2.isEmpty then .error (.issues result.2) >>= fun _ : Unit => next result.1
      else next result.1).toOption =
        (program.toOption.bind cleanModes?).bind fun modes => (next modes).toOption := by
    intro program
    cases program with
    | error rejection => rfl
    | ok result =>
      obtain ⟨modes, issues⟩ := result
      cases issues <;> rfl
  rw [Agree, shown, shown, same]

omit [Scalar F] in
theorem modeNames_agree {nodes others : List (KdlNode F)}
    (pairs : List.Forall₂ ModeReordered nodes others) (state : IndexMap String ModeId × List Issue) :
    nodes.zipIdx.foldlM parseModeName state = others.zipIdx.foldlM parseModeName state := by
  refine foldlM_alike (forall₂_zipIdx pairs 0) ?_ state
  rintro state ⟨node, position⟩ ⟨other, _⟩ ⟨reordered, rfl⟩
  cases reordered with
  | same => rfl
  | @mode entries span children others =>
    have alike := readAlike_entries 1 "mode" entries children others span
    simp only [parseModeName, alike.argument Nat.zero_lt_one, alike.span]

omit [Scalar F] [Platform F] in
theorem DocumentReordered.allNodes {left right : KdlDocument F}
    (reordered : DocumentReordered left right) :
    List.Forall₂ ModeReordered (allNodes left "mode") (allNodes right "mode") := by
  obtain ⟨mid, pairs, shuffled⟩ := reordered.nodes
  rw [Core.allNodes, Core.allNodes, ← shuffled "mode"]
  exact filter_modes pairs

omit [Scalar F] [Platform F] in
theorem DocumentReordered.optionalNode {left right : KdlDocument F}
    (reordered : DocumentReordered left right) {name : String} (other : name ≠ "mode") :
    optionalNode left name = optionalNode right name := by
  have same : left.nodes.filter (·.name = name) = right.nodes.filter (·.name = name) := by
    refine reordered.nodes.filter fun node changed reorder => ?_
    cases reorder with
    | same => exact .inl rfl
    | mode => exact .inr ⟨other.symm, other.symm⟩
  simp only [Core.optionalNode, same]

theorem fromDocument_agree {left right : KdlDocument F} (reordered : DocumentReordered left right) :
    Agree (Config.fromDocument left) (Config.fromDocument right) := by
  have modes := reordered.allNodes
  have blank : (allNodes left "mode").isEmpty = (allNodes right "mode").isEmpty := by
    generalize allNodes left "mode" = nodes at modes
    generalize allNodes right "mode" = others at modes
    cases modes <;> rfl
  unfold Config.fromDocument
  refine .bind (.throwing (validateNodes_agree reordered _)) fun _ => ?_
  simp only [requiredNode, reordered.optionalNode (by decide : "version" ≠ "mode"),
    reordered.optionalNode (by decide : "default-mode" ≠ "mode"),
    reordered.optionalNode (by decide : "mode-switch-haptic" ≠ "mode"),
    reordered.optionalNode (by decide : "trackpad" ≠ "mode"),
    reordered.optionalNode (by decide : "osk" ≠ "mode"),
    reordered.optionalNode (by decide : "global" ≠ "mode"), reordered.span, blank,
    modeNames_agree modes]
  refine .bind (.of_eq rfl) fun version => .bind (.of_eq rfl) fun defaultMode => ?_
  refine .bind (.of_eq rfl) fun hapticNode => .bind (.of_eq rfl) fun trackpad => ?_
  refine .bind (.of_eq rfl) fun osk => .bind (.of_eq rfl) fun global => ?_
  refine .bind (.of_eq rfl) fun haptic => .bind (.of_eq rfl) fun clickPressure => ?_
  refine .bind (.of_eq rfl) fun checked => .bind (.of_eq rfl) fun named => ?_
  refine .bind (.of_eq rfl) fun oskNodes => .bind (.of_eq rfl) fun oskBindings => ?_
  refine .bind (.of_eq rfl) fun globalNodes => ?_
  cases named.1.get? defaultMode.1 with
  | none =>
    exact modesEnd_agree (modes_agree modes _) fun _ =>
      .error (.panic (.expectFailed "default mode exists"))
  | some resolved =>
    exact modesEnd_agree (modes_agree modes _) fun modes =>
      .ok ⟨resolved, haptic, clickPressure, oskBindings.1, _, named.1, modes⟩

/-! ## Forward references -/

omit [Scalar F] in
/-- The names after some of the modes are those of these modes, also if one comes twice. -/
theorem parseModeName_keys {state next : IndexMap String ModeId × List Issue} {item : KdlNode F × Nat}
    (parses : parseModeName state item = .ok next) (name : String) :
    name ∈ next.1.keys ↔ name ∈ state.1.keys ∨ argument String item.1 0 = .ok name := by
  obtain ⟨own, named, rest⟩ := bind_ok parses
  rw [throwing_ok named, Except.ok.injEq]
  generalize (trim own).isEmpty = blank at rest
  split at rest
  · next taken =>
    cases rest
    rw [IndexMap.contains_iff] at taken
    constructor
    · exact .inl
    · rintro (old | rfl)
      · exact old
      · exact taken
  · cases rest
    simp only [IndexMap.mem_keys_iff_get?, IndexMap.get?_insert]
    by_cases same : name = own <;> simp [same, eq_comm]

/-- A mode can be referred to from anywhere in the document. -/
theorem modeNames_complete {document : KdlDocument F} {config : Config F}
    (parses : Config.fromDocument document = .ok config) (name : String) :
    (∃ mode, config.modeNames.get? name = some mode) ↔
      ∃ node ∈ document.nodes, node.name = "mode" ∧ argument String node 0 = .ok name := by
  obtain ⟨_, named, _, _, _, _, _, names, _⟩ := fromDocument_ok parses
  have listed : ∀ name, name ∈ config.modeNames.keys ↔
      ∃ item ∈ (allNodes document "mode").zipIdx, argument String item.1 0 = .ok name := by
    refine foldlM_ok (fun done state => ∀ name, name ∈ state.1.keys ↔
      ∃ item ∈ done, argument String item.1 0 = .ok name) names (by simp) ?_
    intro done item rest state next _ stepped past name
    rw [parseModeName_keys stepped, past]
    simp [or_and_right, exists_or]
  rw [← IndexMap.mem_keys_iff_get?, listed]
  constructor
  · rintro ⟨⟨node, position⟩, member, isName⟩
    have inside := List.mem_filter.mp (List.mem_of_getElem? (List.mk_mem_zipIdx_iff_getElem?.mp member))
    exact ⟨node, inside.1, by simpa using inside.2, isName⟩
  · rintro ⟨node, member, isMode, isName⟩
    have inside : node ∈ allNodes document "mode" := List.mem_filter.mpr ⟨member, by simpa using isMode⟩
    obtain ⟨position, found⟩ := List.mem_iff_getElem?.mp inside
    exact ⟨(node, position), List.mk_mem_zipIdx_iff_getElem?.mpr found, isName⟩

/-- A document is accepted in any order of its nodes, of the children of its modes and of those of
    its axes, as long as nodes of one name stay in their order, and means the same.  So the name of
    a mode can be used before the mode, and the hold of a layer is held against the bindings of its
    mode, also those after it. -/
theorem order_of_nodes [LawfulScalar F] {left right : KdlDocument F}
    (reordered : DocumentReordered left right) :
    (∀ config, Config.fromDocument left = .ok config ↔ Config.fromDocument right = .ok config) ∧
    ∀ config, Config.fromDocument left = .ok config →
      (∀ name, (∃ mode, config.modeNames.get? name = some mode) ↔
        ∃ node ∈ left.nodes, node.name = "mode" ∧ argument String node 0 = .ok name) ∧
      ∀ mode ∈ config.modes, ∀ layer ∈ mode.layers, ∀ binding ∈ mode.bindings,
        binding.inputs.contains layer.hold = false := by
  constructor
  · intro config
    rw [← toOption_eq_some, fromDocument_agree reordered, toOption_eq_some]
  · intro config parses
    refine ⟨modeNames_complete parses, ?_⟩
    intro mode member layer ofMode binding bound
    exact ((parsed_valid parses).modes mode member).mode_holds layer ofMode binding bound

end

/-! ## An example -/

/-- A mode with its children in the other order. -/
def reversed (node : KdlNode ℚ) : KdlNode ℚ :=
  if node.name = "mode" then .mk node.name node.entries node.children.reverse node.span else node

/-- The modes come first, and in them the layers. -/
def reversedDocument : KdlDocument ℚ where
  nodes := (layeredDocument.nodes.map reversed).reverse
  span := layeredDocument.span

theorem example_reordered :
    ∃ config : Config ℚ, Config.fromDocument layeredDocument = .ok config ∧
      Config.fromDocument reversedDocument = .ok config := by
  have accepted : (Config.fromDocument layeredDocument).toBool = true := by decide +kernel
  have reordered : DocumentReordered layeredDocument reversedDocument := by
    refine ⟨⟨layeredDocument.nodes.map reversed, ?_, ?_⟩, rfl⟩
    · refine .cons (.same _) (.cons (.same _) (.cons (.same _) (.cons (.mode _ _ ?_) .nil)))
      refine ⟨_, List.forall₂_same.mpr fun node _ => .same node, ?_⟩
      exact shuffled_of_perm KdlNode.name (List.reverse_perm _).symm (by decide)
    · exact shuffled_of_perm KdlNode.name (List.reverse_perm _).symm (by decide)
  cases parsed : Config.fromDocument layeredDocument with
  | ok config => exact ⟨config, rfl, ((order_of_nodes reordered).1 config).mp parsed⟩
  | error rejection =>
    rw [parsed] at accepted
    cases accepted

end Scd.Core
