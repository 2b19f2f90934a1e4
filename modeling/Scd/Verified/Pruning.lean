import Scd.Foundation.Shuffle
import Scd.Verified.Grammar
import Scd.Verified.Parsing

/-! # What the parser does not look at

Every function of the parser does the same on a node and on the pruned node.  Which arguments a
node keeps depends on its name, and so does what the function reads: the proofs go by the name.
-/

namespace Scd.Core

open Scd.Foundation

section

variable {F : Type}

/-! ## Rules found by name -/

theorem throwing_map {α β : Type} (result : Except Issue α) (view : α → β) :
    throwing (result.map view) = (throwing result).map view := by
  cases result <;> rfl

theorem alike_found {rules : List (String × Rule F)} {node : KdlNode F} {rule : Rule F}
    {kinds : List ValueKind} (found : rules.lookup node.name = some rule)
    (arity : rule.arity = .exactly kinds) : ReadAlike kinds.length (pruneBy rules node) node := by
  rw [pruneBy_found found]
  exact Rule.alike_exactly arity node

theorem pruneBy_other {rules : List (String × Rule F)} {node : KdlNode F}
    (other : rules.lookup node.name = none) : pruneBy rules node = node := by
  rw [pruneBy, other]

theorem several_found {rules : List (String × Rule F)} {node : KdlNode F} {rule : Rule F}
    {kind : ValueKind} (found : rules.lookup node.name = some rule)
    (arity : rule.arity = .several kind) (count : Nat) :
    ReadAlike count (pruneBy rules node) node ∧ (pruneBy rules node).arguments = node.arguments := by
  rw [pruneBy_found found]
  exact ⟨Rule.alike_several arity count node, Rule.arguments_several arity node⟩

theorem children_found {rules : List (String × Rule F)} {node : KdlNode F} {rule : Rule F}
    (found : rules.lookup node.name = some rule) :
    (pruneBy rules node).children = rule.block.prune node.children := by
  rw [pruneBy_found found, Rule.children_prune]

/-- The first argument of a child of a mode is kept. -/
theorem modeChild_alike (child : KdlNode F) : ReadAlike 1 (pruneBy modeRules child) child := by
  by_cases bind : child.name = "bind"
  · have found : modeRules.lookup child.name = some (bindRule : Rule F) := by rw [bind]; rfl
    exact (several_found found rfl 1).1
  by_cases axis : child.name = "axis"
  · have found : modeRules.lookup child.name = some (axisRule : Rule F) := by rw [axis]; rfl
    exact (alike_found found rfl).mono (by decide)
  by_cases layer : child.name = "layer"
  · have found : modeRules.lookup child.name = some (layerRule : Rule F) := by rw [layer]; rfl
    exact alike_found found rfl
  · have other : modeRules.lookup child.name = (none : Option (Rule F)) := by
      simp [modeRules, List.lookup_cons, bind, axis, layer, beq_eq_false_iff_ne.mpr]
    rw [pruneBy_other other]
    exact .refl child

theorem isLayerNamed_prune (layerName : String) :
    (isLayerNamed layerName ∘ pruneBy modeRules : KdlNode F → Bool) = isLayerNamed layerName := by
  funext node
  have alike := modeChild_alike node
  simp only [Function.comp_apply, isLayerNamed, alike.name, alike.arguments 0 Nat.zero_lt_one]

/-! ## The nodes of a document -/

theorem allNodes_prune (document : KdlDocument F) (name : String) :
    allNodes document.prune name = (allNodes document name).map (pruneBy documentRules) := by
  simp only [allNodes, KdlDocument.prune, List.filter_map]
  congr 2
  funext node
  simp

theorem modeNodes_prune (document : KdlDocument F) :
    List.Forall₂ (fun node other => node.name = "mode" ∧ node = pruneBy documentRules other)
      (allNodes document.prune "mode") (allNodes document "mode") := by
  rw [allNodes_prune, List.forall₂_map_left_iff, List.forall₂_same]
  intro node member
  have isMode := (List.mem_filter.mp member).2
  exact ⟨by simpa using isMode, rfl⟩

theorem optionalNode_prune (document : KdlDocument F) (name : String) :
    optionalNode document.prune name =
      (optionalNode document name).map (Option.map (pruneBy documentRules)) := by
  have nodes := allNodes_prune document name
  unfold allNodes at nodes
  unfold optionalNode
  rw [nodes]
  cases document.nodes.filter (·.name = name) with
  | nil => rfl
  | cons node rest =>
    cases rest with
    | nil => rfl
    | cons duplicate rest => simp [Except.map]

theorem optionalNode_name {document : KdlDocument F} {name : String} {found : Option (KdlNode F)}
    (one : optionalNode document name = .ok found) : ∀ node ∈ found, node.name = name := by
  unfold optionalNode at one
  split at one
  · cases one
    simp
  · next node only =>
    cases one
    have inside : node ∈ document.nodes.filter (·.name = name) := by simp [only]
    intro other member
    obtain rfl := Option.mem_some_iff.mp member
    simpa using (List.mem_filter.mp inside).2
  · cases one

theorem checkClickPressure_prune (trackpad : Option (KdlNode F)) (clickPressure : UInt16)
    (issues : List Issue) :
    checkClickPressure (trackpad.map (pruneBy documentRules)) clickPressure issues =
      checkClickPressure trackpad clickPressure issues := by
  cases trackpad with
  | none => rfl
  | some node => simp [checkClickPressure, unwrapNode]

/-! ## Bindings -/

variable [Platform F] {modeNames : IndexMap String ModeId}

theorem parseAction_prune (action : KdlNode F) (global : Bool) :
    parseAction (pruneBy actionRules action) modeNames global = parseAction action modeNames global := by
  by_cases named : action.name ∈ ["key", "mouse", "gamepad", "mode-set"]
  · have found : actionRules.lookup action.name = some (leaf [.string] [] : Rule F) := by
      simp only [List.mem_cons, List.not_mem_nil, or_false] at named
      rcases named with named | named | named | named <;> rw [named] <;> rfl
    have alike := alike_found found rfl
    have argument := alike.argument (F := F) (T := String) Nat.zero_lt_one
    simp only [parseAction, alike.properties, alike.name, alike.oneOf, alike.span, argument,
      parseMouseButton, parseGamepadButton]
  by_cases next : action.name = "mode-next"
  · have found : actionRules.lookup action.name = some (leaf [] [] : Rule F) := by rw [next]; rfl
    have alike := alike_found found rfl
    simp [parseAction, oneOf, alike.properties, alike.name, next]
  by_cases toggle : action.name = "keyboard-toggle"
  · have found : actionRules.lookup action.name = some (leaf [] [] : Rule F) := by rw [toggle]; rfl
    have alike := alike_found found rfl
    simp [parseAction, oneOf, alike.properties, alike.name, alike.span, toggle]
  · have other : actionRules.lookup action.name = (none : Option (Rule F)) := by
      simp only [List.mem_cons, List.not_mem_nil, or_false, not_or] at named
      simp [actionRules, List.lookup_cons, named, next, toggle, beq_eq_false_iff_ne.mpr]
    rw [pruneBy, other]

/-- The inputs of a binding are all read. -/
theorem bindingInputs_prune {node other : KdlNode F} (arguments : node.arguments = other.arguments)
    (name : node.name = other.name) (span : node.span = other.span) :
    bindingInput node = bindingInput other := by
  funext state position
  simp only [bindingInput, parseButton, argument, oneOf, arguments, name, span]

theorem parseBinding_prune {rules : List (String × Rule F)} {node : KdlNode F}
    (found : node.name = "bind" → rules.lookup node.name = some bindRule) (global : Bool) :
    parseBinding (pruneBy rules node) modeNames global = parseBinding node modeNames global := by
  by_cases isBind : node.name = "bind"
  · obtain ⟨alike, arguments⟩ := several_found (found isBind) rfl 0
    have children : (pruneBy rules node).children = node.children.map (pruneBy actionRules) :=
      children_found (found isBind)
    simp only [parseBinding, alike.name, alike.span, alike.properties, arguments, children,
      bindingInputs_prune arguments alike.name alike.span]
    cases node.children with
    | nil => rfl
    | cons action rest =>
      cases rest with
      | nil => simp only [List.map_cons, List.map_nil, parseAction_prune]
      | cons other rest => rfl
  · simp [parseBinding, isBind]

/-! ## Axes -/

theorem parseAxisChild_prune [Scalar F] (found : AxisChildren F) (child : KdlNode F) :
    parseAxisChild found (pruneBy axisRules child) = parseAxisChild found child := by
  by_cases trigger : child.name = "trigger"
  · have rule : axisRules.lookup child.name =
        some (leaf [.string] [("engage", .number), ("release", .number)] : Rule F) := by
      rw [trigger]
      rfl
    have alike := alike_found rule rfl
    have argument := alike.argument (F := F) (T := String) Nat.zero_lt_one
    simp only [parseAxisChild, parseActivationTrigger, alike.name, alike.span,
      alike.properties, alike.property, argument, oneOf, trigger]
    rfl
  by_cases buttons : child.name = "buttons"
  · have rule : axisRules.lookup child.name = some (⟨.several .string, [], .empty⟩ : Rule F) := by
      rw [buttons]
      rfl
    obtain ⟨alike, arguments⟩ := several_found rule rfl 0
    simp [parseAxisChild, parseActivationButtons, alike.name, alike.span, alike.properties, arguments,
      oneOf, buttons, parseButton, argument]
  by_cases components : child.name = "components"
  · have rule : axisRules.lookup child.name = some (leaf [.string, .string] [] : Rule F) := by
      rw [components]
      rfl
    have alike := alike_found rule rfl
    have first := alike.argument (F := F) (T := String) Nat.zero_lt_two
    have second := alike.argument (F := F) (T := String) Nat.one_lt_two
    simp only [parseAxisChild, parseAxisComponent, alike.name, alike.span, alike.properties, first,
      second, oneOf, components]
    rfl
  · have other : axisRules.lookup child.name = (none : Option (Rule F)) := by
      simp [axisRules, List.lookup_cons, trigger, buttons, components, beq_eq_false_iff_ne.mpr]
    rw [pruneBy_other other]

theorem parseAxis_prune [Scalar F] (node : KdlNode F) :
    parseAxis (axisRule.prune node) = parseAxis node := by
  have arity : (axisRule : Rule F).arity = .exactly [.string, .string] := rfl
  have alike := Rule.alike_exactly arity node
  have children : (axisRule.prune node).children = node.children.map (pruneBy axisRules) := rfl
  have first := alike.argument (F := F) (T := String) Nat.zero_lt_two
  have second := alike.argument (F := F) (T := String) Nat.one_lt_two
  simp only [parseAxis, children, List.foldlM_map, parseAxisChild_prune, first, second, alike.span,
    alike.oneOf, parseAxisOptions_alike alike]

/-! ## Haptics -/

theorem parseHaptic_prune (node : KdlNode F) :
    parseHaptic (hapticRule.prune node) = parseHaptic node := by
  have arity : (hapticRule : Rule F).arity = .exactly [] := rfl
  have alike := Rule.alike_exactly arity node
  have children : (hapticRule.prune node).children = node.children.map (pruneBy hapticRules) := rfl
  simp only [parseHaptic, alike.properties, alike.span, children]
  cases node.children with
  | nil => rfl
  | cons child rest =>
    cases rest with
    | cons other rest => rfl
    | nil =>
      congr 1
      funext _
      by_cases plain : child.name ∈ ["rumble", "pulse", "tone", "sweep"]
      · simp only [List.mem_cons, List.not_mem_nil, or_false] at plain
        have found : ∃ properties,
            hapticRules.lookup child.name = some (leaf [] properties : Rule F) := by
          rcases plain with named | named | named | named <;> rw [named] <;> exact ⟨_, rfl⟩
        obtain ⟨properties, found⟩ := found
        have alike := alike_found found rfl
        rcases plain with named | named | named | named <;>
          simp [alike.properties, alike.property, alike.name, named, oneOf]
      by_cases argued : child.name ∈ ["trackpad-click", "script"]
      · simp only [List.mem_cons, List.not_mem_nil, or_false] at argued
        have found : ∃ kind properties,
            hapticRules.lookup child.name = some (leaf [kind] properties : Rule F) := by
          rcases argued with named | named <;> rw [named] <;> exact ⟨_, _, rfl⟩
        obtain ⟨kind, properties, found⟩ := found
        have alike := alike_found found rfl
        have word := alike.argument (F := F) (T := String) Nat.zero_lt_one
        have number := alike.argument (F := F) (T := UInt8) Nat.zero_lt_one
        simp only [List.map_cons, List.map_nil, alike.properties, alike.property, alike.name,
          alike.oneOf, word, number, parseTrackpad]
      · have other : hapticRules.lookup child.name = (none : Option (Rule F)) := by
          simp only [List.mem_cons, List.not_mem_nil, or_false, not_or] at plain argued
          simp [hapticRules, List.lookup_cons, plain, argued, beq_eq_false_iff_ne.mpr]
        rw [List.map_cons, List.map_nil, pruneBy_other other]

/-! ## Modes -/

variable {modeName : String}

theorem parseModeBinding_prune (draft : ModeDraft F) (child : KdlNode F) :
    parseModeBinding modeName modeNames draft (pruneBy modeRules child) =
      parseModeBinding modeName modeNames draft child := by
  have parsed : parseBinding (pruneBy modeRules child) modeNames false =
      parseBinding child modeNames false :=
    parseBinding_prune (fun named => by rw [named]; rfl) false
  simp only [parseModeBinding, parsed, span_pruneBy]

theorem parseModeAxis_prune [Scalar F] (draft : ModeDraft F) {child : KdlNode F}
    (axis : child.name = "axis") :
    parseModeAxis modeName draft (pruneBy modeRules child) = parseModeAxis modeName draft child := by
  have found : modeRules.lookup child.name = some (axisRule : Rule F) := by rw [axis]; rfl
  have parsed : parseAxis (pruneBy modeRules child) = parseAxis child := by
    rw [pruneBy_found found, parseAxis_prune]
  simp only [parseModeAxis, parsed, span_pruneBy]

theorem parseLayerBinding_prune {layerName : String} {hold : Button}
    (state : List Binding × List Issue) (item : KdlNode F × Nat) :
    parseLayerBinding modeName layerName hold modeNames state (Prod.map (pruneBy bindRules) id item) =
      parseLayerBinding modeName layerName hold modeNames state item := by
  obtain ⟨node, position⟩ := item
  have parsed : parseBinding (pruneBy bindRules node) modeNames false =
      parseBinding node modeNames false :=
    parseBinding_prune (fun named => by rw [named]; rfl) false
  simp only [parseLayerBinding, Prod.map_apply, id_eq, parsed, span_pruneBy]

theorem parseModeLayer_prune (earlier : List (KdlNode F)) (draft : ModeDraft F) {child : KdlNode F}
    (layer : child.name = "layer") :
    parseModeLayer modeName modeNames (earlier.map (pruneBy modeRules)) draft
        (pruneBy modeRules child) =
      parseModeLayer modeName modeNames earlier draft child := by
  have found : modeRules.lookup child.name = some (layerRule : Rule F) := by rw [layer]; rfl
  have alike := alike_found found rfl
  have argument := alike.argument (F := F) (T := String) Nat.zero_lt_one
  have children : (pruneBy modeRules child).children = child.children.map (pruneBy bindRules) :=
    children_found found
  simp only [parseModeLayer, argument, alike.properties, alike.property, alike.span, parseButton,
    alike.oneOf, List.any_map, isLayerNamed_prune, children, List.zipIdx_map, List.foldlM_map,
    parseLayerBinding_prune]

theorem parseModeChild_prune [Scalar F] (earlier : List (KdlNode F)) (draft : ModeDraft F)
    (child : KdlNode F) :
    parseModeChild modeName modeNames (earlier.map (pruneBy modeRules), draft)
        (pruneBy modeRules child) =
      (parseModeChild modeName modeNames (earlier, draft) child).map
        (Prod.map (List.map (pruneBy modeRules)) id) := by
  by_cases bind : child.name = "bind"
  · simp only [parseModeChild, oneOf, name_pruneBy, bind]
    show (parseModeBinding modeName modeNames draft (pruneBy modeRules child) >>= _) =
      Except.map _ (parseModeBinding modeName modeNames draft child >>= _)
    rw [parseModeBinding_prune draft child]
    cases parseModeBinding modeName modeNames draft child with
    | error rejection => rfl
    | ok next => simp [Except.map]
  by_cases axis : child.name = "axis"
  · simp [parseModeChild, oneOf, axis, parseModeAxis_prune draft axis, throwing, Except.map]
  by_cases layer : child.name = "layer"
  · simp [parseModeChild, oneOf, layer, parseModeLayer_prune earlier draft layer, throwing]
    cases parseModeLayer modeName modeNames earlier draft child <;> simp [Except.map]
  · simp [parseModeChild, oneOf, bind, axis, layer, throwing, Except.map]

theorem checkLayerHold_prune (bindings : List Binding) (issues : List Issue)
    (item : KdlNode F × Layer) :
    checkLayerHold modeName bindings issues (Prod.map (pruneBy modeRules) id item) =
      checkLayerHold modeName bindings issues item := by
  obtain ⟨node, layer⟩ := item
  have alike := modeChild_alike node
  have argument := alike.argument (F := F) (T := String) Nat.zero_lt_one
  simp only [checkLayerHold, Prod.map_apply, id_eq, argument, alike.span]

theorem parseMode_prune [Scalar F] (node : KdlNode F) (issues : List Issue) :
    parseMode (modeRule.prune node) modeNames issues = parseMode node modeNames issues := by
  have arity : (modeRule : Rule F).arity = .exactly [.string] := rfl
  have alike := Rule.alike_exactly arity node
  have argument := alike.argument (F := F) (T := String) Nat.zero_lt_one
  have children : (modeRule.prune node).children = node.children.map (pruneBy modeRules) := rfl
  have layers : ∀ layers : List Layer,
      ((node.children.map (pruneBy modeRules)).filter (·.name = "layer")).zip layers =
        ((node.children.filter (·.name = "layer")).zip layers).map
          (Prod.map (pruneBy modeRules) id) := by
    intro layers
    rw [List.filter_map, List.zip_map_left]
    simp [Function.comp_def]
  have folded : ∀ name issues, (node.children.map (pruneBy modeRules)).foldlM
      (parseModeChild name modeNames) ([], ⟨[], [], [], {}, issues⟩) =
        (node.children.foldlM (parseModeChild name modeNames) ([], ⟨[], [], [], {}, issues⟩)).map
          (Prod.map (List.map (pruneBy modeRules)) id) := by
    intro name issues
    exact foldlM_through (fun state child => parseModeChild_prune state.1 state.2 child)
      node.children ([], ⟨[], [], [], {}, issues⟩)
  unfold parseMode
  simp only [argument, alike.properties, alike.propertyOr, alike.optionalProperty, alike.oneOf,
    parseTrackpad, children, folded, layers, List.foldlM_map, checkLayerHold_prune]
  refine bind_congr fun name => bind_congr fun _ => bind_congr fun gamepadName =>
    bind_congr fun touchpad => bind_congr fun gamepad => ?_
  cases touchpad <;>
  · refine bind_congr fun gamepadTouchpad => ?_
    cases node.children.foldlM (parseModeChild name modeNames) ([], ⟨[], [], [], {}, issues⟩) with
    | error rejection => rfl
    | ok read =>
      obtain ⟨earlier, draft⟩ := read
      simp [Except.map]

/-! ## Documents -/

theorem parseOskBinding_prune (state : IndexMap Button KeyCode × List Issue) (child : KdlNode F) :
    parseOskBinding state (pruneBy oskRules child) = parseOskBinding state child := by
  by_cases bind : child.name = "bind"
  · have found : oskRules.lookup child.name = some (leaf [.string, .string] [] : Rule F) := by
      rw [bind]
      rfl
    have alike := alike_found found rfl
    have first := alike.argument (F := F) (T := String) Nat.zero_lt_two
    have second := alike.argument (F := F) (T := String) Nat.one_lt_two
    simp only [parseOskBinding, alike.name, alike.span, alike.properties, alike.oneOf, parseButton,
      first, second]
  · simp [parseOskBinding, bind]

theorem parseGlobalBinding_prune (state : List GlobalBinding × List Issue) (item : KdlNode F × Nat) :
    parseGlobalBinding modeNames state (Prod.map (pruneBy bindRules) id item) =
      parseGlobalBinding modeNames state item := by
  obtain ⟨node, position⟩ := item
  have parsed : parseBinding (pruneBy bindRules node) modeNames true =
      parseBinding node modeNames true :=
    parseBinding_prune (fun named => by rw [named]; rfl) true
  simp only [parseGlobalBinding, Prod.map_apply, id_eq, parsed, span_pruneBy]

theorem requiredNode_prune {T : Type} [FromKdl F T] (document : KdlDocument F) {name : String}
    (rule : Rule F) {kind : ValueKind} (found : documentRules.lookup name = some rule)
    (arity : rule.arity = .exactly [kind]) :
    requiredNode T document.prune name = requiredNode T document name := by
  unfold requiredNode
  rw [optionalNode_prune]
  cases one : optionalNode document name with
  | error issue => rfl
  | ok read =>
    cases read with
    | none => rfl
    | some node =>
      have named := optionalNode_name one node rfl
      have alike := alike_found (by rw [named]; exact found) arity
      have argument := alike.argument (F := F) (T := T) Nat.zero_lt_one
      have first := alike.arguments 0 Nat.zero_lt_one
      simp only [Except.map, Option.map_some, ok_bind, alike.properties, argument, first, alike.span]

theorem validateNodes_prune (document : KdlDocument F) (allowed : List String) :
    validateNodes document.prune allowed = validateNodes document allowed := by
  have same : ((fun node => decide (node.name ∉ allowed)) ∘ pruneBy documentRules :
      KdlNode F → Bool) = fun node => decide (node.name ∉ allowed) := by
    funext node
    simp
  simp only [validateNodes, KdlDocument.prune, List.find?_map, same]
  cases document.nodes.find? fun node => decide (node.name ∉ allowed) with
  | none => rfl
  | some node => simp

theorem parseModeName_prune {node : KdlNode F} (isMode : node.name = "mode") (position : Nat)
    (state : IndexMap String ModeId × List Issue) :
    parseModeName state (pruneBy documentRules node, position) = parseModeName state (node, position) := by
  have found : documentRules.lookup node.name = some (modeRule : Rule F) := by rw [isMode]; rfl
  have alike := alike_found found rfl
  have argument := alike.argument (F := F) (T := String) Nat.zero_lt_one
  simp only [parseModeName, argument, alike.span]

theorem blockChildren_prune {found : Option (KdlNode F)} {rules : List (String × Rule F)}
    (named : ∀ node ∈ found, documentRules.lookup node.name = some (group rules)) :
    blockChildren (found.map (pruneBy documentRules)) =
      (blockChildren found).map (List.map (pruneBy rules)) := by
  cases found with
  | none => rfl
  | some node =>
    have isGroup := named node rfl
    have alike := alike_found isGroup rfl
    have children : (pruneBy documentRules node).children = node.children.map (pruneBy rules) :=
      children_found isGroup
    simp only [blockChildren, Option.map_some, alike.properties, children]
    cases throwing (properties node []) <;> rfl

theorem parseClickPressure_prune {trackpad : Option (KdlNode F)}
    (named : ∀ node ∈ trackpad, node.name = "trackpad") :
    parseClickPressure (trackpad.map (pruneBy documentRules)) = parseClickPressure trackpad := by
  cases trackpad with
  | none => rfl
  | some node =>
    have found : documentRules.lookup node.name =
        some (leaf [] [("click-pressure", .u16)] : Rule F) := by
      rw [named node rfl]
      rfl
    have alike := alike_found found rfl
    simp only [parseClickPressure, Option.map_some, alike.properties, alike.propertyOr]

theorem parseModeSwitchHaptic_prune {haptic : Option (KdlNode F)}
    (named : ∀ node ∈ haptic, node.name = "mode-switch-haptic") :
    parseModeSwitchHaptic (haptic.map (pruneBy documentRules)) = parseModeSwitchHaptic haptic := by
  cases haptic with
  | none => rfl
  | some node =>
    have found : documentRules.lookup node.name = some (hapticRule : Rule F) := by
      rw [named node rfl]
      rfl
    simp only [parseModeSwitchHaptic, Option.map_some, pruneBy_found found, parseHaptic_prune]

theorem fromDocument_prune [Scalar F] (document : KdlDocument F) :
    Config.fromDocument document.prune = Config.fromDocument document := by
  have modes := modeNodes_prune document
  have names : ∀ state, (allNodes document.prune "mode").zipIdx.foldlM parseModeName state =
      (allNodes document "mode").zipIdx.foldlM parseModeName state := by
    intro state
    refine foldlM_alike (forall₂_zipIdx modes 0) ?_ state
    rintro state ⟨node, position⟩ ⟨other, place⟩ ⟨⟨isMode, same⟩, placed⟩
    dsimp only at isMode same placed
    subst same placed
    exact parseModeName_prune (by simpa using isMode) position state
  have parsed : ∀ modeNames (state : List (Mode F) × List Issue),
      (allNodes document.prune "mode").foldlM (parseModeNode modeNames) state =
        (allNodes document "mode").foldlM (parseModeNode modeNames) state := by
    intro modeNames state
    refine foldlM_alike modes ?_ state
    rintro state node other ⟨isMode, rfl⟩
    have found : documentRules.lookup other.name = some (modeRule : Rule F) := by
      rw [← name_pruneBy documentRules other, isMode]
      rfl
    simp only [parseModeNode, pruneBy_found found, parseMode_prune]
  have blank : (allNodes document.prune "mode").isEmpty = (allNodes document "mode").isEmpty := by
    rw [allNodes_prune, List.isEmpty_map]
  have version : requiredNode UInt32 document.prune "version" =
      requiredNode UInt32 document "version" :=
    requiredNode_prune document (leaf [.u32] []) rfl rfl
  have defaultMode : requiredNode String document.prune "default-mode" =
      requiredNode String document "default-mode" :=
    requiredNode_prune document (leaf [.string] []) rfl rfl
  have span : document.prune.span = document.span := rfl
  -- what is read before the blocks is the same; the blocks are those of the nodes found there
  unfold Config.fromDocument
  simp only [validateNodes_prune, version, defaultMode, optionalNode_prune, throwing_map, map_bind,
    checkClickPressure_prune, blank, span, names]
  refine bind_congr fun _ => bind_congr fun version => bind_congr fun defaultMode => ?_
  refine bind_congr_ok fun hapticNode isHaptic => bind_congr_ok fun trackpad isTrackpad => ?_
  refine bind_congr_ok fun osk isOsk => bind_congr_ok fun global isGlobal => ?_
  -- each of the four nodes has the name it was looked up by, and so the rule of that name
  have hapticNamed := optionalNode_name (throwing_ok isHaptic)
  have trackpadNamed := optionalNode_name (throwing_ok isTrackpad)
  have oskNamed := optionalNode_name (throwing_ok isOsk)
  have globalNamed := optionalNode_name (throwing_ok isGlobal)
  have oskChildren : blockChildren (osk.map (pruneBy documentRules)) =
      (blockChildren osk).map (List.map (pruneBy oskRules)) :=
    blockChildren_prune fun node member => by
      rw [oskNamed node member]
      rfl
  have globalChildren : blockChildren (global.map (pruneBy documentRules)) =
      (blockChildren global).map (List.map (pruneBy bindRules)) :=
    blockChildren_prune fun node member => by
      rw [globalNamed node member]
      rfl
  simp only [parseModeSwitchHaptic_prune hapticNamed, parseClickPressure_prune trackpadNamed,
    oskChildren, globalChildren, map_bind, List.foldlM_map, parseOskBinding_prune, List.zipIdx_map,
    List.foldl_map, parseGlobalBinding_prune]
  refine bind_congr fun haptic => bind_congr fun clickPressure => bind_congr fun checked => ?_
  refine bind_congr fun named => bind_congr fun oskNodes => bind_congr fun oskBindings => ?_
  refine bind_congr fun globalNodes => ?_
  exact congrArg (· >>= _) (parsed _ _)

end
end Scd.Core
