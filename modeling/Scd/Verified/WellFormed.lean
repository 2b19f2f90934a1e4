import Scd.Verified.Parsing

/-! # What the parser promises

A configuration that `Config.fromDocument` accepts is well formed: its mode ids are indices
of modes, every mode has a name, and the inputs of a binding are a set of buttons that
contains the trigger.  Nothing else establishes this; the mapper relies on it.
-/

namespace Scd.Core

open Scd.Foundation

/-! ## Well-formed configurations -/

/-- The buttons and the action of a binding in a configuration with `modes` modes. -/
structure GoodBinding (modes : Nat) (inputs : Buttons) (trigger : Button) (action : GlobalAction) :
    Prop where
  named : inputs.Named
  trigger : inputs.contains trigger = true
  target : ∀ mode, action = .action (.modeSet mode) → mode.index < modes

def Binding.WellFormed (modes : Nat) (binding : Binding) : Prop :=
  GoodBinding modes binding.inputs binding.trigger (.action binding.action)

def GlobalBinding.WellFormed (modes : Nat) (binding : GlobalBinding) : Prop :=
  GoodBinding modes binding.inputs binding.trigger binding.action

def Layer.WellFormed (modes : Nat) (layer : Layer) : Prop :=
  ∀ binding ∈ layer.bindings, binding.WellFormed modes

structure Mode.WellFormed {F : Type} (modes : Nat) (mode : Mode F) : Prop where
  bindings : ∀ binding ∈ mode.bindings, binding.WellFormed modes
  layers : ∀ layer ∈ mode.layers, layer.WellFormed modes

structure Config.WellFormed {F : Type} (config : Config F) : Prop where
  default : config.defaultMode.index < config.modes.length
  names : config.modeNames.length = config.modes.length
  ids : ∀ name mode, config.modeNames.get? name = some mode → mode.index < config.modes.length
  globals : ∀ binding ∈ config.globalBindings, binding.WellFormed config.modes.length
  modes : ∀ mode ∈ config.modes, mode.WellFormed config.modes.length

section

variable {F : Type} [Platform F]

/-! ## Bindings -/

variable {modeNames : IndexMap String ModeId} {modes : Nat}

theorem parseBinding_good {node : KdlNode F} {global : Bool} {inputs : Buttons} {trigger : Button}
    {action : GlobalAction}
    (ids : ∀ name mode, modeNames.get? name = some mode → mode.index < modes)
    (parses : parseBinding node modeNames global = .ok (inputs, trigger, action)) :
    GoodBinding modes inputs trigger action := by
  obtain ⟨reads, parsed⟩ := parseBinding_ok parses
  refine ⟨reads.1, reads.2 _ rfl, ?_⟩
  rintro mode rfl
  cases parsed with
  | modeSet found => exact ids _ mode found

/-! ## Modes -/

/-- What the draft of a mode holds, and that its issues contain those of `before`. -/
structure GoodDraft (modes : Nat) (before : List Issue) (draft : ModeDraft F) : Prop where
  bindings : ∀ binding ∈ draft.bindings, binding.WellFormed modes
  layers : ∀ layer ∈ draft.layers, layer.WellFormed modes
  kept : Kept before draft.issues

variable {modeName : String}

theorem parseModeBinding_good {before : List Issue} {draft next : ModeDraft F} {child : KdlNode F}
    (ids : ∀ name mode, modeNames.get? name = some mode → mode.index < modes)
    (parses : parseModeBinding modeName modeNames draft child = .ok next)
    (good : GoodDraft modes before draft) : GoodDraft modes before next := by
  obtain ⟨issue, rfl⟩ | ⟨inputs, trigger, action, issue, parsed, rfl⟩ := parseModeBinding_cases parses
  · exact ⟨good.bindings, good.layers, good.kept.trans (kept_snoc _ _)⟩
  · refine ⟨?_, good.layers, good.kept.trans (kept_report _ _ _)⟩
    intro binding member
    rcases List.mem_append.mp member with old | new
    · exact good.bindings binding old
    · obtain rfl := List.mem_singleton.mp new
      exact parseBinding_good ids parsed

theorem parseModeAxis_good [Scalar F] {before : List Issue} {draft : ModeDraft F} (child : KdlNode F)
    (good : GoodDraft modes before draft) :
    GoodDraft modes before (parseModeAxis modeName draft child) := by
  obtain ⟨issue, result⟩ | ⟨axis, issue, _, result⟩ := parseModeAxis_cases modeName draft child
  · rw [result]
    exact ⟨good.bindings, good.layers, good.kept.trans (kept_snoc _ _)⟩
  · rw [result]
    exact ⟨good.bindings, good.layers, good.kept.trans (kept_report _ _ _)⟩

/-- The bindings of a layer read so far, with the issues. -/
def GoodLayer (modes : Nat) (before : List Issue) (state : List Binding × List Issue) : Prop :=
  (∀ binding ∈ state.1, binding.WellFormed modes) ∧ Kept before state.2

theorem parseLayerBinding_good {before : List Issue} {state next : List Binding × List Issue}
    {layerName : String} {hold : Button} {item : KdlNode F × Nat}
    (ids : ∀ name mode, modeNames.get? name = some mode → mode.index < modes)
    (parses : parseLayerBinding modeName layerName hold modeNames state item = .ok next)
    (good : GoodLayer modes before state) : GoodLayer modes before next := by
  obtain ⟨issue, rfl⟩ | ⟨inputs, trigger, action, first, second, parsed, rfl⟩ :=
    parseLayerBinding_cases parses
  · exact ⟨good.1, good.2.trans (kept_snoc _ _)⟩
  · refine ⟨?_, good.2.trans ((kept_report _ _ _).trans (kept_report _ _ _))⟩
    intro binding member
    rcases List.mem_append.mp member with old | new
    · exact good.1 binding old
    · obtain rfl := List.mem_singleton.mp new
      exact parseBinding_good ids parsed

theorem parseModeLayer_good {before : List Issue} {draft next : ModeDraft F} {child : KdlNode F}
    {earlier : List (KdlNode F)}
    (ids : ∀ name mode, modeNames.get? name = some mode → mode.index < modes)
    (parses : parseModeLayer modeName modeNames earlier draft child = .ok next)
    (good : GoodDraft modes before draft) : GoodDraft modes before next := by
  obtain ⟨layerName, hold, checked, issue, bindings, issues, kept, folded, rfl⟩ :=
    parseModeLayer_ok parses
  have layer : GoodLayer modes before (bindings, issues) :=
    foldlM_ok (fun _ => GoodLayer modes before) folded
      ⟨by simp, good.kept.trans (kept.trans (kept_report _ _ _))⟩
      fun _ _ _ _ _ _ stepped => parseLayerBinding_good ids stepped
  refine ⟨good.bindings, ?_, layer.2⟩
  intro found member
  rcases List.mem_append.mp member with old | new
  · exact good.layers found old
  · obtain rfl := List.mem_singleton.mp new
    exact layer.1

theorem parseModeChild_good [Scalar F] {before : List Issue}
    {state next : List (KdlNode F) × ModeDraft F} {child : KdlNode F}
    (ids : ∀ name mode, modeNames.get? name = some mode → mode.index < modes)
    (parses : parseModeChild modeName modeNames state child = .ok next)
    (good : GoodDraft modes before state.2) : GoodDraft modes before next.2 := by
  obtain ⟨_, ⟨_, parsed⟩ | ⟨_, result⟩ | ⟨_, parsed⟩⟩ := parseModeChild_cases parses
  · exact parseModeBinding_good ids parsed good
  · rw [result]
    exact parseModeAxis_good child good
  · exact parseModeLayer_good ids parsed good

theorem parseMode_good [Scalar F] {node : KdlNode F} {issues after : List Issue} {mode : Mode F}
    (ids : ∀ name mode, modeNames.get? name = some mode → mode.index < modes)
    (parses : parseMode node modeNames issues = .ok (mode, after)) :
    mode.WellFormed modes ∧ Kept issues after := by
  obtain ⟨name, gamepad, touchpad, earlier, draft, folded, checks, rfl⟩ := parseMode_ok parses
  have good : GoodDraft modes issues draft :=
    foldlM_ok (fun _ state => GoodDraft modes issues state.2) folded
      ⟨by simp, by simp, .refl issues⟩ fun _ _ _ _ _ _ stepped => parseModeChild_good ids stepped
  have kept : Kept issues after :=
    foldlM_ok (fun _ => Kept issues) checks good.kept
      fun _ _ _ _ _ _ stepped earlier => earlier.trans (checkLayerHold_kept stepped)
  exact ⟨⟨good.bindings, good.layers⟩, kept⟩

/-! ## Documents -/

/-- The names of the modes `done`: one each, unless a name came twice. -/
structure GoodNames (before : List Issue) (done : List (KdlNode F × Nat))
    (state : IndexMap String ModeId × List Issue) : Prop where
  length : state.2 = [] → state.1.length = done.length
  ids : ∀ name mode, state.1.get? name = some mode → mode.index < done.length
  kept : Kept before state.2

theorem parseModeName_good {before : List Issue} {done : List (KdlNode F × Nat)}
    {item : KdlNode F × Nat} {state next : IndexMap String ModeId × List Issue}
    (place : item.2 = done.length) (parses : parseModeName state item = .ok next)
    (good : GoodNames before done state) : GoodNames before (done ++ [item]) next := by
  have older : ∀ name mode, state.1.get? name = some mode → mode.index < (done ++ [item]).length := by
    intro name mode found
    have := good.ids name mode found
    rw [List.length_append]
    omega
  obtain ⟨name, checked, kept, ⟨issue, rfl⟩ | ⟨absent, rfl⟩⟩ := parseModeName_cases parses
  · refine ⟨?_, older, good.kept.trans (kept.trans (kept_snoc _ _))⟩
    intro empty
    simp at empty
  · refine ⟨?_, ?_, good.kept.trans kept⟩
    · intro empty
      have length := good.length (kept empty)
      simp only [IndexMap.length, IndexMap.insert, absent, Bool.false_eq_true, if_false,
        List.length_append, List.length_singleton] at length ⊢
      omega
    · intro other mode found
      rw [IndexMap.get?_insert] at found
      split at found
      · cases found
        rw [List.length_append, place]
        exact Nat.lt_succ_self _
      · exact older other mode found

/-- The global bindings read so far, with the issues. -/
def GoodGlobals (modes : Nat) (before : List Issue) (state : List GlobalBinding × List Issue) : Prop :=
  (∀ binding ∈ state.1, binding.WellFormed modes) ∧ Kept before state.2

theorem parseGlobalBinding_good {before : List Issue} {state : List GlobalBinding × List Issue}
    {item : KdlNode F × Nat}
    (ids : ∀ name mode, modeNames.get? name = some mode → mode.index < modes)
    (good : GoodGlobals modes before state) :
    GoodGlobals modes before (parseGlobalBinding modeNames state item) := by
  obtain ⟨issue, result⟩ | ⟨inputs, trigger, action, issue, parsed, result⟩ :=
    parseGlobalBinding_cases modeNames state item
  · rw [result]
    exact ⟨good.1, good.2.trans (kept_snoc _ _)⟩
  · rw [result]
    refine ⟨?_, good.2.trans (kept_report _ _ _)⟩
    intro binding member
    rcases List.mem_append.mp member with old | new
    · exact good.1 binding old
    · obtain rfl := List.mem_singleton.mp new
      exact parseBinding_good ids parsed

theorem parseModes_good [Scalar F] {nodes : List (KdlNode F)} {issues after : List Issue}
    {found : List (Mode F)}
    (ids : ∀ name mode, modeNames.get? name = some mode → mode.index < modes)
    (folded : nodes.foldlM (parseModeNode modeNames) ([], issues) = .ok (found, after)) :
    found.length = nodes.length ∧ (∀ mode ∈ found, mode.WellFormed modes) ∧ Kept issues after := by
  refine foldlM_ok (fun done state => state.1.length = done.length ∧
    (∀ mode ∈ state.1, mode.WellFormed modes) ∧ Kept issues state.2) folded
    ⟨rfl, by simp, .refl issues⟩ ?_
  rintro done node rest ⟨found, before⟩ next _ stepped ⟨length, good, kept⟩
  obtain ⟨⟨mode, more⟩, parsed, pure⟩ := bind_ok stepped
  cases pure
  have mode_good := parseMode_good ids parsed
  refine ⟨by simpa using length, ?_, kept.trans mode_good.2⟩
  intro other member
  rcases List.mem_append.mp member with old | new
  · exact good other old
  · obtain rfl := List.mem_singleton.mp new
    exact mode_good.1

theorem fromDocument_wellFormed [Scalar F] {document : KdlDocument F} {config : Config F}
    (parses : Config.fromDocument document = .ok config) : config.WellFormed := by
  obtain ⟨checked, named, resolved, oskIssues, globalIssues, oskNodes, globalNodes, names,
    ⟨name, default⟩, resolved_kept, osks, globals, folded⟩ := fromDocument_ok parses
  have names_good : GoodNames checked (allNodes document "mode").zipIdx (config.modeNames, named) := by
    refine foldlM_ok (GoodNames checked) names ⟨fun _ => rfl, by simp, .refl checked⟩ ?_
    intro done item rest state next split stepped good
    exact parseModeName_good (zipIdx_split split).1 stepped good
  have ids : ∀ name mode, config.modeNames.get? name = some mode →
      mode.index < (allNodes document "mode").length := by
    simpa using names_good.ids
  have osk_kept : Kept resolved oskIssues :=
    foldlM_ok (fun _ state => Kept resolved state.2) osks (.refl resolved)
      fun _ _ _ _ _ _ stepped kept => kept.trans (parseOskBinding_kept stepped)
  have globals_good : GoodGlobals (allNodes document "mode").length oskIssues
      (config.globalBindings, globalIssues) := by
    rw [← globals]
    refine List.foldlRecOn globalNodes.zipIdx (parseGlobalBinding config.modeNames) ?_ ?_
    · exact ⟨fun _ member => absurd member List.not_mem_nil, .refl oskIssues⟩
    · intro state good item _
      exact parseGlobalBinding_good ids good
  obtain ⟨modes_length, modes_good, modes_kept⟩ := parseModes_good ids folded
  -- no pass has left an issue, since the last has left none
  have noNamed : named = [] := resolved_kept (osk_kept (globals_good.2 (modes_kept rfl)))
  have length : config.modeNames.length = (allNodes document "mode").length := by
    simpa using names_good.length noNamed
  refine ⟨?_, ?_, ?_, ?_, ?_⟩
  · rw [modes_length]
    exact ids name config.defaultMode default
  · rw [modes_length, length]
  · rw [modes_length]
    exact ids
  · rw [modes_length]
    exact globals_good.1
  · rw [modes_length]
    exact modes_good

theorem Config.Accepted.wellFormed [Scalar F] {config : Config F} (accepted : config.Accepted) :
    config.WellFormed := by
  obtain ⟨document, parses⟩ := accepted
  exact fromDocument_wellFormed parses

end

end Scd.Core
