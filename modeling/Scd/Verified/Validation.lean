import Scd.Verified.WellFormed

/-! # What the validation establishes

Every check of the parser holds of an accepted configuration: the checks that end the parse
at once, and those that only collect an issue.  The invariants of the passes say what holds
if no issue has been collected; since no issue is forgotten, an accepted document has none.
-/

namespace Scd.Core

open Scd.Foundation

/-! ## Valid configurations -/

/-- What two bindings of a list must not share. -/
def Binding.key (binding : Binding) : Buttons × Button := (binding.inputs, binding.trigger)

def GlobalBinding.key (binding : GlobalBinding) : Buttons × Button :=
  (binding.inputs, binding.trigger)

/-- The key of an action is a key of a keyboard. -/
def GlobalAction.OnKeyboard (action : GlobalAction) : Prop :=
  ∀ key, action = .action (.key key) → isKeyboardKey key = true

/-- The bindings of one list: their keys, and that none comes twice. -/
structure ValidBindings (bindings : List Binding) : Prop where
  keys : ∀ binding ∈ bindings, (GlobalAction.action binding.action).OnKeyboard
  distinct : (bindings.map Binding.key).Nodup

section

variable {F : Type}

def VectorTarget.scrolls : VectorTarget → Bool
  | .scroll => true
  | _ => false

namespace AxisMapping

def options : AxisMapping F → AxisOptions F
  | .trigger _ _ options => options
  | .stick _ _ options => options.axis
  | .padPosition _ _ options => options.axis
  | .padMotion _ options _ => options.axis
  | .circularScroll _ options => options.axis
  | .gyro _ _ options => options.axis

def acceleration? : AxisMapping F → Option F
  | .padMotion _ _ acceleration => some acceleration
  | _ => none

/-- The trigger that a mapping moves. -/
def triggerTarget : AxisMapping F → Option Trigger
  | .trigger _ target _ => some target
  | _ => none

/-- The mapping scrolls. -/
def scrolls : AxisMapping F → Bool
  | .circularScroll _ _ => true
  | .stick _ target _ => target.scrolls
  | .gyro _ target _ => target.scrolls
  | _ => false

/-- Two mappings of a mode share no trigger and not the scroll wheel. -/
def Apart (left right : AxisMapping F) : Prop :=
  (∀ target, left.triggerTarget = some target → right.triggerTarget ≠ some target) ∧
    ¬ (left.scrolls = true ∧ right.scrolls = true)

end AxisMapping

variable [Scalar F]

structure AxisActivation.Valid (activation : AxisActivation F) : Prop where
  thresholds : ∀ source engage release, activation = .trigger source engage release →
    0.0 ≤ release ∧ release < engage ∧ engage ≤ 1.0

structure AxisOptions.Valid (options : AxisOptions F) : Prop where
  activation : ∀ activation, options.activation = some activation → activation.Valid
  deadzone : 0.0 ≤ options.deadzone ∧ options.deadzone < 1.0
  sensitivity : Scalar.isFinite options.sensitivity = true ∧ 0.0 ≤ options.sensitivity
  exponent : Scalar.isFinite options.exponent = true ∧ 0.0 < options.exponent

structure AxisMapping.Valid (mapping : AxisMapping F) : Prop where
  options : mapping.options.Valid
  acceleration : ∀ acceleration, mapping.acceleration? = some acceleration →
    Scalar.isFinite acceleration = true ∧ 0.0 ≤ acceleration

structure Mode.Valid (mode : Mode F) : Prop where
  bindings : ValidBindings mode.bindings
  layers : ∀ layer ∈ mode.layers, ValidBindings layer.bindings
  holds : (mode.layers.map Layer.hold).Nodup
  layer_holds : ∀ layer ∈ mode.layers, ∀ binding ∈ layer.bindings,
    binding.inputs.contains layer.hold = false
  mode_holds : ∀ layer ∈ mode.layers, ∀ binding ∈ mode.bindings,
    binding.inputs.contains layer.hold = false
  axes : ∀ mapping ∈ mode.axes, mapping.Valid
  targets : mode.axes.Pairwise AxisMapping.Apart

/-- A configuration that passes every check, together with `Config.WellFormed`. -/
structure Config.Valid (config : Config F) : Prop where
  wellFormed : config.WellFormed
  modes_nonempty : config.modes ≠ []
  names : ∀ position name mode, config.modeNames.getIndex? position = some (name, mode) →
    mode = ⟨position⟩
  globals : ∀ binding ∈ config.globalBindings, binding.action.OnKeyboard
  globals_distinct : (config.globalBindings.map GlobalBinding.key).Nodup
  osk_inputs : ∀ input key, config.oskBindings.get? input = some key →
    input ≠ .leftPadTouch ∧ input ≠ .leftPadClick ∧ input ≠ .rightPadTouch ∧
      input ≠ .rightPadClick
  osk_keys : ∀ input key, config.oskBindings.get? input = some key → isKeyboardKey key = true
  modes : ∀ mode ∈ config.modes, mode.Valid

end

/-! ## Checks -/

section

variable {F : Type} [Scalar F] [LawfulScalar F]

/-- `!value.is_finite() || value < 0.0` has been refused. -/
theorem nonnegative_ok {value : F}
    (passes : ¬ (!Scalar.isFinite value || decide (value < 0.0)) = true) :
    Scalar.isFinite value = true ∧ 0.0 ≤ value := by
  simp only [Bool.or_eq_true, Bool.not_eq_true', decide_eq_true_eq, not_or,
    Bool.not_eq_false] at passes
  exact ⟨passes.1, LawfulScalar.le_of_not_lt _ _ passes.1 LawfulScalar.isFinite_zero passes.2⟩

/-- `!value.is_finite() || value <= 0.0` has been refused. -/
theorem positive_ok {value : F}
    (passes : ¬ (!Scalar.isFinite value || decide (value ≤ 0.0)) = true) :
    Scalar.isFinite value = true ∧ 0.0 < value := by
  simp only [Bool.or_eq_true, Bool.not_eq_true', decide_eq_true_eq, not_or,
    Bool.not_eq_false] at passes
  exact ⟨passes.1, LawfulScalar.lt_of_not_le _ _ passes.1 LawfulScalar.isFinite_zero passes.2⟩

theorem zero_le_zero : (0.0 : F) ≤ 0.0 :=
  LawfulScalar.le_of_not_lt _ _ LawfulScalar.isFinite_zero LawfulScalar.isFinite_zero
    (LawfulScalar.lt_irrefl _)

/-! ## Axis mappings -/

variable [Platform F]

theorem parseActivationTrigger_valid {child : KdlNode F} {activation : AxisActivation F}
    (parses : parseActivationTrigger child = .ok activation) : activation.Valid := by
  obtain ⟨text, _, rest⟩ := bind_ok parses
  obtain ⟨trigger, _, rest⟩ := bind_ok rest
  obtain ⟨_, _, rest⟩ := bind_ok rest
  obtain ⟨engage, _, rest⟩ := bind_ok rest
  obtain ⟨release, _, rest⟩ := bind_ok rest
  split at rest
  · cases rest
  · next passes =>
    cases rest
    simp only [Bool.or_eq_true, Bool.not_eq_true', decide_eq_true_eq, not_or,
      Bool.not_eq_false] at passes
    obtain ⟨⟨⟨⟨engage_finite, release_finite⟩, nonnegative⟩, ordered⟩, small⟩ := passes
    constructor
    rintro _ _ _ ⟨⟩
    exact ⟨LawfulScalar.le_of_not_lt _ _ release_finite LawfulScalar.isFinite_zero nonnegative,
      LawfulScalar.lt_of_not_le _ _ engage_finite release_finite ordered,
      LawfulScalar.le_of_not_lt _ _ LawfulScalar.isFinite_one engage_finite small⟩

omit [LawfulScalar F] in
theorem parseActivationButtons_valid {child : KdlNode F} {activation : AxisActivation F}
    (parses : parseActivationButtons child = .ok activation) : activation.Valid := by
  obtain ⟨_, _, rest⟩ := bind_ok parses
  obtain ⟨buttons, _, rest⟩ := bind_ok rest
  split at rest
  · cases rest
  · cases rest
    constructor
    rintro _ _ _ ⟨⟩

/-- The activation found among the children of an axis is valid. -/
def ValidFound (found : AxisChildren F) : Prop :=
  ∀ activation, found.activation = some activation → activation.Valid

theorem parseAxisChild_valid {found next : AxisChildren F} {child : KdlNode F}
    (parses : parseAxisChild found child = .ok next) (valid : ValidFound found) :
    ValidFound next := by
  obtain ⟨kind, _, rest⟩ := bind_ok parses
  cases kind with
  | trigger =>
    dsimp only at rest
    split at rest
    · cases rest
    · obtain ⟨activation, parsed, done⟩ := bind_ok rest
      cases done
      rintro _ ⟨⟩
      exact parseActivationTrigger_valid parsed
  | buttons =>
    dsimp only at rest
    split at rest
    · cases rest
    · obtain ⟨activation, parsed, done⟩ := bind_ok rest
      cases done
      rintro _ ⟨⟩
      exact parseActivationButtons_valid parsed
  | components =>
    dsimp only at rest
    split at rest
    · cases rest
    · obtain ⟨_, _, rest⟩ := bind_ok rest
      obtain ⟨_, _, rest⟩ := bind_ok rest
      obtain ⟨_, _, rest⟩ := bind_ok rest
      obtain ⟨_, _, rest⟩ := bind_ok rest
      obtain ⟨_, _, done⟩ := bind_ok rest
      cases done
      exact valid

omit [Scalar F] [LawfulScalar F] in
/-- A word of a table is one of its values. -/
theorem oneOf_mem {T : Type} {node : KdlNode F} {value expected : String}
    {table : List (List String × T)} {found : T} (chosen : oneOf node value expected table = .ok found) :
    ∃ words, (words, found) ∈ table := by
  unfold oneOf at chosen
  split at chosen
  · next row lookup =>
    cases chosen
    exact ⟨row.1, List.mem_of_find?_eq_some lookup⟩
  · cases chosen

theorem parseAxisOptions_valid {node : KdlNode F} {source target : String}
    {activation : Option (AxisActivation F)} {options : VectorOptions F} {acceleration : Option F}
    (parses : parseAxisOptions node source target activation = .ok (options, acceleration))
    (valid : ∀ found, activation = some found → found.Valid) :
    options.axis.Valid ∧ ∀ value, acceleration = some value →
      Scalar.isFinite value = true ∧ 0.0 ≤ value := by
  obtain ⟨_, _, rest⟩ := bind_ok parses
  obtain ⟨deadzone, _, rest⟩ := bind_ok rest
  obtain ⟨sensitivity, _, rest⟩ := bind_ok rest
  obtain ⟨found, _, rest⟩ := bind_ok rest
  obtain ⟨curve, _, rest⟩ := bind_ok rest
  obtain ⟨exponent, _, rest⟩ := bind_ok rest
  obtain ⟨invertX, _, rest⟩ := bind_ok rest
  obtain ⟨invertY, _, rest⟩ := bind_ok rest
  obtain ⟨swapXy, _, rest⟩ := bind_ok rest
  obtain ⟨deadzone_ok, rest⟩ := guard_ok rest
  obtain ⟨sensitivity_ok, rest⟩ := guard_ok rest
  -- what is left after the optional acceleration, whose checks are in its own branch
  have finish : ∀ {chosen : F},
      ¬ (!Scalar.isFinite exponent || decide (exponent ≤ 0.0)) = true →
      oneOf node curve "axis curve" [(["linear"], 1.0), (["exponential"], exponent)] = .ok chosen →
      AxisOptions.Valid ⟨activation, deadzone, sensitivity, chosen⟩ := by
    intro chosen exponent_ok selected
    refine ⟨valid, ?_, nonnegative_ok sensitivity_ok, ?_⟩
    · simp only [Bool.or_eq_true, Bool.not_eq_true', Bool.and_eq_false_iff, decide_eq_false_iff_not,
        not_or, not_not, Bool.not_eq_false] at deadzone_ok
      exact deadzone_ok.2
    · obtain ⟨words, row⟩ := oneOf_mem selected
      simp only [List.mem_cons, Prod.mk.injEq, List.not_mem_nil, or_false] at row
      rcases row with ⟨_, rfl⟩ | ⟨_, rfl⟩
      · exact ⟨LawfulScalar.isFinite_one, LawfulScalar.zero_lt_one⟩
      · exact positive_ok exponent_ok
  cases found with
  | none =>
    obtain ⟨exponent_ok, rest⟩ := guard_ok rest
    obtain ⟨chosen, selected, done⟩ := bind_ok rest
    cases done
    exact ⟨finish exponent_ok selected, by simp⟩
  | some value =>
    obtain ⟨value_ok, rest⟩ := guard_ok rest
    obtain ⟨_, rest⟩ := guard_ok rest
    obtain ⟨exponent_ok, rest⟩ := guard_ok rest
    obtain ⟨chosen, selected, done⟩ := bind_ok rest
    cases done
    refine ⟨finish exponent_ok selected, ?_⟩
    rintro _ ⟨⟩
    exact nonnegative_ok value_ok

omit [LawfulScalar F] [Platform F] in
theorem vectorMapping_options (source : AxisSource) (target : VectorTarget)
    (options : VectorOptions F) (acceleration : Option F)
    (components : Option (AxisComponent × AxisComponent)) :
    (vectorMapping source target options acceleration components).options = options.axis := by
  cases source with
  | stick stick => rfl
  | pad pad => cases target <;> rfl
  | gyro => rfl

omit [LawfulScalar F] [Platform F] in
theorem vectorMapping_acceleration {source : AxisSource} {target : VectorTarget}
    {options : VectorOptions F} {acceleration : Option F}
    {components : Option (AxisComponent × AxisComponent)} {value : F}
    (found : (vectorMapping source target options acceleration components).acceleration? =
      some value) : value = acceleration.getD 0.0 := by
  cases source with
  | stick stick => cases found
  | pad pad =>
    cases target with
    | mouseMotion => exact (Option.some.inj found).symm
    | gamepadLeftStick | gamepadRightStick | scroll => cases found
  | gyro => cases found

theorem parseAxis_valid {node : KdlNode F} {mapping : AxisMapping F}
    (parses : parseAxis node = .ok mapping) : mapping.Valid := by
  obtain ⟨source, _, rest⟩ := bind_ok parses
  obtain ⟨target, _, rest⟩ := bind_ok rest
  obtain ⟨_, rest⟩ := guard_ok rest
  obtain ⟨found, folded, rest⟩ := bind_ok rest
  obtain ⟨_, rest⟩ := guard_ok rest
  obtain ⟨⟨options, acceleration⟩, optioned, rest⟩ := bind_ok rest
  have activation : ValidFound found :=
    foldlM_ok (fun _ => ValidFound) folded (by simp [ValidFound])
      fun _ _ _ _ _ _ stepped => parseAxisChild_valid stepped
  obtain ⟨options_valid, acceleration_valid⟩ := parseAxisOptions_valid optioned activation
  dsimp only at rest
  split at rest
  · cases rest
    exact ⟨options_valid, by simp [AxisMapping.acceleration?]⟩
  · obtain ⟨vector, _, rest⟩ := bind_ok rest
    obtain ⟨axisSource, _, done⟩ := bind_ok rest
    cases done
    constructor
    · rw [vectorMapping_options]
      exact options_valid
    · intro value found
      rw [vectorMapping_acceleration found]
      cases acceleration with
      | none => exact ⟨LawfulScalar.isFinite_zero, zero_le_zero⟩
      | some given => exact acceleration_valid given rfl

end

section

variable {F : Type}

theorem exclusiveTarget_trigger {mapping : AxisMapping F} {target : Trigger}
    (found : mapping.triggerTarget = some target) :
    exclusiveTarget mapping = some (if target = .left then 0 else 1) := by
  cases mapping with
  | trigger source other options =>
    cases found
    cases target <;> rfl
  | _ => cases found

theorem exclusiveTarget_scroll {mapping : AxisMapping F} (scrolls : mapping.scrolls = true) :
    exclusiveTarget mapping = some 2 := by
  cases mapping with
  | circularScroll pad options => rfl
  | stick source target options => cases target <;> first | rfl | cases scrolls
  | gyro components target options => cases target <;> first | rfl | cases scrolls
  | _ => cases scrolls

theorem apart_of_not_duplicate {left right : AxisMapping F}
    (distinct : duplicateAxisTarget left right = false) : left.Apart right := by
  constructor
  · intro target leftTarget rightTarget
    have first := exclusiveTarget_trigger leftTarget
    have second := exclusiveTarget_trigger rightTarget
    simp [duplicateAxisTarget, first, second] at distinct
  · rintro ⟨leftScrolls, rightScrolls⟩
    have first := exclusiveTarget_scroll leftScrolls
    have second := exclusiveTarget_scroll rightScrolls
    simp [duplicateAxisTarget, first, second] at distinct

/-! ## Bindings -/

variable [Platform F]

theorem parseKey_onKeyboard {text : String} {key : KeyCode} (parses : parseKey F text = .ok key) :
    isKeyboardKey key = true := by
  have checked : ∀ {found : KeyCode} {message : String},
      (if !isKeyboardKey found then Except.error message else .ok found) = .ok key →
      isKeyboardKey key = true := by
    intro found message passes
    split at passes
    · cases passes
    · next keyboard =>
      cases passes
      simpa using keyboard
  unfold parseKey at parses
  dsimp only at parses
  split at parses
  · exact checked parses
  · split at parses
    · exact checked parses
    · cases parses

theorem parseBinding_onKeyboard {node : KdlNode F} {modeNames : IndexMap String ModeId}
    {global : Bool} {inputs : Buttons} {trigger : Button} {action : GlobalAction}
    (parses : parseBinding node modeNames global = .ok (inputs, trigger, action)) :
    action.OnKeyboard := by
  obtain ⟨_, parsed⟩ := parseBinding_ok parses
  rintro key rfl
  cases parsed with
  | key found => exact parseKey_onKeyboard found

omit [Platform F] in
/-- A binding that no earlier one duplicates. -/
theorem ValidBindings.snoc {bindings : List Binding} (valid : ValidBindings bindings)
    {inputs : Buttons} {trigger : Button} {action : Action}
    (keyboard : (GlobalAction.action action).OnKeyboard)
    (fresh : bindings.any (sameInput inputs trigger) = false) :
    ValidBindings (bindings ++ [⟨inputs, trigger, action⟩]) := by
  constructor
  · intro binding member
    rcases List.mem_append.mp member with old | new
    · exact valid.keys binding old
    · obtain rfl := List.mem_singleton.mp new
      exact keyboard
  · rw [List.map_append, List.nodup_append]
    refine ⟨valid.distinct, by simp, ?_⟩
    intro key old other new same
    obtain rfl := List.mem_singleton.mp new
    obtain ⟨binding, member, rfl⟩ := List.mem_map.mp old
    have unlike := List.any_eq_false.mp fresh binding member
    simp only [Binding.key, Prod.mk.injEq] at same
    simp [sameInput, same.1, same.2] at unlike

/-! ## Modes -/

/-- The bindings of a layer so far, if nothing has been collected. -/
def SoundLayer (before : List Issue) (hold : Button) (state : List Binding × List Issue) : Prop :=
  state.2 = [] → before = [] ∧ ValidBindings state.1 ∧
    ∀ binding ∈ state.1, binding.inputs.contains hold = false

variable {modeName : String} {modeNames : IndexMap String ModeId}

theorem parseLayerBinding_sound {before : List Issue} {state next : List Binding × List Issue}
    {layerName : String} {hold : Button} {item : KdlNode F × Nat}
    (parses : parseLayerBinding modeName layerName hold modeNames state item = .ok next)
    (sound : SoundLayer before hold state) : SoundLayer before hold next := by
  intro empty
  obtain ⟨issue, rfl⟩ | ⟨inputs, trigger, action, first, second, parsed, rfl⟩ :=
    parseLayerBinding_cases parses
  · exact (snoc_ne_nil empty).elim
  · obtain ⟨earlier, fresh⟩ := report_nil empty
    obtain ⟨none, free⟩ := report_nil earlier
    obtain ⟨nothing, valid, holds⟩ := sound none
    refine ⟨nothing, valid.snoc (parseBinding_onKeyboard parsed) fresh, ?_⟩
    intro binding member
    rcases List.mem_append.mp member with old | new
    · exact holds binding old
    · obtain rfl := List.mem_singleton.mp new
      exact free

variable [Scalar F]

/-- What the draft of a mode holds so far. -/
structure SoundDraft (draft : ModeDraft F) : Prop where
  bindings : ValidBindings draft.bindings
  layers : ∀ layer ∈ draft.layers, ValidBindings layer.bindings
  holds : (draft.layers.map Layer.hold).Nodup
  held : ∀ layer ∈ draft.layers, draft.layerHolds.contains layer.hold = true
  layer_holds : ∀ layer ∈ draft.layers, ∀ binding ∈ layer.bindings,
    binding.inputs.contains layer.hold = false
  axes : ∀ mapping ∈ draft.axes, mapping.Valid
  targets : draft.axes.Pairwise AxisMapping.Apart

/-- The draft is sound if nothing has been collected, also not before the mode. -/
def Sound (before : List Issue) (draft : ModeDraft F) : Prop :=
  draft.issues = [] → before = [] ∧ SoundDraft draft

theorem parseModeBinding_sound {before : List Issue} {draft next : ModeDraft F} {child : KdlNode F}
    (parses : parseModeBinding modeName modeNames draft child = .ok next)
    (sound : Sound before draft) : Sound before next := by
  intro empty
  obtain ⟨issue, rfl⟩ | ⟨inputs, trigger, action, issue, parsed, rfl⟩ := parseModeBinding_cases parses
  · exact (snoc_ne_nil empty).elim
  · obtain ⟨none, fresh⟩ := report_nil empty
    obtain ⟨nothing, valid⟩ := sound none
    exact ⟨nothing,
      { valid with bindings := valid.bindings.snoc (parseBinding_onKeyboard parsed) fresh }⟩

theorem parseModeAxis_sound [LawfulScalar F] {before : List Issue} {draft : ModeDraft F}
    (child : KdlNode F) (sound : Sound before draft) :
    Sound before (parseModeAxis modeName draft child) := by
  obtain ⟨issue, result⟩ | ⟨axis, issue, parsed, result⟩ := parseModeAxis_cases modeName draft child
  · rw [result]
    exact fun empty => (snoc_ne_nil empty).elim
  · rw [result]
    intro empty
    obtain ⟨none, fresh⟩ := report_nil empty
    obtain ⟨nothing, valid⟩ := sound none
    refine ⟨nothing, { valid with axes := ?_, targets := ?_ }⟩
    · intro mapping member
      rcases List.mem_append.mp member with old | new
      · exact valid.axes mapping old
      · obtain rfl := List.mem_singleton.mp new
        exact parseAxis_valid parsed
    · refine List.pairwise_append.mpr ⟨valid.targets, List.pairwise_singleton _ _, ?_⟩
      intro earlier member other new
      obtain rfl := List.mem_singleton.mp new
      exact apart_of_not_duplicate (by simpa using List.any_eq_false.mp fresh earlier member)

theorem parseModeLayer_sound {before : List Issue} {draft next : ModeDraft F} {child : KdlNode F}
    {earlier : List (KdlNode F)}
    (parses : parseModeLayer modeName modeNames earlier draft child = .ok next)
    (sound : Sound before draft) : Sound before next := by
  intro empty
  obtain ⟨layerName, hold, checked, issue, bindings, issues, kept, folded, rfl⟩ :=
    parseModeLayer_ok parses
  have layer := foldlM_ok (fun _ => SoundLayer _ hold) folded
    (fun none => ⟨none, ⟨fun _ member => absurd member List.not_mem_nil, List.nodup_nil⟩,
      fun _ member => absurd member List.not_mem_nil⟩)
    fun _ _ _ _ _ _ stepped => parseLayerBinding_sound stepped
  obtain ⟨reported, valid_bindings, free⟩ := layer empty
  obtain ⟨none, fresh⟩ := report_nil reported
  obtain ⟨nothing, valid⟩ := sound (kept none)
  refine ⟨nothing, { valid with layers := ?_, holds := ?_, held := ?_, layer_holds := ?_ }⟩
  · intro layer member
    rcases List.mem_append.mp member with old | new
    · exact valid.layers layer old
    · obtain rfl := List.mem_singleton.mp new
      exact valid_bindings
  · rw [List.map_append, List.nodup_append]
    refine ⟨valid.holds, by simp, ?_⟩
    intro button old other new same
    obtain rfl := List.mem_singleton.mp new
    obtain ⟨layer, member, rfl⟩ := List.mem_map.mp old
    have held := valid.held layer member
    rw [same] at held
    rw [held] at fresh
    cases fresh
  · intro layer member
    rw [Buttons.contains_insert]
    rcases List.mem_append.mp member with old | new
    · simp [valid.held layer old]
    · obtain rfl := List.mem_singleton.mp new
      simp
  · intro layer member
    rcases List.mem_append.mp member with old | new
    · exact valid.layer_holds layer old
    · obtain rfl := List.mem_singleton.mp new
      exact free

omit [Scalar F] in
theorem parseModeBinding_layers {draft next : ModeDraft F} {child : KdlNode F}
    (parses : parseModeBinding modeName modeNames draft child = .ok next) :
    next.layers = draft.layers := by
  obtain ⟨issue, rfl⟩ | ⟨inputs, trigger, action, issue, _, rfl⟩ := parseModeBinding_cases parses
  · rfl
  · rfl

theorem parseModeAxis_layers (draft : ModeDraft F) (child : KdlNode F) :
    (parseModeAxis modeName draft child).layers = draft.layers := by
  obtain ⟨issue, result⟩ | ⟨axis, issue, _, result⟩ := parseModeAxis_cases modeName draft child
  · rw [result]
  · rw [result]

omit [Scalar F] in
theorem parseModeLayer_layers {draft next : ModeDraft F} {child : KdlNode F}
    {earlier : List (KdlNode F)}
    (parses : parseModeLayer modeName modeNames earlier draft child = .ok next) :
    next.layers.length = draft.layers.length + 1 := by
  obtain ⟨layerName, hold, checked, issue, bindings, issues, _, _, rfl⟩ := parseModeLayer_ok parses
  exact List.length_append

/-- The draft after some children: sound, with one layer for each `layer` child. -/
structure SoundChildren (before : List Issue) (state : List (KdlNode F) × ModeDraft F) : Prop where
  sound : Sound before state.2
  layers : state.2.layers.length = (state.1.filter (·.name = "layer")).length

theorem parseModeChild_sound [LawfulScalar F] {before : List Issue}
    {state next : List (KdlNode F) × ModeDraft F} {child : KdlNode F}
    (parses : parseModeChild modeName modeNames state child = .ok next)
    (sound : SoundChildren before state) :
    next.1 = state.1 ++ [child] ∧ SoundChildren before next := by
  have counted : ((state.1 ++ [child]).filter (·.name = "layer")).length =
      state.2.layers.length + if child.name = "layer" then 1 else 0 := by
    rw [List.filter_append, List.length_append, sound.layers]
    by_cases layer : child.name = "layer" <;> simp [layer]
  obtain ⟨appended, ⟨other, parsed⟩ | ⟨other, result⟩ | ⟨layer, parsed⟩⟩ := parseModeChild_cases parses
  · refine ⟨appended, parseModeBinding_sound parsed sound.sound, ?_⟩
    rw [parseModeBinding_layers parsed, appended, counted, if_neg other, Nat.add_zero]
  · refine ⟨appended, ?_, ?_⟩
    · rw [result]
      exact parseModeAxis_sound child sound.sound
    · rw [result, parseModeAxis_layers, appended, counted, if_neg other, Nat.add_zero]
  · refine ⟨appended, parseModeLayer_sound parsed sound.sound, ?_⟩
    rw [parseModeLayer_layers parsed, appended, counted, if_pos layer]

/-- The second pass so far: if it has collected nothing, no mode binding uses a hold of the
    layers. -/
def SoundHolds (before : List Issue) (bindings : List Binding) (done : List (KdlNode F × Layer))
    (issues : List Issue) : Prop :=
  issues = [] → before = [] ∧ ∀ pair ∈ done, ∀ binding ∈ bindings,
    binding.inputs.contains pair.2.hold = false

omit [Scalar F] in
theorem checkLayerHold_sound {before issues next : List Issue} {bindings : List Binding}
    {done : List (KdlNode F × Layer)} {pair : KdlNode F × Layer}
    (checks : checkLayerHold modeName bindings issues pair = .ok next)
    (sound : SoundHolds before bindings done issues) :
    SoundHolds before bindings (done ++ [pair]) next := by
  intro empty
  obtain ⟨issue, rfl⟩ | ⟨rfl, unused⟩ := checkLayerHold_cases checks
  · exact (snoc_ne_nil empty).elim
  · obtain ⟨none, earlier⟩ := sound empty
    refine ⟨none, ?_⟩
    intro other member binding bound
    rcases List.mem_append.mp member with old | new
    · exact earlier other old binding bound
    · obtain rfl := List.mem_singleton.mp new
      exact unused binding bound

theorem parseMode_valid [LawfulScalar F] {node : KdlNode F} {issues after : List Issue}
    {mode : Mode F} (parses : parseMode node modeNames issues = .ok (mode, after)) :
    after = [] → issues = [] ∧ mode.Valid := by
  intro empty
  obtain ⟨name, gamepad, touchpad, earlier, draft, folded, checks, rfl⟩ := parseMode_ok parses
  have children : earlier = node.children ∧ SoundChildren issues (earlier, draft) := by
    refine foldlM_ok (fun done state => state.1 = done ∧ SoundChildren issues state) folded
      ⟨rfl, fun none => ⟨none, ?_⟩, rfl⟩ ?_
    · exact ⟨⟨by simp, by simp⟩, by simp, by simp, by simp, by simp, by simp, by simp⟩
    · rintro done child rest state next _ stepped ⟨same, sound⟩
      rw [← same]
      exact parseModeChild_sound stepped sound
  obtain ⟨same, sound⟩ := children
  have second := foldlM_ok (SoundHolds draft.issues draft.bindings) checks
    (fun none => ⟨none, fun _ member => absurd member List.not_mem_nil⟩)
    fun _ _ _ _ _ _ stepped => checkLayerHold_sound stepped
  obtain ⟨drafted, unused⟩ := second empty
  obtain ⟨none, valid⟩ := sound.sound drafted
  have zipped : ((node.children.filter (·.name = "layer")).zip draft.layers).map Prod.snd =
      draft.layers := by
    rw [← same]
    exact List.map_snd_zip (Nat.le_of_eq sound.layers)
  refine ⟨none, valid.bindings, valid.layers, valid.holds, valid.layer_holds, ?_, valid.axes,
    valid.targets⟩
  intro layer member binding bound
  rw [← zipped] at member
  obtain ⟨pair, paired, rfl⟩ := List.mem_map.mp member
  exact unused pair paired binding bound

/-! ## Documents -/

/-- The mode names so far, if nothing has been collected: each entry has its own position. -/
def SoundNames (done : List (KdlNode F × Nat)) (state : IndexMap String ModeId × List Issue) :
    Prop :=
  state.2 = [] → state.1.length = done.length ∧
    ∀ position name mode, state.1.getIndex? position = some (name, mode) → mode = ⟨position⟩

omit [Scalar F] in
theorem parseModeName_sound {done : List (KdlNode F × Nat)} {item : KdlNode F × Nat}
    {state next : IndexMap String ModeId × List Issue} (place : item.2 = done.length)
    (parses : parseModeName state item = .ok next) (sound : SoundNames done state) :
    SoundNames (done ++ [item]) next := by
  intro empty
  obtain ⟨name, checked, kept, ⟨issue, rfl⟩ | ⟨absent, rfl⟩⟩ := parseModeName_cases parses
  · exact (snoc_ne_nil empty).elim
  · obtain ⟨length, ids⟩ := sound (kept empty)
    have entries : (state.1.insert name ⟨item.2⟩).entries =
        state.1.entries ++ [(name, ⟨item.2⟩)] := by
      simp [IndexMap.insert, absent]
    simp only [IndexMap.length, IndexMap.getIndex?, entries] at length ids ⊢
    refine ⟨by simp [length], ?_⟩
    intro position other mode found
    by_cases old : position < state.1.entries.length
    · rw [List.getElem?_append_left old] at found
      exact ids position other mode found
    · have here : position = state.1.entries.length := by
        have := (List.getElem?_eq_some_iff.mp found).1
        simp only [List.length_append, List.length_singleton] at this
        omega
      rw [here, List.getElem?_concat_length] at found
      cases found
      rw [here, place, length]

/-- The bindings of the on-screen keyboard so far, if nothing has been collected. -/
def SoundOsk (before : List Issue) (state : IndexMap Button KeyCode × List Issue) : Prop :=
  state.2 = [] → before = [] ∧ ∀ input key, state.1.get? input = some key →
    isPointing input = false ∧ isKeyboardKey key = true

omit [Scalar F] in
theorem parseOskBinding_sound {before : List Issue}
    {state next : IndexMap Button KeyCode × List Issue} {child : KdlNode F}
    (parses : parseOskBinding state child = .ok next) (sound : SoundOsk before state) :
    SoundOsk before next := by
  intro empty
  obtain ⟨input, text, key, first, second, parsed, rfl⟩ := parseOskBinding_ok parses
  obtain ⟨earlier, free⟩ := report_nil empty
  obtain ⟨none, _⟩ := report_nil earlier
  obtain ⟨nothing, valid⟩ := sound none
  refine ⟨nothing, ?_⟩
  intro other chosen found
  rw [IndexMap.get?_insert] at found
  split at found
  · next same =>
    cases found
    rw [same]
    exact ⟨free, parseKey_onKeyboard parsed⟩
  · exact valid other chosen found

/-- The global bindings so far, if nothing has been collected. -/
def SoundGlobals (before : List Issue) (state : List GlobalBinding × List Issue) : Prop :=
  state.2 = [] → before = [] ∧ (∀ binding ∈ state.1, binding.action.OnKeyboard) ∧
    (state.1.map GlobalBinding.key).Nodup

omit [Scalar F] in
theorem parseGlobalBinding_sound {before : List Issue} {state : List GlobalBinding × List Issue}
    (item : KdlNode F × Nat) (sound : SoundGlobals before state) :
    SoundGlobals before (parseGlobalBinding modeNames state item) := by
  obtain ⟨issue, result⟩ | ⟨inputs, trigger, action, issue, parsed, result⟩ :=
    parseGlobalBinding_cases modeNames state item
  · rw [result]
    exact fun empty => (snoc_ne_nil empty).elim
  · rw [result]
    intro empty
    obtain ⟨none, fresh⟩ := report_nil empty
    obtain ⟨nothing, keys, distinct⟩ := sound none
    refine ⟨nothing, ?_, ?_⟩
    · intro binding member
      rcases List.mem_append.mp member with old | new
      · exact keys binding old
      · obtain rfl := List.mem_singleton.mp new
        exact parseBinding_onKeyboard parsed
    · rw [List.map_append, List.nodup_append]
      refine ⟨distinct, by simp, ?_⟩
      intro key old other new same
      obtain rfl := List.mem_singleton.mp new
      obtain ⟨binding, member, rfl⟩ := List.mem_map.mp old
      have unlike := List.any_eq_false.mp fresh binding member
      simp only [GlobalBinding.key, Prod.mk.injEq] at same
      simp [same.1, same.2] at unlike

omit [Scalar F] in
theorem parseGlobals_sound {before : List Issue} (children : List (KdlNode F × Nat)) :
    SoundGlobals before (children.foldl (parseGlobalBinding modeNames) ([], before)) := by
  refine List.foldlRecOn children (parseGlobalBinding modeNames) ?_ ?_
  · exact fun none => ⟨none, fun _ member => absurd member List.not_mem_nil, List.nodup_nil⟩
  · intro state sound child _
    exact parseGlobalBinding_sound child sound

theorem parseModes_valid [LawfulScalar F] {nodes : List (KdlNode F)} {issues after : List Issue}
    {found : List (Mode F)}
    (folded : nodes.foldlM (parseModeNode modeNames) ([], issues) = .ok (found, after)) :
    after = [] → issues = [] ∧ ∀ mode ∈ found, mode.Valid := by
  refine foldlM_ok (fun _ state => state.2 = [] → issues = [] ∧ ∀ mode ∈ state.1, mode.Valid)
    folded (fun none => ⟨none, fun _ member => absurd member List.not_mem_nil⟩) ?_
  rintro done node rest ⟨modes, before⟩ next _ stepped sound empty
  obtain ⟨⟨mode, more⟩, parsed, pure⟩ := bind_ok stepped
  cases pure
  obtain ⟨none, valid⟩ := parseMode_valid parsed empty
  obtain ⟨nothing, earlier⟩ := sound none
  refine ⟨nothing, ?_⟩
  intro other member
  rcases List.mem_append.mp member with old | new
  · exact earlier other old
  · obtain rfl := List.mem_singleton.mp new
    exact valid

theorem parsed_valid [LawfulScalar F] {document : KdlDocument F} {config : Config F}
    (parses : Config.fromDocument document = .ok config) : config.Valid := by
  have wellFormed := fromDocument_wellFormed parses
  obtain ⟨checked, named, resolved, oskIssues, globalIssues, oskNodes, globalNodes, names, _,
    kept, osks, globals, folded⟩ := fromDocument_ok parses
  -- nothing has been collected at the end, and so at no point before
  obtain ⟨none, modes_valid⟩ := parseModes_valid folded rfl
  have globals_sound := @parseGlobals_sound F _ config.modeNames oskIssues globalNodes.zipIdx
  rw [globals] at globals_sound
  obtain ⟨none, keys, distinct⟩ := globals_sound none
  have osk_sound := foldlM_ok (fun _ => SoundOsk _) osks (fun none => ⟨none, by simp⟩)
    fun _ _ _ _ _ _ stepped => parseOskBinding_sound stepped
  obtain ⟨none, osk_valid⟩ := osk_sound none
  have names_sound : SoundNames (allNodes document "mode").zipIdx (config.modeNames, named) := by
    refine foldlM_ok SoundNames names (fun _ => ⟨rfl, by simp [IndexMap.getIndex?]⟩) ?_
    intro done item rest state next split stepped sound
    exact parseModeName_sound (zipIdx_split split).1 stepped sound
  obtain ⟨_, ids⟩ := names_sound (kept none)
  refine ⟨wellFormed, ?_, ids, keys, distinct, ?_, fun input key found =>
    (osk_valid input key found).2, modes_valid⟩
  · intro noModes
    have inside := wellFormed.default
    rw [noModes] at inside
    exact absurd inside (Nat.not_lt_zero _)
  · intro input key found
    simpa [isPointing, not_or, and_assoc] using (osk_valid input key found).1

/-- Every check of the parser holds of a configuration that it accepts. -/
theorem fromDocument_valid [LawfulScalar F] {document : KdlDocument F} {config : Config F}
    (parses : Config.fromDocument document = .ok config) : config.Valid :=
  parsed_valid parses

end

/-- A document with a binding, an axis that a trigger engages, and a layer. -/
def layeredDocument : KdlDocument ℚ :=
  let argument := fun word : String => (⟨none, .string word, ⟨0, 0⟩⟩ : KdlEntry ℚ)
  let property := fun (name : String) (value : KdlValue ℚ) =>
    (⟨some name, value, ⟨0, 0⟩⟩ : KdlEntry ℚ)
  let bind := fun (button action : String) =>
    KdlNode.mk "bind" [argument button] [.mk "key" [argument action] [] ⟨0, 0⟩] ⟨0, 0⟩
  { nodes := [
      .mk "version" [⟨none, .integer 1, ⟨0, 0⟩⟩] [] ⟨0, 0⟩,
      .mk "default-mode" [argument "one"] [] ⟨0, 0⟩,
      .mk "osk" [] [.mk "bind" [argument "a", argument "KEY_A"] [] ⟨0, 0⟩] ⟨0, 0⟩,
      .mk "mode" [argument "one"] [
        bind "b" "KEY_B",
        .mk "axis" [argument "left-stick", argument "scroll", property "deadzone" (.float 0.25)]
          [.mk "trigger" [argument "left-trigger", property "engage" (.float 0.5),
            property "release" (.float 0.25)] [] ⟨0, 0⟩] ⟨0, 0⟩,
        .mk "layer" [argument "two", property "hold" (.string "l4")] [bind "b" "KEY_C"] ⟨0, 0⟩]
        ⟨0, 0⟩]
    span := ⟨0, 0⟩ }

theorem fromDocument_valid_layered :
    ∃ config : Config ℚ, Config.fromDocument layeredDocument = .ok config ∧ config.Valid := by
  have accepted : (Config.fromDocument layeredDocument).toBool = true := by decide +kernel
  cases parsed : Config.fromDocument layeredDocument with
  | ok config => exact ⟨config, rfl, fromDocument_valid parsed⟩
  | error rejection =>
    rw [parsed] at accepted
    cases accepted

end Scd.Core
