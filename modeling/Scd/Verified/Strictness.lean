import Scd.Verified.Pruning

/-! # What an accepted document holds

Each function of the parser returns only for a node that conforms to its rule once it is pruned.
The lemmas follow the parser from the entries of a node up to the document.
-/

namespace Scd.Core

open Scd.Foundation

section

variable {F : Type}

/-! ## Entries -/

/-- What is read as the type is a value of the kind. -/
class ReadsAs (F T : Type) [FromKdl F T] (kind : outParam ValueKind) : Prop where
  reads : ∀ {entry : KdlEntry F} {field : String} {value : T},
    FromKdl.fromKdl entry field = .ok value → kind.Reads entry.value

instance : ReadsAs F String .string where
  reads {entry field value} read := by
    cases shape : entry.value with
    | string text => trivial
    | integer | float | bool | null => simp [FromKdl.fromKdl, shape] at read

instance : ReadsAs F Bool .bool where
  reads {entry field value} read := by
    cases shape : entry.value with
    | bool value => trivial
    | string | integer | float | null => simp [FromKdl.fromKdl, shape] at read

instance [Scalar F] : ReadsAs F F .number where
  reads {entry field value} read := by
    cases shape : entry.value with
    | float value => trivial
    | integer value => trivial
    | string | bool | null => simp [FromKdl.fromKdl, shape] at read

theorem integerFromKdl_reads {T : Type} {low high : Int} {convert : Int → T} {entry : KdlEntry F}
    {field : String} {value : T} (read : integerFromKdl low high convert entry field = .ok value) :
    (ValueKind.integer low high).Reads entry.value := by
  unfold integerFromKdl at read
  cases shape : entry.value with
  | integer number =>
    simp only [shape] at read
    split at read
    · assumption
    · cases read
  | string | float | bool | null => simp [shape] at read

instance : ReadsAs F UInt8 .u8 where
  reads := integerFromKdl_reads

instance : ReadsAs F UInt16 .u16 where
  reads := integerFromKdl_reads

instance : ReadsAs F UInt32 .u32 where
  reads := integerFromKdl_reads

instance : ReadsAs F Int8 .i8 where
  reads := integerFromKdl_reads

section

variable {T : Type} [FromKdl F T] {kind : ValueKind} [ReadsAs F T kind] {node : KdlNode F}
  {name : String}

/-- The argument is there, and it is of the type. -/
theorem argument_reads {position : Nat} {value : T} (read : argument T node position = .ok value) :
    ∃ entry, node.arguments[position]? = some entry ∧ kind.Reads entry.value := by
  unfold argument at read
  split at read
  · next entry found => exact ⟨entry, found, ReadsAs.reads read⟩
  · cases read

/-- If the property is there, it is of the type. -/
def PropertyReads (node : KdlNode F) (row : String × ValueKind) : Prop :=
  ∀ entry, node.namedEntry row.1 = some entry → row.2.Reads entry.value

theorem optionalProperty_reads {value : Option T} (read : optionalProperty T node name = .ok value) :
    PropertyReads node (name, kind) := by
  intro entry found
  simp only [optionalProperty, found] at read
  cases fromKdl : (FromKdl.fromKdl entry name : Except Issue T) with
  | ok value => exact ReadsAs.reads fromKdl
  | error issue => simp [fromKdl] at read

theorem propertyOr_reads {value default : T} (read : propertyOr node name default = .ok value) :
    PropertyReads node (name, kind) := by
  obtain ⟨found, optional, _⟩ := bind_ok read
  exact optionalProperty_reads optional

theorem property_reads [Platform F] {value : T} (read : property T node name = .ok value) :
    PropertyReads node (name, kind) := by
  intro entry found
  simp only [property, found] at read
  exact ReadsAs.reads read

end

/-- A property that is written once is the one that is found. -/
theorem namedEntry_of_mem {node : KdlNode F} {entry : KdlEntry F} {name : String}
    (distinct : (node.entries.filterMap KdlEntry.name).Nodup) (member : entry ∈ node.entries)
    (named : entry.name = some name) : node.namedEntry name = some entry := by
  unfold KdlNode.namedEntry
  generalize node.entries = entries at distinct member
  suffices only : (entries.filter fun other => other.name = some name) = [entry] by rw [only]; rfl
  induction entries with
  | nil => cases member
  | cons first rest inductionHypothesis =>
    cases List.mem_cons.mp member with
    | inl here =>
      subst here
      rw [List.filterMap_cons_some named, List.nodup_cons] at distinct
      rw [List.filter_cons_of_pos (by simpa using named)]
      congr 1
      rw [List.filter_eq_nil_iff]
      intro other inside again
      exact distinct.1 (List.mem_filterMap.mpr ⟨other, inside, by simpa using again⟩)
    | inr later =>
      have inside : name ∈ rest.filterMap KdlEntry.name :=
        List.mem_filterMap.mpr ⟨entry, later, named⟩
      have differs : first.name ≠ some name := by
        intro same
        rw [List.filterMap_cons_some same, List.nodup_cons] at distinct
        exact distinct.1 inside
      rw [List.filter_cons_of_neg (by simpa using differs)]
      refine inductionHypothesis ?_ later
      cases firstName : first.name with
      | none => rwa [List.filterMap_cons_none firstName] at distinct
      | some other =>
        rw [List.filterMap_cons_some firstName, List.nodup_cons] at distinct
        exact distinct.2

theorem filterMap_written (node : KdlNode F) :
    node.written.filterMap KdlEntry.name = node.entries.filterMap KdlEntry.name := by
  rw [KdlNode.written, List.filterMap_filter]
  congr 1
  funext entry
  cases entry.name <;> rfl

variable [Platform F]

/-- What is left of a node conforms, if the parser has read what its rule names. -/
theorem Rule.conforms_prune {rule : Rule F} {node : KdlNode F}
    (arguments : rule.arity.Accepts (rule.prune node).arguments)
    (checked : Core.properties node (rule.properties.map Prod.fst) = .ok ())
    (read : rule.properties.Forall (PropertyReads node))
    (block : rule.block.Conforms (rule.block.prune node.children)) : rule.Conforms (rule.prune node) := by
  obtain ⟨allowed, distinct⟩ := properties_ok checked
  refine ⟨arguments, ?_, ?_, block⟩
  · intro entry member name named
    have written : entry ∈ (rule.prune node).written :=
      List.mem_filter.mpr ⟨member, by simp [named]⟩
    rw [Rule.written_prune] at written
    have inside := (List.mem_filter.mp written).1
    have isAllowed := allowed name (List.mem_filterMap.mpr ⟨entry, inside, named⟩)
    obtain ⟨⟨_, kind⟩, row, rfl⟩ := List.mem_map.mp isAllowed
    exact ⟨kind, row, (List.forall_iff_forall_mem.mp read) _ row entry
      (namedEntry_of_mem distinct inside named)⟩
  · rwa [← filterMap_written, Rule.written_prune, filterMap_written]

omit [Platform F] in
theorem conformsTo_prune {rules : List (String × Rule F)} {node : KdlNode F} {rule : Rule F}
    (found : rules.lookup node.name = some rule) (conforms : rule.Conforms (rule.prune node)) :
    ConformsTo rules (pruneBy rules node) := by
  refine ⟨rule, ?_, ?_⟩
  · rw [name_pruneBy, found]
  · rwa [pruneBy_found found]

theorem conformsTo_leaf {rules : List (String × Rule F)} {node : KdlNode F} {kinds : List ValueKind}
    {rows : List (String × ValueKind)} (found : rules.lookup node.name = some (leaf kinds rows))
    (arguments : (leaf kinds rows : Rule F).arity.Accepts ((leaf kinds rows).prune node).arguments)
    (checked : properties node (rows.map Prod.fst) = .ok ())
    (read : rows.Forall (PropertyReads node)) : ConformsTo rules (pruneBy rules node) :=
  conformsTo_prune found (Rule.conforms_prune arguments checked read rfl)

/-! ## Arguments -/

omit [Platform F] in
theorem accepts_none {rule : Rule F} (arity : rule.arity = .exactly []) (node : KdlNode F) :
    rule.arity.Accepts (rule.prune node).arguments := by
  rw [Rule.arguments_exactly arity, arity]
  exact .nil

section

variable {T : Type} [FromKdl F T] {kind : ValueKind} [ReadsAs F T kind] {node : KdlNode F}

omit [Platform F] in
theorem accepts_one {rule : Rule F} (arity : rule.arity = .exactly [kind]) {value : T}
    (read : argument T node 0 = .ok value) : rule.arity.Accepts (rule.prune node).arguments := by
  rw [Rule.arguments_exactly arity, arity]
  obtain ⟨entry, found, reads⟩ := argument_reads read
  cases arguments : node.arguments with
  | nil => simp [arguments] at found
  | cons first rest =>
    obtain rfl : first = entry := by simpa [arguments] using found
    exact .cons reads .nil

omit [Platform F] in
theorem accepts_two {rule : Rule F} (arity : rule.arity = .exactly [kind, kind]) {value value' : T}
    (read : argument T node 0 = .ok value) (read' : argument T node 1 = .ok value') :
    rule.arity.Accepts (rule.prune node).arguments := by
  rw [Rule.arguments_exactly arity, arity]
  obtain ⟨entry, found, reads⟩ := argument_reads read
  obtain ⟨entry', found', reads'⟩ := argument_reads read'
  cases arguments : node.arguments with
  | nil => simp [arguments] at found
  | cons first rest =>
    obtain rfl : first = entry := by simpa [arguments] using found
    cases rest with
    | nil => simp [arguments] at found'
    | cons second rest =>
      obtain rfl : second = entry' := by simpa [arguments] using found'
      exact .cons reads (.cons reads' .nil)

omit [Platform F] in
/-- A pass over all arguments reads each of them. -/
theorem accepts_several {rule : Rule F} (arity : rule.arity = .several kind)
    (present : node.arguments ≠ [])
    (read : ∀ position < node.arguments.length, ∃ value : T, argument T node position = .ok value) :
    rule.arity.Accepts (rule.prune node).arguments := by
  rw [Rule.arguments_several arity, arity]
  refine ⟨present, ?_⟩
  intro entry member
  obtain ⟨position, inside, rfl⟩ := List.mem_iff_getElem.mp member
  obtain ⟨value, isValue⟩ := read position inside
  obtain ⟨entry, found, reads⟩ := argument_reads isValue
  rw [List.getElem?_eq_getElem inside, Option.some.injEq] at found
  rwa [found]

end

/-! ## Bindings -/

theorem oneOf_word {T : Type} {node : KdlNode F} {value expected : String}
    {table : List (List String × T)} {found : T} (chosen : oneOf node value expected table = .ok found) :
    ∃ words, (words, found) ∈ table ∧ value ∈ words := by
  unfold oneOf at chosen
  split at chosen
  · next row lookup =>
    cases chosen
    exact ⟨row.1, List.mem_of_find?_eq_some lookup, by simpa using List.find?_some lookup⟩
  · cases chosen

variable {modeNames : IndexMap String ModeId}

theorem parseAction_conforms {action : KdlNode F} {global : Bool} {parsed : GlobalAction}
    (parses : parseAction action modeNames global = .ok parsed) :
    ConformsTo actionRules (pruneBy actionRules action) := by
  obtain ⟨_, checked, rest⟩ := bind_ok parses
  obtain ⟨kind, named, rest⟩ := bind_ok rest
  have word : ∀ {text : String}, actionRules.lookup action.name = some (leaf [.string] [] : Rule F) →
      argument String action 0 = .ok text → ConformsTo actionRules (pruneBy actionRules action) :=
    fun found read => conformsTo_leaf found (accepts_one rfl read) checked trivial
  have plain : actionRules.lookup action.name = some (leaf [] [] : Rule F) →
      ConformsTo actionRules (pruneBy actionRules action) :=
    fun found => conformsTo_leaf found (accepts_none rfl action) checked trivial
  obtain ⟨words, row, isWord⟩ := oneOf_word named
  simp only [List.mem_cons, Prod.mk.injEq, List.not_mem_nil, or_false] at row
  rcases row with ⟨rfl, rfl⟩ | ⟨rfl, rfl⟩ | ⟨rfl, rfl⟩ | ⟨rfl, rfl⟩ | ⟨rfl, rfl⟩ | ⟨rfl, rfl⟩ <;>
    rw [List.mem_singleton] at isWord
  · obtain ⟨text, read, _⟩ := bind_ok rest
    exact word (by rw [isWord]; rfl) read
  · obtain ⟨text, read, _⟩ := bind_ok rest
    exact word (by rw [isWord]; rfl) read
  · obtain ⟨text, read, _⟩ := bind_ok rest
    exact word (by rw [isWord]; rfl) read
  · obtain ⟨text, read, _⟩ := bind_ok rest
    exact word (by rw [isWord]; rfl) read
  · exact plain (by rw [isWord]; rfl)
  · exact plain (by rw [isWord]; rfl)

theorem parseBinding_conforms {node : KdlNode F} {global : Bool}
    {parsed : Buttons × Button × GlobalAction}
    (parses : parseBinding node modeNames global = .ok parsed) :
    node.name = "bind" ∧ bindRule.Conforms (bindRule.prune node) := by
  unfold parseBinding at parses
  obtain ⟨isBind, rest⟩ := guard_ok parses
  obtain ⟨_, checked, rest⟩ := bind_ok rest
  obtain ⟨⟨inputs, trigger⟩, folded, rest⟩ := bind_ok rest
  have read : ∀ position < node.arguments.length,
      ∃ text : String, argument String node position = .ok text := by
    intro position inside
    obtain ⟨_, _, stepped⟩ := foldlM_each folded position (List.mem_range.mpr inside)
    obtain ⟨text, isText, _⟩ := bind_ok stepped
    exact ⟨text, isText⟩
  cases trigger with
  | none => cases rest
  | some trigger =>
    have present : node.arguments ≠ [] := by
      intro absent
      rw [absent] at folded
      cases folded
    dsimp only at rest
    split at rest
    · next action only =>
      obtain ⟨_, parsedAction, _⟩ := bind_ok rest
      refine ⟨not_not.mp isBind,
        Rule.conforms_prune (accepts_several rfl present read) checked trivial ?_⟩
      show (Block.one actionRules).Conforms (node.children.map (pruneBy actionRules))
      rw [only]
      exact ⟨_, rfl, parseAction_conforms parsedAction⟩
    · cases rest

/-! ## Axes -/

theorem parseAxisChild_conforms [Scalar F] {found next : AxisChildren F} {child : KdlNode F}
    (parses : parseAxisChild found child = .ok next) :
    ConformsTo axisRules (pruneBy axisRules child) := by
  obtain ⟨kind, named, rest⟩ := bind_ok parses
  obtain ⟨words, row, isWord⟩ := oneOf_word named
  simp only [List.mem_cons, Prod.mk.injEq, List.not_mem_nil, or_false] at row
  -- for each of the three names: written a second time, which is refused, or read
  rcases row with ⟨rfl, rfl⟩ | ⟨rfl, rfl⟩ | ⟨rfl, rfl⟩ <;> rw [List.mem_singleton] at isWord <;>
    dsimp only at rest <;> split at rest
  · cases rest
  · obtain ⟨activation, parsed, _⟩ := bind_ok rest
    obtain ⟨text, read, parsed⟩ := bind_ok parsed
    obtain ⟨trigger, _, parsed⟩ := bind_ok parsed
    obtain ⟨_, checked, parsed⟩ := bind_ok parsed
    obtain ⟨engage, engageRead, parsed⟩ := bind_ok parsed
    obtain ⟨release, releaseRead, _⟩ := bind_ok parsed
    have found : axisRules.lookup child.name =
        some (leaf [.string] [("engage", .number), ("release", .number)] : Rule F) := by
      rw [isWord]
      rfl
    exact conformsTo_leaf found (accepts_one rfl read) checked
      ⟨property_reads engageRead, property_reads releaseRead⟩
  · cases rest
  · obtain ⟨activation, parsed, _⟩ := bind_ok rest
    obtain ⟨_, checked, parsed⟩ := bind_ok parsed
    obtain ⟨buttons, folded, parsed⟩ := bind_ok parsed
    -- every argument is read, whatever their number
    have read : ∀ position < child.arguments.length,
        ∃ text : String, argument String child position = .ok text := by
      intro position inside
      obtain ⟨_, _, stepped⟩ := foldlM_each folded position (List.mem_range.mpr inside)
      obtain ⟨text, isText, _⟩ := bind_ok stepped
      exact ⟨text, isText⟩
    have present : child.arguments ≠ [] := by
      intro absent
      simp [absent] at parsed
    have found : axisRules.lookup child.name = some (⟨.several .string, [], .empty⟩ : Rule F) := by
      rw [isWord]
      rfl
    exact conformsTo_prune found
      (Rule.conforms_prune (accepts_several rfl present read) checked trivial rfl)
  · cases rest
  · obtain ⟨_, checked, rest⟩ := bind_ok rest
    obtain ⟨first, read, rest⟩ := bind_ok rest
    obtain ⟨_, _, rest⟩ := bind_ok rest
    obtain ⟨second, read', rest⟩ := bind_ok rest
    have found : axisRules.lookup child.name = some (leaf [.string, .string] [] : Rule F) := by
      rw [isWord]
      rfl
    exact conformsTo_leaf found (accepts_two rfl read read') checked trivial

theorem parseAxisOptions_reads [Scalar F] {node : KdlNode F} {source target : String}
    {activation : Option (AxisActivation F)} {options : VectorOptions F × Option F}
    (parses : parseAxisOptions node source target activation = .ok options) :
    properties node ((axisRule : Rule F).properties.map Prod.fst) = .ok () ∧
      (axisRule : Rule F).properties.Forall (PropertyReads node) := by
  obtain ⟨_, checked, rest⟩ := bind_ok parses
  obtain ⟨deadzone, deadzoneRead, rest⟩ := bind_ok rest
  obtain ⟨sensitivity, sensitivityRead, rest⟩ := bind_ok rest
  obtain ⟨acceleration, accelerationRead, rest⟩ := bind_ok rest
  obtain ⟨curve, curveRead, rest⟩ := bind_ok rest
  obtain ⟨exponent, exponentRead, rest⟩ := bind_ok rest
  obtain ⟨invertX, invertXRead, rest⟩ := bind_ok rest
  obtain ⟨invertY, invertYRead, rest⟩ := bind_ok rest
  obtain ⟨swapXy, swapXyRead, _⟩ := bind_ok rest
  exact ⟨checked, propertyOr_reads deadzoneRead, propertyOr_reads sensitivityRead,
    optionalProperty_reads accelerationRead, propertyOr_reads curveRead, propertyOr_reads exponentRead,
    propertyOr_reads invertXRead, propertyOr_reads invertYRead, propertyOr_reads swapXyRead⟩

omit [Platform F] in
/-- A block of nodes that the parser has read. -/
theorem many_conforms {rules : List (String × Rule F)} {children : List (KdlNode F)}
    (each : ∀ child ∈ children, ConformsTo rules (pruneBy rules child)) :
    (Block.many rules).Conforms ((Block.many rules).prune children) := by
  intro child member
  obtain ⟨original, inside, rfl⟩ := List.mem_map.mp member
  exact each original inside

theorem group_conforms {rules : List (String × Rule F)} {node : KdlNode F}
    (checked : properties node [] = .ok ())
    (each : ∀ child ∈ node.children, ConformsTo rules (pruneBy rules child)) :
    (group rules).Conforms ((group rules).prune node) :=
  Rule.conforms_prune (accepts_none rfl node) checked trivial (many_conforms each)

theorem parseAxis_conforms [Scalar F] {node : KdlNode F} {mapping : AxisMapping F}
    (parses : parseAxis node = .ok mapping) : axisRule.Conforms (axisRule.prune node) := by
  obtain ⟨source, sourceRead, rest⟩ := bind_ok parses
  obtain ⟨target, targetRead, rest⟩ := bind_ok rest
  obtain ⟨_, rest⟩ := guard_ok rest
  obtain ⟨found, folded, rest⟩ := bind_ok rest
  obtain ⟨_, rest⟩ := guard_ok rest
  obtain ⟨options, optioned, _⟩ := bind_ok rest
  obtain ⟨checked, read⟩ := parseAxisOptions_reads optioned
  refine Rule.conforms_prune (accepts_two rfl sourceRead targetRead) checked read (many_conforms ?_)
  intro child member
  obtain ⟨_, _, stepped⟩ := foldlM_each folded child member
  exact parseAxisChild_conforms stepped

/-! ## Haptics -/

theorem parseHaptic_conforms {node : KdlNode F} {haptic : Haptic}
    (parses : parseHaptic node = .ok haptic) : hapticRule.Conforms (hapticRule.prune node) := by
  obtain ⟨_, checked, rest⟩ := bind_ok parses
  refine Rule.conforms_prune (accepts_none rfl node) checked trivial ?_
  split at rest
  · next child only =>
    refine ⟨pruneBy hapticRules child, ?_, ?_⟩
    · show node.children.map (pruneBy hapticRules) = _
      rw [only]
      rfl
    obtain ⟨kind, named, rest⟩ := bind_ok rest
    obtain ⟨words, row, isWord⟩ := oneOf_word named
    simp only [List.mem_cons, Prod.mk.injEq, List.not_mem_nil, or_false] at row
    -- each of the six kinds reads its arguments and properties one after the other
    rcases row with ⟨rfl, rfl⟩ | ⟨rfl, rfl⟩ | ⟨rfl, rfl⟩ | ⟨rfl, rfl⟩ | ⟨rfl, rfl⟩ | ⟨rfl, rfl⟩ <;>
      rw [List.mem_singleton] at isWord <;> obtain ⟨_, own, rest⟩ := bind_ok rest <;>
      obtain ⟨first, firstRead, rest⟩ := bind_ok rest
    · obtain ⟨second, secondRead, _⟩ := bind_ok rest
      have found : hapticRules.lookup child.name =
          some (leaf [] [("low-frequency", .u16), ("high-frequency", .u16)] : Rule F) := by
        rw [isWord]
        rfl
      exact conformsTo_leaf found (accepts_none rfl child) own
        ⟨property_reads firstRead, property_reads secondRead⟩
    · obtain ⟨word, wordRead, _⟩ := bind_ok rest
      have found : hapticRules.lookup child.name = some (leaf [.string] [("gain", .i8)] : Rule F) := by
        rw [isWord]
        rfl
      exact conformsTo_leaf found (accepts_one rfl wordRead) own (property_reads firstRead)
    · obtain ⟨second, secondRead, rest⟩ := bind_ok rest
      obtain ⟨third, thirdRead, _⟩ := bind_ok rest
      have found : hapticRules.lookup child.name =
          some (leaf [] [("on-us", .u16), ("off-us", .u16), ("repeat", .u16)] : Rule F) := by
        rw [isWord]
        rfl
      exact conformsTo_leaf found (accepts_none rfl child) own
        ⟨property_reads firstRead, property_reads secondRead, property_reads thirdRead⟩
    · obtain ⟨second, secondRead, rest⟩ := bind_ok rest
      obtain ⟨third, thirdRead, _⟩ := bind_ok rest
      have found : hapticRules.lookup child.name =
          some (leaf [] [("gain", .i8), ("frequency", .u16), ("duration-ms", .u16)] : Rule F) := by
        rw [isWord]
        rfl
      exact conformsTo_leaf found (accepts_none rfl child) own
        ⟨property_reads firstRead, property_reads secondRead, property_reads thirdRead⟩
    · obtain ⟨second, secondRead, rest⟩ := bind_ok rest
      obtain ⟨third, thirdRead, rest⟩ := bind_ok rest
      obtain ⟨fourth, fourthRead, _⟩ := bind_ok rest
      have found : hapticRules.lookup child.name =
          some (leaf [] [("gain", .i8), ("duration-ms", .u16), ("start-frequency", .u16),
            ("end-frequency", .u16)] : Rule F) := by
        rw [isWord]
        rfl
      exact conformsTo_leaf found (accepts_none rfl child) own
        ⟨property_reads firstRead, property_reads secondRead, property_reads thirdRead,
          property_reads fourthRead⟩
    · obtain ⟨number, numberRead, _⟩ := bind_ok rest
      have found : hapticRules.lookup child.name = some (leaf [.u8] [("gain", .i8)] : Rule F) := by
        rw [isWord]
        rfl
      exact conformsTo_leaf found (accepts_one rfl numberRead) own (property_reads firstRead)
  · cases rest

/-! ## Modes -/

variable {modeName : String}

theorem parseLayerBinding_conforms {layerName : String} {hold : Button}
    {state next : List Binding × List Issue} {item : KdlNode F × Nat}
    (parses : parseLayerBinding modeName layerName hold modeNames state item = .ok next)
    (clean : next.2 = []) : ConformsTo bindRules (pruneBy bindRules item.1) := by
  obtain ⟨issue, rfl⟩ | ⟨_, _, _, _, _, parsed, _⟩ := parseLayerBinding_cases parses
  · exact (snoc_ne_nil clean).elim
  · obtain ⟨isBind, conforms⟩ := parseBinding_conforms parsed
    exact conformsTo_prune (by rw [isBind]; rfl) conforms

theorem parseModeLayer_conforms {earlier : List (KdlNode F)} {draft next : ModeDraft F}
    {child : KdlNode F}
    (parses : parseModeLayer modeName modeNames earlier draft child = .ok next)
    (clean : next.issues = []) : layerRule.Conforms (layerRule.prune child) := by
  obtain ⟨layerName, nameRead, rest⟩ := bind_ok parses
  obtain ⟨_, checked, rest⟩ := bind_ok rest
  obtain ⟨holdName, holdRead, rest⟩ := bind_ok rest
  obtain ⟨hold, _, rest⟩ := bind_ok rest
  generalize (trim layerName).isEmpty = blank at rest
  obtain ⟨read, folded, done⟩ := bind_ok rest
  cases done
  refine Rule.conforms_prune (accepts_one rfl (throwing_ok nameRead)) (throwing_ok checked)
    (property_reads (throwing_ok holdRead)) (many_conforms ?_)
  obtain ⟨_, each⟩ := foldlM_back (fun state : List Binding × List Issue => state.2 = []) folded
    (fun _ _ _ stepped => parseLayerBinding_kept stepped) clean
  intro node member
  obtain ⟨position, found⟩ := List.mem_iff_getElem?.mp member
  obtain ⟨_, _, stepped, cleanNext⟩ := each (node, position) (List.mk_mem_zipIdx_iff_getElem?.mpr found)
  exact parseLayerBinding_conforms stepped cleanNext

theorem parseModeChild_conforms [Scalar F] {state next : List (KdlNode F) × ModeDraft F}
    {child : KdlNode F}
    (parses : parseModeChild modeName modeNames state child = .ok next)
    (clean : next.2.issues = []) : ConformsTo modeRules (pruneBy modeRules child) := by
  obtain ⟨kind, named, rest⟩ := bind_ok parses
  obtain ⟨words, row, isWord⟩ := oneOf_word (throwing_ok named)
  simp only [List.mem_cons, Prod.mk.injEq, List.not_mem_nil, or_false] at row
  rcases row with ⟨rfl, rfl⟩ | ⟨rfl, rfl⟩ | ⟨rfl, rfl⟩ <;> rw [List.mem_singleton] at isWord
  · obtain ⟨draft, parsed, done⟩ := bind_ok rest
    cases done
    obtain ⟨issue, same⟩ | ⟨_, _, _, _, bound, _⟩ := parseModeBinding_cases parsed
    · rw [same] at clean
      exact (snoc_ne_nil clean).elim
    · exact conformsTo_prune (by rw [isWord]; rfl) (parseBinding_conforms bound).2
  · cases rest
    obtain ⟨issue, same⟩ | ⟨_, _, mapped, _⟩ := parseModeAxis_cases modeName state.2 child
    · dsimp only at clean
      rw [same] at clean
      exact (snoc_ne_nil clean).elim
    · exact conformsTo_prune (by rw [isWord]; rfl) (parseAxis_conforms mapped)
  · obtain ⟨draft, parsed, done⟩ := bind_ok rest
    cases done
    exact conformsTo_prune (by rw [isWord]; rfl) (parseModeLayer_conforms parsed clean)

theorem parseMode_conforms [Scalar F] {node : KdlNode F} {issues after : List Issue} {mode : Mode F}
    (parses : parseMode node modeNames issues = .ok (mode, after)) (clean : after = []) :
    modeRule.Conforms (modeRule.prune node) := by
  obtain ⟨name, nameRead, rest⟩ := bind_ok parses
  obtain ⟨_, checked, rest⟩ := bind_ok rest
  obtain ⟨gamepad, gamepadRead, rest⟩ := bind_ok rest
  obtain ⟨touchpad, touchpadRead, rest⟩ := bind_ok rest
  obtain ⟨_, _, _, _, draft, folded, checks, _⟩ := parseMode_ok parses
  have drafted : draft.issues = [] := (foldlM_back (fun issues => issues = []) checks
    (fun _ _ _ stepped => checkLayerHold_kept stepped) clean).1
  obtain ⟨_, each⟩ := foldlM_back
    (fun state : List (KdlNode F) × ModeDraft F => state.2.issues = []) folded
    (fun _ _ _ stepped => parseModeChild_kept stepped) drafted
  refine Rule.conforms_prune (accepts_one rfl (throwing_ok nameRead)) (throwing_ok checked)
    ⟨propertyOr_reads (throwing_ok gamepadRead), optionalProperty_reads (throwing_ok touchpadRead)⟩
    (many_conforms ?_)
  intro child member
  obtain ⟨_, _, stepped, cleanNext⟩ := each child member
  exact parseModeChild_conforms stepped cleanNext

/-! ## Documents -/

omit [Platform F] in
/-- A node that may come once is the only one of its name. -/
theorem optionalNode_only {document : KdlDocument F} {name : String} {found : Option (KdlNode F)}
    (one : optionalNode document name = .ok found) {node : KdlNode F} (member : node ∈ document.nodes)
    (named : node.name = name) : found = some node := by
  have inside : node ∈ document.nodes.filter (·.name = name) :=
    List.mem_filter.mpr ⟨member, by simpa using named⟩
  unfold optionalNode at one
  split at one
  · next none =>
    rw [none] at inside
    cases inside
  · next other only =>
    cases one
    rw [only, List.mem_singleton] at inside
    rw [inside]
  · cases one

theorem requiredNode_conforms {T : Type} [FromKdl F T] {kind : ValueKind} [ReadsAs F T kind]
    {document : KdlDocument F} {name : String} {result : T × SourceSpan}
    (required : requiredNode T document name = .ok result) {node : KdlNode F}
    (member : node ∈ document.nodes) (named : node.name = name) :
    (leaf [kind] []).Conforms ((leaf [kind] []).prune node) := by
  obtain ⟨found, one, rest⟩ := bind_ok required
  rw [optionalNode_only one member named] at rest
  obtain ⟨_, checked, rest⟩ := bind_ok rest
  obtain ⟨value, read, _⟩ := bind_ok rest
  exact Rule.conforms_prune (accepts_one rfl read) checked trivial rfl

theorem validateNodes_ok {document : KdlDocument F} {allowed : List String}
    (validates : validateNodes document allowed = .ok ()) :
    ∀ node ∈ document.nodes, node.name ∈ allowed := by
  unfold validateNodes at validates
  split at validates
  · cases validates
  · next all => simpa [List.find?_eq_none] using all

theorem blockChildren_some {node : KdlNode F} {children : List (KdlNode F)}
    (block : blockChildren (some node) = .ok children) :
    properties node [] = .ok () ∧ children = node.children := by
  obtain ⟨_, checked, done⟩ := bind_ok block
  cases done
  exact ⟨throwing_ok checked, rfl⟩

theorem parseOskBinding_conforms {state next : IndexMap Button KeyCode × List Issue}
    {child : KdlNode F} (parses : parseOskBinding state child = .ok next) :
    ConformsTo oskRules (pruneBy oskRules child) := by
  unfold parseOskBinding at parses
  obtain ⟨isBind, rest⟩ := guard_ok parses
  obtain ⟨_, checked, rest⟩ := bind_ok rest
  obtain ⟨text, read, rest⟩ := bind_ok rest
  obtain ⟨_, _, rest⟩ := bind_ok rest
  obtain ⟨text', read', _⟩ := bind_ok rest
  have found : oskRules.lookup child.name = some (leaf [.string, .string] [] : Rule F) := by
    rw [not_not.mp isBind]
    rfl
  exact conformsTo_leaf found (accepts_two rfl (throwing_ok read) (throwing_ok read'))
    (throwing_ok checked) trivial

/-- The bindings of the `global` node, if none of them was reported. -/
theorem parseGlobalBindings_conforms {children : List (KdlNode F)} {issues : List Issue}
    {found : List GlobalBinding}
    (folded : children.zipIdx.foldl (parseGlobalBinding modeNames) ([], issues) = (found, [])) :
    issues = [] ∧ ∀ child ∈ children, ConformsTo bindRules (pruneBy bindRules child) := by
  have monadic : children.zipIdx.foldlM
      (fun state item => (.ok (parseGlobalBinding modeNames state item) : Except Unit _))
      ([], issues) = .ok (found, []) := by
    rw [← folded]
    exact List.foldlM_pure
  obtain ⟨clean, each⟩ := foldlM_back
    (fun state : List GlobalBinding × List Issue => state.2 = []) monadic
    (fun state item next stepped cleanNext => by
      cases stepped
      exact parseGlobalBinding_kept state item cleanNext) rfl
  refine ⟨clean, ?_⟩
  intro child member
  obtain ⟨position, placed⟩ := List.mem_iff_getElem?.mp member
  obtain ⟨state, _, stepped, cleanNext⟩ :=
    each (child, position) (List.mk_mem_zipIdx_iff_getElem?.mpr placed)
  cases stepped
  obtain ⟨issue, reported⟩ | ⟨_, _, _, _, parsed, _⟩ :=
    parseGlobalBinding_cases modeNames state (child, position)
  · rw [reported] at cleanNext
    exact (snoc_ne_nil cleanNext).elim
  · obtain ⟨isBind, conforms⟩ := parseBinding_conforms parsed
    exact conformsTo_prune (by rw [isBind]; rfl) conforms

theorem parseModeSwitchHaptic_conforms {node : KdlNode F} {haptic : Option Haptic}
    (parses : parseModeSwitchHaptic (some node) = .ok haptic) :
    hapticRule.Conforms (hapticRule.prune node) := by
  have read := throwing_ok parses
  cases parsed : parseHaptic node with
  | ok haptic => exact parseHaptic_conforms parsed
  | error issue => simp [parsed] at read

theorem parseClickPressure_conforms {node : KdlNode F} {pressure : UInt16}
    (parses : parseClickPressure (some node) = .ok pressure) :
    (leaf [] [("click-pressure", .u16)]).Conforms ((leaf [] [("click-pressure", .u16)]).prune node) := by
  obtain ⟨_, checked, read⟩ := bind_ok parses
  exact Rule.conforms_prune (accepts_none rfl node) checked (propertyOr_reads read) rfl

/-- The modes, if nothing was reported. -/
theorem parseModes_conforms [Scalar F] {nodes : List (KdlNode F)} {issues : List Issue}
    {modes : List (Mode F)}
    (folded : nodes.foldlM (parseModeNode modeNames) ([], issues) = .ok (modes, [])) :
    issues = [] ∧ ∀ node ∈ nodes, modeRule.Conforms (modeRule.prune node) := by
  obtain ⟨clean, each⟩ := foldlM_back (fun state : List (Mode F) × List Issue => state.2 = []) folded
    (fun _ _ _ stepped => parseModeNode_kept stepped) rfl
  refine ⟨clean, ?_⟩
  intro node member
  obtain ⟨state, next, stepped, cleanNext⟩ := each node member
  obtain ⟨⟨mode, after⟩, parsed, done⟩ := bind_ok stepped
  cases done
  exact parseMode_conforms parsed cleanNext

theorem fromDocument_conforms [Scalar F] {document : KdlDocument F} {config : Config F}
    (parses : Config.fromDocument document = .ok config) : document.prune.Conforms := by
  obtain ⟨_, validated, rest⟩ := bind_ok parses
  obtain ⟨⟨version, versionSpan⟩, versionRead, rest⟩ := bind_ok rest
  obtain ⟨⟨defaultMode, defaultModeSpan⟩, defaultModeRead, rest⟩ := bind_ok rest
  obtain ⟨hapticNode, isHaptic, rest⟩ := bind_ok rest
  obtain ⟨trackpad, isTrackpad, rest⟩ := bind_ok rest
  obtain ⟨osk, isOsk, rest⟩ := bind_ok rest
  obtain ⟨global, isGlobal, rest⟩ := bind_ok rest
  obtain ⟨modeSwitchHaptic, hapticRead, rest⟩ := bind_ok rest
  obtain ⟨clickPressure, pressureRead, rest⟩ := bind_ok rest
  obtain ⟨checked, _, rest⟩ := bind_ok rest
  obtain ⟨⟨modeNames, named⟩, _, rest⟩ := bind_ok rest
  obtain ⟨oskNodes, oskBlock, rest⟩ := bind_ok rest
  obtain ⟨⟨oskBindings, oskIssues⟩, osks, rest⟩ := bind_ok rest
  obtain ⟨globalNodes, globalBlock, rest⟩ := bind_ok rest
  obtain ⟨⟨modes, issues⟩, folded, rest⟩ := bind_ok rest
  dsimp only at rest
  split at rest
  · cases rest
  next noIssues =>
  obtain rfl : issues = [] := by simpa using noIssues
  -- an accepted document has no issue at the end, and so none after any of its nodes
  have eachMode : (allNodes document "mode").foldlM (parseModeNode modeNames)
      ([], (globalNodes.zipIdx.foldl (parseGlobalBinding modeNames) ([], oskIssues)).2) =
        .ok (modes, []) := folded
  obtain ⟨cleanGlobals, eachMode⟩ := parseModes_conforms eachMode
  have globals := parseGlobalBindings_conforms (Prod.ext rfl cleanGlobals)
  intro node member
  obtain ⟨original, inside, rfl⟩ := List.mem_map.mp member
  have allowed := validateNodes_ok (throwing_ok validated) original inside
  simp only [List.mem_cons, List.not_mem_nil, or_false] at allowed
  -- every node of an accepted document has one of the seven names
  rcases allowed with name | name | name | name | name | name | name
  · exact conformsTo_prune (by rw [name]; rfl)
      (requiredNode_conforms (throwing_ok versionRead) inside name)
  · exact conformsTo_prune (by rw [name]; rfl)
      (requiredNode_conforms (throwing_ok defaultModeRead) inside name)
  · rw [optionalNode_only (throwing_ok isHaptic) inside name] at hapticRead
    exact conformsTo_prune (by rw [name]; rfl) (parseModeSwitchHaptic_conforms hapticRead)
  · rw [optionalNode_only (throwing_ok isTrackpad) inside name] at pressureRead
    exact conformsTo_prune (by rw [name]; rfl)
      (parseClickPressure_conforms (throwing_ok pressureRead))
  · rw [optionalNode_only (throwing_ok isOsk) inside name] at oskBlock
    obtain ⟨ownChecked, rfl⟩ := blockChildren_some oskBlock
    refine conformsTo_prune (by rw [name]; rfl) (group_conforms ownChecked ?_)
    intro child isChild
    obtain ⟨_, _, stepped⟩ := foldlM_each osks child isChild
    exact parseOskBinding_conforms stepped
  · rw [optionalNode_only (throwing_ok isGlobal) inside name] at globalBlock
    obtain ⟨ownChecked, rfl⟩ := blockChildren_some globalBlock
    exact conformsTo_prune (by rw [name]; rfl) (group_conforms ownChecked globals.2)
  · exact conformsTo_prune (by rw [name]; rfl)
      (eachMode original (List.mem_filter.mpr ⟨inside, by simpa using name⟩))

/-- The parser ignores arguments after those that a node reads, and the children of nodes without
    a block, and nothing else: these do not change the result of any document, and what is left of
    an accepted one holds nothing that is not read. -/
theorem strict_when_pruned [Scalar F] (document : KdlDocument F) :
    Config.fromDocument document.prune = Config.fromDocument document ∧
      ∀ config, Config.fromDocument document = .ok config → document.prune.Conforms :=
  ⟨fromDocument_prune document, fun _ parses => fromDocument_conforms parses⟩

end

/-! ## Examples -/

/-- A document with one binding, on a key. -/
def keyDocument (keys : List String) (children : List (KdlNode ℚ)) : KdlDocument ℚ :=
  let argument := fun word : String => (⟨none, .string word, ⟨0, 0⟩⟩ : KdlEntry ℚ)
  { nodes := [
      .mk "version" [⟨none, .integer 1, ⟨0, 0⟩⟩] [] ⟨0, 0⟩,
      .mk "default-mode" [argument "one"] [] ⟨0, 0⟩,
      .mk "mode" [argument "one"] [
        .mk "bind" [argument "b"] [.mk "key" (keys.map argument) children ⟨0, 0⟩] ⟨0, 0⟩] ⟨0, 0⟩]
    span := ⟨0, 0⟩ }

/-- A second key and a child under the key are accepted, and change nothing. -/
theorem surplus_accepted :
    ∃ config : Config ℚ, Config.fromDocument (keyDocument ["KEY_B"] []) = .ok config ∧
      Config.fromDocument (keyDocument ["KEY_B", "KEY_C"] []) = .ok config ∧
      Config.fromDocument (keyDocument ["KEY_B"] [.mk "mode-next" [] [] ⟨0, 0⟩]) = .ok config := by
  have accepted : (Config.fromDocument (keyDocument ["KEY_B"] [])).toBool = true := by decide +kernel
  have argument : (keyDocument ["KEY_B", "KEY_C"] []).prune = keyDocument ["KEY_B"] [] := rfl
  have child : (keyDocument ["KEY_B"] [.mk "mode-next" [] [] ⟨0, 0⟩]).prune =
      keyDocument ["KEY_B"] [] := rfl
  rw [← fromDocument_prune (keyDocument ["KEY_B", "KEY_C"] []), argument,
    ← fromDocument_prune (keyDocument ["KEY_B"] [.mk "mode-next" [] [] ⟨0, 0⟩]), child]
  cases parsed : Config.fromDocument (keyDocument ["KEY_B"] []) with
  | ok config => exact ⟨config, rfl, rfl, rfl⟩
  | error rejection =>
    rw [parsed] at accepted
    cases accepted

/-- What is left of the document with the surplus key. -/
theorem example_strict : (keyDocument ["KEY_B"] []).Conforms := by
  have accepted : (Config.fromDocument (keyDocument ["KEY_B", "KEY_C"] [])).toBool = true := by
    decide +kernel
  have pruned : (keyDocument ["KEY_B", "KEY_C"] []).prune = keyDocument ["KEY_B"] [] := rfl
  cases parsed : Config.fromDocument (keyDocument ["KEY_B", "KEY_C"] []) with
  | ok config =>
    rw [← pruned]
    exact (strict_when_pruned (keyDocument ["KEY_B", "KEY_C"] [])).2 config parsed
  | error rejection =>
    rw [parsed] at accepted
    cases accepted

end Scd.Core
