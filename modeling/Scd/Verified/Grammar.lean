import Scd.Verified.Reading

/-! # The grammar of configurations

A rule says what a node holds: its arguments, its properties and the nodes in its block.  The
parser does not look at what else stands on a node as an argument, or under a node without a
block; pruning takes this away.
-/

namespace Scd.Core

section

variable {F : Type}

/-! ## Values -/

/-- The types that an entry is read as. -/
inductive ValueKind where
  | string | bool | number
  | integer (low high : Int)

namespace ValueKind

def u8 : ValueKind := .integer 0 255

def u16 : ValueKind := .integer 0 65535

def u32 : ValueKind := .integer 0 4294967295

def i8 : ValueKind := .integer (-128) 127

/-- A value of the type. -/
def Reads : ValueKind → KdlValue F → Prop
  | .string, .string _ => True
  | .bool, .bool _ => True
  | .number, .float _ => True
  | .number, .integer _ => True
  | .integer low high, .integer value => low ≤ value ∧ value ≤ high
  | _, _ => False

end ValueKind

/-! ## Arguments -/

/-- The arguments of a node: one of each type, or any number of one type. -/
inductive Arity where
  | exactly (kinds : List ValueKind)
  | several (kind : ValueKind)

/-- The properties, and the first arguments. -/
def keepArguments : Nat → List (KdlEntry F) → List (KdlEntry F)
  | _, [] => []
  | count, entry :: rest =>
    if entry.name.isSome then entry :: keepArguments count rest
    else if count = 0 then keepArguments 0 rest
    else entry :: keepArguments (count - 1) rest

namespace Arity

def keep : Arity → List (KdlEntry F) → List (KdlEntry F)
  | .exactly kinds, entries => keepArguments kinds.length entries
  | .several _, entries => entries

def Accepts : Arity → List (KdlEntry F) → Prop
  | .exactly kinds, arguments => List.Forall₂ (fun kind entry => kind.Reads entry.value) kinds arguments
  | .several kind, arguments => arguments ≠ [] ∧ ∀ entry ∈ arguments, kind.Reads entry.value

end Arity

/-! ## Rules -/

/-- What stands under a node. -/
structure Block (F : Type) where
  prune : List (KdlNode F) → List (KdlNode F)
  Conforms : List (KdlNode F) → Prop

structure Rule (F : Type) where
  arity : Arity
  properties : List (String × ValueKind)
  block : Block F

namespace Rule

def prune (rule : Rule F) (node : KdlNode F) : KdlNode F :=
  .mk node.name (rule.arity.keep node.entries) (rule.block.prune node.children) node.span

/-- Nothing stands on the node or under it that the rule does not speak of. -/
structure Conforms (rule : Rule F) (node : KdlNode F) : Prop where
  arguments : rule.arity.Accepts node.arguments
  properties : ∀ entry ∈ node.entries, ∀ name, entry.name = some name →
    ∃ kind, (name, kind) ∈ rule.properties ∧ kind.Reads entry.value
  distinct : (node.entries.filterMap KdlEntry.name).Nodup
  block : rule.block.Conforms node.children

end Rule

/-- Prune a node by the rule for its name. -/
def pruneBy (rules : List (String × Rule F)) (node : KdlNode F) : KdlNode F :=
  match rules.lookup node.name with
  | some rule => rule.prune node
  | none => node

/-- The node is one of the grammar here. -/
def ConformsTo (rules : List (String × Rule F)) (node : KdlNode F) : Prop :=
  ∃ rule, rules.lookup node.name = some rule ∧ rule.Conforms node

namespace Block

/-- No nodes. -/
def empty : Block F where
  prune _ := []
  Conforms children := children = []

/-- Any number of nodes. -/
def many (rules : List (String × Rule F)) : Block F where
  prune children := children.map (pruneBy rules)
  Conforms children := ∀ child ∈ children, ConformsTo rules child

/-- Exactly one node. -/
def one (rules : List (String × Rule F)) : Block F where
  prune children := children.map (pruneBy rules)
  Conforms children := ∃ child, children = [child] ∧ ConformsTo rules child

end Block

/-- A node without a block. -/
def leaf (kinds : List ValueKind) (properties : List (String × ValueKind)) : Rule F :=
  ⟨.exactly kinds, properties, .empty⟩

/-- A node with nothing but a block. -/
def group (rules : List (String × Rule F)) : Rule F := ⟨.exactly [], [], .many rules⟩

/-! ## The nodes of a configuration -/

def actionRules : List (String × Rule F) :=
  [("key", leaf [.string] []), ("mouse", leaf [.string] []), ("gamepad", leaf [.string] []),
   ("mode-set", leaf [.string] []), ("mode-next", leaf [] []), ("keyboard-toggle", leaf [] [])]

def bindRule : Rule F := ⟨.several .string, [], .one actionRules⟩

def bindRules : List (String × Rule F) := [("bind", bindRule)]

def axisRules : List (String × Rule F) :=
  [("trigger", leaf [.string] [("engage", .number), ("release", .number)]),
   ("buttons", ⟨.several .string, [], .empty⟩),
   ("components", leaf [.string, .string] [])]

def axisRule : Rule F where
  arity := .exactly [.string, .string]
  properties := [("deadzone", .number), ("sensitivity", .number), ("acceleration", .number),
    ("curve", .string), ("exponent", .number), ("invert-x", .bool), ("invert-y", .bool),
    ("swap-xy", .bool)]
  block := .many axisRules

def layerRule : Rule F := ⟨.exactly [.string], [("hold", .string)], .many bindRules⟩

def modeRules : List (String × Rule F) :=
  [("bind", bindRule), ("axis", axisRule), ("layer", layerRule)]

def modeRule : Rule F :=
  ⟨.exactly [.string], [("gamepad", .string), ("touchpad", .string)], .many modeRules⟩

def hapticRules : List (String × Rule F) :=
  [("rumble", leaf [] [("low-frequency", .u16), ("high-frequency", .u16)]),
   ("trackpad-click", leaf [.string] [("gain", .i8)]),
   ("pulse", leaf [] [("on-us", .u16), ("off-us", .u16), ("repeat", .u16)]),
   ("tone", leaf [] [("gain", .i8), ("frequency", .u16), ("duration-ms", .u16)]),
   ("sweep", leaf [] [("gain", .i8), ("duration-ms", .u16), ("start-frequency", .u16),
     ("end-frequency", .u16)]),
   ("script", leaf [.u8] [("gain", .i8)])]

def hapticRule : Rule F := ⟨.exactly [], [], .one hapticRules⟩

def oskRules : List (String × Rule F) := [("bind", leaf [.string, .string] [])]

def documentRules : List (String × Rule F) :=
  [("version", leaf [.u32] []),
   ("default-mode", leaf [.string] []),
   ("mode-switch-haptic", hapticRule),
   ("trackpad", leaf [] [("click-pressure", .u16)]),
   ("osk", group oskRules),
   ("global", group bindRules),
   ("mode", modeRule)]

/-- The document without what the parser does not look at. -/
def KdlDocument.prune (document : KdlDocument F) : KdlDocument F where
  nodes := document.nodes.map (pruneBy documentRules)
  span := document.span

/-- The document holds nodes of the grammar only, and these nothing that is not read. -/
def KdlDocument.Conforms (document : KdlDocument F) : Prop :=
  ∀ node ∈ document.nodes, ConformsTo documentRules node

/-! ## What pruning keeps -/

theorem keepArguments_written (count : Nat) (entries : List (KdlEntry F)) :
    (keepArguments count entries).filter (·.name.isSome) = entries.filter (·.name.isSome) := by
  induction entries generalizing count with
  | nil => rfl
  | cons entry entries inductionHypothesis =>
    cases named : entry.name with
    | some name => simp [keepArguments, named, inductionHypothesis]
    | none =>
      -- the argument is skipped, or it is the next that is kept
      by_cases full : count = 0 <;> simp [keepArguments, named, full, inductionHypothesis]

theorem keepArguments_arguments (count : Nat) (entries : List (KdlEntry F)) :
    (keepArguments count entries).filter (·.name.isNone) =
      (entries.filter (·.name.isNone)).take count := by
  induction entries generalizing count with
  | nil => simp [keepArguments]
  | cons entry entries inductionHypothesis =>
    cases named : entry.name with
    | some name => simp [keepArguments, named, inductionHypothesis]
    | none =>
      by_cases full : count = 0
      · simp [keepArguments, named, full, inductionHypothesis]
      · simp [keepArguments, named, full, inductionHypothesis, List.take_cons (Nat.pos_of_ne_zero full)]

namespace Rule

@[simp] theorem name_prune (rule : Rule F) (node : KdlNode F) : (rule.prune node).name = node.name :=
  rfl

@[simp] theorem span_prune (rule : Rule F) (node : KdlNode F) : (rule.prune node).span = node.span :=
  rfl

@[simp] theorem children_prune (rule : Rule F) (node : KdlNode F) :
    (rule.prune node).children = rule.block.prune node.children := rfl

theorem written_prune (rule : Rule F) (node : KdlNode F) :
    (rule.prune node).written = node.written := by
  cases arity : rule.arity with
  | exactly kinds =>
    have kept := keepArguments_written kinds.length node.entries
    simpa [KdlNode.written, prune, KdlNode.entries, arity, Arity.keep] using kept
  | several kind => simp [KdlNode.written, prune, KdlNode.entries, arity, Arity.keep]

/-- Arguments are kept if the node takes any number of them. -/
theorem arguments_several {rule : Rule F} {kind : ValueKind} (arity : rule.arity = .several kind)
    (node : KdlNode F) : (rule.prune node).arguments = node.arguments := by
  simp [KdlNode.arguments, prune, KdlNode.entries, arity, Arity.keep]

theorem arguments_exactly {rule : Rule F} {kinds : List ValueKind} (arity : rule.arity = .exactly kinds)
    (node : KdlNode F) : (rule.prune node).arguments = node.arguments.take kinds.length := by
  have kept := keepArguments_arguments kinds.length node.entries
  simpa [KdlNode.arguments, prune, KdlNode.entries, arity, Arity.keep] using kept

/-- A node reads like the pruned node. -/
theorem alike_exactly {rule : Rule F} {kinds : List ValueKind} (arity : rule.arity = .exactly kinds)
    (node : KdlNode F) : ReadAlike kinds.length (rule.prune node) node where
  name := rfl
  span := rfl
  arguments position read := by rw [arguments_exactly arity, List.getElem?_take_of_lt read]
  written := written_prune rule node

theorem alike_several {rule : Rule F} {kind : ValueKind} (arity : rule.arity = .several kind)
    (count : Nat) (node : KdlNode F) : ReadAlike count (rule.prune node) node where
  name := rfl
  span := rfl
  arguments position _ := by rw [arguments_several arity]
  written := written_prune rule node

end Rule

theorem pruneBy_found {rules : List (String × Rule F)} {node : KdlNode F} {rule : Rule F}
    (found : rules.lookup node.name = some rule) : pruneBy rules node = rule.prune node := by
  rw [pruneBy, found]

@[simp] theorem name_pruneBy (rules : List (String × Rule F)) (node : KdlNode F) :
    (pruneBy rules node).name = node.name := by
  unfold pruneBy
  split <;> rfl

@[simp] theorem span_pruneBy (rules : List (String × Rule F)) (node : KdlNode F) :
    (pruneBy rules node).span = node.span := by
  unfold pruneBy
  split <;> rfl

end

end Scd.Core
