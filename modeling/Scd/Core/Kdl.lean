import Scd.Core.Config

/-! # KDL documents

The part of the `kdl` crate's data model that the configuration parser reads, the parts of
the platform it relies on, and the helpers of `kdl.rs`.
-/

namespace Scd.Core

structure SourceSpan where
  offset : Nat
  length : Nat
  deriving DecidableEq, Repr

/-- A float is read by the program through `as f32` only, so that is what the value holds. -/
inductive KdlValue (F : Type) where
  | string (value : String)
  | integer (value : Int)
  | float (value : F)
  | bool (value : Bool)
  | null

/-- An argument (without a name) or a property (with one). -/
structure KdlEntry (F : Type) where
  name : Option String
  value : KdlValue F
  span : SourceSpan

/-- A node with its entries and its child nodes; an empty block of children reads as none. -/
inductive KdlNode (F : Type) where
  | mk (name : String) (entries : List (KdlEntry F)) (children : List (KdlNode F))
      (span : SourceSpan)

namespace KdlNode

variable {F : Type}

def name : KdlNode F → String
  | .mk name _ _ _ => name

def entries : KdlNode F → List (KdlEntry F)
  | .mk _ entries _ _ => entries

def children : KdlNode F → List (KdlNode F)
  | .mk _ _ children _ => children

def span : KdlNode F → SourceSpan
  | .mk _ _ _ span => span

/-- The entries without a name. -/
def arguments (node : KdlNode F) : List (KdlEntry F) := node.entries.filter (·.name.isNone)

/-- `entry(name)`: the last entry with that name. -/
def namedEntry (node : KdlNode F) (name : String) : Option (KdlEntry F) :=
  (node.entries.filter fun entry => entry.name = some name).getLast?

end KdlNode

structure KdlDocument (F : Type) where
  nodes : List (KdlNode F)
  span : SourceSpan

/-- What the program takes from outside the repository: the KDL parser, the names of the
    key codes, upper-casing, the debug format of strings, and the place in the source that
    an error message ends with. -/
class Platform (F : Type) where
  parseKdl : String → Except String (KdlDocument F)
  keyFromStr : String → Option KeyCode
  toUppercase : Char → List Char
  debugStr : String → String
  located : String → String

/-- A platform to evaluate examples on: a parser that knows the empty document only, the key
    codes of four letters, and upper case as in ASCII. -/
instance : Platform ℚ where
  parseKdl source := if source = "" then .ok ⟨[], ⟨0, 0⟩⟩ else .error "not a KDL document"
  keyFromStr text :=
    if text = "KEY_A" then some ⟨30⟩ else if text = "KEY_B" then some ⟨48⟩
    else if text = "KEY_C" then some ⟨46⟩ else if text = "KEY_D" then some ⟨32⟩ else none
  toUppercase character := [character.toUpper]
  debugStr := String.quote
  located message := message

/-- A message with the place it is about. -/
structure Issue where
  message : String
  span : SourceSpan
  deriving DecidableEq, Repr

section

variable {F : Type} [Scalar F] [Platform F]

/-- Types an entry can be read as. -/
class FromKdl (F T : Type) where
  fromKdl : KdlEntry F → String → Except Issue T

instance : FromKdl F String where
  fromKdl entry field :=
    match entry.value with
    | .string value => .ok value
    | _ => .error ⟨field ++ " must be a string", entry.span⟩

instance : FromKdl F Bool where
  fromKdl entry field :=
    match entry.value with
    | .bool value => .ok value
    | _ => .error ⟨field ++ " must be a boolean", entry.span⟩

/-- `f32`: a float, or an integer converted to one. -/
instance : FromKdl F F where
  fromKdl entry field :=
    match entry.value with
    | .float value => .ok value
    | .integer value => .ok (Scalar.ofInt value)
    | _ => .error ⟨field ++ " must be a number", entry.span⟩

/-- The integer types: an integer in the range of the type. -/
def integerFromKdl {T : Type} (low high : Int) (convert : Int → T) (entry : KdlEntry F)
    (field : String) : Except Issue T :=
  match entry.value with
  | .integer value =>
    if low ≤ value ∧ value ≤ high then .ok (convert value)
    else .error ⟨field ++ " is out of range", entry.span⟩
  | _ => .error ⟨field ++ " must be an integer", entry.span⟩

instance : FromKdl F UInt8 where
  fromKdl := integerFromKdl 0 255 fun value => UInt8.ofInt value

instance : FromKdl F UInt16 where
  fromKdl := integerFromKdl 0 65535 fun value => UInt16.ofInt value

instance : FromKdl F UInt32 where
  fromKdl := integerFromKdl 0 4294967295 fun value => UInt32.ofInt value

instance : FromKdl F Int8 where
  fromKdl := integerFromKdl (-128) 127 fun value => Int8.ofInt value

def argument (T : Type) [FromKdl F T] (node : KdlNode F) (position : Nat) : Except Issue T :=
  match node.arguments[position]? with
  | some entry => FromKdl.fromKdl entry "argument"
  | none => .error ⟨node.name ++ " requires argument " ++ toString position, node.span⟩

def property (T : Type) [FromKdl F T] (node : KdlNode F) (name : String) : Except Issue T :=
  match node.namedEntry name with
  | some entry => FromKdl.fromKdl entry name
  | none => .error
    ⟨node.name ++ " requires property " ++ Platform.debugStr F name, node.span⟩

def optionalProperty (T : Type) [FromKdl F T] (node : KdlNode F) (name : String) :
    Except Issue (Option T) :=
  match node.namedEntry name with
  | some entry => some <$> FromKdl.fromKdl entry name
  | none => .ok none

/-- A property with a default. -/
def propertyOr {T : Type} [FromKdl F T] (node : KdlNode F) (name : String) (default : T) :
    Except Issue T := do
  return (← optionalProperty T node name).getD default

/-- Every property is one of `allowed`, and none is written twice. -/
def properties (node : KdlNode F) (allowed : List String) : Except Issue Unit :=
  go [] node.entries
where
  go (earlier : List (KdlEntry F)) : List (KdlEntry F) → Except Issue Unit
    | [] => .ok ()
    | entry :: rest =>
      match entry.name with
      | none => go (earlier ++ [entry]) rest
      | some name =>
        if name ∉ allowed then
          .error ⟨node.name ++ " has unexpected property " ++ Platform.debugStr F name, entry.span⟩
        else if earlier.any fun before => before.name = some name then
          .error ⟨node.name ++ " has duplicate property " ++ Platform.debugStr F name, entry.span⟩
        else go (earlier ++ [entry]) rest

/-- The `one_of!` macro: look a word up in a table. -/
def oneOf {T : Type} (node : KdlNode F) (value expected : String) (table : List (List String × T)) :
    Except Issue T :=
  match table.find? fun row => value ∈ row.1 with
  | some row => .ok row.2
  | none => .error
    ⟨"expected " ++ expected ++ " to be one of [" ++
      ", ".intercalate ((table.flatMap Prod.fst).map (Platform.debugStr F)) ++ "], got " ++
      Platform.debugStr F value, node.span⟩

/-! ## Nodes of a document -/

def optionalNode (document : KdlDocument F) (name : String) : Except Issue (Option (KdlNode F)) :=
  match document.nodes.filter (·.name = name) with
  | [] => .ok none
  | [node] => .ok (some node)
  | _ :: duplicate :: _ => .error ⟨"duplicate " ++ name ++ " node", duplicate.span⟩

/-- A node that must be there, read as its only argument. -/
def requiredNode (T : Type) [FromKdl F T] (document : KdlDocument F) (name : String) :
    Except Issue (T × SourceSpan) := do
  match ← optionalNode document name with
  | none => .error ⟨"missing " ++ name ++ " node", document.span⟩
  | some node =>
    properties node []
    let value ← argument T node 0
    return (value, (node.arguments[0]?.map (·.span)).getD node.span)

def allNodes (document : KdlDocument F) (name : String) : List (KdlNode F) :=
  document.nodes.filter (·.name = name)

def validateNodes (document : KdlDocument F) (allowed : List String) : Except Issue Unit :=
  match document.nodes.find? fun node => node.name ∉ allowed with
  | some node => .error ⟨"unexpected node " ++ Platform.debugStr F node.name, node.span⟩
  | none => .ok ()

end

end Scd.Core
