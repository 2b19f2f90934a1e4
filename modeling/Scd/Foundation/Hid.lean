import Mathlib.Data.List.Basic
import Mathlib.Tactic.Ring

/-! # HID report descriptors

A report descriptor is a row of short items: global items set the state of the parser, local
items name the usages of the next main item, and a main item declares a block of fields of equal
size.  `parse` gives the blocks, each with the bit at which it begins, and `Block.value` reads a
field of a report.  Long items, strings, designators, physical units and the nesting of
collections mean nothing here.
-/

namespace Scd.Foundation.Hid

/-! ## Items -/

structure Item where
  /-- The head of the item, without the two bits of its size. -/
  tag : UInt8
  data : List UInt8
  deriving DecidableEq

/-- A little-endian number. -/
def number (bytes : List UInt8) : Nat :=
  bytes.foldr (fun byte rest => byte.toNat + 256 * rest) 0

/-- Bits that lie within a byte are read off that byte. -/
theorem number_bits (bytes : List UInt8) (index : Nat) {low size : Nat} (within : low + size ≤ 8) :
    number bytes / 2 ^ (8 * index + low) % 2 ^ size =
      (bytes.getD index 0).toNat / 2 ^ low % 2 ^ size := by
  induction index generalizing bytes with
  | zero =>
    cases bytes with
    | nil => simp [number]
    | cons byte rest =>
      -- what the later bytes add is a multiple of the bits that are read
      have whole : 256 * number rest =
          2 ^ low * (2 ^ size * (2 ^ (8 - (low + size)) * number rest)) := by
        have powers : (256 : Nat) = 2 ^ low * (2 ^ size * 2 ^ (8 - (low + size))) := by
          rw [← Nat.pow_add, ← Nat.pow_add]
          have all : low + (size + (8 - (low + size))) = 8 := by omega
          rw [all]
        rw [powers]
        ring
      have sum : number (byte :: rest) = byte.toNat + 256 * number rest := rfl
      rw [Nat.mul_zero, Nat.zero_add, sum, whole, Nat.add_mul_div_left _ _ (Nat.two_pow_pos low),
        Nat.add_mul_mod_self_left]
      rfl
  | succ index inductionHypothesis =>
    cases bytes with
    | nil => simp [number]
    | cons byte rest =>
      have sum : number (byte :: rest) = byte.toNat + 256 * number rest := rfl
      have small : byte.toNat < 256 := byte.toNat_lt
      have shifted : number (byte :: rest) / 256 = number rest := by omega
      have split : 2 ^ (8 * (index + 1) + low) = 256 * 2 ^ (8 * index + low) := by
        rw [Nat.mul_add, Nat.add_right_comm, Nat.pow_add _ _ (8 * 1)]
        ring
      rw [split, ← Nat.div_div_eq_div_mul, shifted, inductionHypothesis]
      rfl

/-- The same number, whose last bit is a sign. -/
def signed (bytes : List UInt8) : Int :=
  if number bytes < 2 ^ (8 * bytes.length - 1) then number bytes
  else number bytes - 2 ^ (8 * bytes.length)

/-- The size of three stands for four. -/
def dataSize (head : UInt8) : Nat := if head &&& 3 = 3 then 4 else (head &&& 3).toNat

def items : Nat → List UInt8 → Option (List Item)
  | _, [] => some []
  | 0, _ :: _ => none
  | fuel + 1, head :: rest =>
    -- a long item is not understood
    if head = 0xfe ∨ rest.length < dataSize head then none
    else (items fuel (rest.drop (dataSize head))).map
      (⟨head &&& 0xfc, rest.take (dataSize head)⟩ :: ·)

/-! ## Blocks -/

inductive Kind where
  | input | output | feature
  deriving DecidableEq

/-- The page of a usage, and its identifier there. -/
abbrev Usage := Nat × Nat

structure Block where
  kind : Kind
  reportId : Nat
  usages : List Usage
  flags : Nat
  minimum : Int
  maximum : Int
  size : Nat
  count : Nat
  /-- The first bit, behind the byte with the identifier of the report. -/
  offset : Nat
  deriving DecidableEq

namespace Block

def bits (block : Block) : Nat := block.size * block.count

/-- The usage of a field; the last usage is that of the fields that are left. -/
def usage (block : Block) (index : Nat) : Option Usage :=
  if index < block.count then block.usages[index]? <|> block.usages.getLast? else none

/-- The first bit of a field in the report that is sent. -/
def position (block : Block) (index : Nat) : Nat :=
  (if block.reportId = 0 then 0 else 8) + block.offset + index * block.size

/-- A field of a report. -/
def value (block : Block) (report : List UInt8) (index : Nat) : Int :=
  let unsigned := number report / 2 ^ block.position index % 2 ^ block.size
  if block.minimum < 0 ∧ 2 ^ (block.size - 1) ≤ unsigned then unsigned - 2 ^ block.size
  else unsigned

/-- A field without a sign that lies within a byte. -/
theorem value_bits (block : Block) (report : List UInt8) (index : Nat) {byte low : Nat}
    (unsigned : 0 ≤ block.minimum) (starts : block.position index = 8 * byte + low)
    (within : low + block.size ≤ 8) :
    block.value report index = ((report.getD byte 0).toNat / 2 ^ low % 2 ^ block.size : Nat) := by
  have positive : ¬ (block.minimum < 0 ∧ 2 ^ (block.size - 1) ≤
      number report / 2 ^ block.position index % 2 ^ block.size) := fun signed => by omega
  rw [value, if_neg positive, starts, number_bits report byte within]

end Block

/-- The blocks of one report. -/
def ofReport (blocks : List Block) (kind : Kind) (reportId : Nat) : List Block :=
  blocks.filter fun block => block.kind = kind ∧ block.reportId = reportId

/-- The bits of a report, without its identifier. -/
def extent (blocks : List Block) (kind : Kind) (reportId : Nat) : Nat :=
  ((ofReport blocks kind reportId).map Block.bits).sum

/-- The bytes of a report that is sent. -/
def length (blocks : List Block) (kind : Kind) (reportId : Nat) : Nat :=
  (if reportId = 0 then 0 else 1) + (extent blocks kind reportId + 7) / 8

/-- The first field with this usage. -/
def field? (blocks : List Block) (usage : Usage) : Option (Block × Nat) :=
  blocks.findSome? fun block =>
    ((List.range block.count).find? fun index => block.usage index = some usage).map (block, ·)

/-- What a report says of a usage. -/
def read (blocks : List Block) (kind : Kind) (reportId : Nat) (usage : Usage)
    (report : List UInt8) : Option Int :=
  (field? (ofReport blocks kind reportId) usage).map fun field => field.1.value report field.2

/-- A field without a sign that lies within a byte, found by its usage. -/
theorem read_bits {blocks row : List Block} {kind : Kind} {reportId : Nat} {usage : Usage}
    (same : ofReport blocks kind reportId = row) {block : Block} {index : Nat}
    (found : field? row usage = some (block, index)) (report : List UInt8) (byte low : Nat)
    (unsigned : 0 ≤ block.minimum) (starts : block.position index = 8 * byte + low)
    (within : low + block.size ≤ 8) :
    read blocks kind reportId usage report =
      some (((report.getD byte 0).toNat / 2 ^ low % 2 ^ block.size : Nat) : Int) := by
  rw [read, same, found, Option.map_some, block.value_bits report index unsigned starts within]

/-- A field that is a byte. -/
theorem read_byte {blocks row : List Block} {kind : Kind} {reportId : Nat} {usage : Usage}
    (same : ofReport blocks kind reportId = row) {block : Block} {index : Nat}
    (found : field? row usage = some (block, index)) (report : List UInt8) (byte : Nat)
    (unsigned : 0 ≤ block.minimum) (starts : block.position index = 8 * byte)
    (whole : block.size = 8) :
    read blocks kind reportId usage report = some ((report.getD byte 0).toNat : Int) := by
  have small : (report.getD byte 0).toNat < 2 ^ 8 := UInt8.toNat_lt _
  rw [read_bits same found report byte 0 unsigned starts (by omega), whole, Nat.pow_zero,
    Nat.div_one, Nat.mod_eq_of_lt small]

/-! ## The parser -/

structure Globals where
  usagePage : Nat := 0
  minimum : Int := 0
  maximum : Int := 0
  size : Nat := 0
  count : Nat := 0
  reportId : Nat := 0

structure Parser where
  globals : Globals := {}
  stack : List Globals := []
  /-- The usages of the next main item, and the first of a range. -/
  usages : List Nat := []
  first : Option Nat := none
  depth : Nat := 0
  blocks : List Block := []

namespace Parser

/-- A usage of four bytes names its own page. -/
def resolve (parser : Parser) (usage : Nat) : Usage :=
  if usage < 2 ^ 16 then (parser.globals.usagePage, usage) else (usage / 2 ^ 16, usage % 2 ^ 16)

/-- A main item is the end of the local ones. -/
def forget (parser : Parser) : Parser := { parser with usages := [], first := none }

def declare (parser : Parser) (kind : Kind) (flags : Nat) : Parser :=
  forget { parser with
    blocks := parser.blocks ++ [{
      kind, flags
      reportId := parser.globals.reportId
      usages := parser.usages.map parser.resolve
      minimum := parser.globals.minimum
      maximum := parser.globals.maximum
      size := parser.globals.size
      count := parser.globals.count
      offset := extent parser.blocks kind parser.globals.reportId }] }

def step (parser : Parser) (item : Item) : Option Parser :=
  let globals := parser.globals
  let value := number item.data
  match item.tag with
  | 0x80 => some (parser.declare .input value)
  | 0x90 => some (parser.declare .output value)
  | 0xb0 => some (parser.declare .feature value)
  | 0xa0 => some (forget { parser with depth := parser.depth + 1 })
  | 0xc0 => if parser.depth = 0 then none else some (forget { parser with depth := parser.depth - 1 })
  | 0x04 => some { parser with globals := { globals with usagePage := value } }
  | 0x14 => some { parser with globals := { globals with minimum := signed item.data } }
  | 0x24 => some { parser with globals := { globals with maximum := signed item.data } }
  | 0x74 => some { parser with globals := { globals with size := value } }
  | 0x84 => if value = 0 then none else some { parser with globals := { globals with reportId := value } }
  | 0x94 => some { parser with globals := { globals with count := value } }
  | 0xa4 => some { parser with stack := globals :: parser.stack }
  | 0xb4 =>
    match parser.stack with
    | [] => none
    | globals :: stack => some { parser with globals, stack }
  -- the physical range and the unit
  | 0x34 | 0x44 | 0x54 | 0x64 => some parser
  | 0x08 => some { parser with usages := parser.usages ++ [value] }
  | 0x18 => some { parser with first := some value }
  | 0x28 =>
    match parser.first with
    | none => none
    | some first =>
      some { parser with
        usages := parser.usages ++ List.range' first (value + 1 - first)
        first := none }
  -- designators, strings and delimiters
  | 0x38 | 0x48 | 0x58 | 0x78 | 0x88 | 0x98 | 0xa8 => some parser
  | _ => none

end Parser

/-- The blocks of a descriptor whose collections are all closed. -/
def parse (descriptor : List UInt8) : Option (List Block) := do
  let items ← items descriptor.length descriptor
  let parser ← items.foldlM Parser.step {}
  if parser.depth = 0 then some parser.blocks else none

end Scd.Foundation.Hid
