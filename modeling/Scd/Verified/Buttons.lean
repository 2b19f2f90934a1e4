import Mathlib.Data.BitVec
import Scd.Core.Protocol

/-! # Sets of buttons

`Buttons` is a word of 32 bits; these lemmas read it as the set of the buttons it contains.
Two bits have no button.  A set that was built from buttons has neither of them (`Named`),
and only of such a set do `containsAll` and equality say something about buttons alone.
-/

namespace Scd.Core

namespace Button

theorem index_lt (button : Button) : button.index < 30 := by cases button <;> decide

theorem index_injective {left right : Button} (same : left.index = right.index) : left = right := by
  cases left <;> cases right <;> first | rfl | (exact absurd same (by decide))

theorem index_ne {left right : Button} (differs : right ≠ left) : left.index ≠ right.index := by
  intro equal
  exact differs (index_injective equal).symm

/-- Every named bit belongs to a button. -/
theorem exists_index {bit : Nat} (lt : bit < 30) : ∃ button : Button, button.index = bit := by
  have listed : ∀ bit < 30, ∃ button ∈ all, button.index = bit := by decide
  obtain ⟨button, _, equal⟩ := listed bit lt
  exact ⟨button, equal⟩

@[simp] theorem mem_all (button : Button) : button ∈ all := by cases button <;> decide

end Button

namespace Buttons

/-- No bit is set but those of buttons. -/
def Named (buttons : Buttons) : Prop := ∀ bit, 30 ≤ bit → buttons.bits.getLsbD bit = false

theorem contains_eq (buttons : Buttons) (button : Button) :
    buttons.contains button = buttons.bits.getLsbD button.index := by
  have lt : button.index < 32 := Nat.lt_trans button.index_lt (by decide)
  rw [contains, Button.mask, BitVec.and_twoPow]
  cases set : buttons.bits.getLsbD button.index with
  | false => rfl
  | true =>
    have nonzero : BitVec.twoPow 32 button.index ≠ 0 := by
      intro zero
      have bit := congrArg (BitVec.getLsbD · button.index) zero
      simp [lt] at bit
    simpa using nonzero

@[simp] theorem contains_empty (button : Button) : contains {} button = false := by
  rw [contains_eq]
  exact BitVec.getLsbD_zero

@[simp] theorem contains_insert (buttons : Buttons) (button other : Button) :
    (buttons.insert button).contains other = (buttons.contains other || decide (other = button)) := by
  have lt : other.index < 32 := Nat.lt_trans other.index_lt (by decide)
  rw [contains_eq, contains_eq, insert, Button.mask, BitVec.getLsbD_or, BitVec.getLsbD_twoPow]
  by_cases same : other = button
  · simp [same, same ▸ lt]
  · have differs : button.index ≠ other.index := Button.index_ne same
    simp [same, differs]

@[simp] theorem contains_remove (buttons : Buttons) (button other : Button) :
    (buttons.remove button).contains other = (buttons.contains other && !decide (other = button)) := by
  have lt : other.index < 32 := Nat.lt_trans other.index_lt (by decide)
  rw [contains_eq, contains_eq, remove, Button.mask, BitVec.getLsbD_and, BitVec.getLsbD_not,
    BitVec.getLsbD_twoPow]
  by_cases same : other = button
  · simp [same, same ▸ lt]
  · have differs : button.index ≠ other.index := Button.index_ne same
    simp [same, differs, lt]

@[simp] theorem contains_removeInactive (buttons active : Buttons) (button : Button) :
    (buttons.removeInactive active).contains button =
      (buttons.contains button && active.contains button) := by
  simp [contains_eq, removeInactive, BitVec.getLsbD_and]

theorem named_empty : Named {} := by
  intro bit _
  exact BitVec.getLsbD_zero

theorem Named.insert {buttons : Buttons} (named : buttons.Named) (button : Button) :
    (buttons.insert button).Named := by
  intro bit le
  have differs : button.index ≠ bit := by
    have := button.index_lt
    omega
  simp [Buttons.insert, Button.mask, named bit le, differs]

theorem Named.remove {buttons : Buttons} (named : buttons.Named) (button : Button) :
    (buttons.remove button).Named := by
  intro bit le
  simp [Buttons.remove, named bit le]

/-- Two sets of buttons with the same members are equal. -/
theorem Named.ext {left right : Buttons} (namedLeft : left.Named) (namedRight : right.Named)
    (same : ∀ button, left.contains button = right.contains button) : left = right := by
  obtain ⟨left⟩ := left
  obtain ⟨right⟩ := right
  congr 1
  refine BitVec.eq_of_getLsbD_eq ?_
  intro bit _
  by_cases named : bit < 30
  · obtain ⟨button, rfl⟩ := Button.exists_index named
    simpa [contains_eq] using same button
  · rw [namedLeft bit (by omega), namedRight bit (by omega)]

theorem containsAll_contains {buttons wanted : Buttons} (all : buttons.containsAll wanted = true)
    {button : Button} (member : wanted.contains button = true) : buttons.contains button = true := by
  have equal : buttons.bits &&& wanted.bits = wanted.bits := by simpa [containsAll] using all
  rw [contains_eq] at member ⊢
  rw [← equal, BitVec.getLsbD_and, Bool.and_eq_true] at member
  exact member.1

theorem containsAll_iff {wanted : Buttons} (named : wanted.Named) (buttons : Buttons) :
    buttons.containsAll wanted = true ↔
      ∀ button, wanted.contains button = true → buttons.contains button = true := by
  refine ⟨fun all _ member => containsAll_contains all member, ?_⟩
  intro members
  rw [containsAll, beq_iff_eq]
  refine BitVec.eq_of_getLsbD_eq ?_
  intro bit _
  rw [BitVec.getLsbD_and]
  by_cases isNamed : bit < 30
  · obtain ⟨button, rfl⟩ := Button.exists_index isNamed
    have := members button
    rw [contains_eq, contains_eq] at this
    cases wantedBit : wanted.bits.getLsbD button.index with
    | false => simp
    | true => simp [this wantedBit]
  · rw [named bit (by omega), Bool.and_false]

theorem meets_eq_false_iff (left right : Buttons) :
    left.meets right = false ↔
      ∀ button, left.contains button = true → right.contains button = false := by
  simp [meets]

@[simp] theorem contains_ofList (buttons : List Button) (button : Button) :
    (ofList buttons).contains button = decide (button ∈ buttons) := by
  suffices general : ∀ start : Buttons, (buttons.foldl insert start).contains button =
      (start.contains button || decide (button ∈ buttons)) by
    rw [ofList, general {}, contains_empty, Bool.false_or]
  induction buttons with
  | nil => simp
  | cons first rest inductionHypothesis =>
    intro start
    rw [List.foldl_cons, inductionHypothesis]
    simp [Bool.or_assoc]

end Buttons

end Scd.Core
