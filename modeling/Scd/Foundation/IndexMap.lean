import Mathlib.Data.List.Basic
import Mathlib.Data.List.Nodup

/-! # Insertion-ordered maps

`IndexMap κ ν` is a list of entries without a repeated key.  A new key is appended,
an old key keeps its position when its value is replaced, and `shiftRemove` closes the
gap.  `get?_eq_some_iff` is the lemma the others rest on: a lookup is membership in the
list of entries.
-/

namespace Scd.Foundation

universe u v

structure IndexMap (κ : Type u) (ν : Type v) where
  entries : List (κ × ν)
  nodup : (entries.map Prod.fst).Nodup

namespace IndexMap

variable {κ : Type u} {ν : Type v}

@[ext] theorem ext {left right : IndexMap κ ν} (equal : left.entries = right.entries) :
    left = right := by
  cases left
  cases right
  cases equal
  rfl

def empty : IndexMap κ ν := ⟨[], List.nodup_nil⟩

def keys (map : IndexMap κ ν) : List κ := map.entries.map Prod.fst

def length (map : IndexMap κ ν) : Nat := map.entries.length

/-- The entry at a position, as `get_index`. -/
def getIndex? (map : IndexMap κ ν) (index : Nat) : Option (κ × ν) := map.entries[index]?

theorem keys_nodup (map : IndexMap κ ν) : map.keys.Nodup := map.nodup

@[simp] theorem keys_empty : (empty : IndexMap κ ν).keys = [] := rfl
@[simp] theorem entries_empty : (empty : IndexMap κ ν).entries = [] := rfl

theorem mem_keys {map : IndexMap κ ν} {key : κ} :
    key ∈ map.keys ↔ ∃ value, (key, value) ∈ map.entries := by
  simp [keys]

/-- A key has at most one value. -/
theorem value_unique (map : IndexMap κ ν) {key : κ} {left right : ν}
    (hl : (key, left) ∈ map.entries) (hr : (key, right) ∈ map.entries) : left = right := by
  have equal := List.inj_on_of_nodup_map map.nodup hl hr rfl
  exact congrArg Prod.snd equal

variable [DecidableEq κ]

def get? (map : IndexMap κ ν) (key : κ) : Option ν :=
  (map.entries.find? fun entry => entry.1 = key).map Prod.snd

def contains (map : IndexMap κ ν) (key : κ) : Bool := (map.get? key).isSome

theorem get?_eq_some_iff {map : IndexMap κ ν} {key : κ} {value : ν} :
    map.get? key = some value ↔ (key, value) ∈ map.entries := by
  constructor
  · intro found
    obtain ⟨⟨key', value'⟩, hfind, rfl⟩ := Option.map_eq_some_iff.mp found
    have same : key' = key := by simpa using List.find?_some hfind
    exact same ▸ List.mem_of_find?_eq_some hfind
  · intro member
    cases hfind : map.entries.find? fun entry => decide (entry.1 = key) with
    | none =>
      have := List.find?_eq_none.mp hfind _ member
      simp at this
    | some entry =>
      obtain ⟨key', value'⟩ := entry
      have same : key' = key := by simpa using List.find?_some hfind
      subst same
      have equal := map.value_unique (List.mem_of_find?_eq_some hfind) member
      simp [get?, hfind, equal]

theorem get?_eq_none_iff {map : IndexMap κ ν} {key : κ} : map.get? key = none ↔ key ∉ map.keys := by
  rw [mem_keys, ← not_iff_not, not_not, ← ne_eq, Option.ne_none_iff_exists']
  simp only [get?_eq_some_iff]

theorem contains_iff {map : IndexMap κ ν} {key : κ} : map.contains key = true ↔ key ∈ map.keys := by
  rw [contains, ← not_iff_not, ← get?_eq_none_iff]
  simp

@[simp] theorem get?_empty (key : κ) : (empty : IndexMap κ ν).get? key = none := rfl

/-- Insert a value: in place when the key is present, at the end when it is new. -/
def insert (map : IndexMap κ ν) (key : κ) (value : ν) : IndexMap κ ν where
  entries :=
    if map.contains key then
      map.entries.map fun entry => if entry.1 = key then (key, value) else entry
    else map.entries ++ [(key, value)]
  nodup := by
    split
    · have same : ((map.entries.map fun entry => if entry.1 = key then (key, value) else entry).map
          Prod.fst) = map.entries.map Prod.fst := by
        rw [List.map_map]
        apply List.map_congr_left
        intro entry _
        by_cases h : entry.1 = key <;> simp [h]
      rw [same]
      exact map.nodup
    · next absent =>
      have fresh : key ∉ map.entries.map Prod.fst := by
        simpa [contains_iff, keys] using absent
      rw [List.map_append, List.nodup_append]
      refine ⟨map.nodup, by simp, ?_⟩
      intro left hl right hr equal
      simp only [List.map_cons, List.map_nil, List.mem_singleton] at hr
      exact fresh (hr ▸ equal ▸ hl)

/-- Remove a key and close the gap, as `shift_remove`. -/
def shiftRemove (map : IndexMap κ ν) (key : κ) : IndexMap κ ν where
  entries := map.entries.filter fun entry => entry.1 ≠ key
  nodup := map.nodup.sublist (List.filter_sublist.map _)

theorem mem_insert {map : IndexMap κ ν} {key key' : κ} {value value' : ν} :
    (key', value') ∈ (map.insert key value).entries ↔
      (key' = key ∧ value' = value) ∨ (key' ≠ key ∧ (key', value') ∈ map.entries) := by
  unfold insert
  by_cases present : map.contains key = true
  · obtain ⟨old, hold⟩ := mem_keys.mp (contains_iff.mp present)
    simp only [present, if_true, List.mem_map]
    constructor
    · rintro ⟨⟨found, oldValue⟩, member, equal⟩
      by_cases same : found = key
      · simp only [same, if_true, Prod.mk.injEq] at equal
        exact .inl ⟨equal.1.symm, equal.2.symm⟩
      · simp only [same, if_false, Prod.mk.injEq] at equal
        obtain ⟨rfl, rfl⟩ := equal
        exact .inr ⟨same, member⟩
    · rintro (⟨rfl, rfl⟩ | ⟨differ, member⟩)
      · exact ⟨_, hold, by simp⟩
      · exact ⟨_, member, by simp [differ]⟩
  · have absent : key ∉ map.keys := fun member => present (contains_iff.mpr member)
    simp only [present, if_false, Bool.false_eq_true, List.mem_append, List.mem_singleton,
      Prod.mk.injEq]
    constructor
    · rintro (member | equal)
      · exact .inr ⟨fun same => absent (mem_keys.mpr ⟨_, same ▸ member⟩), member⟩
      · exact .inl equal
    · rintro (equal | ⟨_, member⟩)
      · exact .inr equal
      · exact .inl member

theorem mem_shiftRemove {map : IndexMap κ ν} {key key' : κ} {value' : ν} :
    (key', value') ∈ (map.shiftRemove key).entries ↔ key' ≠ key ∧ (key', value') ∈ map.entries := by
  simp [shiftRemove, and_comm]

theorem get?_insert (map : IndexMap κ ν) (key key' : κ) (value : ν) :
    (map.insert key value).get? key' = if key' = key then some value else map.get? key' := by
  apply Option.ext
  intro found
  rw [get?_eq_some_iff, mem_insert]
  by_cases same : key' = key
  · simp [same, eq_comm]
  · simp [same, get?_eq_some_iff]

theorem get?_insert_self (map : IndexMap κ ν) (key : κ) (value : ν) :
    (map.insert key value).get? key = some value := by
  rw [get?_insert, if_pos rfl]

theorem get?_insert_other (map : IndexMap κ ν) {key key' : κ} (value : ν) (differs : key' ≠ key) :
    (map.insert key value).get? key' = map.get? key' := by
  rw [get?_insert, if_neg differs]

theorem get?_shiftRemove (map : IndexMap κ ν) (key key' : κ) :
    (map.shiftRemove key).get? key' = if key' = key then none else map.get? key' := by
  apply Option.ext
  intro found
  rw [get?_eq_some_iff, mem_shiftRemove]
  by_cases same : key' = key
  · simp [same]
  · simp [same, get?_eq_some_iff]

theorem get?_shiftRemove_self (map : IndexMap κ ν) (key : κ) :
    (map.shiftRemove key).get? key = none := by
  rw [get?_shiftRemove, if_pos rfl]

theorem get?_shiftRemove_other (map : IndexMap κ ν) {key key' : κ} (differs : key' ≠ key) :
    (map.shiftRemove key).get? key' = map.get? key' := by
  rw [get?_shiftRemove, if_neg differs]

theorem mem_keys_iff_get? {map : IndexMap κ ν} {key : κ} :
    key ∈ map.keys ↔ ∃ value, map.get? key = some value := by
  simp only [mem_keys, get?_eq_some_iff]

end IndexMap

end Scd.Foundation
