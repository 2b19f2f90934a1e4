import Mathlib.Data.Option.Basic

/-! # Matchings

Two tables that name each other's keys: one finds `b` at `a` when the other finds `a` at
`b`.  An entry that is changed in both at once keeps them matched.
-/

namespace Scd.Foundation

universe u v

variable {α : Type u} {β : Type v}

def Matching (left : α → Option β) (right : β → Option α) : Prop :=
  ∀ a b, left a = some b ↔ right b = some a

namespace Matching

variable {left left' : α → Option β} {right right' : β → Option α}

theorem injective (matching : Matching left right) {a a' : α} {b : β} (found : left a = some b)
    (found' : left a' = some b) : a = a' := by
  rw [matching] at found found'
  exact Option.some.inj (found.symm.trans found')

variable [DecidableEq α] [DecidableEq β]

/-- A pair that is linked already, or that is free on both sides, is linked. -/
theorem link (matching : Matching left right) {a : α} {b : β}
    (free : left a = some b ∨ left a = none ∧ right b = none)
    (atLeft : ∀ c, left' c = if c = a then some b else left c)
    (atRight : ∀ d, right' d = if d = b then some a else right d) : Matching left' right' := by
  intro c d
  rw [atLeft, atRight]
  by_cases sameLeft : c = a
  · by_cases sameRight : d = b
    · simp [sameLeft, sameRight]
    · subst sameLeft
      rw [if_pos rfl, if_neg sameRight, ← matching, Option.some.injEq]
      constructor
      · intro same
        exact absurd same.symm sameRight
      · intro found
        rcases free with linked | ⟨absent, _⟩
        · exact Option.some.inj (linked.symm.trans found)
        · rw [absent] at found
          cases found
  · by_cases sameRight : d = b
    · subst sameRight
      rw [if_neg sameLeft, if_pos rfl, matching, Option.some.injEq]
      constructor
      · intro found
        rcases free with linked | ⟨_, absent⟩
        · rw [matching] at linked
          exact Option.some.inj (linked.symm.trans found)
        · rw [absent] at found
          cases found
      · intro same
        exact absurd same.symm sameLeft
    · rw [if_neg sameLeft, if_neg sameRight, matching]

/-- A linked pair is removed from both sides. -/
theorem unlink (matching : Matching left right) {a : α} {b : β} (linked : left a = some b)
    (atLeft : ∀ c, left' c = if c = a then none else left c)
    (atRight : ∀ d, right' d = if d = b then none else right d) : Matching left' right' := by
  intro c d
  rw [atLeft, atRight]
  by_cases sameLeft : c = a
  · by_cases sameRight : d = b
    · simp [sameLeft, sameRight]
    · subst sameLeft
      rw [if_pos rfl, if_neg sameRight, ← matching, linked]
      simp [Ne.symm sameRight]
  · by_cases sameRight : d = b
    · subst sameRight
      rw [if_neg sameLeft, if_pos rfl]
      have other : left c ≠ some d := fun found => sameLeft (matching.injective found linked)
      simp [other]
    · rw [if_neg sameLeft, if_neg sameRight, matching]

end Matching

end Scd.Foundation
