import Mathlib.Data.List.Induction

/-! # Switches with a hysteresis

A switch turns on with an input of one kind and stays on with inputs of another, which are more.
It is on if and only if it was turned on by some input, and has stayed on with each input since.
-/

namespace Scd.Foundation

universe u

variable {α : Type u}

/-- The switch after some inputs. -/
def switchAfter (engages stays : α → Bool) (on : Bool) (inputs : List α) : Bool :=
  inputs.foldl (fun on input => if on then stays input else engages input) on

/-- An input that turns the switch on, after which each one lets it stay on. -/
def EngagedSince (engages stays : α → Bool) (inputs : List α) : Prop :=
  ∃ early input late, inputs = early ++ input :: late ∧ engages input = true ∧
    ∀ other ∈ late, stays other = true

theorem engagedSince_snoc {engages stays : α → Bool} (inputs : List α) (last : α) :
    EngagedSince engages stays (inputs ++ [last]) ↔
      engages last = true ∨ (EngagedSince engages stays inputs ∧ stays last = true) := by
  constructor
  · rintro ⟨early, input, late, split, engaged, stayed⟩
    cases late using List.reverseRecOn with
    | nil =>
      obtain ⟨_, same⟩ := List.append_inj' split rfl
      cases same
      exact .inl engaged
    | append_singleton late other =>
      have split : inputs ++ [last] = (early ++ input :: late) ++ [other] := by
        rw [split, List.append_assoc, List.cons_append]
      obtain ⟨rfl, same⟩ := List.append_inj' split rfl
      cases same
      have earlier : ∀ other ∈ late, stays other = true := fun other member =>
        stayed other (List.mem_append_left _ member)
      exact .inr ⟨⟨early, input, late, rfl, engaged, earlier⟩, stayed last (by simp)⟩
  · rintro (engaged | ⟨⟨early, input, late, rfl, engaged, stayed⟩, stays'⟩)
    · exact ⟨inputs, last, [], rfl, engaged, by simp⟩
    · refine ⟨early, input, late ++ [last], by simp, engaged, ?_⟩
      intro other member
      cases List.mem_append.mp member with
      | inl earlier => exact stayed other earlier
      | inr same =>
        rw [List.mem_singleton.mp same]
        exact stays'

/-- A switch that was off at first. -/
theorem switchAfter_iff {engages stays : α → Bool}
    (more : ∀ input, engages input = true → stays input = true) (inputs : List α) :
    switchAfter engages stays false inputs = true ↔ EngagedSince engages stays inputs := by
  induction inputs using List.reverseRecOn with
  | nil => simp [switchAfter, EngagedSince]
  | append_singleton inputs last inductionHypothesis =>
    rw [engagedSince_snoc, ← inductionHypothesis]
    unfold switchAfter
    rw [List.foldl_append, List.foldl_cons, List.foldl_nil]
    cases List.foldl (fun on input => if on then stays input else engages input) false inputs with
    | false => simp
    | true =>
      have stayed := more last
      simp only [if_true, true_and]
      exact ⟨.inr, fun either => either.elim stayed id⟩

end Scd.Foundation
