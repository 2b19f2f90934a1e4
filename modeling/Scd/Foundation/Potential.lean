import Mathlib.Algebra.Order.Monoid.Defs

/-! # Sums along a run

A machine reads a list of inputs.  An amount that each of its steps adds is summed up by
`total`.  Where each step pays no more than what it takes in and what the potential falls by, a
whole run pays no more than it takes in and the potential that it starts with.
-/

namespace Scd.Foundation

universe u v w

section

variable {σ : Type u} {α : Type v} {M : Type w} [AddCommMonoid M] (step : σ → α → σ)
  (amount : σ → α → M)

/-- The sum of an amount over the steps of a run. -/
def total : σ → List α → M
  | _, [] => 0
  | state, input :: inputs => amount state input + total (step state input) inputs

@[simp] theorem total_nil (start : σ) : total step amount start [] = 0 := rfl

@[simp] theorem total_cons (start : σ) (input : α) (inputs : List α) :
    total step amount start (input :: inputs) =
      amount start input + total step amount (step start input) inputs := rfl

end

section

variable {σ : Type u} {α : Type v} {M : Type w} [AddCommMonoid M] [PartialOrder M]
  [IsOrderedAddMonoid M] {step : σ → α → σ} {paid income : σ → α → M} {potential : σ → M}
  (sound : σ → Prop) (allowed : α → Prop)

omit [AddCommMonoid M] [PartialOrder M] [IsOrderedAddMonoid M] in
theorem sound_foldl
    (kept : ∀ {state input}, sound state → allowed input → sound (step state input))
    {start : σ} {inputs : List α} (initial : sound start) (all : ∀ input ∈ inputs, allowed input) :
    sound (inputs.foldl step start) := by
  induction inputs generalizing start with
  | nil => exact initial
  | cons input inputs inductionHypothesis =>
    obtain ⟨first, rest⟩ := List.forall_mem_cons.mp all
    exact inductionHypothesis (kept initial first) rest

/-- The potential pays for what the steps take out beyond their income. -/
theorem total_add_potential_le
    (kept : ∀ {state input}, sound state → allowed input → sound (step state input))
    (pays : ∀ {state input}, sound state → allowed input →
      paid state input + potential (step state input) ≤ potential state + income state input)
    {start : σ} {inputs : List α} (initial : sound start) (all : ∀ input ∈ inputs, allowed input) :
    total step paid start inputs + potential (inputs.foldl step start) ≤
      potential start + total step income start inputs := by
  induction inputs generalizing start with
  | nil => simp
  | cons input inputs inductionHypothesis =>
    obtain ⟨first, rest⟩ := List.forall_mem_cons.mp all
    calc total step paid start (input :: inputs) + potential ((input :: inputs).foldl step start)
        = paid start input + (total step paid (step start input) inputs +
            potential (inputs.foldl step (step start input))) := by
          rw [total_cons, List.foldl_cons, add_assoc]
      _ ≤ paid start input + (potential (step start input) +
            total step income (step start input) inputs) :=
          add_le_add_right (inductionHypothesis (kept initial first) rest) _
      _ = paid start input + potential (step start input) +
            total step income (step start input) inputs := by rw [add_assoc]
      _ ≤ potential start + income start input + total step income (step start input) inputs :=
          add_le_add_left (pays initial first) _
      _ = potential start + total step income start (input :: inputs) := by
          rw [total_cons, add_assoc]

/-- What is paid, where the potential does not fall below zero. -/
theorem total_le (kept : ∀ {state input}, sound state → allowed input → sound (step state input))
    (pays : ∀ {state input}, sound state → allowed input →
      paid state input + potential (step state input) ≤ potential state + income state input)
    (nonneg : ∀ {state}, sound state → 0 ≤ potential state) {start : σ} {inputs : List α}
    (initial : sound start) (all : ∀ input ∈ inputs, allowed input) :
    total step paid start inputs ≤ potential start + total step income start inputs :=
  (le_add_of_nonneg_right (nonneg (sound_foldl sound allowed kept initial all))).trans
    (total_add_potential_le sound allowed kept pays initial all)

end

end Scd.Foundation
