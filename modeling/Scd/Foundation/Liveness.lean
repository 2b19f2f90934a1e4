import Mathlib.Order.WellFounded
import Scd.Foundation.Path

/-! # Infinite executions

What must happen, in a system some of whose steps come again and again.  `leads_to` is the rule
for it: a rank that no step raises, and that the steps of one kind lower, until the goal is met.
The rank is a relation, so that it may follow one item of many.
-/

namespace Scd.Foundation

universe u v w

variable {σ : Type u} {ω : Type v} {step : σ → List ω → σ → Prop}

structure Execution (step : σ → List ω → σ → Prop) where
  state : Nat → σ
  labels : Nat → List ω
  steps : ∀ time, step (state time) (labels time) (state (time + 1))

namespace Execution

variable (execution : Execution step)

/-- The step at this time is of this kind. -/
def At (kind : σ → List ω → σ → Prop) (time : Nat) : Prop :=
  kind (execution.state time) (execution.labels time) (execution.state (time + 1))

/-- A step of this kind comes again and again. -/
def Often (kind : σ → List ω → σ → Prop) : Prop :=
  ∀ time, ∃ later, time ≤ later ∧ execution.At kind later

variable {execution}

theorem path (time : Nat) :
    ∃ labels, Path step (execution.state 0) labels (execution.state time) := by
  induction time with
  | zero => exact ⟨[], .refl⟩
  | succ time inductionHypothesis =>
    obtain ⟨labels, path⟩ := inductionHypothesis
    exact ⟨_, path.snoc (execution.steps time)⟩

theorem invariant (holds : σ → Prop)
    (preserved : ∀ {state labels next}, step state labels next → holds state → holds next)
    (initial : holds (execution.state 0)) (time : Nat) : holds (execution.state time) := by
  obtain ⟨_, path⟩ := execution.path time
  exact path.invariant holds preserved initial

/-- A step, and then an execution. -/
def cons (execution : Execution step) {start : σ} {labels : List ω}
    (first : step start labels (execution.state 0)) : Execution step where
  state
    | 0 => start
    | time + 1 => execution.state time
  labels
    | 0 => labels
    | time + 1 => execution.labels time
  steps
    | 0 => first
    | time + 1 => execution.steps time

theorem often_cons {kind : σ → List ω → σ → Prop} (often : execution.Often kind) {start : σ}
    {labels : List ω} (first : step start labels (execution.state 0)) :
    (execution.cons first).Often kind := by
  intro time
  obtain ⟨later, after, moves⟩ := often time
  exact ⟨later + 1, by omega, moves⟩

/-- A finite run, and then an execution. -/
theorem exists_after {start mid : σ} {labels : List ω} (path : Path step start labels mid)
    (execution : Execution step) (continues : execution.state 0 = mid) :
    ∃ longer : Execution step, longer.state 0 = start ∧
      (∃ shift, ∀ time, longer.state (time + shift) = execution.state time ∧
        longer.labels (time + shift) = execution.labels time) ∧
      ∀ kind, execution.Often kind → longer.Often kind := by
  induction path generalizing execution with
  | refl => exact ⟨execution, continues, ⟨0, fun _ => ⟨rfl, rfl⟩⟩, fun _ => id⟩
  | snoc _ last inductionHypothesis =>
    subst continues
    obtain ⟨longer, starts, ⟨shift, same⟩, often⟩ :=
      inductionHypothesis (execution.cons last) rfl
    refine ⟨longer, starts, ⟨shift + 1, fun time => ?_⟩, fun kind fair => ?_⟩
    · rw [show time + (shift + 1) = time + 1 + shift by omega]
      exact same (time + 1)
    · exact often kind (often_cons fair last)

/-- Where a step of either kind is always possible, an execution alternates between them. -/
theorem exists_alternating (holds : σ → Prop) {even odd : σ → List ω → σ → Prop}
    (evens : ∀ state, holds state → ∃ labels next, step state labels next ∧
      even state labels next ∧ holds next)
    (odds : ∀ state, holds state → ∃ labels next, step state labels next ∧
      odd state labels next ∧ holds next)
    {start : σ} (initial : holds start) :
    ∃ execution : Execution step, execution.state 0 = start ∧ execution.Often even ∧
      execution.Often odd ∧ ∀ time, execution.At even time ∨ execution.At odd time := by
  have moves : ∀ (time : Nat) (state : σ), holds state → ∃ labels next, step state labels next ∧
      (time % 2 = 0 → even state labels next) ∧ (time % 2 = 1 → odd state labels next) ∧
        holds next := by
    intro time state current
    rcases Nat.mod_two_eq_zero_or_one time with isEven | isOdd
    · obtain ⟨labels, next, stepped, kind, still⟩ := evens state current
      exact ⟨labels, next, stepped, fun _ => kind, fun isOdd => by omega, still⟩
    · obtain ⟨labels, next, stepped, kind, still⟩ := odds state current
      exact ⟨labels, next, stepped, fun isEven => by omega, fun _ => kind, still⟩
  choose labels next stepped isEven isOdd still using moves
  let states : Nat → { state // holds state } := fun time =>
    Nat.rec ⟨start, initial⟩ (fun time state => ⟨next time state.1 state.2, still ..⟩) time
  refine ⟨⟨fun time => (states time).1, fun time => labels time _ (states time).2,
    fun time => stepped ..⟩, rfl, ?_, ?_, ?_⟩
  · intro time
    exact ⟨2 * time, by omega, isEven _ _ _ (by omega)⟩
  · intro time
    exact ⟨2 * time + 1, by omega, isOdd _ _ _ (by omega)⟩
  · intro time
    exact (Nat.mod_two_eq_zero_or_one time).imp (isEven time _ _) (isOdd time _ _)

end Execution

/-- No step raises the rank, and each of `mine` lowers it, unless it meets the goal. -/
structure Ranking {α : Type w} [Preorder α] (step mine goal : σ → List ω → σ → Prop)
    (ranked : α → σ → Prop) : Prop where
  kept : ∀ {rank state labels next}, step state labels next → ranked rank state →
    goal state labels next ∨ ∃ lower, lower ≤ rank ∧ ranked lower next
  falls : ∀ {rank state labels next}, mine state labels next → ranked rank state →
    goal state labels next ∨ ∃ lower, lower < rank ∧ ranked lower next

namespace Ranking

variable {α : Type w} [Preorder α] {mine goal : σ → List ω → σ → Prop} {ranked : α → σ → Prop}
  {execution : Execution step}

/-- Up to any later time the goal is met or the rank has not risen. -/
theorem meets_or_keeps (ranking : Ranking step mine goal ranked) {time : Nat} {rank : α}
    (holds : ranked rank (execution.state time)) (steps : Nat) :
    (∃ later, time ≤ later ∧ execution.At goal later) ∨
      ∃ lower, lower ≤ rank ∧ ranked lower (execution.state (time + steps)) := by
  induction steps with
  | zero => exact .inr ⟨rank, le_rfl, holds⟩
  | succ steps inductionHypothesis =>
    cases inductionHypothesis with
    | inl met => exact .inl met
    | inr still =>
      obtain ⟨lower, le, holds⟩ := still
      cases ranking.kept (execution.steps (time + steps)) holds with
      | inl met => exact .inl ⟨time + steps, Nat.le_add_right _ _, met⟩
      | inr next =>
        obtain ⟨lowest, below, holds⟩ := next
        exact .inr ⟨lowest, below.trans le, holds⟩

theorem leads_to [WellFoundedLT α] (ranking : Ranking step mine goal ranked)
    (fair : ∀ {rank time}, ranked rank (execution.state time) →
      ∃ later, time ≤ later ∧ execution.At mine later)
    {time : Nat} {rank : α} (holds : ranked rank (execution.state time)) :
    ∃ later, time ≤ later ∧ execution.At goal later := by
  induction rank using WellFoundedLT.induction generalizing time with
  | ind rank inductionHypothesis =>
    obtain ⟨moment, after, moves⟩ := fair holds
    obtain ⟨steps, rfl⟩ := Nat.exists_eq_add_of_le after
    cases ranking.meets_or_keeps holds steps with
    | inl met => exact met
    | inr still =>
      obtain ⟨lower, le, holds⟩ := still
      cases ranking.falls moves holds with
      | inl met => exact ⟨time + steps, after, met⟩
      | inr next =>
        obtain ⟨lowest, below, holds⟩ := next
        obtain ⟨later, behind, met⟩ := inductionHypothesis lowest (below.trans_le le) holds
        exact ⟨later, by omega, met⟩

end Ranking

end Scd.Foundation
