import Mathlib.Data.List.Forall2
import Scd.Foundation.Outcome

/-! # Two runs side by side

`Alike related left right` relates two programs that can stop with an error: both stop with
the same error, or both return, and what they return is related.  The rules follow the shape
of the programs, as those of `Returns` do: the two programs are taken apart in step.
-/

namespace Scd.Foundation

universe u v w

variable {ε : Type u} {α β γ δ σ τ ι κ : Type v}

inductive Alike (related : α → β → Prop) : Except ε α → Except ε β → Prop where
  | error (error : ε) : Alike related (.error error) (.error error)
  | ok {left : α} {right : β} : related left right → Alike related (.ok left) (.ok right)

/-- What two iterations of a loop return: related states, and the same decision whether to go
    on. -/
def Stepped (states : σ → τ → Prop) (result : σ × Bool) (result' : τ × Bool) : Prop :=
  states result.1 result'.1 ∧ result.2 = result'.2

namespace Alike

variable {related : α → β → Prop} {later : γ → δ → Prop}

theorem pure {left : α} {right : β} (holds : related left right) :
    Alike related (Pure.pure left : Except ε α) (Pure.pure right) := .ok holds

theorem bind {left : Except ε α} {right : Except ε β} {next : α → Except ε γ}
    {next' : β → Except ε δ} (first : Alike related left right)
    (rest : ∀ value value', related value value' → Alike later (next value) (next' value')) :
    Alike later (left >>= next) (right >>= next') := by
  cases first with
  | error error => exact .error error
  | ok holds => exact rest _ _ holds

/-- The rule for `bind`, when the rest needs to know where the values come from. -/
theorem bind_ok {left : Except ε α} {right : Except ε β} {next : α → Except ε γ}
    {next' : β → Except ε δ} (first : Alike related left right)
    (rest : ∀ value value', left = .ok value → right = .ok value' → related value value' →
      Alike later (next value) (next' value')) :
    Alike later (left >>= next) (right >>= next') := by
  cases first with
  | error error => exact .error error
  | ok holds => exact rest _ _ rfl rfl holds

/-- Both go on with the value of the same program. -/
theorem same (program : Except ε α) {next : α → Except ε γ} {next' : α → Except ε δ}
    (rest : ∀ value, Alike later (next value) (next' value)) :
    Alike later (program >>= next) (program >>= next') := by
  cases program with
  | error error => exact .error error
  | ok value => exact rest value

/-- What the two programs return, when one of them is known to return. -/
theorem of_ok {left : α} {right : β} (alike : Alike related (.ok left : Except ε α) (.ok right)) :
    related left right := by
  cases alike with
  | ok holds => exact holds

theorem eq {left right : Except ε α} (alike : Alike Eq left right) : left = right := by
  cases alike with
  | error error => rfl
  | ok same => rw [same]

/-- What two loops keep, in step. -/
theorem loop {states : σ → τ → Prop} {items : ι → κ → Prop}
    {body : σ → ι → Except ε (σ × Bool)} {body' : τ → κ → Except ε (τ × Bool)}
    (step : ∀ state state' item item', states state state' → items item item' →
      Alike (Stepped states)
        (body state item) (body' state' item'))
    {left : List ι} {right : List κ} (listed : List.Forall₂ items left right) {start : σ}
    {start' : τ} (started : states start start') :
    Alike (Stepped states)
      (Foundation.loop body start left) (Foundation.loop body' start' right) := by
  induction listed generalizing start start' with
  | nil => exact .ok ⟨started, rfl⟩
  | cons first _ inductionHypothesis =>
    refine (step _ _ _ _ started first).bind ?_
    rintro ⟨state, stop⟩ ⟨state', stop'⟩ ⟨holds, same⟩
    obtain rfl : stop = stop' := same
    cases stop with
    | true => exact .ok ⟨holds, rfl⟩
    | false => exact inductionHypothesis holds

/-- Two loops over the same items. -/
theorem loop_same {states : σ → τ → Prop} {body : σ → ι → Except ε (σ × Bool)}
    {body' : τ → ι → Except ε (τ × Bool)}
    (step : ∀ state state' item, states state state' →
      Alike (Stepped states)
        (body state item) (body' state' item))
    (items : List ι) {start : σ} {start' : τ} (started : states start start') :
    Alike (Stepped states)
      (Foundation.loop body start items) (Foundation.loop body' start' items) := by
  refine loop (fun state state' item item' related (same : item = item') => ?_)
    (List.forall₂_same.mpr fun _ _ => rfl) started
  exact same ▸ step state state' item related

end Alike

end Scd.Foundation
