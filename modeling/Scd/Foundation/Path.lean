import Mathlib.Data.List.Induction

/-! # Labelled paths

`Path step start labels finish` is the closure of a transition relation whose steps emit
lists of labels: the labels of a path are those of its steps, in order.  Everything a
program's runs preserve is proved once, on single steps, and lifted by `Path.invariant`
(a state predicate) or `Path.history` (a predicate of the state and of all labels so far).
-/

namespace Scd.Foundation

universe u v

variable {σ : Type u} {ω : Type v} {step : σ → List ω → σ → Prop}

inductive Path (step : σ → List ω → σ → Prop) : σ → List ω → σ → Prop where
  | refl {start : σ} : Path step start [] start
  | snoc {start mid finish : σ} {labels more : List ω} :
      Path step start labels mid → step mid more finish → Path step start (labels ++ more) finish

namespace Path

theorem single {start finish : σ} {labels : List ω} (one : step start labels finish) :
    Path step start labels finish := by
  simpa using Path.snoc .refl one

theorem trans {start mid finish : σ} {labels more : List ω} (first : Path step start labels mid)
    (second : Path step mid more finish) : Path step start (labels ++ more) finish := by
  induction second with
  | refl => simpa using first
  | snoc _ last inductionHypothesis =>
    rw [← List.append_assoc]
    exact inductionHypothesis.snoc last

/-- A predicate that every step preserves is preserved by every path. -/
theorem invariant (holds : σ → Prop)
    (preserved : ∀ {state labels next}, step state labels next → holds state → holds next)
    {start finish : σ} {labels : List ω} (path : Path step start labels finish)
    (initial : holds start) : holds finish := by
  induction path with
  | refl => exact initial
  | snoc _ last inductionHypothesis => exact preserved last inductionHypothesis

/-- A predicate of the state and of the labels emitted so far. -/
theorem history (holds : List ω → σ → Prop)
    (preserved : ∀ {past state labels next}, step state labels next → holds past state →
      holds (past ++ labels) next)
    {past : List ω} {start finish : σ} {labels : List ω} (path : Path step start labels finish)
    (initial : holds past start) : holds (past ++ labels) finish := by
  induction path with
  | refl => simpa using initial
  | snoc _ last inductionHypothesis =>
    rw [← List.append_assoc]
    exact preserved last inductionHypothesis

end Path

/-- Where a label of a log that has grown stands: in the old part or in the new one. -/
theorem split_append {α : Type u} {past more before after : List α} {label : α}
    (split : past ++ more = before ++ label :: after) :
    (∃ rest, past = before ++ label :: rest) ∨
      ∃ mid, before = past ++ mid ∧ more = mid ++ label :: after := by
  rcases List.append_eq_append_iff.mp split with ⟨mid, early, late⟩ | ⟨mid, early, late⟩
  · exact .inr ⟨mid, early, late⟩
  · cases mid with
    | nil => exact .inr ⟨[], by simpa using early.symm, by simpa using late.symm⟩
    | cons first rest =>
      rw [List.cons_append, List.cons.injEq] at late
      exact .inl ⟨rest, late.1 ▸ early⟩

/-- A property holds after every prefix of a run exactly when every step of the run meets the
    condition under which a step keeps it. -/
theorem forall_prefix_iff {α : Type u} {holds : List α → Prop} {meets : List α → α → Prop}
    {items : List α} (base : holds [])
    (step : ∀ before item, before ++ [item] <+: items → holds before →
      (holds (before ++ [item]) ↔ meets before item)) :
    (∀ before, before <+: items → holds before) ↔
      ∀ before item, before ++ [item] <+: items → meets before item := by
  constructor
  · intro all before item initial
    have earlier : before <+: items := (List.prefix_append before [item]).trans initial
    exact (step before item initial (all before earlier)).mp (all _ initial)
  · intro all before
    -- induction on the prefix, from its end
    induction before using List.reverseRecOn with
    | nil => exact fun _ => base
    | append_singleton before item inductionHypothesis =>
      intro initial
      have earlier : before <+: items := (List.prefix_append before [item]).trans initial
      exact (step before item initial (inductionHypothesis earlier)).mpr (all before item initial)

end Scd.Foundation
