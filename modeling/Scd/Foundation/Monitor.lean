import Scd.Foundation.Path

/-! # Monitors

A monitor reads the labels of a run one after the other.  It is in some phase, and a label
that the phase does not allow stops it.  `Accepts next start labels finish` says that the
labels are allowed and end in the phase `finish`.

A system follows a monitor when each of its steps does (`Path.accepts`); what may come
before and after a label in a run is then read off the monitor (`Accepts.around`).
-/

namespace Scd.Foundation

universe u v w

variable {φ : Type u} {ω : Type v} {next : φ → ω → Option φ}

/-- The labels are allowed one after the other, from the first phase to the last. -/
def Accepts (next : φ → ω → Option φ) (start : φ) (labels : List ω) (finish : φ) : Prop :=
  labels.foldlM next start = some finish

namespace Accepts

theorem nil_iff {start finish : φ} : Accepts next start [] finish ↔ start = finish := by
  simp [Accepts]

theorem cons_iff {start finish : φ} {label : ω} {labels : List ω} :
    Accepts next start (label :: labels) finish ↔
      ∃ mid, next start label = some mid ∧ Accepts next mid labels finish := by
  simp [Accepts, List.foldlM_cons, Option.bind_eq_some_iff]

theorem append_iff {start finish : φ} {first second : List ω} :
    Accepts next start (first ++ second) finish ↔
      ∃ mid, Accepts next start first mid ∧ Accepts next mid second finish := by
  simp [Accepts, List.foldlM_append, Option.bind_eq_some_iff]

theorem single {start finish : φ} {label : ω} (allowed : next start label = some finish) :
    Accepts next start [label] finish := by
  rw [cons_iff]
  exact ⟨finish, allowed, nil_iff.mpr rfl⟩

/-- The phases before and after a label that occurs in an accepted list. -/
theorem around {start finish : φ} {past rest : List ω} {label : ω}
    (accepts : Accepts next start (past ++ label :: rest) finish) :
    ∃ before after, Accepts next start past before ∧ next before label = some after ∧
      Accepts next after rest finish := by
  obtain ⟨before, early, late⟩ := append_iff.mp accepts
  obtain ⟨after, allowed, late⟩ := cons_iff.mp late
  exact ⟨before, after, early, allowed, late⟩

/-- The last label of an accepted list leads to its last phase. -/
theorem last {start finish : φ} {past : List ω} {label : ω}
    (accepts : Accepts next start (past ++ [label]) finish) :
    ∃ before, Accepts next start past before ∧ next before label = some finish := by
  obtain ⟨before, after, early, allowed, done⟩ := accepts.around
  rw [nil_iff.mp done] at allowed
  exact ⟨before, early, allowed⟩

/-- In a set of phases that no label leaves, only labels are read that the set allows. -/
theorem within {inside : φ → Prop}
    (closed : ∀ {phase label after}, inside phase → next phase label = some after → inside after)
    {start finish : φ} {labels : List ω} (accepts : Accepts next start labels finish)
    (initial : inside start) {label : ω} (member : label ∈ labels) :
    ∃ before after, inside before ∧ next before label = some after := by
  obtain ⟨past, rest, rfl⟩ := List.append_of_mem member
  obtain ⟨before, after, early, allowed, _⟩ := accepts.around
  refine ⟨before, after, ?_, allowed⟩
  clear accepts member allowed
  induction past generalizing start with
  | nil => exact nil_iff.mp early ▸ initial
  | cons first past inductionHypothesis =>
    obtain ⟨mid, moved, early⟩ := cons_iff.mp early
    exact inductionHypothesis (closed initial moved) early

/-- A fact about all labels read so far and the phase they end in. -/
theorem history {fact : List ω → φ → Prop}
    (step : ∀ {past phase label after}, fact past phase → next phase label = some after →
      fact (past ++ [label]) after)
    {start finish : φ} {labels : List ω} (accepts : Accepts next start labels finish)
    (initial : fact [] start) : fact labels finish := by
  induction labels using List.reverseRecOn generalizing finish with
  | nil => exact nil_iff.mp accepts ▸ initial
  | append_singleton past label inductionHypothesis =>
    obtain ⟨before, early, allowed⟩ := accepts.last
    exact step (inductionHypothesis early) allowed

end Accepts

/-- A run follows the monitor when every step from a good state does. -/
theorem Path.accepts {σ : Type w} {step : σ → List ω → σ → Prop} (good : σ → Prop) (view : σ → φ)
    (follows : ∀ {state labels after}, step state labels after → good state →
      good after ∧ Accepts next (view state) labels (view after))
    {start finish : σ} {labels : List ω} (path : Path step start labels finish)
    (initial : good start) : good finish ∧ Accepts next (view start) labels (view finish) := by
  induction path with
  | refl => exact ⟨initial, Accepts.nil_iff.mpr rfl⟩
  | snoc _ last inductionHypothesis =>
    obtain ⟨goodMid, early⟩ := inductionHypothesis
    obtain ⟨goodAfter, late⟩ := follows last goodMid
    exact ⟨goodAfter, Accepts.append_iff.mpr ⟨_, early, late⟩⟩

/-- The same, for a phase that is related to the state and not a part of it. -/
theorem Path.simulates {σ : Type w} {step : σ → List ω → σ → Prop} (good : σ → Prop)
    (related : σ → φ → Prop)
    (follows : ∀ {state labels after}, step state labels after → good state →
      good after ∧ ∀ {phase}, related state phase →
        ∃ phase', related after phase' ∧ Accepts next phase labels phase')
    {start finish : σ} {labels : List ω} (path : Path step start labels finish)
    (initial : good start) {phase : φ} (relatedStart : related start phase) :
    good finish ∧ ∃ phase', related finish phase' ∧ Accepts next phase labels phase' := by
  induction path with
  | refl => exact ⟨initial, phase, relatedStart, Accepts.nil_iff.mpr rfl⟩
  | snoc _ last inductionHypothesis =>
    obtain ⟨goodMid, mid, relatedMid, early⟩ := inductionHypothesis
    obtain ⟨goodAfter, simulated⟩ := follows last goodMid
    obtain ⟨after, relatedAfter, late⟩ := simulated relatedMid
    exact ⟨goodAfter, after, relatedAfter, Accepts.append_iff.mpr ⟨mid, early, late⟩⟩

end Scd.Foundation
