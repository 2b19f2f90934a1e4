import Mathlib.Data.List.Forall2
import Mathlib.Data.List.Nodup
import Scd.Foundation.Outcome

/-! # Folds over shuffled lists

Two lists are shuffled if they have the same items of every kind, in the same order: only items
of different kinds have changed places.  A fold whose steps commute for items of different kinds
does not see this.  What a fold with errors shows of its state is such a fold where each of its
steps is.
-/

namespace Scd.Foundation

universe u v

/-! ## Shuffles -/

section

variable {α : Type u} {κ : Type v} [DecidableEq κ] (kind : α → κ)

/-- The same items of every kind, in the same order. -/
def Shuffled (left right : List α) : Prop :=
  ∀ which, left.filter (fun item => kind item = which) = right.filter fun item => kind item = which

/-- Items of different kinds may come in any order. -/
theorem shuffled_of_perm {left right : List α} (perm : left.Perm right)
    (distinct : (left.map kind).Nodup) : Shuffled kind left right := by
  intro which
  have few : (left.filter fun item => kind item = which).length ≤ 1 := by
    rw [List.nodup_iff_count_le_one] at distinct
    have bound := distinct which
    rwa [List.count_eq_countP, List.countP_map, List.countP_eq_length_filter] at bound
  have same := perm.filter fun item => kind item = which
  cases found : left.filter fun item => kind item = which with
  | nil =>
    rw [found] at same
    exact (List.nil_perm.mp same).symm
  | cons item rest =>
    rw [found, List.length_cons] at few
    obtain rfl := List.length_eq_zero_iff.mp (Nat.le_zero.mp (Nat.le_of_succ_le_succ few))
    rw [found] at same
    exact List.singleton_perm.mp same

/-- Where the first item of one list is in the other. -/
theorem Shuffled.cons {item : α} {left right : List α}
    (shuffled : Shuffled kind (item :: left) right) :
    ∃ early late, right = early ++ item :: late ∧ (∀ other ∈ early, kind other ≠ kind item) ∧
      Shuffled kind left (early ++ late) := by
  have first := (shuffled (kind item)).symm
  rw [List.filter_cons_of_pos (by simp), List.filter_eq_cons_iff] at first
  obtain ⟨early, late, rfl, others, _, rest⟩ := first
  refine ⟨early, late, rfl, fun other member => by simpa using others other member, ?_⟩
  intro which
  have same := shuffled which
  rw [List.filter_append] at same ⊢
  by_cases own : kind item = which
  · subst own
    have none := List.filter_eq_nil_iff.mpr others
    rw [none, rest, List.nil_append]
  · rwa [List.filter_cons_of_neg (by simpa using own), List.filter_cons_of_neg (by simpa using own)]
      at same

/-- Nothing is lost: what holds of all items of one list holds of those of the other. -/
theorem Shuffled.mem_iff {left right : List α} (shuffled : Shuffled kind left right) (item : α) :
    item ∈ left ↔ item ∈ right := by
  have same : item ∈ left.filter (fun other => kind other = kind item) ↔
      item ∈ right.filter fun other => kind other = kind item := by
    rw [shuffled (kind item)]
  simpa using same

variable {kind} {σ : Type u} {step : σ → α → Option σ}

omit [DecidableEq κ] in
/-- An item goes before items of other kinds. -/
theorem foldlM_move {item : α} {early : List α} (late : List α)
    (commute : ∀ state other, kind other ≠ kind item →
      (step state other).bind (step · item) = (step state item).bind (step · other))
    (others : ∀ other ∈ early, kind other ≠ kind item) (state : σ) :
    (early ++ item :: late).foldlM step state =
      (step state item).bind ((early ++ late).foldlM step) := by
  induction early generalizing state with
  | nil => rfl
  | cons other early inductionHypothesis =>
    have rest := inductionHypothesis fun each member => others each (List.mem_cons_of_mem _ member)
    have swap := commute state other (others other List.mem_cons_self)
    calc (other :: early ++ item :: late).foldlM step state
      _ = (step state other).bind ((early ++ item :: late).foldlM step) := rfl
      _ = (step state other).bind fun next =>
          (step next item).bind ((early ++ late).foldlM step) := by rw [funext rest]
      _ = ((step state other).bind (step · item)).bind ((early ++ late).foldlM step) := by
        rw [Option.bind_assoc]
      _ = ((step state item).bind (step · other)).bind ((early ++ late).foldlM step) := by rw [swap]
      _ = (step state item).bind ((other :: early ++ late).foldlM step) := by
        rw [Option.bind_assoc]
        rfl

theorem foldlM_shuffled {left right : List α} (shuffled : Shuffled kind left right)
    (commute : ∀ state item other, kind other ≠ kind item →
      (step state other).bind (step · item) = (step state item).bind (step · other)) (state : σ) :
    left.foldlM step state = right.foldlM step state := by
  induction left generalizing right state with
  | nil =>
    have none : right = [] := by
      rw [List.eq_nil_iff_forall_not_mem]
      intro item member
      exact absurd ((shuffled.mem_iff kind item).mpr member) List.not_mem_nil
    rw [none]
  | cons item left inductionHypothesis =>
    obtain ⟨early, late, rfl, others, rest⟩ := shuffled.cons
    have moved := foldlM_move late (fun state => commute state item) others state
    rw [moved, List.foldlM_cons, ← funext (inductionHypothesis rest)]
    rfl

end

/-! ## Views of a fold -/

section

variable {ε : Type u} {α β σ τ : Type v}

/-- Items that make the same step. -/
theorem foldlM_alike {m : Type v → Type v} [Monad m] {γ : Type u} {alike : γ → γ → Prop}
    {left right : List γ} {step : σ → γ → m σ} (pairs : List.Forall₂ alike left right)
    (same : ∀ state item other, alike item other → step state item = step state other) (state : σ) :
    left.foldlM step state = right.foldlM step state := by
  induction pairs generalizing state with
  | nil => rfl
  | cons first _ inductionHypothesis =>
    rw [List.foldlM_cons, List.foldlM_cons, same state _ _ first, funext inductionHypothesis]

theorem forall₂_zipIdx {γ : Type u} {alike : γ → γ → Prop} {left right : List γ}
    (pairs : List.Forall₂ alike left right) (start : Nat) :
    List.Forall₂ (fun item other : γ × Nat => alike item.1 other.1 ∧ item.2 = other.2)
      (left.zipIdx start) (right.zipIdx start) := by
  induction pairs generalizing start with
  | nil => exact .nil
  | cons first _ inductionHypothesis => exact .cons ⟨first, rfl⟩ (inductionHypothesis (start + 1))

/-- A fold over changed items, if a step on a changed item shows in a view of its state. -/
theorem foldlM_through {step : σ → α → Except ε σ} {view : σ → σ} {change : α → α}
    (steps : ∀ state item, step (view state) (change item) = (step state item).map view)
    (items : List α) (state : σ) :
    (items.map change).foldlM step (view state) = (items.foldlM step state).map view := by
  induction items generalizing state with
  | nil => rfl
  | cons item items inductionHypothesis =>
    rw [List.map_cons, List.foldlM_cons, List.foldlM_cons, steps]
    cases step state item with
    | error error => rfl
    | ok next => exact inductionHypothesis next

theorem toOption_bind (program : Except ε α) (next : α → Except ε β) :
    (program >>= next).toOption = program.toOption.bind fun value => (next value).toOption := by
  cases program with
  | error error => rfl
  | ok value => rfl

theorem toOption_eq_some {program : Except ε α} {value : α} :
    program.toOption = some value ↔ program = .ok value := by
  cases program with
  | error error => simp [Except.toOption]
  | ok found => simp [Except.toOption]

/-- What a fold shows of its state at the end, if its steps do. -/
theorem foldlM_view {step : σ → α → Except ε σ} {view : σ → Option τ} {fine : τ → α → Option τ}
    (steps : ∀ state item, (step state item).toOption.bind view = (view state).bind (fine · item))
    (items : List α) (state : σ) :
    (items.foldlM step state).toOption.bind view = (view state).bind (items.foldlM fine) := by
  induction items generalizing state with
  | nil =>
    show view state = (view state).bind some
    exact (Option.bind_fun_some _).symm
  | cons item items inductionHypothesis =>
    have first := steps state item
    have rest : (view state).bind ((item :: items).foldlM fine) =
        ((view state).bind (fine · item)).bind (items.foldlM fine) := by
      rw [Option.bind_assoc]
      rfl
    rw [List.foldlM_cons, toOption_bind, rest, ← first]
    cases step state item with
    | error error => rfl
    | ok next => exact inductionHypothesis next

end

end Scd.Foundation
