import Mathlib.Data.List.Chain
import Scd.Foundation.IndexMap

/-! # Reference counts and press logs

Several owners may hold one resource.  `retain` and `drop` keep a map from resources to
the number of their owners, in which every stored count is positive.

A press log is the observable side: a list of resources going down (`true`) and up
(`false`).  `Alternates` says that for every resource the events alternate, starting
with a press; `isDown` reads the current position off the log.
-/

namespace Scd.Foundation

universe u

variable {ρ : Type u} [DecidableEq ρ]

/-! ## Counts -/

namespace RefCount

def count (counts : IndexMap ρ Nat) (resource : ρ) : Nat := (counts.get? resource).getD 0

def retain (counts : IndexMap ρ Nat) (resource : ρ) : IndexMap ρ Nat :=
  counts.insert resource (count counts resource + 1)

/-- Take one owner away; a resource nobody holds is left alone. -/
def drop (counts : IndexMap ρ Nat) (resource : ρ) : IndexMap ρ Nat :=
  if count counts resource ≤ 1 then counts.shiftRemove resource
  else counts.insert resource (count counts resource - 1)

/-- Every stored count is positive. -/
def Positive (counts : IndexMap ρ Nat) : Prop :=
  ∀ resource value, counts.get? resource = some value → 0 < value

@[simp] theorem count_empty (resource : ρ) : count (IndexMap.empty : IndexMap ρ Nat) resource = 0 :=
  rfl

theorem positive_empty : Positive (IndexMap.empty : IndexMap ρ Nat) := by
  intro resource value found
  cases found

theorem count_retain (counts : IndexMap ρ Nat) (resource other : ρ) :
    count (retain counts resource) other =
      count counts other + if other = resource then 1 else 0 := by
  unfold retain
  rw [count, IndexMap.get?_insert]
  by_cases same : other = resource
  · simp [same]
  · simp [same, count]

theorem count_drop (counts : IndexMap ρ Nat) (resource other : ρ) :
    count (drop counts resource) other =
      count counts other - if other = resource then 1 else 0 := by
  unfold drop
  split
  · next small =>
    rw [count, IndexMap.get?_shiftRemove]
    by_cases same : other = resource
    · subst same
      simp only [if_true, Option.getD_none]
      omega
    · simp [same, count]
  · rw [count, IndexMap.get?_insert]
    by_cases same : other = resource
    · simp [same]
    · simp [same, count]

theorem positive_retain {counts : IndexMap ρ Nat} (positive : Positive counts) (resource : ρ) :
    Positive (retain counts resource) := by
  intro other value found
  rw [retain, IndexMap.get?_insert] at found
  split at found
  · cases found
    omega
  · exact positive other value found

theorem positive_drop {counts : IndexMap ρ Nat} (positive : Positive counts) (resource : ρ) :
    Positive (drop counts resource) := by
  intro other value found
  unfold drop at found
  split at found
  · rw [IndexMap.get?_shiftRemove] at found
    split at found
    · cases found
    · exact positive other value found
  · rw [IndexMap.get?_insert] at found
    split at found
    · cases found
      omega
    · exact positive other value found

theorem count_of_get? {counts : IndexMap ρ Nat} {resource : ρ} {value : Nat}
    (found : counts.get? resource = some value) : count counts resource = value := by
  rw [count, found]
  rfl

theorem mem_keys_iff {counts : IndexMap ρ Nat} (positive : Positive counts) (resource : ρ) :
    resource ∈ counts.keys ↔ 0 < count counts resource := by
  rw [IndexMap.mem_keys_iff_get?]
  constructor
  · rintro ⟨value, found⟩
    rw [count_of_get? found]
    exact positive resource value found
  · intro held
    cases found : counts.get? resource with
    | none => simp [count, found] at held
    | some value => exact ⟨value, rfl⟩

/-- With positive counts a map without owners is empty. -/
theorem entries_eq_nil {counts : IndexMap ρ Nat} (positive : Positive counts)
    (unheld : ∀ resource, count counts resource = 0) : counts.entries = [] := by
  cases entries : counts.entries with
  | nil => rfl
  | cons entry rest =>
    have member : entry.1 ∈ counts.keys := by simp [IndexMap.keys, entries]
    have held := (mem_keys_iff positive entry.1).mp member
    have := unheld entry.1
    omega

end RefCount

/-! ## Press logs -/

/-- The events of one resource. -/
def strokes (log : List (ρ × Bool)) (resource : ρ) : List Bool :=
  (log.filter fun event => event.1 = resource).map Prod.snd

/-- Press and release events of every resource alternate, starting with a press. -/
def Alternates (log : List (ρ × Bool)) : Prop :=
  ∀ resource, (false :: strokes log resource).IsChain (· ≠ ·)

/-- The resource was pressed and not released since. -/
def isDown (log : List (ρ × Bool)) (resource : ρ) : Bool := (strokes log resource).getLastD false

@[simp] theorem strokes_nil (resource : ρ) : strokes ([] : List (ρ × Bool)) resource = [] := rfl

theorem strokes_append (left right : List (ρ × Bool)) (resource : ρ) :
    strokes (left ++ right) resource = strokes left resource ++ strokes right resource := by
  simp [strokes]

theorem strokes_singleton (event : ρ × Bool) (resource : ρ) :
    strokes [event] resource = if event.1 = resource then [event.2] else [] := by
  by_cases same : event.1 = resource <;> simp [strokes, same]

@[simp] theorem isDown_nil (resource : ρ) : isDown ([] : List (ρ × Bool)) resource = false := rfl

theorem alternates_nil : Alternates ([] : List (ρ × Bool)) := by
  intro resource
  simp

theorem isDown_snoc (log : List (ρ × Bool)) (event : ρ × Bool) (resource : ρ) :
    isDown (log ++ [event]) resource = if event.1 = resource then event.2 else isDown log resource := by
  rw [isDown, strokes_append, strokes_singleton]
  by_cases same : event.1 = resource
  · simp [same]
  · simp [same, isDown]

/-- A press is followed by a release, when the resource is up at the end. -/
theorem released_of_up {log before after : List (ρ × Bool)} {resource : ρ}
    (split : log = before ++ (resource, true) :: after) (up : isDown log resource = false) :
    (resource, false) ∈ after := by
  by_contra unreleased
  have pressed : ∀ stroke ∈ strokes ([(resource, true)] ++ after) resource, stroke = true := by
    intro stroke member
    obtain ⟨event, filtered, rfl⟩ := List.mem_map.mp member
    obtain ⟨listed, same⟩ := List.mem_filter.mp filtered
    cases stroke : event.2 with
    | true => rfl
    | false =>
      have equal : event = (resource, false) := Prod.ext (of_decide_eq_true same) stroke
      rcases List.mem_cons.mp listed with first | later
      · rw [equal] at first
        cases first
      · exact absurd (equal ▸ later) unreleased
  have nonempty : strokes ([(resource, true)] ++ after) resource ≠ [] := by simp [strokes]
  rw [split, isDown, ← List.singleton_append, strokes_append, List.getLastD_eq_getLast?,
    List.getLast?_append_of_ne_nil _ nonempty, List.getLast?_eq_some_getLast nonempty] at up
  have := pressed _ (List.getLast_mem nonempty)
  rw [Option.getD_some] at up
  rw [up] at this
  cases this

/-- An event that moves its resource keeps the log alternating. -/
theorem Alternates.snoc {log : List (ρ × Bool)} (alternates : Alternates log) {event : ρ × Bool}
    (moves : isDown log event.1 = !event.2) : Alternates (log ++ [event]) := by
  intro resource
  rw [strokes_append, strokes_singleton]
  by_cases same : event.1 = resource
  · subst same
    rw [if_pos rfl, ← List.cons_append, List.isChain_append]
    refine ⟨alternates _, by simp, ?_⟩
    intro last member next found
    simp only [List.head?_cons, Option.mem_def, Option.some.injEq] at found
    subst found
    have isLast : last = isDown log event.1 := by
      rw [Option.mem_def, List.getLast?_cons, Option.some.injEq] at member
      simpa [isDown, List.getLastD_eq_getLast?] using member.symm
    rw [isLast, moves]
    cases event.2 <;> decide
  · rw [if_neg same, List.append_nil]
    exact alternates resource

/-- Releasing resources that are down, each once, keeps the log alternating. -/
theorem Alternates.releases {log : List (ρ × Bool)} (alternates : Alternates log)
    {resources : List ρ} (nodup : resources.Nodup)
    (down : ∀ resource ∈ resources, isDown log resource = true) :
    Alternates (log ++ resources.map fun resource => (resource, false)) ∧
      ∀ resource, isDown (log ++ resources.map fun resource => (resource, false)) resource =
        (isDown log resource && decide (resource ∉ resources)) := by
  induction resources generalizing log with
  | nil => simpa using alternates
  | cons first rest inductionHypothesis =>
    rw [List.nodup_cons] at nodup
    have once : Alternates (log ++ [(first, false)]) :=
      alternates.snoc (by simpa using down first List.mem_cons_self)
    have restDown : ∀ resource ∈ rest, isDown (log ++ [(first, false)]) resource = true := by
      intro resource member
      have differs : first ≠ resource := fun same => nodup.1 (same ▸ member)
      rw [isDown_snoc, if_neg differs]
      exact down resource (List.mem_cons_of_mem _ member)
    obtain ⟨all, ups⟩ := inductionHypothesis once nodup.2 restDown
    rw [List.map_cons, ← List.singleton_append, ← List.append_assoc]
    refine ⟨all, ?_⟩
    intro resource
    rw [ups, isDown_snoc]
    by_cases same : first = resource
    · simp [same]
    · simp [same, eq_comm]

end Scd.Foundation
