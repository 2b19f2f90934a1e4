import Mathlib.Data.List.Count
import Scd.Foundation.FirstOfKey
import Scd.Foundation.RefCount

/-! # Claims on shared resources

Owners claim resources and give them back, and all claims can be cancelled at once.
`claims` keeps the list of the claims that stand; `tally` keeps a reference count for each
resource, without looking at who claims it.

The count is never above the number of claims (`tally_le`).  It equals that number
(`tally_eq`) as long as the events are honest: an owner whose claim was cancelled does not
give it back while somebody else claims the same resource.
-/

namespace Scd.Foundation

universe u v

inductive ClaimEvent (ο : Type u) (ρ : Type v) where
  | claim (owner : ο) (resource : ρ)
  | unclaim (owner : ο) (resource : ρ)
  | cancel
  deriving DecidableEq

namespace Ledger

variable {ο : Type u} {ρ : Type v} [DecidableEq ο] [DecidableEq ρ]

def claimStep (claims : List (ο × ρ)) : ClaimEvent ο ρ → List (ο × ρ)
  | .claim owner resource => (owner, resource) :: claims
  | .unclaim owner resource => claims.erase (owner, resource)
  | .cancel => []

/-- The claims that stand after the events. -/
def claims (start : List (ο × ρ)) (events : List (ClaimEvent ο ρ)) : List (ο × ρ) :=
  events.foldl claimStep start

omit [DecidableEq ο] in
def tallyStep (counts : IndexMap ρ Nat) : ClaimEvent ο ρ → IndexMap ρ Nat
  | .claim _ resource => RefCount.retain counts resource
  | .unclaim _ resource => RefCount.drop counts resource
  | .cancel => .empty

omit [DecidableEq ο] in
/-- The reference counts after the events. -/
def tally (counts : IndexMap ρ Nat) (events : List (ClaimEvent ο ρ)) : IndexMap ρ Nat :=
  events.foldl tallyStep counts

/-- The number of claims on a resource. -/
def holders (claims : List (ο × ρ)) (resource : ρ) : Nat :=
  claims.countP fun claim => claim.2 = resource

@[simp] theorem claims_nil (start : List (ο × ρ)) : claims start [] = start := rfl

@[simp] theorem claims_append (start : List (ο × ρ)) (first second : List (ClaimEvent ο ρ)) :
    claims start (first ++ second) = claims (claims start first) second := List.foldl_append

omit [DecidableEq ο] in
@[simp] theorem tally_nil (counts : IndexMap ρ Nat) :
    tally counts ([] : List (ClaimEvent ο ρ)) = counts := rfl

omit [DecidableEq ο] in
@[simp] theorem tally_append (counts : IndexMap ρ Nat) (first second : List (ClaimEvent ο ρ)) :
    tally counts (first ++ second) = tally (tally counts first) second := List.foldl_append

omit [DecidableEq ο] in
theorem holders_eq_zero_iff {claims : List (ο × ρ)} {resource : ρ} :
    holders claims resource = 0 ↔ ∀ owner, (owner, resource) ∉ claims := by
  rw [holders, List.countP_eq_zero]
  constructor
  · intro none owner member
    simpa using none _ member
  · rintro none ⟨owner, other⟩ member
    simp only [decide_eq_true_eq]
    rintro rfl
    exact none owner member

/-! ## Rules for events -/

/-- Every event is good for the claims that stand when it happens. -/
def Every (good : List (ο × ρ) → ClaimEvent ο ρ → Prop) :
    List (ο × ρ) → List (ClaimEvent ο ρ) → Prop
  | _, [] => True
  | claims, event :: events => good claims event ∧ Every good (claimStep claims event) events

theorem every_append {good : List (ο × ρ) → ClaimEvent ο ρ → Prop} {start : List (ο × ρ)}
    {first second : List (ClaimEvent ο ρ)} :
    Every good start (first ++ second) ↔
      Every good start first ∧ Every good (claims start first) second := by
  induction first generalizing start with
  | nil => simp [Every]
  | cons event first inductionHypothesis =>
    simp only [List.cons_append, Every, inductionHypothesis, and_assoc]
    rfl

/-- A claim that does not stand is not given back while the resource is claimed. -/
def Honest (claims : List (ο × ρ)) : ClaimEvent ο ρ → Prop
  | .unclaim owner resource => (owner, resource) ∈ claims ∨ holders claims resource = 0
  | _ => True

theorem mem_claims {start : List (ο × ρ)} {events : List (ClaimEvent ο ρ)} {claim : ο × ρ}
    (stands : claim ∈ claims start events) :
    claim ∈ start ∨ .claim claim.1 claim.2 ∈ events := by
  induction events generalizing start with
  | nil => exact .inl stands
  | cons event events inductionHypothesis =>
    rcases inductionHypothesis stands with before | later
    · cases event with
      | claim owner resource =>
        rcases List.mem_cons.mp before with rfl | old
        · exact .inr List.mem_cons_self
        · exact .inl old
      | unclaim owner resource => exact .inl (List.mem_of_mem_erase before)
      | cancel => cases before
    · exact .inr (List.mem_cons_of_mem _ later)

/-! ## One owner -/

omit [DecidableEq ρ] in
/-- What an owner claims. -/
def ownedBy (owner : ο) (claims : List (ο × ρ)) : List ρ :=
  (claims.filter fun claim => claim.1 = owner).map Prod.snd

omit [DecidableEq ρ] in
@[simp] theorem ownedBy_nil (owner : ο) : ownedBy owner ([] : List (ο × ρ)) = [] := rfl

omit [DecidableEq ρ] in
theorem mem_ownedBy {owner : ο} {claims : List (ο × ρ)} {resource : ρ} :
    resource ∈ ownedBy owner claims ↔ (owner, resource) ∈ claims := by
  simp [ownedBy]

omit [DecidableEq ρ] in
/-- The event says something about the claims of the owner. -/
def concerns (owner : ο) : ClaimEvent ο ρ → Bool
  | .claim other _ | .unclaim other _ => other = owner
  | .cancel => true

omit [DecidableEq ρ] in
/-- Where each item's events are about its own claimant, an owner is concerned by the events of
    its items. -/
theorem concerning_flatMap {α : Type*} (claimant : α → ο) {emit : α → List (ClaimEvent ο ρ)}
    {items : List α} (own : ∀ item ∈ items, ∀ event ∈ emit item, ∀ owner,
      concerns owner event = decide (claimant item = owner)) (owner : ο) :
    (items.flatMap emit).filter (concerns owner) =
      (items.filter fun item => claimant item = owner).flatMap emit := by
  have each : ∀ item ∈ items, (emit item).filter (concerns owner) =
      if claimant item = owner then emit item else [] := by
    intro item member
    rw [List.filter_congr fun event emitted => own item member event emitted owner]
    split
    · next same => simp [same]
    · next other => simp [other]
  rw [filter_flatMap_of_key claimant]
  · apply List.flatMap_congr
    intro item filtered
    obtain ⟨member, same⟩ := List.mem_filter.mp filtered
    rw [each item member, if_pos (of_decide_eq_true same)]
  · intro item member other
    rw [each item member, if_neg other]

omit [DecidableEq ο] in
/-- What an event does to the claims of an owner that it concerns. -/
def ownStep (owned : List ρ) : ClaimEvent ο ρ → List ρ
  | .claim _ resource => resource :: owned
  | .unclaim _ resource => owned.erase resource
  | .cancel => []

omit [DecidableEq ρ] in
theorem ownedBy_cons (owner : ο) (claim : ο × ρ) (claims : List (ο × ρ)) :
    ownedBy owner (claim :: claims) =
      if claim.1 = owner then claim.2 :: ownedBy owner claims else ownedBy owner claims := by
  by_cases same : claim.1 = owner <;> simp [ownedBy, same]

theorem ownedBy_erase (owner other : ο) (claims : List (ο × ρ)) (resource : ρ) :
    ownedBy owner (claims.erase (other, resource)) =
      if other = owner then (ownedBy owner claims).erase resource else ownedBy owner claims := by
  induction claims with
  | nil => simp
  | cons claim claims inductionHypothesis =>
    by_cases erased : claim = (other, resource)
    · -- the claim that is given back stands first
      subst erased
      by_cases same : other = owner <;> simp [ownedBy_cons, same]
    · have kept : (claim == (other, resource)) = false := by simpa using erased
      rw [List.erase_cons, kept, if_neg Bool.false_ne_true, ownedBy_cons, ownedBy_cons,
        inductionHypothesis]
      by_cases own : claim.1 = owner
      · by_cases same : other = owner
        · have differs : claim.2 ≠ resource := fun equal =>
            erased (Prod.ext (own.trans same.symm) equal)
          simp [own, same, differs]
        · simp [own, same]
      · simp [own]

theorem ownedBy_claimStep (owner : ο) (claims : List (ο × ρ)) (event : ClaimEvent ο ρ) :
    ownedBy owner (claimStep claims event) =
      if concerns owner event then ownStep (ownedBy owner claims) event
      else ownedBy owner claims := by
  cases event with
  | claim other resource =>
    by_cases same : other = owner <;> simp [claimStep, concerns, ownStep, ownedBy, same]
  | unclaim other resource => simp [claimStep, concerns, ownStep, ownedBy_erase]
  | cancel => rfl

/-- Only the events that concern an owner change what it claims. -/
theorem ownedBy_claims (owner : ο) (start : List (ο × ρ)) (events : List (ClaimEvent ο ρ)) :
    ownedBy owner (claims start events) =
      (events.filter (concerns owner)).foldl ownStep (ownedBy owner start) := by
  induction events generalizing start with
  | nil => rfl
  | cons event events inductionHypothesis =>
    have step := inductionHypothesis (claimStep start event)
    rw [ownedBy_claimStep] at step
    rw [show claims start (event :: events) = claims (claimStep start event) events from rfl, step,
      List.filter_cons]
    cases concerns owner event <;> rfl

omit [DecidableEq ρ] in
/-- Claims that nobody owns are no claims. -/
theorem eq_nil_of_ownedBy {claims : List (ο × ρ)} (none : ∀ owner, ownedBy owner claims = []) :
    claims = [] := by
  cases claims with
  | nil => rfl
  | cons claim rest =>
    have member : claim.2 ∈ ownedBy claim.1 (claim :: rest) := mem_ownedBy.mpr List.mem_cons_self
    rw [none] at member
    cases member

/-- Owners that give back what they claim, each at most once, are honest. -/
theorem honest_flatMap {α : Type*} (claimant : α → ο) {emit : α → List (ClaimEvent ο ρ)}
    {items : List α} {start : List (ο × ρ)} (nodup : (items.map claimant).Nodup)
    (own : ∀ item ∈ items, ∀ event ∈ emit item, ∀ owner,
      concerns owner event = decide (claimant item = owner))
    (single : ∀ item ∈ items, (emit item).length ≤ 1)
    (stands : ∀ item ∈ items, ∀ owner resource, .unclaim owner resource ∈ emit item →
      (owner, resource) ∈ start) : Every Honest start (items.flatMap emit) := by
  induction items generalizing start with
  | nil => trivial
  | cons first rest inductionHypothesis =>
    rw [List.map_cons, List.nodup_cons] at nodup
    rw [List.flatMap_cons, every_append]
    constructor
    · have stands := stands first List.mem_cons_self
      have single := single first List.mem_cons_self
      match emitted : emit first, single with
      | [], _ => trivial
      | [event], _ =>
        refine ⟨?_, trivial⟩
        cases event with
        | claim | cancel => trivial
        | unclaim owner resource => exact .inl (stands owner resource (by simp [emitted]))
    · refine inductionHypothesis nodup.2 (fun item member => own item (List.mem_cons_of_mem _ member))
        (fun item member => single item (List.mem_cons_of_mem _ member)) ?_
      intro item member owner resource given
      have isOwner : claimant item = owner := by
        have concerned := own item (List.mem_cons_of_mem _ member) _ given owner
        exact of_decide_eq_true (concerned.symm.trans (decide_eq_true rfl))
      -- the first item is about another owner
      have other : (emit first).filter (concerns owner) = [] := by
        rw [List.filter_eq_nil_iff]
        intro event emitted
        rw [own first List.mem_cons_self event emitted owner, decide_eq_true_eq, ← isOwner]
        intro same
        exact nodup.1 (same ▸ List.mem_map_of_mem member)
      rw [← mem_ownedBy, ownedBy_claims, other]
      exact mem_ownedBy.mpr (stands item (List.mem_cons_of_mem _ member) owner resource given)

/-! ## Counts and claims -/

theorem holders_claim (claims : List (ο × ρ)) (owner : ο) (resource other : ρ) :
    holders (claimStep claims (.claim owner resource)) other =
      holders claims other + if other = resource then 1 else 0 := by
  by_cases same : resource = other <;> simp [claimStep, holders, same, eq_comm]

theorem holders_unclaim (claims : List (ο × ρ)) (owner : ο) (resource other : ρ) :
    holders (claimStep claims (.unclaim owner resource)) other =
      holders claims other - if (owner, resource) ∈ claims ∧ other = resource then 1 else 0 := by
  rw [claimStep, holders, List.countP_erase]
  simp [holders, eq_comm]

theorem count_le_step {counts : IndexMap ρ Nat} {claims : List (ο × ρ)}
    (le : ∀ resource, RefCount.count counts resource ≤ holders claims resource)
    (event : ClaimEvent ο ρ) (resource : ρ) :
    RefCount.count (tallyStep counts event) resource ≤ holders (claimStep claims event) resource := by
  have before := le resource
  cases event with
  | claim owner other =>
    rw [tallyStep, RefCount.count_retain, holders_claim]
    omega
  | unclaim owner other =>
    rw [tallyStep, RefCount.count_drop, holders_unclaim]
    by_cases same : resource = other
    · subst same
      simp only [and_true, if_true]
      split <;> omega
    · simpa [same] using before
  | cancel => exact Nat.le_refl 0

/-- The count of a resource is never above the number of its claims. -/
theorem tally_le {counts : IndexMap ρ Nat} {start : List (ο × ρ)}
    (le : ∀ resource, RefCount.count counts resource ≤ holders start resource)
    (events : List (ClaimEvent ο ρ)) (resource : ρ) :
    RefCount.count (tally counts events) resource ≤ holders (claims start events) resource := by
  induction events generalizing counts start with
  | nil => exact le resource
  | cons event events inductionHypothesis => exact inductionHypothesis (count_le_step le event)

theorem count_eq_step {counts : IndexMap ρ Nat} {claims : List (ο × ρ)}
    (eq : ∀ resource, RefCount.count counts resource = holders claims resource)
    {event : ClaimEvent ο ρ} (honest : Honest claims event) (resource : ρ) :
    RefCount.count (tallyStep counts event) resource = holders (claimStep claims event) resource := by
  have before := eq resource
  cases event with
  | claim owner other => rw [tallyStep, RefCount.count_retain, holders_claim, before]
  | unclaim owner other =>
    rw [tallyStep, RefCount.count_drop, holders_unclaim, before]
    by_cases same : resource = other
    · subst same
      rcases honest with stands | unclaimed
      · simp [stands]
      · simp [unclaimed]
    · simp [same]
  | cancel => rfl

/-- With honest events the count of a resource is the number of its claims. -/
theorem tally_eq {counts : IndexMap ρ Nat} {start : List (ο × ρ)}
    (eq : ∀ resource, RefCount.count counts resource = holders start resource)
    {events : List (ClaimEvent ο ρ)} (honest : Every Honest start events) (resource : ρ) :
    RefCount.count (tally counts events) resource = holders (claims start events) resource := by
  induction events generalizing counts start with
  | nil => exact eq resource
  | cons event events inductionHypothesis =>
    exact inductionHypothesis (count_eq_step eq honest.1) honest.2

omit [DecidableEq ο] in
theorem positive_tally {counts : IndexMap ρ Nat} (positive : RefCount.Positive counts)
    (events : List (ClaimEvent ο ρ)) : RefCount.Positive (tally counts events) := by
  induction events generalizing counts with
  | nil => exact positive
  | cons event events inductionHypothesis =>
    cases event with
    | claim owner resource => exact inductionHypothesis (RefCount.positive_retain positive resource)
    | unclaim owner resource => exact inductionHypothesis (RefCount.positive_drop positive resource)
    | cancel => exact inductionHypothesis RefCount.positive_empty

end Ledger

end Scd.Foundation
