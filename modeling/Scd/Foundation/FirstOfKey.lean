import Mathlib.Data.List.Induction

/-! # Items with a key

What the items of one key contribute to a list, and which item of each key comes first.

`firsts key keep items` goes through the items once and takes an item that passes `keep`
unless an earlier one with the same key was taken.  For each key it takes what a search for
that key finds first.
-/

namespace Scd.Foundation

universe u v w

variable {α : Type u} {κ : Type v} [DecidableEq κ]

/-! ## The items of one key -/

/-- Only the items of one key contribute what is kept. -/
theorem filter_flatMap_of_key {β : Type w} (key : α → κ) {emit : α → List β} {keep : β → Bool}
    {wanted : κ} {items : List α}
    (others : ∀ item ∈ items, key item ≠ wanted → (emit item).filter keep = []) :
    (items.flatMap emit).filter keep =
      (items.filter fun item => key item = wanted).flatMap fun item => (emit item).filter keep := by
  rw [List.filter_flatMap]
  induction items with
  | nil => rfl
  | cons first rest inductionHypothesis =>
    have later := inductionHypothesis fun item member => others item (List.mem_cons_of_mem _ member)
    rw [List.flatMap_cons, later]
    by_cases same : key first = wanted
    · simp [same]
    · simp [same, others first List.mem_cons_self same]

/-- Without a repeated key, the items of a key are what a search finds. -/
theorem filter_of_nodup {key : α → κ} {items : List α} (nodup : (items.map key).Nodup) (wanted : κ) :
    (items.filter fun item => key item = wanted) =
      (items.find? fun item => key item = wanted).toList := by
  induction items with
  | nil => rfl
  | cons first rest inductionHypothesis =>
    rw [List.map_cons, List.nodup_cons] at nodup
    by_cases same : key first = wanted
    · have absent : (rest.filter fun item => key item = wanted) = [] := by
        rw [List.filter_eq_nil_iff]
        intro item member equal
        have key := of_decide_eq_true equal
        exact nodup.1 (List.mem_map.mpr ⟨item, member, key.trans same.symm⟩)
      simp [same, absent]
    · simpa [same] using inductionHypothesis nodup.2

/-- At most one item has a given position. -/
theorem zipIdx_filter (items : List α) (position : Nat) :
    (items.zipIdx.filter fun item => item.2 = position) =
      (items[position]?.map fun item => (item, position)).toList := by
  induction items using List.reverseRecOn with
  | nil => rfl
  | append_singleton items last inductionHypothesis =>
    rw [List.zipIdx_append, List.filter_append, inductionHypothesis]
    rcases Nat.lt_trichotomy position items.length with before | here | after
    · have differs : items.length ≠ position := by omega
      rw [List.getElem?_append_left before]
      simp [differs]
    · simp [here]
    · have differs : items.length ≠ position := by omega
      rw [List.getElem?_eq_none (by omega), List.getElem?_eq_none (by simp; omega)]
      simp [differs]

/-- The items read so far are a prefix, with their positions. -/
theorem zipIdx_prefix {items : List α} {done rest : List (α × Nat)}
    (split : items.zipIdx = done ++ rest) : done = (items.take done.length).zipIdx := by
  have le : done.length ≤ items.length := by
    have lengths := congrArg List.length split
    rw [List.length_zipIdx, List.length_append] at lengths
    omega
  have parts : items.zipIdx = (items.take done.length).zipIdx ++
      (items.drop done.length).zipIdx (items.take done.length).length := by
    conv_lhs => rw [← List.take_append_drop done.length items]
    rw [List.zipIdx_append, Nat.zero_add]
  refine (List.append_inj (split.symm.trans parts) ?_).1
  rw [List.length_zipIdx, List.length_take]
  omega

/-! ## The first item of each key -/

/-- Take one more item. -/
def takeFirst (key : α → κ) (keep : α → Bool) (taken : List α) (item : α) : List α :=
  if keep item && !(taken.any fun earlier => key earlier = key item) then taken ++ [item] else taken

def firsts (key : α → κ) (keep : α → Bool) (items : List α) : List α :=
  items.foldl (takeFirst key keep) []

@[simp] theorem firsts_nil (key : α → κ) (keep : α → Bool) : firsts key keep [] = [] := rfl

theorem firsts_snoc (key : α → κ) (keep : α → Bool) (items : List α) (item : α) :
    firsts key keep (items ++ [item]) = takeFirst key keep (firsts key keep items) item := by
  rw [firsts, List.foldl_append]
  rfl

theorem mem_firsts {key : α → κ} {keep : α → Bool} {items : List α} {item : α}
    (member : item ∈ firsts key keep items) : item ∈ items ∧ keep item = true := by
  induction items using List.reverseRecOn with
  | nil => cases member
  | append_singleton items last inductionHypothesis =>
    rw [firsts_snoc, takeFirst] at member
    split at member
    · next kept =>
      rcases List.mem_append.mp member with old | new
      · exact ⟨List.mem_append_left _ (inductionHypothesis old).1, (inductionHypothesis old).2⟩
      · obtain rfl := List.mem_singleton.mp new
        rw [Bool.and_eq_true] at kept
        exact ⟨by simp, kept.1⟩
    · exact ⟨List.mem_append_left _ (inductionHypothesis member).1, (inductionHypothesis member).2⟩

theorem nodup_firsts (key : α → κ) (keep : α → Bool) (items : List α) :
    ((firsts key keep items).map key).Nodup := by
  induction items using List.reverseRecOn with
  | nil => exact List.nodup_nil
  | append_singleton items last inductionHypothesis =>
    rw [firsts_snoc, takeFirst]
    split
    · next taken =>
      simp only [Bool.and_eq_true, Bool.not_eq_true', List.any_eq_false, decide_eq_true_eq] at taken
      rw [List.map_append, List.nodup_append]
      refine ⟨inductionHypothesis, by simp, ?_⟩
      intro found member other isLast
      rw [List.map_singleton, List.mem_singleton] at isLast
      subst isLast
      obtain ⟨earlier, early, rfl⟩ := List.mem_map.mp member
      exact taken.2 earlier early
    · exact inductionHypothesis

/-- Of each key the first item is taken, and no other. -/
theorem filter_firsts (key : α → κ) (keep : α → Bool) (items : List α) (wanted : κ) :
    ((firsts key keep items).filter fun item => key item = wanted) =
      (items.find? fun item => keep item && key item = wanted).toList := by
  induction items using List.reverseRecOn with
  | nil => rfl
  | append_singleton items last inductionHypothesis =>
    have taken : ((firsts key keep items).any fun earlier => key earlier = wanted) =
        (items.find? fun item => keep item && key item = wanted).isSome := by
      cases found : items.find? fun item => keep item && key item = wanted with
      | some first =>
        have member : first ∈ (firsts key keep items).filter fun item => key item = wanted := by
          rw [inductionHypothesis, found]
          exact List.mem_singleton_self first
        obtain ⟨old, same⟩ := List.mem_filter.mp member
        exact List.any_eq_true.mpr ⟨first, old, same⟩
      | none =>
        rw [found] at inductionHypothesis
        simpa using List.filter_eq_nil_iff.mp inductionHypothesis
    rw [firsts_snoc, takeFirst, List.find?_append]
    by_cases same : key last = wanted
    · rw [same, taken]
      generalize items.find? (fun item => keep item && key item = wanted) = found at *
      cases found with
      | some first => simpa using inductionHypothesis
      | none => cases kept : keep last <;> simp [kept, same, inductionHypothesis]
    · have filtered : ∀ condition : Bool,
          (if condition then firsts key keep items ++ [last] else firsts key keep items).filter
              (fun item => key item = wanted) =
            (firsts key keep items).filter fun item => key item = wanted := by
        intro condition
        cases condition <;> simp [same]
      rw [filtered, inductionHypothesis]
      simp [same]

end Scd.Foundation
