import Mathlib.Data.List.Induction

/-! # Feeds

A feed is a list that only grows.  Somebody who looks at one of its items now and then, never
at one before the last he has seen, reads them in the order of the feed.  `Reads feed position
items` says that the items were read so, and that the reader has come to the position.
-/

namespace Scd.Foundation

universe u

variable {α : Type u} {feed : List α} {position later : Nat} {items : List α} {item : α}

inductive Reads (feed : List α) : Nat → List α → Prop where
  | start : Reads feed 0 []
  | ahead {position later : Nat} {items : List α} :
      Reads feed position items → position ≤ later → Reads feed later items
  | item {position : Nat} {items : List α} {item : α} :
      Reads feed position items → feed[position]? = some item →
      Reads feed position (items ++ [item])

namespace Reads

/-- The item at the position may be read again and again. -/
theorem repeats {more : List α} (reads : Reads feed position items)
    (same : ∀ item ∈ more, feed[position]? = some item) : Reads feed position (items ++ more) := by
  induction more using List.reverseRecOn with
  | nil => simpa using reads
  | append_singleton more item inductionHypothesis =>
    rw [← List.append_assoc]
    refine (inductionHypothesis fun other member => ?_).item ?_
    · exact same other (List.mem_append_left _ member)
    · exact same item (by simp)

/-- What has been read stays read when the feed grows. -/
theorem grows {more : List α} (reads : Reads feed position items) (initial : feed <+: more) :
    Reads more position items := by
  obtain ⟨rest, rfl⟩ := initial
  induction reads with
  | start => exact .start
  | ahead _ further inductionHypothesis => exact inductionHypothesis.ahead further
  | item _ found inductionHypothesis =>
    have inside := (List.getElem?_eq_some_iff.mp found).1
    exact inductionHypothesis.item ((List.getElem?_append_left inside).trans found)

/-- The positions at which the items stand in the feed, one never before the other. -/
theorem positions (reads : Reads feed position items) :
    ∃ positions : List Nat, positions.Pairwise (· ≤ ·) ∧ (∀ found ∈ positions, found ≤ position) ∧
      items.map some = positions.map (feed[·]?) := by
  induction reads with
  | start => exact ⟨[], .nil, by simp, rfl⟩
  | ahead _ further inductionHypothesis =>
    obtain ⟨positions, sorted, bounded, same⟩ := inductionHypothesis
    exact ⟨positions, sorted, fun found member => Nat.le_trans (bounded found member) further,
      same⟩
  | @item position _ item _ found inductionHypothesis =>
    obtain ⟨positions, sorted, bounded, same⟩ := inductionHypothesis
    refine ⟨positions ++ [position], ?_, ?_, ?_⟩
    · rw [List.pairwise_append]
      refine ⟨sorted, List.pairwise_singleton .., fun early member late last => ?_⟩
      rw [List.mem_singleton.mp last]
      exact bounded early member
    · intro other member
      rcases List.mem_append.mp member with old | new
      · exact bounded other old
      · exact Nat.le_of_eq (List.mem_singleton.mp new)
    · simp [same, found]

end Reads

end Scd.Foundation
