import Mathlib.Algebra.Order.Floor.Ring
import Mathlib.Algebra.Order.BigOperators.Group.List
import Mathlib.Tactic.Linarith

/-! # Cells side by side

A line is cut into cells that stand side by side, each with its own length.  `locate` finds the
cell of a point by looking for the first boundary behind it.  Where the point lies on the line,
this is the one cell that holds it, and neither a change of the scale nor a margin at both ends
that is narrower than every cell makes a difference.
-/

namespace Scd.Foundation

universe u

/-- A cell with the place that it has among the others. -/
structure Cell (K : Type u) where
  position : ℕ
  start : K
  length : K

section

variable {K : Type u} [CommRing K] [LinearOrder K]

/-- The start belongs to the cell, the end does not. -/
def Cell.Holds (point : K) (cell : Cell K) : Prop :=
  cell.start ≤ point ∧ point < cell.start + cell.length

def cells : ℕ → K → List K → List (Cell K)
  | _, _, [] => []
  | position, start, length :: lengths =>
    ⟨position, start, length⟩ :: cells (position + 1) (start + length) lengths

/-- The first cell that ends behind the point, or else the last. -/
def locate (point : K) : ℕ → K → List K → Option ℕ
  | _, _, [] => none
  | position, start, length :: lengths =>
    if point < start + length ∨ lengths = [] then some position
    else locate point (position + 1) (start + length) lengths

omit [LinearOrder K] in
theorem cells_lengths (position : ℕ) (start : K) (lengths : List K) :
    (cells position start lengths).map Cell.length = lengths := by
  induction lengths generalizing position start with
  | nil => rfl
  | cons length lengths inductionHypothesis => rw [cells, List.map_cons, inductionHypothesis]

theorem locate_ge {point start : K} {position found : ℕ} {lengths : List K}
    (located : locate point position start lengths = some found) : position ≤ found := by
  induction lengths generalizing position start with
  | nil => cases located
  | cons length lengths inductionHypothesis =>
    rw [locate] at located
    split at located
    · cases located
      exact Nat.le_refl _
    · exact Nat.le_of_succ_le (inductionHypothesis located)

theorem locate_isSome (point start : K) (position : ℕ) {lengths : List K} (nonempty : lengths ≠ []) :
    (locate point position start lengths).isSome := by
  induction lengths generalizing position start with
  | nil => exact absurd rfl nonempty
  | cons length lengths inductionHypothesis =>
    rw [locate]
    split
    · rfl
    · next later =>
      push Not at later
      exact inductionHypothesis _ _ later.2

variable [IsStrictOrderedRing K]

theorem cells_after {position : ℕ} {start : K} {lengths : List K} {cell : Cell K}
    (positive : ∀ length ∈ lengths, 0 < length) (member : cell ∈ cells position start lengths) :
    position ≤ cell.position ∧ start ≤ cell.start := by
  induction lengths generalizing position start with
  | nil => cases member
  | cons length lengths inductionHypothesis =>
    obtain ⟨first, rest⟩ := List.forall_mem_cons.mp positive
    cases List.mem_cons.mp member with
    | inl same =>
      rw [same]
      exact ⟨Nat.le_refl _, le_refl _⟩
    | inr later =>
      obtain ⟨behind, above⟩ := inductionHypothesis rest later
      exact ⟨Nat.le_of_succ_le behind, (le_add_of_nonneg_right first.le).trans above⟩

/-- The cell that holds a point of the line is the one that is located. -/
theorem holds_iff {point start : K} {position : ℕ} {lengths : List K} {cell : Cell K}
    (positive : ∀ length ∈ lengths, 0 < length) (low : start ≤ point)
    (high : point < start + lengths.sum) (member : cell ∈ cells position start lengths) :
    cell.Holds point ↔ locate point position start lengths = some cell.position := by
  induction lengths generalizing position start with
  | nil => cases member
  | cons length lengths inductionHypothesis =>
    obtain ⟨first, rest⟩ := List.forall_mem_cons.mp positive
    rw [List.sum_cons, ← add_assoc] at high
    rw [locate]
    by_cases here : point < start + length
    · rw [if_pos (.inl here)]
      cases List.mem_cons.mp member with
      | inl same =>
        rw [same]
        exact ⟨fun _ => rfl, fun _ => ⟨low, here⟩⟩
      | inr later =>
        obtain ⟨behind, above⟩ := cells_after rest later
        refine ⟨fun holds => absurd (above.trans holds.1) (not_le.mpr here), fun same => ?_⟩
        have same : position = cell.position := Option.some.inj same
        omega
    · have more : lengths ≠ [] := by
        rintro rfl
        rw [List.sum_nil, add_zero] at high
        exact here high
      rw [if_neg (by push Not; exact ⟨not_lt.mp here, more⟩)]
      cases List.mem_cons.mp member with
      | inl same =>
        rw [same]
        refine ⟨fun holds => absurd holds.2 here, fun located => ?_⟩
        have behind := locate_ge located
        exact absurd behind (Nat.not_succ_le_self position)
      | inr later => exact inductionHypothesis rest (not_lt.mp here) high later

/-- Another scale. -/
theorem locate_scale {factor : K} (positive : 0 < factor) (point start : K) (position : ℕ)
    (lengths : List K) :
    locate (factor * point) position (factor * start) (lengths.map (factor * ·)) =
      locate point position start lengths := by
  induction lengths generalizing position start with
  | nil => rfl
  | cons length lengths inductionHypothesis =>
    rw [List.map_cons, locate, locate, ← mul_add, inductionHypothesis]
    simp only [mul_lt_mul_iff_right₀ positive, List.map_eq_nil_iff]

/-- A point in the margin is located in the first or in the last cell, where the point on the
    edge of the margin is. -/
theorem locate_clamp {margin low high point start : K} {position : ℕ} {lengths : List K}
    (nonneg : 0 ≤ margin) (wide : ∀ length ∈ lengths, margin < length) (left : low ≤ start + margin)
    (right : start + lengths.sum - margin ≤ high) :
    locate (min (max point low) high) position start lengths =
      locate point position start lengths := by
  induction lengths generalizing position start with
  | nil => rfl
  | cons length lengths inductionHypothesis =>
    obtain ⟨first, rest⟩ := List.forall_mem_cons.mp wide
    rw [List.sum_cons] at right
    rw [locate, locate, inductionHypothesis rest (by linarith) (by linarith)]
    cases lengths with
    | nil => simp
    | cons next lengths =>
      have inner : start + length < high := by
        have second : margin < next := rest next List.mem_cons_self
        have others : 0 ≤ lengths.sum := List.sum_nonneg fun other member =>
          (nonneg.trans_lt (rest other (List.mem_cons_of_mem _ member))).le
        rw [List.sum_cons] at right
        linarith
      have outer : low < start + length := by linarith
      have same : min (max point low) high < start + length ↔ point < start + length := by
        simp [outer, inner.not_gt]
      simp only [same]

end

/-! ## Cells of one height -/

section

variable {K : Type u} [Field K] [LinearOrder K] [IsStrictOrderedRing K] [FloorRing K]

/-- The cell of a point is found by a division, and a margin at both ends makes no difference. -/
theorem floor_clamp {count : ℕ} {height low high point : K} (positive : 0 < height)
    (nonneg : 0 ≤ low) (left : low < height) (right : (count - 1 : ℤ) * height ≤ high)
    (inside : high < count * height) (ordered : low ≤ high) (start : 0 ≤ point) :
    ⌊min (max point low) high / height⌋ = min ⌊point / height⌋ (count - 1) := by
  have most : ⌊high / height⌋ = count - 1 := by
    apply Int.floor_eq_iff.mpr
    rw [le_div_iff₀ positive, div_lt_iff₀ positive]
    push_cast at right ⊢
    exact ⟨right, by linarith⟩
  have some : 0 ≤ (count - 1 : ℤ) := by
    rw [← most]
    exact Int.floor_nonneg.mpr (div_nonneg (nonneg.trans ordered) positive.le)
  rcases lt_or_ge point low with before | behind
  · have first {value : K} (nonneg : 0 ≤ value) (small : value < height) : ⌊value / height⌋ = 0 :=
      Int.floor_eq_zero_iff.mpr ⟨div_nonneg nonneg positive.le, (div_lt_one positive).mpr small⟩
    rw [max_eq_right before.le, min_eq_left ordered, first nonneg left,
      first start (before.trans left), min_eq_left some]
  rw [max_eq_left behind]
  rcases le_or_gt point high with within | beyond
  · have least : ⌊point / height⌋ ≤ count - 1 :=
      most ▸ Int.floor_mono (div_le_div_of_nonneg_right within positive.le)
    rw [min_eq_left within, min_eq_left least]
  · have least : count - 1 ≤ ⌊point / height⌋ :=
      most ▸ Int.floor_mono (div_le_div_of_nonneg_right beyond.le positive.le)
    rw [min_eq_right beyond.le, most, min_eq_right least]

end

end Scd.Foundation
