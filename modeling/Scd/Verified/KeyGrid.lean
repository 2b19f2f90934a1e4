import Scd.Core.Exact
import Scd.Foundation.Cells
import Scd.Osk.Render
import Scd.Verified.Coalescing

/-! # The key under a pointer

A click types the key that its position falls on when the weights of a row are summed up.  The
renderer highlights the key whose rectangle holds the pointer, and lays the rectangles side by
side.  Both cut the same square into the same cells, and keeping the pointer away from the edges
moves it into no other cell, as long as every cell is larger than the margin.
-/

namespace Scd.Osk

open Scd.Core Scd.Foundation
open ExactScalar

section

variable {F : Type} [Scalar F] [ExactScalar F]

omit [Scalar F] [ExactScalar F] in
/-- The items with a key, where each key occurs once. -/
theorem filter_key {α β : Type} [DecidableEq β] {items : List α} {key : α → β} {selects : α → Bool}
    (nodup : (items.map key).Nodup) {wanted : β} (member : wanted ∈ items.map key)
    (same : ∀ item ∈ items, selects item = true ↔ key item = wanted) :
    (items.filter selects).map key = [wanted] := by
  have keyed : items.filter selects = items.filter ((fun other => other = wanted) ∘ key) :=
    List.filter_congr fun item inside => by simp [← same item inside]
  rw [keyed, ← List.filter_map, List.filter_eq, List.count_eq_one_of_mem nodup member]
  rfl

omit [Scalar F] [ExactScalar F] in
theorem rows_nonempty (page : Page) : ∀ row ∈ rows page, row ≠ [] := by
  cases page <;> decide

/-! ## Columns -/

/-- The horizontal extent of a key. -/
noncomputable def Keyboard.VisitedKey.column (visited : Keyboard.VisitedKey F) : Cell ℝ :=
  ⟨visited.slot.key, val visited.rectangle.1, val visited.rectangle.2.2.1⟩

theorem visitRow_columns (keyboard : Keyboard F) (width rowHeight : F) (row totalWeight : ℕ)
    (position : ℕ) (x : F) (keys : List Key) :
    (keyboard.visitRow width rowHeight row totalWeight position x keys).map (·.column) =
      cells position (val x) (keys.map fun key => val width * key.weight / totalWeight) := by
  induction keys generalizing position x with
  | nil => rfl
  | cons key keys inductionHypothesis =>
    have keyWidth : val (width * Scalar.ofInt key.weight / Scalar.ofInt totalWeight) =
        val width * key.weight / totalWeight := by
      simp
    rw [Keyboard.visitRow, List.map_cons, inductionHypothesis, List.map_cons, cells, val_add,
      ← keyWidth]
    rfl

omit [ExactScalar F] in
/-- The rectangles of a row have its place and its height. -/
theorem visitRow_row {keyboard : Keyboard F} {width rowHeight : F} {row totalWeight : ℕ}
    {position : ℕ} {x : F} {keys : List Key} {visited : Keyboard.VisitedKey F}
    (member : visited ∈ keyboard.visitRow width rowHeight row totalWeight position x keys) :
    visited.slot.row = row ∧ visited.rectangle.2.1 = Scalar.ofInt row * rowHeight ∧
      visited.rectangle.2.2.2 = rowHeight := by
  induction keys generalizing position x with
  | nil => cases member
  | cons key keys inductionHypothesis =>
    cases List.mem_cons.mp member with
    | inl first =>
      rw [first]
      exact ⟨rfl, rfl, rfl⟩
    | inr later => exact inductionHypothesis later

theorem hitKey_eq_locate (target boundary : F) (position : ℕ) (keys : List Key) :
    hitKey target boundary position keys =
      locate (val target) position (val boundary) (keys.map fun key => (key.weight : ℝ)) := by
  induction keys generalizing position boundary with
  | nil => rfl
  | cons key keys inductionHypothesis =>
    have ends : (target < boundary + Scalar.ofInt key.weight ∨ keys = []) ↔
        (val target < val boundary + key.weight ∨
          keys.map (fun key => (key.weight : ℝ)) = []) := by
      rw [val_lt, val_add, val_ofInt, Int.cast_natCast, List.map_eq_nil_iff]
    rw [List.map_cons, hitKey, locate, inductionHypothesis, val_add, val_ofInt, Int.cast_natCast]
    exact if_congr ends rfl rfl

/-! ## Keeping the pointer inside -/

theorem project_within (half : Half) (position : F × F) :
    ∃ place, half.project position = some place ∧
      (0 ≤ val place.1 ∧ val place.1 ≤ 1) ∧ 0 ≤ val place.2 ∧ val place.2 ≤ 1 := by
  have within (value : F) : 0 ≤ val (clamp value 0.0 1.0) ∧ val (clamp value 0.0 1.0) ≤ 1 := by
    rw [val_clamp, val_zero, val_one]
    exact ⟨le_min (le_max_right _ _) zero_le_one, min_le_right _ _⟩
  unfold Half.project
  rw [isFinite, isFinite]
  exact ⟨_, rfl, within _, within _⟩

variable [ExactFunctions F]

theorem val_pointerInset (dimension : F) :
    val (pointerInset dimension) = min 19 (val dimension / 2) := by
  rw [pointerInset, ExactFunctions.val_min, val_mul, val_literal_true, val_literal_true]
  norm_num
  ring_nf

/-- A coordinate inside of the grid that has been kept away from the edges. -/
noncomputable def kept (dimension place : ℝ) : ℝ :=
  min (max (dimension * place) (min 19 (dimension / 2))) (dimension - min 19 (dimension / 2))

theorem val_kept (origin dimension place : F) :
    val (clamp (origin + dimension * place) (origin + pointerInset dimension)
      (origin + dimension - pointerInset dimension)) =
      val origin + kept (val dimension) (val place) := by
  rw [val_clamp, val_add, val_add, val_sub, val_add, val_mul, val_pointerInset, add_sub_assoc,
    max_add_add_left, min_add_add_left]
  rfl

omit [Scalar F] [ExactScalar F] [ExactFunctions F] in
theorem kept_within {dimension : ℝ} (positive : 0 < dimension) (place : ℝ) :
    0 ≤ kept dimension place ∧ kept dimension place < dimension := by
  have margin : 0 < min 19 (dimension / 2) := lt_min (by norm_num) (by linarith)
  have half : min 19 (dimension / 2) ≤ dimension / 2 := min_le_right _ _
  constructor
  · exact le_min (margin.le.trans (le_max_right _ _)) (by linarith)
  · exact (min_le_right _ _).trans_lt (by linarith)

omit [Scalar F] [ExactScalar F] [ExactFunctions F] in
theorem widths_eq (keys : List Key) (width : ℝ) (weight : ℕ) :
    (keys.map fun key => width * (key.weight : ℝ) / weight) =
      (keys.map fun key => (key.weight : ℝ)).map (width / weight * ·) := by
  rw [List.map_map]
  apply List.map_congr_left
  intro key _
  exact mul_div_right_comm _ _ _

omit [Scalar F] [ExactScalar F] [ExactFunctions F] in
/-- The weights of a row share out its width. -/
theorem sum_widths {keys : List Key} (width : ℝ) (some : (keys.map Key.weight).sum ≠ 0) :
    (keys.map fun key => width * key.weight / ((keys.map Key.weight).sum : ℕ)).sum = width := by
  have total : (keys.map fun key => (key.weight : ℝ)).sum = ((keys.map Key.weight).sum : ℕ) := by
    rw [Nat.cast_list_sum, List.map_map]
    rfl
  rw [widths_eq, List.sum_map_mul_left, List.map_id', total]
  exact div_mul_cancel₀ _ (by exact_mod_cast some)

/-! ## The cell of a position -/

omit [ExactFunctions F] in
/-- The column that holds the pointer is the key that a click hits. -/
theorem column_holds_iff {keys : List Key} {width place : ℝ} {target boundary : F} {cell : Cell ℝ}
    (wide : ∀ key ∈ keys, 19 < width * key.weight / ((keys.map Key.weight).sum : ℕ))
    (scaled : val target = place * ((keys.map Key.weight).sum : ℕ)) (zero : val boundary = 0)
    (member : cell ∈ cells 0 0
      (keys.map fun key => width * key.weight / ((keys.map Key.weight).sum : ℕ))) :
    cell.Holds (kept width place) ↔ hitKey target boundary 0 keys = some cell.position := by
  have some : (keys.map Key.weight).sum ≠ 0 := by
    intro zero
    cases keys with
    | nil => cases member
    | cons key keys =>
      have wide := wide key List.mem_cons_self
      rw [zero, Nat.cast_zero, div_zero] at wide
      norm_num at wide
  have sum := sum_widths width some
  have total : (0 : ℝ) < ((keys.map Key.weight).sum : ℕ) := by
    exact_mod_cast Nat.pos_of_ne_zero some
  generalize (keys.map Key.weight).sum = weight at *
  have wide : ∀ length ∈ keys.map fun key => width * key.weight / weight, 19 < length := by
    intro length member
    obtain ⟨key, inside, rfl⟩ := List.mem_map.mp member
    exact wide key inside
  have positive : 0 < width := by
    rw [← sum]
    apply List.sum_pos _ (fun length member => (by norm_num : (0 : ℝ) < 19).trans (wide length member))
    intro none
    rw [none] at member
    cases member
  have point : width * place = width / weight * (place * weight) := by
    field_simp
  have margin : min 19 (width / 2) ≤ 19 := min_le_left _ _
  have within := kept_within positive place
  rw [holds_iff (fun length member => (by norm_num : (0 : ℝ) < 19).trans (wide length member))
    within.1 (by rw [sum, zero_add]; exact within.2) member, hitKey_eq_locate, kept,
    locate_clamp (by norm_num : (0 : ℝ) ≤ 19) wide (by linarith) (by linarith), scaled, zero,
    widths_eq, point]
  have scale := locate_scale (div_pos positive total) (place * weight) 0 0
    (keys.map fun key => (key.weight : ℝ))
  rw [mul_zero] at scale
  rw [scale]

/-- The row that a click hits. -/
def hitRow (page : Page) (place : F) : ℕ :=
  (Scalar.toInt (Scalar.min (Scalar.floor (place * Scalar.ofInt (rows page).length))
    (Scalar.ofInt (rows page).length - 1.0))).toNat

theorem hitRow_eq (page : Page) {place : F} (nonneg : 0 ≤ val place) :
    (hitRow page place : ℤ) = min ⌊val place * (rows page).length⌋ ((rows page).length - 1) := by
  have length : (rows page).length = 5 := rows_length page
  have whole : val (Scalar.min (Scalar.floor (place * Scalar.ofInt (rows page).length))
      (Scalar.ofInt (rows page).length - 1.0)) =
        (min ⌊val place * (rows page).length⌋ ((rows page).length - 1) : ℤ) := by
    rw [ExactFunctions.val_min, ExactFunctions.val_floor, val_mul, val_sub, val_ofInt, val_one]
    push_cast
    rfl
  rw [hitRow, toInt_eq, whole, truncate_intCast]
  apply Int.toNat_of_nonneg
  exact le_min (Int.floor_nonneg.mpr (mul_nonneg nonneg (Nat.cast_nonneg _))) (by omega)

/-- The row that holds the pointer is the one that a click hits. -/
theorem row_holds_iff (page : Page) {height : ℝ} {place : F} (row : ℕ)
    (high : 19 < height / (rows page).length) (nonneg : 0 ≤ val place) :
    (row * (height / (rows page).length) ≤ kept height (val place) ∧
      kept height (val place) < row * (height / (rows page).length) + height / (rows page).length) ↔
      row = hitRow page place := by
  have count : (0 : ℝ) < (rows page).length := by
    rw [rows_length]
    norm_num
  have five : (rows page).length = 5 := rows_length page
  generalize each : height / (rows page).length = cell at high ⊢
  have whole : height = (rows page).length * cell := by
    rw [← each]
    field_simp
  have positive : 0 < cell := by linarith
  have some : 0 < height := by
    rw [whole]
    positivity
  have margin : 0 < min 19 (height / 2) := lt_min (by norm_num) (by linarith)
  have narrow : min 19 (height / 2) ≤ 19 := min_le_left _ _
  have half : min 19 (height / 2) ≤ height / 2 := min_le_right _ _
  have floor : ⌊kept height (val place) / cell⌋ = (hitRow page place : ℤ) := by
    have scale : height * val place / cell = val place * (rows page).length := by
      rw [whole]
      field_simp
    rw [hitRow_eq page nonneg, ← scale]
    apply floor_clamp positive margin.le (by linarith)
    · push_cast
      linarith
    · linarith
    · linarith
    · exact mul_nonneg some.le nonneg
  have next : row * cell + cell = (row + 1) * cell := by ring
  rw [← Int.natCast_inj, ← floor, eq_comm, Int.floor_eq_iff, le_div_iff₀ positive,
    div_lt_iff₀ positive, next]
  rfl

/-! ## Slots -/

omit [ExactScalar F] [ExactFunctions F] in
theorem visitRow_slots (keyboard : Keyboard F) (width rowHeight : F) (row totalWeight : ℕ)
    (position : ℕ) (x : F) (keys : List Key) :
    (keyboard.visitRow width rowHeight row totalWeight position x keys).map (·.slot) =
      (List.range' position keys.length).map (Slot.mk row) := by
  induction keys generalizing position x with
  | nil => rfl
  | cons key keys inductionHypothesis =>
    rw [Keyboard.visitRow, List.map_cons, inductionHypothesis]
    rfl

omit [ExactScalar F] [ExactFunctions F] in
theorem forEachKey_slots (keyboard : Keyboard F) (width height : F) :
    (keyboard.forEachKey width height).map (·.slot) =
      (rows keyboard.page).zipIdx.flatMap fun entry =>
        (List.range' 0 entry.1.length).map (Slot.mk entry.2) := by
  rw [Keyboard.forEachKey, List.map_flatMap]
  congr 1
  funext entry
  exact visitRow_slots keyboard _ _ _ _ _ _ _

omit [ExactScalar F] [ExactFunctions F] in
/-- No slot is visited twice. -/
theorem forEachKey_nodup (keyboard : Keyboard F) (width height : F) :
    ((keyboard.forEachKey width height).map (·.slot)).Nodup := by
  rw [forEachKey_slots]
  cases keyboard.page <;> decide

omit [ExactScalar F] [ExactFunctions F] in
theorem forEachKey_row {keyboard : Keyboard F} {width height : F}
    {visited : Keyboard.VisitedKey F} (member : visited ∈ keyboard.forEachKey width height) :
    ∃ row, (rows keyboard.page)[visited.slot.row]? = some row ∧
      visited ∈ keyboard.visitRow width (height / Scalar.ofInt (rows keyboard.page).length)
        visited.slot.row (row.map Key.weight).sum 0 0.0 row := by
  obtain ⟨⟨row, position⟩, inPage, inRow⟩ := List.mem_flatMap.mp member
  have same : visited.slot.row = position := (visitRow_row inRow).1
  rw [same]
  exact ⟨row, List.mk_mem_zipIdx_iff_getElem?.mp inPage, inRow⟩

/-! ## Pointers -/

/-- Every cell of the grid is more than 19 wide and high. -/
def Roomy (keyboard : Keyboard F) (grid : LogicalRect F) : Prop :=
  ∀ visited ∈ keyboard.forEachKey grid.width grid.height,
    19 < val visited.rectangle.2.2.1 ∧ 19 < val visited.rectangle.2.2.2

variable {keyboard : Keyboard F} {grid : LogicalRect F} {visited : Keyboard.VisitedKey F}

omit [ExactFunctions F] in
theorem Roomy.wide (roomy : Roomy keyboard grid) {position : ℕ} {row : List Key}
    (rowAt : (rows keyboard.page)[position]? = some row) :
    ∀ key ∈ row, 19 < val grid.width * key.weight / ((row.map Key.weight).sum : ℕ) := by
  intro key inside
  have columns := visitRow_columns keyboard grid.width
    (grid.height / Scalar.ofInt (rows keyboard.page).length) position (row.map Key.weight).sum 0 0.0 row
  have lengths := congrArg (List.map Cell.length) columns
  rw [cells_lengths, List.map_map] at lengths
  have member := List.mem_map_of_mem
    (f := fun key : Key => val grid.width * key.weight / ((row.map Key.weight).sum : ℕ)) inside
  rw [← lengths] at member
  obtain ⟨visited, drawn, same⟩ := List.mem_map.mp member
  rw [← same]
  exact (roomy visited (List.mem_flatMap.mpr
    ⟨(row, position), List.mk_mem_zipIdx_iff_getElem?.mpr rowAt, drawn⟩)).1

theorem cell_contains_iff (roomy : Roomy keyboard grid)
    (member : visited ∈ keyboard.forEachKey grid.width grid.height) {half : Half}
    {position place : F × F} (projected : half.project position = some place)
    (nonneg : 0 ≤ val place.2)
    {point : LogicalPoint F} (drawn : drawnPointer grid half position = some point)
    {row : List Key} (rowAt : (rows keyboard.page)[hitRow keyboard.page place.2]? = some row)
    {key : ℕ} (hit : hitKey (place.1 * Scalar.ofInt (row.map Key.weight).sum) 0.0 0 row = some key) :
    (visited.cell grid).contains point = true ↔
      visited.slot = ⟨hitRow keyboard.page place.2, key⟩ := by
  obtain ⟨row', rowAt', inRow⟩ := forEachKey_row member
  obtain ⟨_, top, tall⟩ := visitRow_row inRow
  have high : 19 < val grid.height / (rows keyboard.page).length := by
    have high := (roomy visited member).2
    rw [tall, val_div, val_ofInt, Int.cast_natCast] at high
    exact high
  -- the rows are higher than the inset, so that clamping a point does not leave its row
  have vertical := row_holds_iff keyboard.page visited.slot.row high nonneg
  have column : visited.column ∈ cells 0 0
      (row'.map fun key => val grid.width * key.weight / ((row'.map Key.weight).sum : ℕ)) := by
    rw [← val_zero (F := F), ← visitRow_columns]
    exact List.mem_map_of_mem inRow
  rw [drawnPointer, projected] at drawn
  cases drawn
  -- across, the point is kept as far from the border as the library keeps a share of the width
  have across : (grid.x + visited.rectangle.1 ≤ clamp (grid.x + grid.width * place.1)
        (grid.x + pointerInset grid.width) (grid.x + grid.width - pointerInset grid.width) ∧
      clamp (grid.x + grid.width * place.1) (grid.x + pointerInset grid.width)
        (grid.x + grid.width - pointerInset grid.width) <
          grid.x + visited.rectangle.1 + visited.rectangle.2.2.1) ↔
      visited.column.Holds (kept (val grid.width) (val place.1)) := by
    rw [val_le, val_lt, val_kept, val_add, val_add, val_add, add_assoc, add_le_add_iff_left,
      add_lt_add_iff_left]
    rfl
  have down : (grid.y + visited.rectangle.2.1 ≤ clamp (grid.y + grid.height * place.2)
        (grid.y + pointerInset grid.height) (grid.y + grid.height - pointerInset grid.height) ∧
      clamp (grid.y + grid.height * place.2) (grid.y + pointerInset grid.height)
        (grid.y + grid.height - pointerInset grid.height) <
          grid.y + visited.rectangle.2.1 + visited.rectangle.2.2.2) ↔
      visited.slot.row = hitRow keyboard.page place.2 := by
    rw [← vertical, top, tall, val_le, val_lt, val_kept, val_add, val_add, val_add, add_assoc,
      add_le_add_iff_left, add_lt_add_iff_left, val_mul, val_div, val_ofInt, val_ofInt,
      Int.cast_natCast, Int.cast_natCast]
  unfold LogicalRect.contains Keyboard.VisitedKey.cell
  rw [decide_eq_true_iff, ← and_assoc, across, down]
  have slot : visited.slot = ⟨hitRow keyboard.page place.2, key⟩ ↔
      visited.slot.key = key ∧ visited.slot.row = hitRow keyboard.page place.2 := by
    generalize visited.slot = slot
    cases slot
    rw [Slot.mk.injEq]
    exact and_comm
  rw [slot]
  -- in the row of the point its key is the only column that holds it
  apply and_congr_left
  intro same
  rw [same, rowAt] at rowAt'
  cases rowAt'
  have scaled : val (place.1 * Scalar.ofInt (row.map Key.weight).sum) =
      val place.1 * ((row.map Key.weight).sum : ℕ) := by
    rw [val_mul, val_ofInt, Int.cast_natCast]
  rw [column_holds_iff (roomy.wide rowAt) scaled (val_zero (F := F)) column, hit, Option.some_inj]
  exact eq_comm

omit [ExactScalar F] [ExactFunctions F] in
/-- A click hits the key that is found in its row. -/
theorem hitSlot_eq {page : Page} {half : Half} {position place : F × F}
    (projected : half.project position = some place) {row : List Key}
    (rowAt : (rows page)[hitRow page place.2]? = some row) :
    hitSlot page half position =
      .ok ((hitKey (place.1 * Scalar.ofInt (row.map Key.weight).sum) 0.0 0 row).map
        (Slot.mk (hitRow page place.2))) := by
  rw [hitSlot, projected]
  change (index (rows page) (hitRow page place.2) >>= _) = _
  rw [index, rowAt]
  rfl

/-- The position that a pad reports is drawn in one cell, and a click types the key of that cell. -/
theorem drawn_key_hit (keyboard : Keyboard F) (grid : LogicalRect F) (half : Half)
    (position : F × F) (roomy : Roomy keyboard grid) :
    ∃ point slot, drawnPointer grid half position = some point ∧
      hitSlot keyboard.page half position = .ok (some slot) ∧
      ((keyboard.forEachKey grid.width grid.height).filter
        fun visited => (visited.cell grid).contains point).map (·.slot) = [slot] := by
  obtain ⟨place, projected, _, vertical⟩ := project_within half position
  have inside : hitRow keyboard.page place.2 < (rows keyboard.page).length := by
    have least := hitRow_eq keyboard.page vertical.1
    omega
  have rowAt := List.getElem?_eq_getElem inside
  generalize (rows keyboard.page)[hitRow keyboard.page place.2] = row at rowAt
  have nonempty : row ≠ [] := rows_nonempty _ _ (List.mem_of_getElem? rowAt)
  obtain ⟨key, hit⟩ : ∃ key,
      hitKey (place.1 * Scalar.ofInt (row.map Key.weight).sum) 0.0 0 row = some key := by
    rw [← Option.isSome_iff_exists, hitKey_eq_locate]
    exact locate_isSome _ _ _ (by simpa using nonempty)
  obtain ⟨point, drawn⟩ : ∃ point, drawnPointer grid half position = some point := by
    rw [drawnPointer, projected]
    exact ⟨_, rfl⟩
  refine ⟨point, ⟨hitRow keyboard.page place.2, key⟩, drawn, ?_, ?_⟩
  · rw [hitSlot_eq projected rowAt, hit]
    rfl
  · apply filter_key (forEachKey_nodup keyboard grid.width grid.height)
    · rw [forEachKey_slots]
      refine List.mem_flatMap.mpr ⟨_, List.mk_mem_zipIdx_iff_getElem?.mpr rowAt, ?_⟩
      have short := hitKey_lt hit
      exact List.mem_map_of_mem (List.mem_range'_1.mpr ⟨Nat.zero_le _, by omega⟩)
    · intro visited member
      exact cell_contains_iff roomy member projected vertical.1 drawn rowAt hit

end

/-- The middle of the left pad on the page of letters. -/
theorem example_drawn_key :
    let keyboard : Keyboard ℚ := Keyboard.default
    let grid : LogicalRect ℚ := ⟨2, 2, 1500, 500⟩
    let middle : ℚ × ℚ := (0, 0)
    ∃ point slot, drawnPointer grid .left middle = some point ∧
      hitSlot keyboard.page .left middle = .ok (some slot) ∧
      ((keyboard.forEachKey grid.width grid.height).filter
        fun visited => (visited.cell grid).contains point).map (·.slot) = [slot] := by
  have large : ∀ visited ∈ (Keyboard.default : Keyboard ℚ).forEachKey 1500 500,
      19 < visited.rectangle.2.2.1 ∧ 19 < visited.rectangle.2.2.2 := by
    decide +kernel
  intro keyboard grid middle
  refine drawn_key_hit keyboard grid .left middle ?_
  intro visited member
  obtain ⟨wide, high⟩ := large visited member
  have real {value : ℚ} (more : 19 < value) : (19 : ℝ) < (value : ℝ) := by exact_mod_cast more
  exact ⟨real wide, real high⟩

end Scd.Osk
