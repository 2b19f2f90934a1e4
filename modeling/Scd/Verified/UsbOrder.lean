import Mathlib.Data.List.Nodup
import Mathlib.Tactic.Common
import Scd.Daemon.Usb

/-! # The order of input reports

`poll` scans the two input transfers of a slot in array order.  When both are complete and
the first was submitted again after the second, array order is not completion order, and a
newer report overtakes an older one (`poll_overtakes`).

In runs where `poll` never meets the two transfers in that order, every slot's reports are
handed out in the order of their completion.  The proof keeps, for every slot, the
completed reports that were not handed out yet, in order: `Window`.
-/

namespace Scd.Daemon.Usb

open Scd.Foundation

/-! ## Transfers by address -/

/-- The slot that a transfer belongs to. -/
def UrbId.slot : UrbId → Nat
  | .input slot _ | .output slot => slot

namespace Device

def transfer (device : Device) : UrbId → Option Transfer
  | .input slot which => (device.slots[slot]?).map (·.input which)
  | .output slot => (device.slots[slot]?).map (·.output)

theorem transfer_below {device : Device} {urb : UrbId} {transfer : Transfer}
    (found : device.transfer urb = some transfer) : urb.slot < device.slots.length := by
  cases urb with
  | input slot which | output slot =>
    obtain ⟨_, there, _⟩ := Option.map_eq_some_iff.mp found
    exact (List.getElem?_eq_some_iff.mp there).1

theorem complete_below {device : Device} {urb : UrbId} (below : urb.slot < device.slots.length)
    (completion : Completion) :
    device.complete (urb, completion) = .ok (device.modify urb (.complete completion)) := by
  cases urb <;> exact if_pos below

theorem transfer_modify (device : Device) (urb other : UrbId) (change : Transfer → Transfer) :
    (device.modify urb change).transfer other =
      if other = urb then (device.transfer urb).map change else device.transfer other := by
  cases urb with
  | input slot which =>
    cases other with
    | input otherSlot otherWhich =>
      simp only [modify, transfer, List.getElem?_modify, UrbId.input.injEq]
      by_cases sameSlot : slot = otherSlot
      · subst sameSlot
        by_cases sameWhich : otherWhich = which
        · subst sameWhich
          cases device.slots[slot]? <;> simp [Slot.modify]
        · cases device.slots[slot]? <;> simp [Slot.modify, sameWhich]
      · simp [sameSlot, Ne.symm sameSlot]
    | output otherSlot =>
      simp only [modify, transfer, List.getElem?_modify, reduceCtorEq, if_false]
      by_cases sameSlot : slot = otherSlot
      · subst sameSlot
        cases device.slots[slot]? <;> simp [Slot.modify]
      · simp [sameSlot]
  | output slot =>
    cases other with
    | input otherSlot otherWhich =>
      simp only [modify, transfer, List.getElem?_modify, reduceCtorEq, if_false]
      by_cases sameSlot : slot = otherSlot
      · subst sameSlot
        cases device.slots[slot]? <;> simp
      · simp [sameSlot]
    | output otherSlot =>
      simp only [modify, transfer, List.getElem?_modify, UrbId.output.injEq]
      by_cases sameSlot : slot = otherSlot
      · subst sameSlot
        cases device.slots[slot]? <;> simp
      · simp [sameSlot, Ne.symm sameSlot]

@[simp] theorem modify_queued (device : Device) (urb : UrbId) (change : Transfer → Transfer) :
    (device.modify urb change).queued = device.queued := by cases urb <;> rfl

@[simp] theorem modify_completed (device : Device) (urb : UrbId) (change : Transfer → Transfer) :
    (device.modify urb change).completed = device.completed := by cases urb <;> rfl

@[simp] theorem modify_clock (device : Device) (urb : UrbId) (change : Transfer → Transfer) :
    (device.modify urb change).clock = device.clock := by cases urb <;> rfl

/-- The transfers that are in the kernel. -/
def outstanding (device : Device) : List UrbId :=
  device.queued ++ device.completed.map Prod.fst

/-- A completed report of the slot that `poll` has not handed out: it waits in a transfer of
    the slot, or in the kernel. -/
def Unread (device : Device) (slot : Nat) (completion : Completion) : Prop :=
  (∃ which transfer, device.transfer (.input slot which) = some transfer ∧
      transfer.pending = false ∧ transfer.completion = completion) ∨
    ∃ which, (UrbId.input slot which, completion) ∈ device.completed

end Device

/-! ## Histories -/

/-- The reports of a slot that the kernel has completed. -/
def completedReports (slot : Nat) (notes : List Note) : List Completion :=
  notes.filterMap fun
    | .completed other completion => if other = slot then some completion else none
    | .handedOut _ _ => none

/-- The reports of a slot that `poll` has returned. -/
def handedOutReports (slot : Nat) (notes : List Note) : List Completion :=
  notes.filterMap fun
    | .handedOut other completion => if other = slot then some completion else none
    | .completed _ _ => none

theorem completedReports_append (slot : Nat) (past more : List Note) :
    completedReports slot (past ++ more) =
      completedReports slot past ++ completedReports slot more := List.filterMap_append

theorem handedOutReports_append (slot : Nat) (past more : List Note) :
    handedOutReports slot (past ++ more) =
      handedOutReports slot past ++ handedOutReports slot more := List.filterMap_append

/-- The unread reports of a slot, oldest first, are what was completed and not handed out. -/
structure Window (device : Device) (notes : List Note) (slot : Nat) (unread : List Completion) :
    Prop where
  split : completedReports slot notes = handedOutReports slot notes ++ unread
  sorted : (completedReports slot notes).Pairwise fun older newer => older.stamp < newer.stamp
  past : ∀ completion ∈ completedReports slot notes, completion.stamp < device.clock
  covers : ∀ completion, completion ∈ unread ↔ device.Unread slot completion

/-- The slot has the same unread reports on another device, whose clock is not behind. -/
theorem Window.moved {device after : Device} {notes : List Note} {slot : Nat}
    {unread : List Completion} (window : Window device notes slot unread)
    (clock : device.clock ≤ after.clock)
    (same : ∀ report, device.Unread slot report ↔ after.Unread slot report) :
    Window after notes slot unread where
  split := window.split
  sorted := window.sorted
  past := fun report member => Nat.lt_of_lt_of_le (window.past report member) clock
  covers := fun report => (window.covers report).trans (same report)

/-- A transfer is in the kernel at most once, and the program knows it as pending. -/
structure Tracked (device : Device) : Prop where
  distinct : device.outstanding.Nodup
  pending : ∀ urb ∈ device.outstanding,
    ∃ transfer, device.transfer urb = some transfer ∧ transfer.pending = true

/-- The invariant of a run. -/
structure Consistent (notes : List Note) (device : Device) : Prop extends Tracked device where
  window : ∀ slot, ∃ unread, Window device notes slot unread

/-- In a list that is sorted by stamps a member with the least stamp comes first. -/
theorem eq_cons_of_least {completions : List Completion} {least : Completion}
    (sorted : completions.Pairwise fun older newer => older.stamp < newer.stamp)
    (member : least ∈ completions)
    (minimal : ∀ completion ∈ completions, least.stamp ≤ completion.stamp) :
    ∃ rest, completions = least :: rest := by
  cases completions with
  | nil => cases member
  | cons first rest =>
    cases member with
    | head => exact ⟨rest, rfl⟩
    | tail _ later =>
      have older := (List.pairwise_cons.mp sorted).1 least later
      have := minimal first (List.mem_cons_self ..)
      omega

/-! ## Transfers in the kernel -/

namespace Tracked

variable {device : Device}

/-- Moving a queued transfer to the completed ones keeps the transfers in the kernel. -/
theorem outstanding_perm {urb : UrbId} (queued : urb ∈ device.queued) (completion : Completion)
    (clock : Nat) :
    ({ device with
        queued := device.queued.erase urb
        completed := device.completed ++ [(urb, completion)]
        clock := clock } : Device).outstanding.Perm device.outstanding := by
  have moved : (device.queued.erase urb ++ [urb]).Perm device.queued :=
    (List.perm_append_singleton _ _).trans (List.perm_cons_erase queued).symm
  simp only [Device.outstanding, List.map_append, List.map_cons, List.map_nil]
  refine List.Perm.trans ?_ (moved.append_right _)
  rw [List.append_assoc]
  exact List.Perm.append_left _ List.perm_append_comm

theorem completeNext (tracked : Tracked device) {urb : UrbId} (queued : urb ∈ device.queued)
    (completion : Completion) (clock : Nat) :
    Tracked { device with
      queued := device.queued.erase urb
      completed := device.completed ++ [(urb, completion)]
      clock := clock } := by
  have perm := outstanding_perm queued completion clock
  refine ⟨perm.nodup_iff.mpr tracked.distinct, ?_⟩
  intro other member
  exact tracked.pending other (perm.mem_iff.mp member)

/-- A transfer that is not pending is not in the kernel. -/
theorem not_outstanding (tracked : Tracked device) {urb : UrbId} {transfer : Transfer}
    (found : device.transfer urb = some transfer) (free : transfer.pending = false) :
    urb ∉ device.outstanding := by
  intro member
  obtain ⟨other, otherFound, pending⟩ := tracked.pending urb member
  rw [found] at otherFound
  cases otherFound
  rw [free] at pending
  cases pending

theorem submit_transfer (urb other : UrbId) (length : Nat) :
    (device.submit urb length).transfer other =
      if other = urb then (device.transfer urb).map fun _ => .submit length
      else device.transfer other := by
  rw [← Device.transfer_modify]
  cases other <;> rfl

@[simp] theorem submit_completed (urb : UrbId) (length : Nat) :
    (device.submit urb length).completed = device.completed := by
  simp [Device.submit]

@[simp] theorem submit_clock (urb : UrbId) (length : Nat) :
    (device.submit urb length).clock = device.clock := by
  simp [Device.submit]

theorem submit_outstanding_perm (device : Device) (urb : UrbId) (length : Nat) :
    (device.submit urb length).outstanding.Perm (urb :: device.outstanding) := by
  simp only [Device.outstanding, Device.submit, Device.modify_completed]
  rw [List.append_assoc, List.singleton_append]
  exact List.perm_middle

/-- Submitting a transfer that is not pending. -/
theorem submit (tracked : Tracked device) {urb : UrbId} {transfer : Transfer}
    (found : device.transfer urb = some transfer) (free : transfer.pending = false) (length : Nat) :
    Tracked (device.submit urb length) := by
  have perm := submit_outstanding_perm device urb length
  refine ⟨?_, ?_⟩
  · rw [perm.nodup_iff]
    exact List.nodup_cons.mpr ⟨tracked.not_outstanding found free, tracked.distinct⟩
  · intro other member
    rw [submit_transfer]
    by_cases same : other = urb
    · rw [if_pos same, found]
      exact ⟨.submit length, rfl, rfl⟩
    · rw [if_neg same]
      exact tracked.pending other ((List.mem_cons.mp (perm.mem_iff.mp member)).resolve_left same)

end Tracked

/-! ## The kernel completes a transfer -/

namespace Consistent

variable {notes : List Note} {device : Device}

theorem completeNext_none {endpoint : UrbId → Bool} (status : Int) (data : List UInt8)
    (absent : device.queued.find? endpoint = none) :
    device.completeNext endpoint status data = device := by
  rw [Device.completeNext, absent]

theorem arrive (consistent : Consistent notes device) (slot : Nat) (data : List UInt8) :
    Consistent (notes ++ (device.arrive slot data).2) (device.arrive slot data).1 := by
  simp only [Device.arrive]
  cases found : device.queued.find? (Device.isInputOf slot) with
  -- no transfer of the slot waits in the kernel: the report is lost, and nothing is noted
  | none =>
    have absent : device.queued.any (Device.isInputOf slot) = false := by
      rw [List.find?_eq_none] at found
      rw [List.any_eq_false]
      exact found
    rw [completeNext_none 0 data found, absent]
    simpa using consistent
  | some urb =>
    have queued := List.mem_of_find?_eq_some found
    have isInput := List.find?_some found
    have present : device.queued.any (Device.isInputOf slot) = true :=
      List.any_eq_true.mpr ⟨urb, queued, isInput⟩
    obtain ⟨which, rfl⟩ : ∃ which, urb = .input slot which := by
      cases urb with
      | input other which =>
        simp only [Device.isInputOf, decide_eq_true_eq] at isInput
        exact ⟨which, by rw [isInput]⟩
      | output other => simp [Device.isInputOf] at isInput
    simp only [Device.completeNext, found, present, if_true]
    refine ⟨consistent.completeNext queued _ _, ?_⟩
    · intro other
      obtain ⟨unread, window⟩ := consistent.window other
      -- the report is the newest unread one of its slot; the other slots do not see it
      by_cases same : other = slot
      · subst same
        have added : completedReports other [.completed other ⟨0, data, device.clock⟩] =
            [⟨0, data, device.clock⟩] := by simp [completedReports]
        refine ⟨unread ++ [⟨0, data, device.clock⟩], ?_, ?_, ?_, ?_⟩
        · rw [completedReports_append, handedOutReports_append, window.split, added]
          simp [handedOutReports]
        · rw [completedReports_append, added, List.pairwise_append]
          refine ⟨window.sorted, by simp, ?_⟩
          intro older member newer isNew
          rw [List.mem_singleton.mp isNew]
          exact window.past older member
        · intro completion member
          rw [completedReports_append, added] at member
          rcases List.mem_append.mp member with old | new
          · have := window.past completion old
            show completion.stamp < device.clock + 1
            omega
          · rw [List.mem_singleton.mp new]
            exact Nat.lt_succ_self _
        · intro completion
          rw [List.mem_append, window.covers completion, List.mem_singleton]
          simp only [Device.Unread, List.mem_append, List.mem_singleton, Prod.mk.injEq,
            UrbId.input.injEq, true_and]
          constructor
          · rintro ((⟨which', inTransfer⟩ | ⟨which', inKernel⟩) | rfl)
            · exact .inl ⟨which', inTransfer⟩
            · exact .inr ⟨which', .inl inKernel⟩
            · exact .inr ⟨which, .inr ⟨rfl, rfl⟩⟩
          · rintro (⟨which', inTransfer⟩ | ⟨which', inKernel | ⟨_, new⟩⟩)
            · exact .inl (.inl ⟨which', inTransfer⟩)
            · exact .inl (.inr ⟨which', inKernel⟩)
            · exact .inr new
      · have unchanged : completedReports other
            (notes ++ [.completed slot ⟨0, data, device.clock⟩]) = completedReports other notes := by
          rw [completedReports_append]
          simp [completedReports, Ne.symm same]
        refine ⟨unread, ?_, ?_, ?_, ?_⟩
        · rw [unchanged, handedOutReports_append, window.split]
          simp [handedOutReports]
        · rw [unchanged]
          exact window.sorted
        · intro completion member
          rw [unchanged] at member
          have := window.past completion member
          show completion.stamp < device.clock + 1
          omega
        · intro completion
          rw [window.covers completion]
          simp only [Device.Unread, List.mem_append, List.mem_singleton, Prod.mk.injEq,
            UrbId.input.injEq, same, false_and, or_false]
          rfl

/-! ## Reaping -/

/-- Completing the first of the returned transfers moves its report into the transfer. -/
theorem complete {urb : UrbId} {completion : Completion} {rest : List (UrbId × Completion)}
    (consistent : Consistent notes { device with completed := (urb, completion) :: rest }) :
    Consistent notes
      { device.modify urb (Transfer.complete completion) with completed := rest } := by
  have moved : ∀ other, Device.transfer { device.modify urb (Transfer.complete completion) with
      completed := rest } other = if other = urb then
        (device.transfer urb).map (Transfer.complete completion) else device.transfer other := by
    intro other
    rw [← Device.transfer_modify]
    cases other <;> rfl
  have before : ∀ other, Device.transfer { device with completed := (urb, completion) :: rest } other =
      device.transfer other := by
    intro other
    cases other <;> rfl
  have shorter : (device.queued ++ rest.map Prod.fst).Sublist
      (device.queued ++ (urb, completion).1 :: rest.map Prod.fst) :=
    (List.Sublist.refl _).append (List.sublist_cons_self _ _)
  have fresh : urb ∉ device.queued ++ rest.map Prod.fst := by
    have distinct := consistent.distinct
    simp only [Device.outstanding, List.map_cons] at distinct
    exact (List.nodup_cons.mp (List.perm_middle.nodup_iff.mp distinct)).1
  obtain ⟨old, oldFound, oldPending⟩ := consistent.pending urb (by simp [Device.outstanding])
  rw [before] at oldFound
  -- no outstanding transfer is lost or doubled, and every report stays where it was read
  refine ⟨⟨?_, ?_⟩, ?_⟩
  · have distinct := consistent.distinct
    simp only [Device.outstanding, Device.modify_queued, List.map_cons] at distinct ⊢
    exact distinct.sublist shorter
  · intro other member
    simp only [Device.outstanding, Device.modify_queued] at member
    obtain ⟨transfer, found, pending⟩ := consistent.pending other (by
      simpa [Device.outstanding] using shorter.subset member)
    have differs : other ≠ urb := by
      intro same
      exact fresh (same ▸ member)
    rw [moved, if_neg differs]
    exact ⟨transfer, before other ▸ found, pending⟩
  · intro slot
    obtain ⟨unread, window⟩ := consistent.window slot
    refine ⟨unread, window.moved (by simp) fun report => ?_⟩
    simp only [Device.Unread, moved, before, List.mem_cons, Prod.mk.injEq]
    -- the report leaves the kernel and enters the transfer that it came with
    constructor
    · rintro (⟨which, transfer, found, free, equal⟩ | ⟨which, ⟨same, rfl⟩ | later⟩)
      · refine .inl ⟨which, transfer, ?_, free, equal⟩
        rw [if_neg]
        · exact found
        · rintro rfl
          rw [oldFound] at found
          cases found
          rw [oldPending] at free
          cases free
      · refine .inl ⟨which, old.complete report, ?_, rfl, rfl⟩
        rw [if_pos same, oldFound]
        rfl
      · exact .inr ⟨which, later⟩
    · rintro (⟨which, transfer, found, free, equal⟩ | ⟨which, later⟩)
      · by_cases same : UrbId.input slot which = urb
        · rw [if_pos same, oldFound] at found
          cases found
          exact .inr ⟨which, .inl ⟨same, equal.symm⟩⟩
        · rw [if_neg same] at found
          exact .inl ⟨which, transfer, found, free, equal⟩
      · exact .inr ⟨which, .inr later⟩

theorem reapAll (items : List (UrbId × Completion))
    (consistent : Consistent notes { device with completed := items }) :
    Returns (items.foldlM Device.complete device) fun reaped =>
      Consistent notes { reaped with completed := [] } ∧ reaped.completed = device.completed := by
  induction items generalizing device with
  | nil => exact .ok ⟨consistent, rfl⟩
  | cons item items inductionHypothesis =>
    obtain ⟨urb, completion⟩ := item
    obtain ⟨transfer, found, _⟩ := consistent.pending urb (by simp [Device.outstanding])
    have known := @Device.complete_below device urb (Device.transfer_below found) completion
    rw [List.foldlM_cons, known, ok_bind]
    refine (inductionHypothesis consistent.complete).mono ?_
    intro reaped after
    exact ⟨after.1, by rw [after.2, Device.modify_completed]⟩

theorem reap (consistent : Consistent notes device) :
    Returns device.reap fun reaped => Consistent notes reaped ∧ reaped.completed = [] := by
  refine (@reapAll notes { device with completed := [] } device.completed consistent).mono ?_
  intro reaped after
  have empty : reaped.completed = [] := after.2
  refine ⟨?_, empty⟩
  have same : { reaped with completed := [] } = reaped := by rw [← empty]
  exact same ▸ after.1

/-! ## Submitting a transfer -/

theorem submitOutput (consistent : Consistent notes device) {slot : Nat} {transfer : Transfer}
    (found : device.transfer (.output slot) = some transfer) (free : transfer.pending = false)
    (length : Nat) : Consistent notes (device.submit (.output slot) length) := by
  refine ⟨consistent.submit found free length, ?_⟩
  intro other
  obtain ⟨unread, window⟩ := consistent.window other
  refine ⟨unread, window.moved (by simp) fun report => ?_⟩
  simp only [Device.Unread, Tracked.submit_transfer, Tracked.submit_completed, reduceCtorEq,
    if_false]

/-- Handing out the oldest unread report of a slot. -/
theorem handOut (consistent : Consistent notes device) (reaped : device.completed = [])
    {slot : Nat} {which : Fin 2} {transfer : Transfer}
    (found : device.transfer (.input slot which) = some transfer) (free : transfer.pending = false)
    (oldest : ∀ other otherTransfer, other ≠ which →
      device.transfer (.input slot other) = some otherTransfer → otherTransfer.pending = false →
      transfer.completion.stamp < otherTransfer.completion.stamp) :
    Consistent (notes ++ [.handedOut slot transfer.completion])
      (device.submit (.input slot which) 64) := by
  refine ⟨consistent.submit found free 64, ?_⟩
  intro other
  obtain ⟨unread, window⟩ := consistent.window other
  have unchanged : completedReports other (notes ++ [.handedOut slot transfer.completion]) =
      completedReports other notes := by
    rw [completedReports_append]
    exact List.append_nil _
  have sortedUnread : unread.Pairwise fun older newer => older.stamp < newer.stamp :=
    (List.pairwise_append.mp (window.split ▸ window.sorted)).2.1
  -- of its own slot the report is the first unread one; the others keep theirs
  by_cases same : other = slot
  · subst same
    have member : transfer.completion ∈ unread :=
      (window.covers _).mpr (.inl ⟨which, transfer, found, free, rfl⟩)
    have inTransfer : ∀ report ∈ unread, report = transfer.completion ∨
        ∃ other' transfer', other' ≠ which ∧
          device.transfer (.input other other') = some transfer' ∧
          transfer'.pending = false ∧ transfer'.completion = report := by
      intro report isUnread
      cases (window.covers report).mp isUnread with
      | inl waiting =>
        obtain ⟨other', transfer', found', free', equal⟩ := waiting
        by_cases isThis : other' = which
        · subst isThis
          rw [found] at found'
          cases found'
          exact .inl equal.symm
        · exact .inr ⟨other', transfer', isThis, found', free', equal⟩
      | inr inKernel =>
        obtain ⟨_, inKernel⟩ := inKernel
        rw [reaped] at inKernel
        cases inKernel
    -- the stamps sort the unread reports, so the least of them is their head
    obtain ⟨rest, rfl⟩ := eq_cons_of_least sortedUnread member (by
      intro report isUnread
      rcases inTransfer report isUnread with rfl | ⟨other', transfer', differs, found', free', rfl⟩
      · exact Nat.le_refl _
      · exact Nat.le_of_lt (oldest other' transfer' differs found' free'))
    have sorted := List.pairwise_cons.mp sortedUnread
    refine ⟨rest, ?_, unchanged.symm ▸ window.sorted, ?_, ?_⟩
    · rw [unchanged, handedOutReports_append, window.split]
      simp [handedOutReports]
    · intro report member
      simpa using window.past report (unchanged ▸ member)
    · intro report
      simp only [Device.Unread, Tracked.submit_transfer, Tracked.submit_completed, reaped,
        List.not_mem_nil, exists_false, or_false, UrbId.input.injEq, true_and]
      constructor
      · intro later
        rcases inTransfer report (List.mem_cons_of_mem _ later) with
          rfl | ⟨other', transfer', differs, found', free', equal⟩
        · exact absurd (sorted.1 _ later) (Nat.lt_irrefl _)
        · exact ⟨other', transfer', by rw [if_neg differs, found'], free', equal⟩
      · rintro ⟨other', transfer', found', free', equal⟩
        split at found'
        · rw [found] at found'
          cases found'
          cases free'
        · next differs =>
          have isUnread := (window.covers report).mpr (.inl ⟨other', transfer', found', free', equal⟩)
          refine (List.mem_cons.mp isUnread).resolve_left ?_
          rintro rfl
          have newer := oldest other' transfer' differs found' free'
          rw [equal] at newer
          exact Nat.lt_irrefl _ newer
  · refine ⟨unread, ?_, unchanged.symm ▸ window.sorted, ?_, ?_⟩
    · rw [unchanged, handedOutReports_append, window.split]
      simp [handedOutReports, Ne.symm same]
    · intro report member
      simpa using window.past report (unchanged ▸ member)
    · intro report
      rw [window.covers report]
      simp only [Device.Unread, Tracked.submit_transfer, Tracked.submit_completed,
        UrbId.input.injEq, same, false_and, if_false]

end Consistent

/-! ## Polling -/

theorem ready_some {slot : Slot} {which : Fin 2} (found : Device.ready slot = some which) :
    (slot.input which).pending = false ∧
      ∀ other, other ≠ which → (slot.input other).pending = false → which = 0 ∧ other = 1 := by
  simp only [Device.ready, Bool.not_eq_eq_eq_not, Bool.not_true] at found
  split at found
  · next free =>
    cases found
    refine ⟨free, ?_⟩
    intro other differs _
    exact ⟨rfl, by omega⟩
  · next busy =>
    split at found
    · next free =>
      cases found
      refine ⟨free, ?_⟩
      intro other differs otherFree
      have isFirst : other = 0 := by omega
      subst isFirst
      exact absurd otherFree busy
    · cases found

theorem readable_some {device : Device} {active : Option Nat} {slot : Nat} {which : Fin 2}
    (found : device.readable active = some (slot, which)) :
    ∃ foundSlot, device.slots[slot]? = some foundSlot ∧ Device.ready foundSlot = some which := by
  obtain ⟨candidate, _, hit⟩ := List.exists_of_findSome?_eq_some found
  split at hit
  · cases hit
  · obtain ⟨ready, isReady, equal⟩ := Option.map_eq_some_iff.mp hit
    cases equal
    exact Option.bind_eq_some_iff.mp isReady

/-- Of two complete input transfers the first was completed before the second. -/
def Slot.inOrder (slot : Slot) : Bool :=
  (slot.input 0).pending || (slot.input 1).pending ||
    decide ((slot.input 0).completion.stamp < (slot.input 1).completion.stamp)

/-- When `poll` reads a slot whose two input transfers are both complete, the first of them
    was completed before the second. -/
def Device.readsInOrder (device : Device) (event : Event) : Bool :=
  match event with
  | .poll active wait =>
    match device.await active wait with
    | .error _ => true
    | .ok (awaited, _) =>
      match awaited.readable active with
      | none => true
      | some (slot, _) => (awaited.slots[slot]?).all Slot.inOrder
  | _ => true

inductive Step : Device → List Note → Device → Prop where
  | step {before after : Device} {notes : List Note} (event : Event) :
      before.step event = .ok (after, notes) → Step before notes after

/-- A step of the device at which `poll` reads in order. -/
inductive OrderlyStep : Device → List Note → Device → Prop where
  | step {before after : Device} {notes : List Note} (event : Event) :
      before.readsInOrder event = true → before.step event = .ok (after, notes) →
      OrderlyStep before notes after

theorem arrive_slots (device : Device) (slot : Nat) (data : List UInt8) :
    (device.arrive slot data).1.slots = device.slots := by
  simp only [Device.arrive, Device.completeNext]
  split <;> rfl

theorem arriveAll_slots (device : Device) (reports : List (Nat × List UInt8)) :
    (device.arriveAll reports).1.slots = device.slots := by
  induction reports generalizing device with
  | nil => rfl
  | cons report reports inductionHypothesis =>
    simp only [Device.arriveAll]
    rw [inductionHypothesis, arrive_slots]

namespace Consistent

variable {notes : List Note} {device : Device}

theorem arriveAll (consistent : Consistent notes device) (reports : List (Nat × List UInt8)) :
    Consistent (notes ++ (device.arriveAll reports).2) (device.arriveAll reports).1 := by
  induction reports generalizing notes device with
  | nil => simpa [Device.arriveAll] using consistent
  | cons report reports inductionHypothesis =>
    simp only [Device.arriveAll]
    rw [← List.append_assoc]
    exact inductionHypothesis (consistent.arrive report.1 report.2)

/-- After the wait of `poll` nothing is left in the kernel, unless there is nothing to read. -/
theorem await (consistent : Consistent notes device) (active : Option Nat) (wait : Device.Wait) :
    Returns (device.await active wait) fun result =>
      Consistent (notes ++ result.2) result.1 ∧
        (result.1.completed = [] ∨ result.1.readable active = none) := by
  refine consistent.reap.bind ?_
  intro reaped after
  by_cases found : (reaped.readable active).isSome
  · rw [if_pos found]
    refine .pure ⟨by simpa using after.1, .inl after.2⟩
  · rw [if_neg found]
    have arrived := after.1.arriveAll wait.reports
    have idle : (reaped.arriveAll wait.reports).1.readable active = none := by
      rw [Device.readable, arriveAll_slots]
      exact Option.not_isSome_iff_eq_none.mp found
    generalize reaped.arriveAll wait.reports = result at arrived idle
    obtain ⟨waited, more⟩ := result
    by_cases cutShort : (wait.interrupted || waited.completed.isEmpty) = true
    · simp only [cutShort, if_true]
      exact .pure ⟨arrived, .inr idle⟩
    · simp only [cutShort]
      refine arrived.reap.bind ?_
      intro reapedAgain afterwards
      exact .pure ⟨afterwards.1, .inl afterwards.2⟩

theorem poll (consistent : Consistent notes device) {active : Option Nat} {wait : Device.Wait}
    (inOrder : device.readsInOrder (.poll active wait) = true) {after : Device}
    {report : Option (Nat × List UInt8)} {more : List Note}
    (polled : device.poll active wait = .ok (after, report, more)) :
    Consistent (notes ++ more) after := by
  obtain ⟨⟨awaited, arrived⟩, awaits, rest⟩ := bind_ok polled
  obtain ⟨⟨scanned, report', handed⟩, scans, done⟩ := bind_ok rest
  cases done
  obtain ⟨consistent, settled⟩ := (consistent.await active wait).of_ok awaits
  rw [← List.append_assoc]
  unfold Device.scan at scans
  cases found : awaited.readable active with
  | none =>
    rw [found] at scans
    cases scans
    simpa using consistent
  | some place =>
    obtain ⟨slot, which⟩ := place
    obtain ⟨foundSlot, there, isReady⟩ := readable_some found
    simp only [found, there] at scans
    obtain ⟨data, _, done⟩ := bind_ok scans
    cases done
    obtain ⟨free, others⟩ := ready_some isReady
    have transferOf : ∀ other, awaited.transfer (.input slot other) = some (foundSlot.input other) := by
      intro other
      simp [Device.transfer, there]
    refine consistent.handOut ?_ (transferOf which) free ?_
    · exact settled.resolve_right (by simp [found])
    · intro other otherTransfer differs otherFound otherFree
      rw [transferOf] at otherFound
      cases otherFound
      obtain ⟨rfl, rfl⟩ := others other differs otherFree
      simpa [Device.readsInOrder, awaits, found, there, Slot.inOrder, free, otherFree] using inOrder

theorem finishOutput (consistent : Consistent notes device) (slot : Nat) (status : Int)
    (data : List UInt8) : Consistent notes (device.finishOutput slot status data) := by
  rw [Device.finishOutput]
  cases found : device.queued.find? (fun urb => urb = .output slot) with
  | none =>
    rw [completeNext_none status data found]
    exact consistent
  | some urb =>
    have isOutput := List.find?_some found
    simp only [decide_eq_true_eq] at isOutput
    subst isOutput
    simp only [Device.completeNext, found]
    refine ⟨consistent.completeNext (List.mem_of_find?_eq_some found) _ _, ?_⟩
    intro other
    obtain ⟨unread, window⟩ := consistent.window other
    refine ⟨unread, window.split, window.sorted, ?_, ?_⟩
    · intro report member
      exact Nat.lt_succ_of_lt (window.past report member)
    · intro report
      rw [window.covers report]
      simp only [Device.Unread, List.mem_append, List.mem_singleton, Prod.mk.injEq, reduceCtorEq,
        false_and, or_false]
      rfl

theorem write (consistent : Consistent notes device) {slot : Nat} {data : List UInt8}
    {after : Device} (written : device.write slot data = .ok after) : Consistent notes after := by
  obtain ⟨reaped, reaps, rest⟩ := bind_ok written
  obtain ⟨consistent, _⟩ := consistent.reap.of_ok reaps
  cases there : reaped.slots[slot]? with
  | none =>
    simp only [there] at rest
    cases rest
    exact consistent
  | some found =>
    simp only [there] at rest
    have transferOf : reaped.transfer (.output slot) = some found.output := by
      simp [Device.transfer, there]
    cases pending : found.output.pending with
    | true =>
      simp only [pending, if_true] at rest
      cases rest
      exact consistent
    | false =>
      have submitted := consistent.submitOutput transferOf pending data.length
      simp only [pending, Bool.false_eq_true, if_false] at rest
      split at rest
      · split at rest
        · cases rest
          exact submitted
        · split at rest
          · cases rest
            exact submitted
          · cases rest
      · cases rest
        exact submitted

theorem step (consistent : Consistent notes device) {event : Event} {after : Device}
    {more : List Note} (inOrder : device.readsInOrder event = true)
    (stepped : device.step event = .ok (after, more)) : Consistent (notes ++ more) after := by
  cases event with
  | arrive slot data =>
    cases stepped
    exact consistent.arrive slot data
  | finishOutput slot status data =>
    cases stepped
    simpa using consistent.finishOutput slot status data
  | poll active wait =>
    obtain ⟨⟨polled, report, polledNotes⟩, polls, done⟩ := bind_ok stepped
    cases done
    exact consistent.poll inOrder polls
  | write slot data =>
    obtain ⟨written, writes, done⟩ := bind_ok stepped
    cases done
    simpa using consistent.write writes

end Consistent

/-! ## The start of a run -/

/-- While `open` submits the transfers of the first slots. -/
structure Opening (count opened : Nat) (device : Device) : Prop extends Tracked device where
  length : device.slots.length = count
  reaped : device.completed = []
  submitted : ∀ slot which, UrbId.input slot which ∈ device.queued ↔ slot < opened
  inputs : ∀ urb ∈ device.queued, ∃ slot which, urb = UrbId.input slot which
  free : ∀ slot which transfer, opened ≤ slot →
    device.transfer (.input slot which) = some transfer → transfer.pending = false

theorem submit_slots_length (device : Device) (urb : UrbId) (length : Nat) :
    (device.submit urb length).slots.length = device.slots.length := by
  cases urb <;> simp [Device.submit, Device.modify]

theorem Opening.next {count opened : Nat} {device : Device} (opening : Opening count opened device)
    (lt : opened < count) :
    Opening count (opened + 1)
      ((device.submit (.input opened 0) 64).submit (.input opened 1) 64) := by
  obtain ⟨slot, there⟩ : ∃ slot, device.slots[opened]? = some slot :=
    ⟨_, List.getElem?_eq_getElem (opening.length ▸ lt)⟩
  have transferOf : ∀ which, device.transfer (.input opened which) = some (slot.input which) := by
    intro which
    simp [Device.transfer, there]
  have first := opening.submit (transferOf 0) (opening.free _ _ _ (Nat.le_refl _) (transferOf 0)) 64
  have secondOf : (device.submit (.input opened 0) 64).transfer (.input opened 1) =
      some (slot.input 1) := by
    rw [Tracked.submit_transfer, if_neg (by simp), transferOf]
  refine ⟨first.submit secondOf (opening.free _ _ _ (Nat.le_refl _) (transferOf 1)) 64,
    ?_, ?_, ?_, ?_, ?_⟩
  · rw [submit_slots_length, submit_slots_length, opening.length]
  · simp [opening.reaped]
  · intro other which
    simp only [Device.submit, List.mem_append, List.mem_singleton,
      UrbId.input.injEq, opening.submitted]
    omega
  · intro urb member
    simp only [Device.submit, List.mem_append, List.mem_singleton] at member
    rcases member with (old | rfl) | rfl
    · exact opening.inputs urb old
    · exact ⟨_, _, rfl⟩
    · exact ⟨_, _, rfl⟩
  · intro other which transfer above found
    rw [Tracked.submit_transfer, if_neg (by simp; omega), Tracked.submit_transfer,
      if_neg (by simp; omega)] at found
    exact opening.free other which transfer (by omega) found

theorem opening_start (interfaces : List UInt8) :
    Opening interfaces.length interfaces.length (Device.ofInterfaces interfaces) := by
  suffices general : ∀ opened ≤ interfaces.length,
      Opening interfaces.length opened ((List.range opened).foldl
        (fun device slot => (device.submit (.input slot 0) 64).submit (.input slot 1) 64)
        { slots := interfaces.map fun interface => ⟨interface, fun _ => .new, .new⟩
          queued := []
          completed := []
          clock := 0 }) from general _ (Nat.le_refl _)
  intro opened
  induction opened with
  | zero =>
    intro _
    refine ⟨⟨List.nodup_nil, ?_⟩, by simp, rfl, by simp, by simp, ?_⟩
    · intro urb member
      cases member
    · intro slot which transfer _ found
      obtain ⟨foundSlot, there, rfl⟩ := Option.map_eq_some_iff.mp found
      change (interfaces.map _)[slot]? = some foundSlot at there
      rw [List.getElem?_map, Option.map_eq_some_iff] at there
      obtain ⟨_, _, rfl⟩ := there
      rfl
  | succ opened inductionHypothesis =>
    intro le
    rw [List.range_succ, List.foldl_append]
    exact (inductionHypothesis (by omega)).next (by omega)

theorem consistent_start (interfaces : List UInt8) :
    Consistent [] (Device.ofInterfaces interfaces) := by
  have opening := opening_start interfaces
  refine ⟨opening.toTracked, ?_⟩
  intro slot
  refine ⟨[], rfl, List.Pairwise.nil, by simp [completedReports], ?_⟩
  intro report
  simp only [List.not_mem_nil, false_iff]
  rintro (⟨which, transfer, found, free, _⟩ | ⟨which, inKernel⟩)
  · have lt : slot < (Device.ofInterfaces interfaces).slots.length := Device.transfer_below found
    rw [opening.length] at lt
    obtain ⟨transfer', found', pending⟩ := opening.pending (.input slot which)
      (List.mem_append_left _ ((opening.submitted slot which).mpr lt))
    rw [found] at found'
    cases found'
    rw [free] at pending
    cases pending
  · rw [opening.reaped] at inKernel
    cases inKernel

/-! ## Reports in order -/

/-- In a run whose polls read in order, the reports that `poll` returns for a slot are an
    initial part of the reports completed on that slot, in the same order; no report occurs
    twice. -/
theorem poll_in_order {interfaces : List UInt8} {notes : List Note} {device : Device}
    (run : Path OrderlyStep (Device.ofInterfaces interfaces) notes device) (slot : Nat) :
    handedOutReports slot notes <+: completedReports slot notes ∧
      (completedReports slot notes).Pairwise fun older newer => older.stamp < newer.stamp := by
  have consistent : Consistent ([] ++ notes) device := by
    refine run.history Consistent ?_ (consistent_start interfaces)
    rintro past before more after ⟨event, inOrder, stepped⟩ consistent
    exact consistent.step inOrder stepped
  obtain ⟨unread, window⟩ := consistent.window slot
  exact ⟨⟨unread, window.split.symm⟩, window.sorted⟩

/-- Two reports, each read before the next one arrives. -/
theorem poll_in_order_two_reports :
    ∃ notes, handedOutReports 0 notes = [⟨0, [1], 0⟩, ⟨0, [2], 1⟩] ∧
      handedOutReports 0 notes <+: completedReports 0 notes ∧
      (completedReports 0 notes).Pairwise fun older newer => older.stamp < newer.stamp := by
  refine ⟨_, ?_, @poll_in_order [2] _ _
    ((((Foundation.Path.refl.snoc (.step (.arrive 0 [1]) rfl rfl)).snoc
      (.step (.poll none ⟨[], false⟩) rfl rfl)).snoc
      (.step (.arrive 0 [2]) rfl rfl)).snoc
      (.step (.poll none ⟨[], false⟩) rfl rfl)) 0⟩
  rfl

/-- Both transfers are complete when the first report is read.  Its transfer is submitted
    again and takes the third report, which the next scan finds before the second. -/
theorem poll_overtakes :
    ∃ notes device, Path Step (Device.ofInterfaces [2]) notes device ∧
      handedOutReports 0 notes = [⟨0, [1], 0⟩, ⟨0, [3], 2⟩] ∧
      ¬ handedOutReports 0 notes <+: completedReports 0 notes := by
  refine ⟨_, _, (((((Foundation.Path.refl.snoc (.step (.arrive 0 [1]) rfl)).snoc
      (.step (.arrive 0 [2]) rfl)).snoc
      (.step (.poll none ⟨[], false⟩) rfl)).snoc
      (.step (.arrive 0 [3]) rfl)).snoc
      (.step (.poll none ⟨[], false⟩) rfl)), ?_, ?_⟩
  · rfl
  · decide

end Scd.Daemon.Usb
