import Mathlib.Data.List.Induction
import Scd.Daemon.Usbfs
import Scd.Verified.UsbOrder

/-! # Who owns a transfer

The program marks a transfer as pending when the kernel has it, and `Drop` waits for the
transfers that are marked.  `open` stores a slot only after both of its transfers are
submitted.  When the kernel takes the first and refuses the second, the slot is freed with
a transfer that the kernel still has, and `Drop` does not know of it.

Everywhere else the marks are exact, whatever the kernel refuses.
-/

namespace Scd.Daemon.Usb

open Scd.Foundation

/-! ## Exact marks -/

/-- The transfers in the kernel are those that the program has marked. -/
def MarksExact (device : Device) : Prop :=
  ∀ urb, urb ∈ device.outstanding ↔
    ∃ transfer, device.transfer urb = some transfer ∧ transfer.pending = true

/-- The invariant: besides, the kernel has every transfer once. -/
structure Exact (device : Device) : Prop extends Tracked device where
  owned : ∀ urb transfer, device.transfer urb = some transfer → transfer.pending = true →
    urb ∈ device.outstanding

namespace Exact

variable {device after : Device}

theorem marksExact (exact : Exact device) : MarksExact device := by
  intro urb
  constructor
  · exact exact.pending urb
  · rintro ⟨transfer, found, pending⟩
    exact exact.owned urb transfer found pending

/-- A step that leaves the transfers and the kernel's set of them alone. -/
theorem same (exact : Exact device) (transfers : ∀ urb, after.transfer urb = device.transfer urb)
    (outstanding : after.outstanding.Perm device.outstanding) : Exact after := by
  refine ⟨⟨outstanding.nodup_iff.mpr exact.distinct, ?_⟩, ?_⟩
  · intro urb member
    rw [transfers]
    exact exact.pending urb (outstanding.mem_iff.mp member)
  · intro urb transfer found pending
    rw [transfers] at found
    exact outstanding.mem_iff.mpr (exact.owned urb transfer found pending)

/-- The kernel gives a transfer back, and the mark goes. -/
theorem returned (exact : Exact device) (urb : UrbId)
    (outstanding : device.outstanding.Perm (urb :: after.outstanding))
    (others : ∀ other, other ≠ urb → after.transfer other = device.transfer other)
    (free : ∀ transfer, after.transfer urb = some transfer → transfer.pending = false) :
    Exact after := by
  have distinct := List.nodup_cons.mp (outstanding.nodup_iff.mp exact.distinct)
  refine ⟨⟨distinct.2, ?_⟩, ?_⟩
  · intro other member
    have differs : other ≠ urb := by
      rintro rfl
      exact distinct.1 member
    rw [others other differs]
    exact exact.pending other (outstanding.mem_iff.mpr (List.mem_cons_of_mem _ member))
  · intro other transfer found pending
    by_cases isThis : other = urb
    · subst isThis
      rw [free transfer found] at pending
      cases pending
    · rw [others other isThis] at found
      have member := outstanding.mem_iff.mp (exact.owned other transfer found pending)
      exact (List.mem_cons.mp member).resolve_left isThis

theorem submit (exact : Exact device) {urb : UrbId} {transfer : Transfer}
    (found : device.transfer urb = some transfer) (free : transfer.pending = false) (length : Nat) :
    Exact (device.submit urb length) := by
  refine ⟨exact.toTracked.submit found free length, ?_⟩
  intro other otherTransfer otherFound pending
  rw [(Tracked.submit_outstanding_perm device urb length).mem_iff, List.mem_cons]
  by_cases same : other = urb
  · exact .inl same
  · rw [Tracked.submit_transfer, if_neg same] at otherFound
    exact .inr (exact.owned other otherTransfer otherFound pending)

/-- A transfer that the kernel refuses is not pending, as before. -/
theorem refused (exact : Exact device) {urb : UrbId} {transfer : Transfer}
    (found : device.transfer urb = some transfer) (free : transfer.pending = false)
    {changed : Transfer} (unmarked : changed.pending = false) :
    Exact (device.modify urb fun _ => changed) := by
  have outstanding : (device.modify urb fun _ => changed).outstanding = device.outstanding := by
    simp [Device.outstanding]
  refine ⟨⟨outstanding ▸ exact.distinct, ?_⟩, ?_⟩
  · intro other member
    rw [outstanding] at member
    have differs : other ≠ urb := by
      rintro rfl
      exact exact.toTracked.not_outstanding found free member
    rw [Device.transfer_modify, if_neg differs]
    exact exact.pending other member
  · intro other otherTransfer otherFound pending
    rw [Device.transfer_modify] at otherFound
    rw [outstanding]
    split at otherFound
    · obtain ⟨_, _, rfl⟩ := Option.map_eq_some_iff.mp otherFound
      rw [unmarked] at pending
      cases pending
    · exact exact.owned other otherTransfer otherFound pending

theorem submitOr (exact : Exact device) {urb : UrbId} {transfer : Transfer}
    (found : device.transfer urb = some transfer) (free : transfer.pending = false) (length : Nat)
    (refusal : Refusal) : Exact (device.submitOr urb length refusal).2 := by
  cases refusal with
  | none => exact exact.submit found free length
  | some error => exact exact.refused found free rfl

/-! ## The kernel -/

theorem completeNext (exact : Exact device) (endpoint : UrbId → Bool) (status : Int)
    (data : List UInt8) : Exact (device.completeNext endpoint status data) := by
  rw [Device.completeNext]
  cases found : device.queued.find? endpoint with
  | none => exact exact
  | some urb =>
    refine exact.same (fun other => by cases other <;> rfl) ?_
    exact Tracked.outstanding_perm (List.mem_of_find?_eq_some found) _ _

theorem arriveAll (exact : Exact device) (reports : List (Nat × List UInt8)) :
    Exact (device.arriveAll reports).1 := by
  induction reports generalizing device with
  | nil => exact exact
  | cons report reports inductionHypothesis =>
    exact inductionHypothesis (exact.completeNext (Device.isInputOf report.1) 0 report.2)

/-! ## Reaping -/

/-- A transfer that the kernel has belongs to a slot. -/
theorem known (exact : Exact device) {urb : UrbId} (member : urb ∈ device.outstanding)
    (completion : Completion) (slots : after.slots = device.slots) :
    after.complete (urb, completion) = .ok (after.modify urb (Transfer.complete completion)) := by
  obtain ⟨transfer, found, _⟩ := exact.pending urb member
  have below := Device.transfer_below found
  rw [← slots] at below
  exact Device.complete_below below completion

theorem complete_free {urb : UrbId} {completion : Completion} {transfer : Transfer}
    (found : (device.modify urb (Transfer.complete completion)).transfer urb = some transfer) :
    transfer.pending = false := by
  rw [Device.transfer_modify, if_pos rfl] at found
  obtain ⟨_, _, rfl⟩ := Option.map_eq_some_iff.mp found
  rfl

theorem modify_others {urb other : UrbId} {change : Transfer → Transfer} (differs : other ≠ urb) :
    (device.modify urb change).transfer other = device.transfer other := by
  rw [Device.transfer_modify, if_neg differs]

theorem reapEach (refusal : Option (Nat × IoError)) {items : List (UrbId × Completion)}
    (exact : Exact { device with completed := items }) (empty : device.completed = []) :
    Exact (Device.reapEach refusal items device).2 := by
  induction items generalizing device refusal with
  | nil =>
    have same : { device with completed := [] } = device := by rw [← empty]
    rw [same] at exact
    cases refusal with
    | none => exact exact
    | some refusal => exact exact
  | cons item items inductionHypothesis =>
    obtain ⟨urb, completion⟩ := item
    have completes : device.completeKnown (urb, completion) =
        (.ok (), device.modify urb (Transfer.complete completion)) := by
      have isKnown := @known _ device exact urb (by simp [Device.outstanding]) completion rfl
      rw [Device.completeKnown, isKnown]
    have next : Exact { device.modify urb (Transfer.complete completion) with completed := items } := by
      refine exact.returned urb ?_ ?_ ?_
      · simp only [Device.outstanding, Device.modify_queued, List.map_cons]
        exact List.perm_middle
      · intro other differs
        have same := @modify_others device urb other (Transfer.complete completion) differs
        cases other <;> exact same
      · intro transfer found
        refine @complete_free device urb completion transfer ?_
        cases urb <;> exact found
    have rest := fun refusal => inductionHypothesis refusal next (by simpa using empty)
    rcases refusal with _ | ⟨count, error⟩
    · simp only [Device.reapEach, completes]
      exact rest none
    · cases count with
      | zero => exact exact
      | succ count =>
        simp only [Device.reapEach, completes]
        exact rest _

theorem reapOr (exact : Exact device) (refusal : Option (Nat × IoError)) :
    Exact (device.reapOr refusal).2 := reapEach refusal exact rfl

/-! ## Polling and writing -/

theorem awaitOr (exact : Exact device) (active : Option Nat) (answers : Device.PollAnswers) :
    Exact (device.awaitOr active answers).2 := by
  rw [Device.awaitOr]
  have reaped := exact.reapOr answers.reap
  generalize device.reapOr answers.reap = result at reaped
  obtain ⟨error | ⟨⟨⟩⟩, next⟩ := result
  · exact reaped
  · dsimp only
    split
    · exact reaped
    · rw [Device.waitOr]
      have arrived := arriveAll reaped answers.wait.reports
      cases answers.waitFails with
      | some error => exact arrived
      | none =>
        dsimp only
        split
        · exact arrived
        · exact arrived.reapOr _

theorem scanOr (exact : Exact device) (active : Option Nat) (refusal : Refusal) :
    Exact (device.scanOr active refusal).2 := by
  rw [Device.scanOr]
  cases readable : device.readable active with
  | none => exact exact
  | some place =>
    obtain ⟨slot, which⟩ := place
    obtain ⟨found, there, isReady⟩ := readable_some readable
    have transferOf : device.transfer (.input slot which) = some (found.input which) := by
      simp [Device.transfer, there]
    simp only [there]
    cases (found.input which).result with
    | error error => exact exact
    | ok data =>
      have submitted := exact.submitOr transferOf (ready_some isReady).1 64 refusal
      dsimp only
      generalize device.submitOr (.input slot which) 64 refusal = result at submitted
      obtain ⟨error | ⟨⟨⟩⟩, next⟩ := result
      · exact submitted
      · exact submitted

theorem pollOr (exact : Exact device) (active : Option Nat) (answers : Device.PollAnswers) :
    Exact (device.pollOr active answers).2 := by
  rw [Device.pollOr]
  have awaited := exact.awaitOr active answers
  generalize device.awaitOr active answers = result at awaited
  obtain ⟨error | ⟨⟨⟩⟩, next⟩ := result
  · exact awaited
  · exact scanOr awaited active answers.submit

theorem writeOr (exact : Exact device) (slot : Nat) (data : List UInt8)
    (answers : Device.WriteAnswers) : Exact (device.writeOr slot data answers).2 := by
  rw [Device.writeOr]
  have reaped := exact.reapOr answers.reap
  generalize device.reapOr answers.reap = result at reaped
  obtain ⟨error | ⟨⟨⟩⟩, next⟩ := result
  · exact reaped
  · cases there : next.slots[slot]? with
    | none =>
      simp only [there]
      exact reaped
    | some found =>
      simp only [there]
      cases pending : found.output.pending with
      | true => simpa using reaped
      | false =>
        simp only [Bool.false_eq_true, if_false]
        cases Device.settleWrite found.output answers.clearHalt with
        | error error => exact reaped
        | ok _ => exact reaped.submitOr (by simp [Device.transfer, there]) pending _ _

/-! ## Dropping -/

theorem mem_pendingTransfers {urb : UrbId} : urb ∈ device.pendingTransfers ↔
    ∃ transfer, device.transfer urb = some transfer ∧ transfer.pending = true := by
  simp only [Device.pendingTransfers, List.mem_flatMap, List.mem_filter, Prod.exists,
    List.mem_zipIdx_iff_getElem?]
  constructor
  · rintro ⟨slot, index, there, isOf, pending⟩
    simp only [Device.transfersOf, List.mem_cons, List.not_mem_nil, or_false] at isOf
    obtain rfl | rfl | rfl := isOf
    · exact ⟨slot.input 0, by simp [Device.transfer, there], pending⟩
    · exact ⟨slot.input 1, by simp [Device.transfer, there], pending⟩
    · exact ⟨slot.output, by simp [Device.transfer, there], pending⟩
  · rintro ⟨transfer, found, pending⟩
    cases urb with
    | input index which =>
      obtain ⟨slot, there, rfl⟩ := Option.map_eq_some_iff.mp found
      refine ⟨slot, index, there, ?_, pending⟩
      revert which
      simp [Fin.forall_fin_two, Device.transfersOf]
    | output index =>
      obtain ⟨slot, there, rfl⟩ := Option.map_eq_some_iff.mp found
      exact ⟨slot, index, there, by simp [Device.transfersOf], pending⟩

theorem pendingTransfers_nodup (device : Device) : device.pendingTransfers.Nodup := by
  have apart : device.slots.zipIdx.Pairwise fun left right => left.2 ≠ right.2 := by
    rw [← List.pairwise_map, List.zipIdx_map_snd]
    exact List.nodup_range'
  rw [Device.pendingTransfers, List.nodup_flatMap]
  refine ⟨?_, apart.imp ?_⟩
  · intro slot _
    apply List.Nodup.filter
    simp [Device.transfersOf]
  · rintro ⟨left, leftIndex⟩ ⟨right, rightIndex⟩ differs urb inLeft inRight
    have left := (List.mem_filter.mp inLeft).1
    have right := (List.mem_filter.mp inRight).1
    simp only [Device.transfersOf, List.mem_cons, List.not_mem_nil, or_false] at left right
    obtain rfl | rfl | rfl := left <;> simp_all

/-- `Drop` counts the transfers that the kernel has. -/
theorem pendingTransfers_length (exact : Exact device) :
    device.pendingTransfers.length = device.outstanding.length := by
  apply List.Perm.length_eq
  rw [List.perm_ext_iff_of_nodup (pendingTransfers_nodup device) exact.distinct]
  intro urb
  rw [mem_pendingTransfers, exact.marksExact urb]

theorem release_perm (exact : Exact device) {urb : UrbId} (member : urb ∈ device.outstanding) :
    device.outstanding.Perm (urb :: (device.release urb).outstanding) := by
  have distinct := exact.distinct
  have fewer : (device.release urb).outstanding.Sublist device.outstanding :=
    (List.erase_sublist).append ((List.filter_sublist).map Prod.fst)
  have gone : urb ∉ (device.release urb).outstanding := by
    simp only [Device.outstanding, Device.release, List.mem_append, not_or]
    refine ⟨?_, ?_⟩
    · exact (List.Nodup.of_append_left distinct).not_mem_erase
    · simp
  rw [List.perm_ext_iff_of_nodup distinct (List.nodup_cons.mpr ⟨gone, distinct.sublist fewer⟩)]
  intro other
  rw [List.mem_cons]
  constructor
  · intro isOutstanding
    by_cases same : other = urb
    · exact .inl same
    · refine .inr ?_
      simp only [Device.outstanding, Device.release, List.mem_append] at isOutstanding ⊢
      refine isOutstanding.imp (List.mem_erase_of_ne same).mpr ?_
      intro inKernel
      obtain ⟨item, present, rfl⟩ := List.mem_map.mp inKernel
      exact List.mem_map.mpr ⟨item, List.mem_filter.mpr ⟨present, by simpa using same⟩, rfl⟩
  · rintro (rfl | rest)
    · exact member
    · exact fewer.subset rest

/-- The reap loop of `Drop` takes back one transfer of the kernel after the other. -/
theorem reapPending_done {pending : Nat} {answers : List Device.DropAnswer}
    (exact : Exact device) (count : pending = device.outstanding.length)
    (ended : Device.reapPending pending answers device = (.done, after)) :
    after.outstanding = [] := by
  induction answers generalizing pending device with
  | nil =>
    cases pending with
    | zero =>
      cases ended
      exact List.eq_nil_of_length_eq_zero count.symm
    | succ pending => cases ended
  | cons answer answers inductionHypothesis =>
    cases pending with
    | zero =>
      cases ended
      exact List.eq_nil_of_length_eq_zero count.symm
    | succ pending =>
      cases answer with
      | interrupted => exact inductionHypothesis exact count ended
      | failed error => cases ended
      | returned urb completion =>
        rw [Device.reapPending] at ended
        split at ended
        · next member =>
          -- taking a transfer back leaves one less in the kernel, as the loop counts
          have perm := exact.release_perm member
          have completes : ((device.release urb).completeKnown (urb, completion)).2 =
              (device.release urb).modify urb (Transfer.complete completion) := by
            have isKnown := @known _ (device.release urb) exact urb member completion rfl
            rw [Device.completeKnown, isKnown]
          have same : ((device.release urb).modify urb (Transfer.complete completion)).outstanding =
              (device.release urb).outstanding := by
            simp [Device.outstanding]
          rw [completes] at ended
          -- the transfer is completed and its mark is gone, so that the marks are exact again
          refine inductionHypothesis (exact.returned urb ?_ ?_ ?_) ?_ ended
          · rw [same]
            exact perm
          · intro other differs
            rw [modify_others differs]
            cases other <;> rfl
          · intro transfer found
            exact complete_free found
          · rw [same]
            have := perm.length_eq
            rw [List.length_cons] at this
            omega
        · cases ended

theorem drop_done (exact : Exact device) {answers : List Device.DropAnswer}
    (ended : (device.drop answers).1 = .done) : (device.drop answers).2.outstanding = [] := by
  have count := exact.pendingTransfers_length
  exact @reapPending_done _ _ _ answers exact count (Prod.ext ended rfl)

end Exact

/-! ## Opening -/

/-- `open` fails at the second transfer of a slot whose first transfer the kernel took. -/
def leaks (answers : UInt8 → OpenAnswers) : List UInt8 → Bool
  | [] => false
  | interface :: interfaces =>
    match (answers interface).claim, (answers interface).submit 0, (answers interface).submit 1 with
    | none, none, some _ => true
    | none, none, none => leaks answers interfaces
    | _, _, _ => false

/-- A transfer of the last slot, or of one of the others. -/
theorem transfer_concat {device : Device} {slots : List Slot} {slot : Slot}
    (split : device.slots = slots ++ [slot]) (urb : UrbId) :
    device.transfer urb = match urb with
      | .input index which =>
        if index = slots.length then some (slot.input which)
        else (slots[index]?).map (·.input which)
      | .output index =>
        if index = slots.length then some slot.output else (slots[index]?).map (·.output) := by
  have at_ : ∀ index : Nat, device.slots[index]? =
      if index = slots.length then some slot else slots[index]? := by
    intro index
    rw [split, List.getElem?_append]
    by_cases below : index < slots.length
    · rw [if_pos below, if_neg (by omega)]
    · rw [if_neg below]
      by_cases last : index = slots.length
      · simp [last]
      · rw [if_neg last, List.getElem?_eq_none (by simp; omega), List.getElem?_eq_none (by omega)]
  cases urb with
  | input index which =>
    simp only [Device.transfer, at_]
    split <;> rfl
  | output index =>
    simp only [Device.transfer, at_]
    split <;> rfl

/-- The slot that `open` stores has both of its input transfers in the kernel. -/
theorem Exact.push {device after : Device} (exact : Exact device) {slot : Slot}
    (slots : after.slots = device.slots ++ [slot])
    (queued : after.queued = device.queued ++ [.input device.slots.length 0] ++
      [.input device.slots.length 1])
    (completed : after.completed = device.completed)
    (marked : ∀ which, (slot.input which).pending = true) (free : slot.output.pending = false) :
    Exact after := by
  -- no transfer of the new slot was in the kernel, since no slot has had its index
  have fresh : ∀ which, UrbId.input device.slots.length which ∉ device.outstanding := by
    intro which member
    obtain ⟨transfer, found, _⟩ := exact.pending _ member
    simp [Device.transfer] at found
  have perm : after.outstanding.Perm (.input device.slots.length 0 ::
      .input device.slots.length 1 :: device.outstanding) := by
    rw [Device.outstanding, queued, completed, List.append_assoc, List.append_assoc]
    exact List.perm_middle.trans (List.perm_middle.cons _)
  have transferOf := transfer_concat slots
  refine ⟨⟨?_, ?_⟩, ?_⟩
  · rw [perm.nodup_iff, List.nodup_cons, List.nodup_cons, List.mem_cons]
    refine ⟨?_, fresh 1, exact.distinct⟩
    rintro (same | member)
    · simp at same
    · exact fresh 0 member
  · intro urb member
    rw [perm.mem_iff, List.mem_cons, List.mem_cons] at member
    rw [transferOf]
    obtain rfl | rfl | old := member
    · exact ⟨slot.input 0, by simp, marked 0⟩
    · exact ⟨slot.input 1, by simp, marked 1⟩
    · obtain ⟨transfer, found, pending⟩ := exact.pending urb old
      refine ⟨transfer, ?_, pending⟩
      have below := Device.transfer_below found
      cases urb with
      | input index which | output index => exact (if_neg (Nat.ne_of_lt below)).trans found
  · intro urb transfer found pending
    rw [perm.mem_iff, List.mem_cons, List.mem_cons]
    rw [transferOf] at found
    cases urb with
    | input index which =>
      dsimp only at found
      split at found
      · next last =>
        subst last
        rcases zero_or_one which with rfl | rfl
        · exact .inl rfl
        · exact .inr (.inl rfl)
      · exact .inr (.inr (exact.owned _ transfer found pending))
    | output index =>
      dsimp only at found
      split at found
      · cases found
        rw [free] at pending
        cases pending
      · exact .inr (.inr (exact.owned _ transfer found pending))

/-- `open` leaves exact marks unless it leaks. -/
theorem openSlots_exact (answers : UInt8 → OpenAnswers) (interfaces : List UInt8)
    {handle : Handle} (exact : Exact handle.device) :
    (leaks answers interfaces = true →
        ¬ MarksExact (Handle.openSlots answers interfaces handle).2.device) ∧
      (leaks answers interfaces = false →
        Exact (Handle.openSlots answers interfaces handle).2.device) := by
  induction interfaces generalizing handle with
  | nil => exact ⟨by simp [leaks], fun _ => exact⟩
  | cons interface interfaces inductionHypothesis =>
    simp only [leaks, Handle.openSlots, Handle.openSlot]
    generalize answers interface = here
    obtain ⟨claim, submit⟩ := here
    cases claim with
    | some error => exact ⟨by simp, fun _ => exact⟩
    | none =>
      cases first : submit 0 with
      | some error =>
        simp only [first]
        exact ⟨by simp, fun _ => exact⟩
      | none =>
        cases second : submit 1 with
        | some error =>
          simp only [first, second]
          refine ⟨fun _ marks => ?_, by simp⟩
          -- the kernel has a transfer of a slot that does not exist
          obtain ⟨transfer, found, _⟩ := (marks (.input handle.device.slots.length 0)).mp (by
            simp [Device.outstanding, Handle.own])
          simp [Device.transfer, Handle.own] at found
        | none =>
          simp only [first, second]
          apply inductionHypothesis
          exact exact.push rfl rfl rfl (fun _ => rfl) rfl

/-! ## Without a refusal -/

/-- The kernel takes every transfer and every interface. -/
def granted : UInt8 → OpenAnswers := fun _ => ⟨none, fun _ => none⟩

/-- A slot with its input transfers in the kernel. -/
def Slot.opened (interface : UInt8) : Slot := ⟨interface, fun _ => .submit 64, .new⟩

/-- The input transfers of the slots from `first` on. -/
def inputTransfers (first count : Nat) : List UrbId :=
  (List.range' first count).flatMap fun slot => [.input slot 0, .input slot 1]

theorem openSlots_granted (interfaces : List UInt8) (handle : Handle) :
    Handle.openSlots granted interfaces handle =
      (.ok (), ⟨{ handle.device with
          slots := handle.device.slots ++ interfaces.map Slot.opened
          queued := handle.device.queued ++
            inputTransfers handle.device.slots.length interfaces.length },
        handle.claimed ++ interfaces⟩) := by
  induction interfaces generalizing handle with
  | nil => simp [Handle.openSlots, inputTransfers]
  | cons interface interfaces inductionHypothesis =>
    simp only [Handle.openSlots, Handle.openSlot, granted]
    rw [inductionHypothesis]
    simp [Handle.own, Handle.push, inputTransfers, List.range'_succ, Slot.opened]

theorem modify_middle {α : Type} (first : List α) (item : α) (rest : List α) (change : α → α) :
    (first ++ item :: rest).modify first.length change = first ++ change item :: rest := by
  induction first with
  | nil => rfl
  | cons head first inductionHypothesis => simpa using inductionHypothesis

theorem ofInterfaces_eq (interfaces : List UInt8) :
    Device.ofInterfaces interfaces =
      ⟨interfaces.map Slot.opened, inputTransfers 0 interfaces.length, [], 0⟩ := by
  suffices general : ∀ first rest : List UInt8, interfaces = first ++ rest →
      (List.range first.length).foldl
        (fun (device : Device) slot =>
          (device.submit (.input slot 0) 64).submit (.input slot 1) 64)
        ⟨interfaces.map fun interface => ⟨interface, fun _ => .new, .new⟩, [], [], 0⟩ =
      (⟨first.map Slot.opened ++ rest.map fun interface => ⟨interface, fun _ => .new, .new⟩,
        inputTransfers 0 first.length, [], 0⟩ : Device) by
    simpa [Device.ofInterfaces] using general interfaces [] (by simp)
  intro first
  induction first using List.reverseRecOn with
  | nil =>
    rintro rest rfl
    rfl
  | append_singleton first interface inductionHypothesis =>
    intro rest split
    rw [List.length_append, List.length_singleton, List.range_succ, List.foldl_append,
      inductionHypothesis (interface :: rest) (by simpa using split)]
    have inputs : ∀ transfer : Transfer, Function.update (Function.update
        (fun _ : Fin 2 => transfer) 0 (.submit 64)) 1 (.submit 64) = fun _ => .submit 64 := by
      intro transfer
      funext which
      rcases zero_or_one which with rfl | rfl
      · rfl
      · rfl
    have length : first.length = (first.map Slot.opened).length := by simp
    simp only [List.foldl_cons, List.foldl_nil, Device.submit, Device.modify, List.map_cons]
    rw [length, modify_middle, modify_middle]
    simp [Slot.modify, inputs, Slot.opened, inputTransfers, List.range'_concat]

/-- Without a refusal `open` is that of the transport. -/
theorem openSlots_none (interfaces : List UInt8) :
    Handle.openSlots granted interfaces .empty =
      (.ok (), ⟨Device.ofInterfaces interfaces, interfaces⟩) := by
  rw [openSlots_granted, ofInterfaces_eq]
  rfl

theorem reapEach_none {items : List (UrbId × Completion)} {device after : Device}
    (reaped : items.foldlM Device.complete device = .ok after) :
    Device.reapEach none items device = (.ok (), after) := by
  induction items generalizing device with
  | nil =>
    cases reaped
    rfl
  | cons item items inductionHypothesis =>
    rw [List.foldlM_cons] at reaped
    obtain ⟨next, completed, rest⟩ := bind_ok reaped
    simp only [Device.reapEach, Device.completeKnown, completed]
    exact inductionHypothesis rest

theorem reapOr_none {device after : Device} (reaped : device.reap = .ok after) :
    device.reapOr none = (.ok (), after) := reapEach_none reaped

/-- Without a refusal `poll` is that of the transport. -/
theorem pollOr_none {device after : Device} {active : Option Nat} {wait : Device.Wait}
    {report : Option (Nat × List UInt8)} {notes : List Note}
    (polled : device.poll active wait = .ok (after, report, notes)) :
    device.pollOr active ⟨none, wait, none, none, none⟩ = (.ok report, after) := by
  obtain ⟨⟨awaited, arrived⟩, awaits, rest⟩ := bind_ok polled
  obtain ⟨⟨scanned, report', handed⟩, scans, done⟩ := bind_ok rest
  cases done
  -- a report may be there before the wait; if not, the device waits and reaps again
  have waits : device.awaitOr active ⟨none, wait, none, none, none⟩ = (.ok (), awaited) := by
    obtain ⟨reaped, reaps, rest⟩ := bind_ok awaits
    rw [Device.awaitOr, reapOr_none reaps]
    dsimp only
    split at rest
    · next found =>
      cases rest
      rw [if_pos found]
    · next nothing =>
      rw [if_neg nothing, Device.waitOr]
      dsimp only at rest ⊢
      split at rest
      · next short =>
        cases rest
        rw [if_pos short]
      · next woken =>
        obtain ⟨again, reapsAgain, done⟩ := bind_ok rest
        cases done
        rw [if_neg woken, reapOr_none reapsAgain]
  rw [Device.pollOr, waits]
  rw [Device.scan] at scans
  simp only [Device.scanOr]
  cases readable : awaited.readable active with
  | none =>
    rw [readable] at scans
    cases scans
    rfl
  | some place =>
    obtain ⟨slot, which⟩ := place
    obtain ⟨found, there, _⟩ := readable_some readable
    simp only [readable, there] at scans ⊢
    obtain ⟨data, result, done⟩ := bind_ok scans
    cases done
    simp only [result]
    rfl

/-- Without a refusal `write` is that of the transport. -/
theorem writeOr_none {device after : Device} {slot : Nat} {data : List UInt8}
    (written : device.write slot data = .ok after) :
    device.writeOr slot data ⟨none, none, none⟩ = (.ok (), after) := by
  obtain ⟨reaped, reaps, rest⟩ := bind_ok written
  rw [Device.writeOr, reapOr_none reaps]
  cases there : reaped.slots[slot]? with
  | none =>
    simp only [there] at rest
    cases rest
    simp only [there]
  | some found =>
    simp only [there] at rest ⊢
    cases pending : found.output.pending with
    | true =>
      simp only [pending, if_true] at rest
      cases rest
      rfl
    | false =>
      simp only [pending, Bool.false_eq_true, if_false, Device.settleWrite] at rest ⊢
      by_cases unused : found.output.bufferLength = 0
      · rw [if_neg (not_not.mpr unused)] at rest
        cases rest
        rw [if_pos unused]
        rfl
      · rw [if_pos unused] at rest
        rw [if_neg unused]
        cases result : found.output.result with
        | ok _ =>
          simp only [result] at rest
          cases rest
          rfl
        | error error =>
          simp only [result] at rest
          split at rest
          · next stalled =>
            cases rest
            simp only [stalled, if_true]
            rfl
          · cases rest

/-! ## Runs -/

/-- The device from `open` to `Drop`, at every point between two calls.  A device that
    `open` has failed on is only dropped. -/
inductive Life (answers : UInt8 → OpenAnswers) (interfaces : List UInt8) : Handle → Prop where
  | opened : Life answers interfaces (Handle.openSlots answers interfaces .empty).2
  | kernel {handle : Handle} (endpoint : UrbId → Bool) (status : Int) (data : List UInt8) :
      Life answers interfaces handle →
      Life answers interfaces
        { handle with device := handle.device.completeNext endpoint status data }
  | polled {handle : Handle} (active : Option Nat) (poll : Device.PollAnswers) :
      (Handle.openSlots answers interfaces .empty).1 = .ok () → Life answers interfaces handle →
      Life answers interfaces { handle with device := (handle.device.pollOr active poll).2 }
  | written {handle : Handle} (slot : Nat) (data : List UInt8) (write : Device.WriteAnswers) :
      (Handle.openSlots answers interfaces .empty).1 = .ok () → Life answers interfaces handle →
      Life answers interfaces { handle with device := (handle.device.writeOr slot data write).2 }

theorem exact_empty : Exact Handle.empty.device := by
  refine ⟨⟨List.nodup_nil, ?_⟩, ?_⟩
  · intro urb member
    cases member
  · intro urb transfer found
    cases urb <;> cases found

theorem Life.exact {answers : UInt8 → OpenAnswers} {interfaces : List UInt8} {handle : Handle}
    (tight : leaks answers interfaces = false) (life : Life answers interfaces handle) :
    Exact handle.device := by
  induction life with
  | opened =>
    exact (openSlots_exact answers interfaces exact_empty).2 tight
  | kernel endpoint status data _ inductionHypothesis =>
    exact inductionHypothesis.completeNext endpoint status data
  | polled active poll _ _ inductionHypothesis => exact inductionHypothesis.pollOr active poll
  | written slot data write _ _ inductionHypothesis =>
    exact inductionHypothesis.writeOr slot data write

/-- In the whole life of a device the marks are exact, and `Drop` leaves no transfer in the
    kernel, if and only if `open` does not leak. -/
theorem marks_exact_iff (answers : UInt8 → OpenAnswers) (interfaces : List UInt8) :
    (∀ handle, Life answers interfaces handle → MarksExact handle.device ∧
      ∀ drops, (handle.drop drops).1 = .done → (handle.drop drops).2.1.outstanding = []) ↔
        leaks answers interfaces = false := by
  constructor
  · intro always
    have marks := (always _ .opened).1
    cases leak : leaks answers interfaces with
    | false => rfl
    | true => exact absurd marks ((openSlots_exact answers interfaces exact_empty).1 leak)
  · intro tight handle life
    have exact := life.exact tight
    exact ⟨exact.marksExact, fun _ ended => exact.drop_done ended⟩

/-- The kernel refuses to claim the third slot. -/
def refusedThird (interface : UInt8) : OpenAnswers :=
  ⟨if interface = 4 then some (.errno 16) else none, fun _ => none⟩

/-- The slots before it are stored, one report has come, and `Drop` reaps what they read. -/
theorem marks_exact_iff_refused :
    ∃ handle, Life refusedThird [2, 3, 4, 5] handle ∧
      handle.device.outstanding = [.input 0 1, .input 1 0, .input 1 1, .input 0 0] ∧
      MarksExact handle.device ∧ (handle.drop (handle.device.outstanding.map fun urb =>
        .returned urb ⟨0, [], 0⟩)).2.1.outstanding = [] := by
  have life : Life refusedThird [2, 3, 4, 5] _ :=
    Life.kernel (fun urb => urb == .input 0 0) 0 [0x42] .opened
  obtain ⟨marks, drops⟩ := (marks_exact_iff refusedThird [2, 3, 4, 5]).mpr rfl _ life
  exact ⟨_, life, rfl, marks, drops _ rfl⟩

/-- The kernel refuses the second transfer of the first slot.  It keeps the first one, and
    `Drop` is done at once. -/
theorem open_leaks_transfer :
    ∃ answers handle, Life answers [2, 3, 4, 5] handle ∧
      handle.device.outstanding = [.input 0 0] ∧ handle.device.slots.length = 0 ∧
      ¬ MarksExact handle.device ∧ (handle.drop []).1 = .done ∧
      (handle.drop []).2.1.outstanding = [.input 0 0] := by
  refine ⟨fun _ => ⟨none, fun which => if which = 1 then some (.errno 12) else none⟩, _, .opened,
    rfl, rfl, ?_, rfl, rfl⟩
  intro marks
  obtain ⟨transfer, found, _⟩ := (marks (.input 0 0)).mp (List.mem_singleton.mpr rfl)
  cases found

end Scd.Daemon.Usb
