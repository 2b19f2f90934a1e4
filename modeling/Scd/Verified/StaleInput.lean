import Scd.Daemon.Receiver
import Scd.Verified.Connections
import Scd.Verified.UsbOrder

/-! # Stale input

While one slot is active, `poll` leaves the completed reports of the other slots where they
are.  When the active slot is dropped without closing the receiver, they are still there,
and the next `poll` takes one of them for a controller that has just connected
(`poll_activates_on_stale_report`).

In runs where a slot is dropped only when no state is waiting, the report that activates a
slot was completed after the last drop.
-/

namespace Scd.Daemon

open Scd.Core Scd.Foundation

/-! ## Unread reports -/

namespace Usb

/-- A transfer that is submitted is pending, and not unread. -/
theorem submit_unread {device : Device} {urb : UrbId} {length slot : Nat}
    {completion : Completion} (unread : (device.submit urb length).Unread slot completion) :
    device.Unread slot completion := by
  cases unread with
  | inr inKernel => exact .inr (by simpa using inKernel)
  | inl inTransfer =>
    obtain ⟨which, transfer, found, free, equal⟩ := inTransfer
    rw [Tracked.submit_transfer] at found
    split at found
    · obtain ⟨old, _, rfl⟩ := Option.map_eq_some_iff.mp found
      cases free
    · exact .inl ⟨which, transfer, found, free, equal⟩

/-- What is unread in the later device was unread before, or was completed since. -/
structure Later (device after : Device) : Prop where
  clock : device.clock ≤ after.clock
  unread : ∀ slot completion, after.Unread slot completion →
    device.Unread slot completion ∨ device.clock ≤ completion.stamp

namespace Later

variable {device mid after : Device}

theorem refl (device : Device) : Later device device := ⟨Nat.le_refl _, fun _ _ => .inl⟩

theorem trans (first : Later device mid) (second : Later mid after) : Later device after := by
  refine ⟨Nat.le_trans first.clock second.clock, ?_⟩
  intro slot completion unread
  cases second.unread slot completion unread with
  | inl before => exact first.unread slot completion before
  | inr since => exact .inr (Nat.le_trans first.clock since)

theorem submit (device : Device) (urb : UrbId) (length : Nat) :
    Later device (device.submit urb length) := by
  exact ⟨by simp, fun _ _ unread => .inl (submit_unread unread)⟩

/-- A completion carries the clock of its time. -/
theorem completeNext (device : Device) (endpoint : UrbId → Bool) (status : Int)
    (data : List UInt8) : Later device (device.completeNext endpoint status data) := by
  rw [Device.completeNext]
  cases device.queued.find? endpoint with
  | none => exact refl device
  | some urb =>
    refine ⟨Nat.le_succ _, ?_⟩
    rintro slot completion (inTransfer | ⟨which, inKernel⟩)
    · exact .inl (.inl inTransfer)
    · cases List.mem_append.mp inKernel with
      | inl before => exact .inl (.inr ⟨which, before⟩)
      | inr new =>
        cases List.mem_singleton.mp new
        exact .inr (Nat.le_refl _)

theorem arrive (device : Device) (slot : Nat) (data : List UInt8) :
    Later device (device.arrive slot data).1 := completeNext device _ 0 data

theorem arriveAll (device : Device) (reports : List (Nat × List UInt8)) :
    Later device (device.arriveAll reports).1 := by
  induction reports generalizing device with
  | nil => exact refl device
  | cons report reports inductionHypothesis =>
    exact (arrive device report.1 report.2).trans (inductionHypothesis _)

theorem complete_ok {item : UrbId × Completion} (completed : device.complete item = .ok after) :
    after = device.modify item.1 (Transfer.complete item.2) := by
  obtain ⟨urb, completion⟩ := item
  cases urb with
  | input slot which =>
    by_cases known : slot < device.slots.length
    · exact (Except.ok.inj ((if_pos known).symm.trans completed)).symm
    · cases (if_neg known).symm.trans completed
  | output slot =>
    by_cases known : slot < device.slots.length
    · exact (Except.ok.inj ((if_pos known).symm.trans completed)).symm
    · cases (if_neg known).symm.trans completed

/-- The returned transfer holds the report that the kernel held. -/
theorem complete {urb : UrbId} {completion : Completion} {rest : List (UrbId × Completion)}
    (completed : device.complete (urb, completion) = .ok after) :
    Later { device with completed := (urb, completion) :: rest }
      { after with completed := rest } := by
  cases complete_ok completed
  refine ⟨by simp, ?_⟩
  rintro slot report (⟨which, transfer, found, free, equal⟩ | ⟨which, inKernel⟩)
  · have moved : (device.modify urb (Transfer.complete completion)).transfer (.input slot which) =
        some transfer := found
    rw [Device.transfer_modify] at moved
    split at moved
    · next same =>
      obtain ⟨old, _, rfl⟩ := Option.map_eq_some_iff.mp moved
      exact .inl (.inr ⟨which, by simp [same, ← equal, Transfer.complete]⟩)
    · exact .inl (.inl ⟨which, transfer, moved, free, equal⟩)
  · exact .inl (.inr ⟨which, List.mem_cons_of_mem _ inKernel⟩)

theorem reapAll {items : List (UrbId × Completion)}
    (reaped : items.foldlM Device.complete device = .ok after) :
    Later { device with completed := items } { after with completed := [] } ∧
      after.completed = device.completed := by
  induction items generalizing device with
  | nil =>
    cases reaped
    exact ⟨refl _, rfl⟩
  | cons item items inductionHypothesis =>
    rw [List.foldlM_cons] at reaped
    obtain ⟨next, completed, rest⟩ := bind_ok reaped
    obtain ⟨later, same⟩ := inductionHypothesis rest
    refine ⟨(complete completed).trans later, ?_⟩
    rw [same, complete_ok completed, Device.modify_completed]

theorem reap (reaped : device.reap = .ok after) : Later device after ∧ after.completed = [] := by
  obtain ⟨later, empty⟩ := reapAll reaped
  change after.completed = [] at empty
  have same : { after with completed := [] } = after := by rw [← empty]
  exact ⟨same ▸ later, empty⟩

end Later

/-! ## Polling -/

theorem await_later {device after : Device} {active : Option Nat} {wait : Device.Wait}
    {notes : List Note} (awaits : device.await active wait = .ok (after, notes)) :
    Later device after := by
  obtain ⟨reaped, reaps, rest⟩ := bind_ok awaits
  have later := (Later.reap reaps).1
  split at rest
  · cases rest
    exact later
  · have arrived := later.trans (Later.arriveAll reaped wait.reports)
    dsimp only at rest
    split at rest
    · cases rest
      exact arrived
    · obtain ⟨again, reapsAgain, done⟩ := bind_ok rest
      cases done
      exact arrived.trans (Later.reap reapsAgain).1

/-- What the scan of `poll` returns is unread, and is submitted again. -/
theorem scan_ok {device after : Device} {active : Option Nat} {report : Option (Nat × List UInt8)}
    {notes : List Note} (scans : device.scan active = .ok (after, report, notes)) :
    (report = none ∧ notes = [] ∧ after = device) ∨
      ∃ slot which transfer, device.readable active = some (slot, which) ∧
        device.transfer (.input slot which) = some transfer ∧ transfer.pending = false ∧
        transfer.completion.status = 0 ∧ report = some (slot, transfer.completion.data) ∧
        notes = [.handedOut slot transfer.completion] ∧
        after = device.submit (.input slot which) 64 := by
  rw [Device.scan] at scans
  cases readable : device.readable active with
  | none =>
    rw [readable] at scans
    cases scans
    exact .inl ⟨rfl, rfl, rfl⟩
  | some place =>
    obtain ⟨slot, which⟩ := place
    obtain ⟨found, there, isReady⟩ := readable_some readable
    simp only [readable, there] at scans
    obtain ⟨data, result, done⟩ := bind_ok scans
    cases done
    rw [Transfer.result] at result
    split at result
    · next healthy =>
      cases result
      refine .inr ⟨slot, which, found.input which, rfl, ?_, (ready_some isReady).1, healthy, rfl,
        rfl, rfl⟩
      simp [Device.transfer, there]
    · cases result

theorem arriveAll_completed (device : Device) (reports : List (Nat × List UInt8)) :
    ∀ note ∈ (device.arriveAll reports).2,
      ∃ slot completion, note = .completed slot completion := by
  induction reports generalizing device with
  | nil => simp [Device.arriveAll]
  | cons report reports inductionHypothesis =>
    intro note member
    simp only [Device.arriveAll, List.mem_append] at member
    cases member with
    | inl first =>
      simp only [Device.arrive] at first
      split at first
      · exact ⟨_, _, List.mem_singleton.mp first⟩
      · cases first
    | inr rest => exact inductionHypothesis _ note rest

theorem await_completed {device after : Device} {active : Option Nat} {wait : Device.Wait}
    {notes : List Note} (awaits : device.await active wait = .ok (after, notes)) :
    ∀ note ∈ notes, ∃ slot completion, note = .completed slot completion := by
  obtain ⟨reaped, reaps, rest⟩ := bind_ok awaits
  split at rest
  · cases rest
    simp
  · dsimp only at rest
    split at rest
    · cases rest
      exact arriveAll_completed _ _
    · obtain ⟨again, reapsAgain, done⟩ := bind_ok rest
      cases done
      exact arriveAll_completed _ _

end Usb

namespace Receiver

/-- What one `poll` of the receiver returns, and where it comes from. -/
theorem poll_ok {receiver after : Receiver} {active : Option Nat} {wait : Usb.Device.Wait}
    {report : Option (Nat × List UInt8)}
    (polled : receiver.poll active wait = .ok (after, report)) :
    ∃ awaited notes, receiver.device.await active wait = .ok (awaited, notes) ∧
      ((report = none ∧ after = ⟨awaited, receiver.log⟩) ∨
        ∃ slot which transfer, awaited.readable active = some (slot, which) ∧
          awaited.transfer (.input slot which) = some transfer ∧ transfer.pending = false ∧
          transfer.completion.status = 0 ∧ report = some (slot, transfer.completion.data) ∧
          after = ⟨awaited.submit (.input slot which) 64,
            receiver.log ++ [.read slot transfer.completion]⟩) := by
  obtain ⟨⟨device, report', notes⟩, polls, done⟩ := bind_ok polled
  cases done
  obtain ⟨⟨awaited, arrived⟩, awaits, rest⟩ := bind_ok polls
  obtain ⟨⟨scanned, report', handed⟩, scans, done⟩ := bind_ok rest
  cases done
  refine ⟨awaited, arrived, awaits, ?_⟩
  have waited : receipts arrived = [] := by
    rw [receipts, List.filterMap_eq_nil_iff]
    intro note member
    obtain ⟨slot, completion, rfl⟩ := Usb.await_completed awaits note member
    rfl
  have split : receipts (arrived ++ handed) = receipts handed := by
    rw [receipts, List.filterMap_append]
    exact congrArg (· ++ receipts handed) waited
  obtain ⟨rfl, rfl, rfl⟩ | ⟨slot, which, transfer, readable, found, free, healthy, rfl, rfl, rfl⟩ :=
    Usb.scan_ok scans
  · exact .inl ⟨rfl, by rw [split]; simp [receipts]⟩
  · exact .inr ⟨slot, which, transfer, readable, found, free, healthy, rfl, by rw [split]; rfl⟩

end Receiver

/-! ## Writing -/

/-- A write submits the output transfer when it finds it free, and does nothing else. -/
theorem write_ok {device after : Usb.Device} {slot : Nat} {data : List UInt8}
    (written : device.write slot data = .ok after) :
    ∃ reaped, device.reap = .ok reaped ∧
      ((submits device slot = true ∧ after = reaped.submit (.output slot) data.length) ∨
        (submits device slot = false ∧ after = reaped)) := by
  obtain ⟨reaped, reaps, rest⟩ := bind_ok written
  refine ⟨reaped, reaps, ?_⟩
  simp only [submits, reaps]
  cases there : reaped.slots[slot]? with
  | none =>
    simp only [there] at rest
    cases rest
    exact .inr ⟨rfl, rfl⟩
  | some found =>
    simp only [there] at rest
    cases pending : found.output.pending with
    | true =>
      simp only [pending, if_true] at rest
      cases rest
      exact .inr ⟨by simp [pending], rfl⟩
    | false =>
      refine .inl ⟨by simp [pending], ?_⟩
      simp only [pending, Bool.false_eq_true, if_false] at rest
      split at rest
      · split at rest
        · cases rest
          rfl
        · split at rest
          · cases rest
            rfl
          · cases rest
      · cases rest
        rfl

theorem Receiver.write_ok {receiver after : Receiver} {slot : Nat} {data : List UInt8}
    (written : receiver.write slot data = .ok after) :
    ∃ reaped, receiver.device.reap = .ok reaped ∧
      ((submits receiver.device slot = true ∧
          after = ⟨reaped.submit (.output slot) data.length,
            receiver.log ++ [.submitted slot data]⟩) ∨
        (submits receiver.device slot = false ∧ after = ⟨reaped, receiver.log⟩)) := by
  obtain ⟨device, writes, done⟩ := bind_ok written
  cases done
  obtain ⟨reaped, reaps, wrote⟩ := Daemon.write_ok writes
  refine ⟨reaped, reaps, ?_⟩
  obtain ⟨free, rfl⟩ | ⟨busy, rfl⟩ := wrote
  · exact .inl ⟨free, by simp [free]⟩
  · exact .inr ⟨busy, by simp [busy]⟩

theorem Surroundings.poll_ok {surroundings : Surroundings} {clock : Nat} {receiver after : Receiver}
    {active : Option Nat} {report : Option (Nat × List UInt8)}
    (polled : (surroundings.transport clock).poll receiver active = .ok (after, report)) :
    surroundings.pollFails = none ∧
      receiver.poll active surroundings.wait = .ok (after, report) := by
  simp only [Surroundings.transport] at polled
  cases fails : surroundings.pollFails with
  | some error =>
    rw [fails] at polled
    cases polled
  | none =>
    rw [fails] at polled
    exact ⟨rfl, polled⟩

theorem Surroundings.write_ok {surroundings : Surroundings} {clock : Nat}
    {receiver after : Receiver} {slot : Nat} {data : List UInt8}
    (written : (surroundings.transport clock).write receiver slot data = .ok after) :
    receiver.write slot data = .ok after := by
  simp only [Surroundings.transport] at written
  cases fails : surroundings.writeFails with
  | some error =>
    rw [fails] at written
    cases written
  | none =>
    rw [fails] at written
    exact written

/-! ## The receiver of the manager -/

/-- Every unread report of the later receiver was unread before, or is newer than the clock. -/
def Succeeds (clock : Nat) (before after : Option Receiver) : Prop :=
  ∀ receiver, after = some receiver → clock ≤ receiver.device.clock ∧
    ∀ slot completion, receiver.device.Unread slot completion →
      (∃ old, before = some old ∧ old.device.Unread slot completion) ∨ clock ≤ completion.stamp

theorem Succeeds.later {clock : Nat} {before after : Receiver}
    (counted : before.device.clock = clock) (later : Usb.Later before.device after.device) :
    Succeeds clock (some before) (some after) := by
  intro receiver same
  cases same
  refine ⟨counted ▸ later.clock, ?_⟩
  intro slot completion unread
  exact (later.unread slot completion unread).imp (fun old => ⟨before, rfl, old⟩)
    fun since => counted ▸ since

theorem Succeeds.closed {clock : Nat} {before : Option Receiver} : Succeeds clock before none := by
  intro receiver same
  cases same

/-- A receiver that was just opened has nothing to read. -/
theorem Succeeds.opened {clock : Nat} {before : Option Receiver} {log : List Receipt} :
    Succeeds clock before
      (some ⟨{ Usb.Device.ofInterfaces receiverInterfaces with clock }, log⟩) := by
  intro receiver same
  cases same
  refine ⟨Nat.le_refl _, ?_⟩
  intro slot completion unread
  have opening := Usb.consistent_start receiverInterfaces
  obtain ⟨unreadList, window⟩ := opening.window slot
  have known : completion ∈ unreadList := by
    rw [window.covers]
    exact unread
  have empty : unreadList = [] := by
    simpa [Usb.completedReports, Usb.handedOutReports] using window.split.symm
  rw [empty] at known
  cases known

theorem Succeeds.trans {clock : Nat} {before mid after : Option Receiver}
    (first : Succeeds clock before mid) (second : Succeeds clock mid after) :
    Succeeds clock before after := by
  intro receiver same
  obtain ⟨le, unread⟩ := second receiver same
  refine ⟨le, ?_⟩
  intro slot completion isUnread
  obtain ⟨old, present, wasUnread⟩ | since := unread slot completion isUnread
  · exact (first old present).2 slot completion wasUnread
  · exact .inr since

/-! ## Dropping a slot -/

section

variable (F : Type) [Scalar F]

/-- A report that makes a slot active. -/
def IsState (completion : Usb.Completion) : Prop :=
  completion.status = 0 ∧
    ∃ state : ControllerState F, parseReport completion.data = some (.state state)

def isDisconnected : Option (Report F) → Bool
  | some .disconnected => true
  | _ => false

/-- The next report of the active slot says that its controller is gone. -/
def saysDisconnected (device : Usb.Device) (active : Nat) : Bool :=
  (device.readable (some active)).any fun (slot, which) =>
    (device.transfer (.input slot which)).any fun transfer =>
      isDisconnected F (parseReport transfer.completion.data)

/-- The device at the moment when `poll` drops the active slot and keeps the receiver open:
    after 750 ms of silence, or at the report that the controller is gone. -/
def atDrop (manager : DeviceManager Receiver) (surroundings : Surroundings) : Option Usb.Device :=
  match manager.puck, manager.active with
  | some receiver, some active =>
    if manager.silent (surroundings.now 2) then some receiver.device
    else
      match surroundings.pollFails, receiver.device.await (some active) surroundings.wait with
      | none, .ok (awaited, _) => if saysDisconnected F awaited active then some awaited else none
      | _, _ => none
  | _, _ => none

/-- The event is a `poll` that drops the active slot, with the receiver in this state. -/
def dropsAt (loop : ControllerLoop) (event : ControllerEvent) (device : Usb.Device) : Prop :=
  ∃ surroundings, event = .call .poll surroundings ∧
    atDrop F loop.manager surroundings = some device

/-- A slot that the event drops leaves no state behind that is not read yet. -/
def dropsClean (loop : ControllerLoop) (event : ControllerEvent) : Prop :=
  ∀ device, dropsAt F loop event device →
    ∀ slot completion, device.Unread slot completion → ¬ IsState F completion

/-! ## What a call can do -/

/-- What a call does to the active slot and to the unread reports. -/
inductive SlotMove (clock : Nat) (drops : Usb.Device → Prop)
    (before after : DeviceManager Receiver) : Prop where
  | kept : after.active = before.active → Succeeds clock before.puck after.puck →
      SlotMove clock drops before after
  | closed : after.active = none → after.puck = none → SlotMove clock drops before after
  | dropped (device : Usb.Device) : drops device → before.active.isSome →
      after.active = none → Succeeds clock before.puck after.puck →
      (∀ receiver, after.puck = some receiver → ∀ slot completion,
        receiver.device.Unread slot completion → device.Unread slot completion) →
      SlotMove clock drops before after
  | activated (slot : Nat) (completion : Usb.Completion) : before.active = none →
      after.active = some slot → Succeeds clock before.puck after.puck → IsState F completion →
      (∀ receiver, after.puck = some receiver → receiver.log = [.read slot completion]) →
      ((∃ old, before.puck = some old ∧ old.device.Unread slot completion) ∨
        clock ≤ completion.stamp) →
      SlotMove clock drops before after

end

section

variable {F : Type} [Scalar F] {clock : Nat} {surroundings : Surroundings}
  {manager : DeviceManager Receiver}

/-- The receiver of the manager counts with the clock, and has no receipts yet. -/
def Counted (clock : Nat) (manager : DeviceManager Receiver) : Prop :=
  ∀ receiver, manager.puck = some receiver → receiver.device.clock = clock ∧ receiver.log = []

theorem Counted.succeeds (counted : Counted clock manager) :
    Succeeds clock manager.puck manager.puck := by
  cases opened : manager.puck with
  | none => exact .closed
  | some receiver => exact .later (counted receiver opened).1 (.refl _)

theorem read_move (counted : Counted clock manager)
    (heard : manager.silent (surroundings.now 2) = false) :
    SlotMove F clock (atDrop F manager surroundings = some ·) manager
      ((manager.readSends (F := F) (surroundings.transport clock)).run
        (surroundings.transport clock).takes).1 := by
  obtain ⟨puck, active, pressure, lastState, lastScan, disconnected⟩ := manager
  cases puck with
  | none => exact .kept rfl .closed
  | some receiver =>
    obtain ⟨sameClock, empty⟩ := counted receiver rfl
    simp only [DeviceManager.run_readSends]
    cases polled : (surroundings.transport clock).poll receiver active with
    | error error => exact .closed rfl rfl
    | ok result =>
      obtain ⟨after, report⟩ := result
      obtain ⟨fails, polled⟩ := Surroundings.poll_ok polled
      obtain ⟨awaited, notes, awaits, scanned⟩ := Receiver.poll_ok polled
      have later := Usb.await_later awaits
      -- nothing to read, or a completed transfer that is submitted again after it is read
      obtain ⟨rfl, rfl⟩ |
        ⟨slot, which, transfer, readable, found, free, healthy, rfl, rfl⟩ := scanned
      · exact .kept rfl (.later sameClock later)
      · have unread : awaited.Unread slot transfer.completion :=
          .inl ⟨which, transfer, found, free, rfl⟩
        have succeeds : Succeeds clock (some receiver)
            (some ⟨awaited.submit (.input slot which) 64,
              receiver.log ++ [.read slot transfer.completion]⟩) :=
          .later sameClock (later.trans (.submit ..))
        simp only [DeviceManager.run_interpretSends]
        cases parsed : (parseReport transfer.completion.data : Option (Report F)) with
        | none => exact .kept rfl succeeds
        | some parsed' =>
          cases parsed' with
          | battery percent charging =>
            simp only [DeviceManager.run_receiveSends]
            split
            · exact .kept rfl succeeds
            · exact .kept rfl succeeds
          | disconnected =>
            simp only [DeviceManager.run_receiveSends]
            split
            · next same =>
              cases same
              -- the active controller says that it disconnects
              refine .dropped awaited ?_ rfl rfl succeeds ?_
              · simp [atDrop, heard, fails, awaits, saysDisconnected, readable, found, parsed,
                  isDisconnected]
              · intro kept equal other completion
                cases equal
                exact Usb.submit_unread
            · exact .kept rfl succeeds
          | state state =>
            simp only [DeviceManager.run_receiveSends]
            cases active with
            | none =>
              simp only [Option.isNone_none, Bool.true_and, if_true]
              split
              · exact .closed rfl rfl
              -- the first state of a slot makes it the active one; what it read is in the log
              · refine .activated slot transfer.completion rfl rfl succeeds
                  ⟨healthy, state, parsed⟩ ?_ ?_
                · intro kept equal
                  cases equal
                  simp [empty]
                · refine (later.unread _ _ unread).imp (fun old => ⟨receiver, rfl, old⟩) ?_
                  exact fun since => sameClock ▸ since
            | some current =>
              simp only [Option.isNone_some, Bool.false_and, Bool.false_eq_true, if_false]
              split
              · exact .kept rfl succeeds
              · exact .kept rfl succeeds

theorem scan_counted (missing : manager.puck = none) (now : Int) :
    Counted clock (manager.scan (surroundings.transport clock) now) ∧
      Succeeds clock manager.puck (manager.scan (surroundings.transport clock) now).puck := by
  obtain ⟨puck, active, pressure, lastState, lastScan, disconnected⟩ := manager
  cases missing
  simp only [DeviceManager.scan, Surroundings.transport]
  cases fails : surroundings.openFails with
  | some error =>
    refine ⟨?_, .closed⟩
    intro receiver opened
    cases opened
  | none =>
    refine ⟨?_, .opened⟩
    intro receiver opened
    cases opened
    exact ⟨rfl, rfl⟩

/-- A move from a manager with the same active slot, and nothing else to read. -/
theorem SlotMove.before (other : DeviceManager Receiver) {after : DeviceManager Receiver}
    {drops : Usb.Device → Prop} (same : other.active = manager.active)
    (succeeds : Succeeds clock manager.puck other.puck)
    (move : SlotMove F clock drops other after) : SlotMove F clock drops manager after := by
  cases move with
  | kept active later => exact .kept (active.trans same) (succeeds.trans later)
  | closed active puck => exact .closed active puck
  | dropped device dropped active closed later waiting =>
    exact .dropped device dropped (same ▸ active) closed (succeeds.trans later) waiting
  | activated slot completion inactive active later isState log origin =>
    refine .activated slot completion (same ▸ inactive) active (succeeds.trans later) isState log ?_
    obtain ⟨old, present, unread⟩ | since := origin
    · exact (succeeds old present).2 slot completion unread
    · exact .inr since

theorem SlotMove.succeeds {after : DeviceManager Receiver} {drops : Usb.Device → Prop}
    (move : SlotMove F clock drops manager after) : Succeeds clock manager.puck after.puck := by
  cases move with
  | kept _ later => exact later
  | closed _ puck => exact puck ▸ .closed
  | dropped _ _ _ _ later _ => exact later
  | activated _ _ _ _ later _ _ _ => exact later

theorem SlotMove.mono {after : DeviceManager Receiver} {drops drops' : Usb.Device → Prop}
    (weaken : ∀ device, drops device → drops' device)
    (move : SlotMove F clock drops manager after) :
    SlotMove F clock drops' manager after := by
  cases move with
  | kept active later => exact .kept active later
  | closed active puck => exact .closed active puck
  | dropped device dropped active closed later waiting =>
    exact .dropped device (weaken device dropped) active closed later waiting
  | activated slot completion inactive active later isState log origin =>
    exact .activated slot completion inactive active later isState log origin

theorem atDrop_inactive (inactive : manager.active = none) :
    atDrop F manager surroundings = none := by
  rw [atDrop, inactive]
  cases manager.puck <;> rfl

theorem poll_move (sound : manager.Sound) (counted : Counted clock manager) :
    SlotMove F clock (atDrop F manager surroundings = some ·) manager
      (manager.poll (F := F) (surroundings.transport clock)).1 := by
  rw [DeviceManager.poll_eq]
  split
  · exact .kept rfl counted.succeeds
  · by_cases due : manager.scanDue ((surroundings.transport clock).now 0) = true
    · -- The receiver is missing, so that no slot is active.
      have missing : manager.puck = none := by
        simpa using ((Bool.and_eq_true ..).mp due).1
      have inactive : manager.active = none := by
        cases active : manager.active with
        | none => rfl
        | some slot => simpa [missing] using sound.puck (by simp [active])
      rw [if_pos due]
      -- the scan opens a receiver or leaves it missing; what is read then comes after it
      obtain ⟨countedScanned, succeeds⟩ :=
        @scan_counted clock surroundings manager missing ((surroundings.transport clock).now 1)
      have same := @DeviceManager.scan_active _ manager (surroundings.transport clock)
        ((surroundings.transport clock).now 1)
      generalize manager.scan (surroundings.transport clock)
        ((surroundings.transport clock).now 1) = scanned at countedScanned succeeds same
      have heard : scanned.silent (surroundings.now 2) = false := by
        simp [DeviceManager.silent, same, inactive]
      have quiet : scanned.silent ((surroundings.transport clock).now 2) = false := heard
      dsimp only
      rw [if_neg (by simp [quiet])]
      refine .before scanned same succeeds ((read_move countedScanned heard).mono ?_)
      intro device dropped
      rw [atDrop_inactive (same.trans inactive)] at dropped
      cases dropped
    · rw [if_neg due]
      dsimp only
      split
      · next silent =>
        have active : manager.active.isSome := ((Bool.and_eq_true ..).mp silent).1
        -- the active controller has been silent for too long: it is dropped before any read
        obtain ⟨receiver, opened⟩ := Option.isSome_iff_exists.mp (sound.puck active)
        obtain ⟨slot, isActive⟩ := Option.isSome_iff_exists.mp active
        refine .dropped receiver.device ?_ active rfl counted.succeeds ?_
        · have silentNow : manager.silent (surroundings.now 2) = true := silent
          simp [atDrop, opened, isActive, silentNow]
        · intro kept equal slot completion unread
          rw [show kept = receiver from Option.some.inj (equal.symm.trans opened)] at unread
          exact unread
      · next heard =>
        have heardNow : manager.silent (surroundings.now 2) = false := Bool.eq_false_iff.mpr heard
        exact read_move counted heardNow

theorem playHaptic_move (drops : Usb.Device → Prop) (counted : Counted clock manager)
    (haptic : Haptic) :
    SlotMove F clock drops manager
      (manager.playHaptic (surroundings.transport clock) haptic) := by
  obtain ⟨puck, active, pressure, lastState, lastScan, disconnected⟩ := manager
  cases active with
  | none => exact .kept rfl counted.succeeds
  | some slot =>
    cases puck with
    | none => exact .kept rfl counted.succeeds
    | some receiver =>
      simp only [DeviceManager.playHaptic]
      cases written : (surroundings.transport clock).write receiver slot haptic.encode with
      | error error => exact .closed rfl rfl
      | ok after =>
        refine .kept rfl (.later (counted receiver rfl).1 ?_)
        obtain ⟨reaped, reaps, wrote⟩ := Receiver.write_ok (Surroundings.write_ok written)
        have later := (Usb.Later.reap reaps).1
        obtain ⟨_, rfl⟩ | ⟨_, rfl⟩ := wrote
        · exact later.trans (.submit ..)
        · exact later

theorem call_move (sound : manager.Sound) (counted : Counted clock manager) (call : DeviceCall) :
    SlotMove F clock (fun device => call = .poll ∧ atDrop F manager surroundings = some device)
      manager
      (manager.call (F := F) call (surroundings.transport clock)).1 := by
  cases call with
  | poll => exact (poll_move sound counted).mono fun _ dropped => ⟨rfl, dropped⟩
  | playHaptic haptic => exact playHaptic_move _ counted haptic
  | rumble lowFrequency highFrequency => exact playHaptic_move _ counted _
  | suppressLizardMode =>
    rw [DeviceManager.call, DeviceManager.suppressLizardMode_eq]
    exact .kept rfl counted.succeeds
  | setTrackpadClickPressure pressure =>
    obtain ⟨puck, active, old, lastState, lastScan, disconnected⟩ := manager
    cases active with
    | none => exact .kept rfl counted.succeeds
    | some slot =>
      simp only [DeviceManager.call, DeviceManager.setTrackpadClickPressure_eq]
      split
      · exact .kept rfl counted.succeeds
      · exact .closed rfl rfl

end

/-! ## Runs -/

section

variable (F : Type) [Scalar F]

/-- One event of the loop. -/
inductive ControllerStep : ControllerLoop → List Observation → ControllerLoop → Prop where
  | event {before : ControllerLoop} (event : ControllerEvent) :
      ControllerStep before (before.observations (before.step F event)) (before.step F event)

/-- An event at which no slot is dropped while a state is waiting. -/
inductive CleanStep : ControllerLoop → List Observation → ControllerLoop → Prop where
  | event {before : ControllerLoop} (event : ControllerEvent) :
      dropsClean F before event →
      CleanStep before (before.observations (before.step F event)) (before.step F event)

end

/-- Every report that activates a slot was completed after every earlier drop. -/
def ActivatesFresh (labels : List Observation) : Prop :=
  ∀ past clock rest, labels = past ++ .dropped clock :: rest →
    ∀ slot completion, .activated slot completion ∈ rest → clock ≤ completion.stamp

namespace ControllerLoop

theorem observe_dropped {activates : Bool} {receipt : Receipt} {clock : Nat} :
    .dropped clock ∉ observe activates receipt := by
  cases receipt <;> cases activates <;> simp [observe]

theorem observe_activated {activates : Bool} {receipt : Receipt} {slot : Nat}
    {completion : Usb.Completion}
    (member : .activated slot completion ∈ observe activates receipt) :
    activates = true ∧ receipt = .read slot completion := by
  cases receipt <;> cases activates <;> simp_all [observe]

theorem dropped_mem {before after : ControllerLoop} {clock : Nat}
    (member : .dropped clock ∈ before.observations after) :
    clock = after.clock ∧ before.manager.active.isSome ∧ after.manager.active = none := by
  rw [observations, List.mem_append] at member
  cases member with
  | inl receipt =>
    obtain ⟨receipt, _, isDropped⟩ := List.mem_flatMap.mp receipt
    exact absurd isDropped observe_dropped
  | inr drop =>
    split at drop
    · next closes =>
      rw [Bool.and_eq_true, Option.isNone_iff_eq_none] at closes
      cases List.mem_singleton.mp drop
      exact ⟨rfl, closes.1, closes.2⟩
    · cases drop

theorem activated_mem {before after : ControllerLoop} {slot : Nat} {completion : Usb.Completion}
    (member : .activated slot completion ∈ before.observations after) :
    before.manager.active = none ∧ after.manager.active.isSome ∧
      .read slot completion ∈ after.receipts := by
  rw [observations, List.mem_append] at member
  cases member with
  | inl receipt =>
    obtain ⟨receipt, present, isActivated⟩ := List.mem_flatMap.mp receipt
    obtain ⟨opens, rfl⟩ := observe_activated isActivated
    rw [Bool.and_eq_true, Option.isNone_iff_eq_none] at opens
    exact ⟨opens.1, opens.2, present⟩
  | inr drop =>
    split at drop
    · simp at drop
    · cases drop

end ControllerLoop

/-! ## One event -/

section

variable {F : Type} [Scalar F] {loop : ControllerLoop}

/-- The receiver counts with the clock of the loop. -/
def Timed (loop : ControllerLoop) : Prop :=
  ∀ receiver, loop.manager.puck = some receiver → receiver.device.clock = loop.clock

theorem onDevice_sound (sound : loop.manager.Sound) (change : Usb.Device → Usb.Device) :
    (ControllerLoop.onDevice loop.manager change).Sound :=
  sound.same rfl rfl (by simp [ControllerLoop.onDevice]) rfl

theorem onDevice_succeeds (timed : Timed loop) {change : Usb.Device → Usb.Device}
    (later : ∀ device, Usb.Later device (change device)) :
    Succeeds loop.clock loop.manager.puck (ControllerLoop.onDevice loop.manager change).puck := by
  rw [ControllerLoop.onDevice]
  cases opened : loop.manager.puck with
  | none => exact .closed
  | some receiver => exact .later (timed receiver opened) (later receiver.device)

theorem forget_counted (timed : Timed loop) :
    Counted loop.clock (ControllerLoop.forget loop.manager) := by
  intro receiver opened
  obtain ⟨old, present, rfl⟩ := Option.map_eq_some_iff.mp opened
  exact ⟨timed old present, rfl⟩

theorem atDrop_forget (surroundings : Surroundings) :
    atDrop F (ControllerLoop.forget loop.manager) surroundings =
      atDrop F loop.manager surroundings := by
  obtain ⟨⟨puck, active, pressure, lastState, lastScan, disconnected⟩, _, _, _⟩ := loop
  cases puck <;> cases active <;> rfl

theorem react_sound (sound : loop.manager.Sound) (event : ControllerEvent) :
    (loop.react F event).manager.Sound := by
  have forgotten := onDevice_sound sound id
  cases event with
  | arrive slot data => exact onDevice_sound sound fun device => (device.arrive slot data).1
  | finishOutput slot status data => exact onDevice_sound sound (·.finishOutput slot status data)
  | call call surroundings =>
    exact (@DeviceManager.call_keeps _ F _ _ _ forgotten call).1
  | pollRumble next surroundings =>
    simp only [ControllerLoop.react, ControllerLoop.pollRumble]
    cases next with
    | some next => exact (@DeviceManager.playHaptic_keeps _ F _ _ forgotten _).1
    | none =>
      dsimp only
      split
      · exact (@DeviceManager.playHaptic_keeps _ F _ _ forgotten _).1
      · exact forgotten

theorem react_move (sound : loop.manager.Sound) (timed : Timed loop) (event : ControllerEvent) :
    SlotMove F loop.clock (dropsAt F loop event) loop.manager (loop.react F event).manager := by
  have forgotten := onDevice_sound sound id
  have counted := forget_counted timed
  have succeeds : Succeeds loop.clock loop.manager.puck (ControllerLoop.forget loop.manager).puck :=
    onDevice_succeeds timed .refl
  cases event with
  | arrive slot data => exact .kept rfl (onDevice_succeeds timed (.arrive · slot data))
  | finishOutput slot status data =>
    exact .kept rfl (onDevice_succeeds timed (.completeNext · _ status data))
  | call call surroundings =>
    refine .before (ControllerLoop.forget loop.manager) rfl succeeds
      ((call_move forgotten counted call).mono ?_)
    rintro device ⟨rfl, dropped⟩
    exact ⟨surroundings, rfl, by rwa [← atDrop_forget]⟩
  | pollRumble next surroundings =>
    have rumbled : ∀ haptic, SlotMove F loop.clock
        (dropsAt F loop (.pollRumble next surroundings)) loop.manager
        ((ControllerLoop.forget loop.manager).playHaptic (surroundings.transport loop.clock)
          haptic) := by
      intro haptic
      exact .before (ControllerLoop.forget loop.manager) rfl succeeds
        (playHaptic_move _ counted haptic)
    simp only [ControllerLoop.react, ControllerLoop.pollRumble]
    cases next with
    | some next => exact rumbled _
    | none =>
      dsimp only
      split
      · exact rumbled _
      · exact .kept rfl succeeds

end

/-! ## Fresh activations -/

/-- The invariant of a run. -/
structure Fresh (F : Type) [Scalar F] (labels : List Observation) (loop : ControllerLoop) :
    Prop where
  sound : loop.manager.Sound
  timed : Timed loop
  past : ∀ clock, .dropped clock ∈ labels → clock ≤ loop.clock
  waiting : loop.manager.active = none → ∀ receiver, loop.manager.puck = some receiver →
    ∀ slot completion, receiver.device.Unread slot completion → IsState F completion →
      ∀ clock, .dropped clock ∈ labels → clock ≤ completion.stamp
  activates : ActivatesFresh labels

/-- A step extends the history when its activation is newer than every drop. -/
theorem ActivatesFresh.append {labels more : List Observation} (fresh : ActivatesFresh labels)
    (apart : ∀ clock slot completion, .dropped clock ∈ more → .activated slot completion ∉ more)
    (newer : ∀ clock slot completion, .dropped clock ∈ labels → .activated slot completion ∈ more →
      clock ≤ completion.stamp) : ActivatesFresh (labels ++ more) := by
  intro past clock rest split slot completion member
  obtain ⟨early, rfl⟩ | ⟨mid, rfl, rfl⟩ := split_append split
  · have rest_eq : rest = early ++ more := by simpa using split.symm
    rw [rest_eq] at member
    cases List.mem_append.mp member with
    | inl old => exact fresh past clock early rfl slot completion old
    | inr new => exact newer clock slot completion (by simp) new
  · refine absurd ?_ (apart clock slot completion (by simp))
    simp [member]

theorem observations_apart {before after : ControllerLoop} (clock slot : Nat)
    (completion : Usb.Completion) (dropped : .dropped clock ∈ before.observations after) :
    .activated slot completion ∉ before.observations after := by
  intro activated
  have active := (ControllerLoop.dropped_mem dropped).2.1
  rw [(ControllerLoop.activated_mem activated).1] at active
  cases active

/-- The clock of the loop after a step is the clock of its receiver. -/
theorem tick_clock {before : ControllerLoop} {after : DeviceManager Receiver}
    (succeeds : Succeeds before.clock before.manager.puck after.puck) :
    before.clock ≤ (after.puck.map (·.device.clock)).getD before.clock := by
  cases opened : after.puck with
  | none => exact Nat.le_refl _
  | some receiver => exact (succeeds receiver opened).1

theorem react_clock (F : Type) [Scalar F] (loop : ControllerLoop) (event : ControllerEvent) :
    (loop.react F event).clock = loop.clock := by
  cases event with
  | pollRumble next surroundings =>
    simp only [ControllerLoop.react, ControllerLoop.pollRumble]
    cases next with
    | some next => rfl
    | none =>
      dsimp only
      split <;> rfl
  | _ => rfl

theorem step_timed (F : Type) [Scalar F] (loop : ControllerLoop) (event : ControllerEvent) :
    Timed (loop.step F event) := by
  intro receiver opened
  change (loop.react F event).manager.puck = some receiver at opened
  simp [ControllerLoop.step, ControllerLoop.tick, opened]

theorem Fresh.step {F : Type} [Scalar F] {labels : List Observation} {loop : ControllerLoop}
    {event : ControllerEvent} (fresh : Fresh F labels loop) (clean : dropsClean F loop event) :
    Fresh F (labels ++ loop.observations (loop.step F event)) (loop.step F event) := by
  have move := @react_move F _ loop fresh.sound fresh.timed event
  have succeeds := move.succeeds
  have le : loop.clock ≤ (loop.step F event).clock := by
    simp only [ControllerLoop.step, ControllerLoop.tick, react_clock]
    exact tick_clock succeeds
  -- the manager of the step is the manager of the reaction
  change SlotMove F loop.clock _ loop.manager (loop.step F event).manager at move
  change Succeeds loop.clock loop.manager.puck (loop.step F event).manager.puck at succeeds
  have timed := step_timed F loop event
  have soundAfter : (loop.step F event).manager.Sound := @react_sound F _ loop fresh.sound event
  generalize loop.step F event = after at *
  refine ⟨soundAfter, timed, ?_, ?_, ?_⟩
  · intro clock member
    cases List.mem_append.mp member with
    | inl old => exact Nat.le_trans (fresh.past clock old) le
    | inr new => exact Nat.le_of_eq (ControllerLoop.dropped_mem new).1
  · intro inactive receiver opened slot completion unread isState clock member
    cases move with
    | closed _ puck =>
      rw [puck] at opened
      cases opened
    | activated slot completion _ active =>
      rw [inactive] at active
      cases active
    | dropped device drops _ _ _ waiting =>
      exact absurd isState (clean device drops slot completion (waiting receiver opened _ _ unread))
    | kept same _ =>
      have wasInactive := same.symm.trans inactive
      have old : .dropped clock ∈ labels := by
        refine (List.mem_append.mp member).resolve_right fun new => ?_
        have active := (ControllerLoop.dropped_mem new).2.1
        rw [wasInactive] at active
        cases active
      obtain ⟨before, present, wasUnread⟩ | since :=
        (succeeds receiver opened).2 slot completion unread
      · exact fresh.waiting wasInactive before present slot completion wasUnread isState clock old
      · exact Nat.le_trans (fresh.past clock old) since
  · apply fresh.activates.append fun clock slot completion =>
      observations_apart clock slot completion
    intro clock slot completion dropped activated
    obtain ⟨inactive, active, read⟩ := ControllerLoop.activated_mem activated
    cases move with
    | kept same _ => simp [same, inactive] at active
    | closed closed _ => simp [closed] at active
    | dropped _ _ _ closed => simp [closed] at active
    | activated slot' completion' _ _ _ isState log origin =>
      rw [ControllerLoop.receipts] at read
      cases opened : after.manager.puck with
      | none => simp [opened] at read
      | some receiver =>
        have only : Receipt.read slot completion = .read slot' completion' := by
          simpa [opened, log receiver opened] using read
        cases only
        obtain ⟨before, present, unread⟩ | since := origin
        · exact fresh.waiting inactive before present slot completion unread isState clock dropped
        · exact Nat.le_trans (fresh.past clock dropped) since

theorem fresh_start (F : Type) [Scalar F] (surroundings : Surroundings) :
    Fresh F [] (.new surroundings) := by
  have start : Counted 0 (ControllerLoop.new surroundings).manager := (scan_counted rfl _).1
  refine ⟨(DeviceManager.new_sound _).1, ?_, ?_, ?_, ?_⟩
  · intro receiver opened
    exact (start receiver opened).1
  · intro clock member
    cases member
  · intro _ _ _ _ _ _ _ clock member
    cases member
  · intro past clock rest split
    simp at split

/-- In a run that never drops a slot while a state is waiting, the report that activates a
    slot was completed after every earlier drop. -/
theorem poll_activates_fresh {F : Type} [Scalar F] {surroundings : Surroundings}
    {labels : List Observation} {loop : ControllerLoop}
    (run : Path (CleanStep F) (.new surroundings) labels loop) : ActivatesFresh labels := by
  have fresh : Fresh F ([] ++ labels) loop := by
    refine run.history (Fresh F) ?_ (fresh_start F surroundings)
    rintro past before more after ⟨event, clean⟩ fresh
    exact fresh.step clean
  exact fresh.activates

/-! ## Runs of the receiver -/

/-- Nothing fails, and nothing arrives while `poll` waits. -/
def calm (now : Int) : Surroundings where
  openFails := none
  pollFails := none
  writeFails := none
  control := fun _ _ => true
  wait := ⟨[], false⟩
  now := fun _ => now

/-- A report with every button up. -/
def idleReport : List UInt8 := 0x42 :: List.replicate 45 0

theorem nothing_unread {device : Usb.Device}
    (pending : device.slots.all fun slot => (slot.input 0).pending && (slot.input 1).pending)
    (reaped : device.completed = []) (slot : Nat) (completion : Usb.Completion) :
    ¬ device.Unread slot completion := by
  rintro (⟨which, transfer, found, free, _⟩ | ⟨which, inKernel⟩)
  · obtain ⟨foundSlot, there, rfl⟩ := Option.map_eq_some_iff.mp found
    have both := List.all_eq_true.mp pending foundSlot (List.mem_of_getElem? there)
    rw [Bool.and_eq_true] at both
    match which with
    | 0 => simp [both.1] at free
    | 1 => simp [both.2] at free
  · rw [reaped] at inKernel
    cases inKernel

/-- The controller on slot 0 falls silent, and then one on slot 1 connects. -/
theorem poll_activates_fresh_silence :
    ∃ labels, labels =
        [.activated 0 ⟨0, idleReport, 0⟩, .dropped 1, .activated 1 ⟨0, idleReport, 1⟩] ∧
      ActivatesFresh labels := by
  have start : Path (CleanStep ℚ) (.new (calm 0)) [] (.new (calm 0)) := .refl
  have arrives : ∀ (loop : ControllerLoop) slot data, dropsClean ℚ loop (.arrive slot data) := by
    rintro loop slot data device ⟨surroundings, isPoll, _⟩
    cases isPoll
  have reported := start.snoc (.event (.arrive 0 idleReport) (arrives _ _ _))
  have connected := reported.snoc (.event (.call .poll (calm 0)) (by
    rintro device ⟨surroundings, isPoll, dropped⟩
    cases isPoll
    cases dropped))
  have silent := connected.snoc (.event (.call .poll (calm 1000000000)) (by
    rintro device ⟨surroundings, isPoll, dropped⟩
    cases isPoll
    cases dropped
    intro slot completion unread
    exact absurd unread (nothing_unread (by decide) rfl slot completion)))
  have other := silent.snoc (.event (.arrive 1 idleReport) (arrives _ _ _))
  have again := other.snoc (.event (.call .poll (calm 1000000000)) (by
    rintro device ⟨surroundings, isPoll, dropped⟩
    cases isPoll
    cases dropped))
  exact ⟨_, rfl, poll_activates_fresh again⟩

/-- A state of slot 1 arrives while slot 0 is active, and the controller on slot 0 leaves.
    The next `poll` makes slot 1 active with the state that is older than the drop. -/
theorem poll_activates_on_stale_report :
    ∃ labels loop, Path (ControllerStep ℚ) (.new (calm 0)) labels loop ∧
      labels = [.activated 0 ⟨0, idleReport, 0⟩, .dropped 3, .activated 1 ⟨0, idleReport, 1⟩] ∧
      ¬ ActivatesFresh labels := by
  have start : Path (ControllerStep ℚ) (.new (calm 0)) [] (.new (calm 0)) := .refl
  have connected := (start.snoc (.event (.arrive 0 idleReport))).snoc
    (.event (.call .poll (calm 0)))
  have left := ((connected.snoc (.event (.arrive 1 idleReport))).snoc
    (.event (.arrive 0 [0x79, 1]))).snoc (.event (.call .poll (calm 0)))
  refine ⟨_, _, left.snoc (.event (.call .poll (calm 0))), rfl, ?_⟩
  intro fresh
  have stale := fresh [.activated 0 ⟨0, idleReport, 0⟩] 3 [.activated 1 ⟨0, idleReport, 1⟩] rfl 1
    ⟨0, idleReport, 1⟩ (by simp)
  simp at stale

end Scd.Daemon
