import Scd.Daemon.Usb

/-! # The transport when the kernel refuses

`usb.rs` once more, with the outcome of every `ioctl` left open.  A function returns its
error together with the device as the error leaves it, since `Drop` still runs on it.  What
the kernel answers is an argument; without a refusal the functions are those of
`Scd.Daemon.Usb`.

Transfers are known by the slot they belong to.  A transfer of a slot that `open` has not
stored yet has the number that the slot would have.
-/

namespace Scd.Daemon.Usb

/-- The error of an `ioctl`, if it fails. -/
abbrev Refusal := Option IoError

/-- The device file and the claimed interfaces. -/
structure Handle where
  device : Device
  claimed : List UInt8

/-- What a function of the device returns, and the device that it leaves. -/
abbrev Attempt (α : Type) := Except IoError α × Device

/-! ## Opening -/

structure OpenAnswers where
  claim : Refusal
  submit : Fin 2 → Refusal

namespace Handle

/-- The device before its first slot. -/
def empty : Handle := ⟨⟨[], [], [], 0⟩, []⟩

/-- The kernel takes a transfer. -/
def own (handle : Handle) (urb : UrbId) : Handle :=
  { handle with device := { handle.device with queued := handle.device.queued ++ [urb] } }

def push (handle : Handle) (slot : Slot) : Handle :=
  { handle with device := { handle.device with slots := handle.device.slots ++ [slot] } }

/-- One turn of the loop of `open`.  An error frees the slot with its transfers. -/
def openSlot (handle : Handle) (interface : UInt8) (answers : OpenAnswers) :
    Except IoError Unit × Handle :=
  match answers.claim with
  | some error => (.error error, handle)
  | none =>
    let handle := { handle with claimed := handle.claimed ++ [interface] }
    let index := handle.device.slots.length
    match answers.submit 0 with
    | some error => (.error error, handle)
    | none =>
      let handle := handle.own (.input index 0)
      match answers.submit 1 with
      | some error => (.error error, handle)
      | none =>
        (.ok (), (handle.own (.input index 1)).push ⟨interface, fun _ => .submit 64, .new⟩)

/-- The loop of `open`. -/
def openSlots (answers : UInt8 → OpenAnswers) : List UInt8 → Handle → Except IoError Unit × Handle
  | [], handle => (.ok (), handle)
  | interface :: interfaces, handle =>
    match handle.openSlot interface (answers interface) with
    | (.error error, handle) => (.error error, handle)
    | (.ok (), handle) => openSlots answers interfaces handle

end Handle

namespace Device

/-! ## Reaping -/

/-- `complete`; a transfer that no slot has is an error. -/
def completeKnown (device : Device) (item : UrbId × Completion) : Attempt Unit :=
  match device.complete item with
  | .ok device => (.ok (), device)
  | .error error => (.error error, device)

/-- The kernel hands over its completed transfers one by one; it may refuse after some. -/
def reapEach (refusal : Option (Nat × IoError)) : List (UrbId × Completion) → Device → Attempt Unit
  | [], device =>
    match refusal with
    | some (_, error) => (.error error, device)
    | none => (.ok (), device)
  | item :: items, device =>
    match refusal with
    | some (0, error) => (.error error, { device with completed := item :: items })
    | _ =>
      match device.completeKnown item with
      | (.error error, device) => (.error error, { device with completed := items })
      | (.ok (), device) => reapEach (refusal.map fun (count, error) => (count - 1, error)) items device

def reapOr (device : Device) (refusal : Option (Nat × IoError)) : Attempt Unit :=
  reapEach refusal device.completed { device with completed := [] }

/-! ## Submitting -/

/-- `Transfer::submit`: a transfer that the kernel refuses is prepared, but not pending. -/
def submitOr (device : Device) (urb : UrbId) (length : Nat) (refusal : Refusal) : Attempt Unit :=
  match refusal with
  | some error => (.error error, device.modify urb fun _ => { Transfer.submit length with pending := false })
  | none => (.ok (), device.submit urb length)

/-! ## Polling -/

structure PollAnswers where
  reap : Option (Nat × IoError)
  wait : Wait
  waitFails : Refusal
  reapAgain : Option (Nat × IoError)
  submit : Refusal

/-- The wait of `poll`, and what it reaps after it. -/
def waitOr (device : Device) (answers : PollAnswers) : Attempt Unit :=
  let device := (device.arriveAll answers.wait.reports).1
  match answers.waitFails with
  | some error => (.error error, device)
  | none =>
    if answers.wait.interrupted || device.completed.isEmpty then (.ok (), device)
    else device.reapOr answers.reapAgain

def awaitOr (device : Device) (active : Option Nat) (answers : PollAnswers) : Attempt Unit :=
  match device.reapOr answers.reap with
  | (.error error, device) => (.error error, device)
  | (.ok (), device) =>
    if (device.readable active).isSome then (.ok (), device) else device.waitOr answers

def scanOr (device : Device) (active : Option Nat) (refusal : Refusal) :
    Attempt (Option (Nat × List UInt8)) :=
  match device.readable active with
  | none => (.ok none, device)
  | some (slot, which) =>
    match device.slots[slot]? with
    | none => (.ok none, device)
    | some found =>
      match (found.input which).result with
      | .error error => (.error error, device)
      | .ok data =>
        match device.submitOr (.input slot which) 64 refusal with
        | (.error error, device) => (.error error, device)
        | (.ok (), device) => (.ok (some (slot, data)), device)

def pollOr (device : Device) (active : Option Nat) (answers : PollAnswers) :
    Attempt (Option (Nat × List UInt8)) :=
  match device.awaitOr active answers with
  | (.error error, device) => (.error error, device)
  | (.ok (), device) => device.scanOr active answers.submit

/-! ## Writing -/

structure WriteAnswers where
  reap : Option (Nat × IoError)
  clearHalt : Refusal
  submit : Refusal

/-- What `write` does about the outcome of the last write. -/
def settleWrite (output : Transfer) (clearHalt : Refusal) : Except IoError Unit :=
  if output.bufferLength = 0 then .ok ()
  else
    match output.result with
    | .ok _ => .ok ()
    | .error error =>
      if error = .errno epipe.natAbs then
        match clearHalt with
        | some error => .error error
        | none => .ok ()
      else .error error

def writeOr (device : Device) (slot : Nat) (data : List UInt8) (answers : WriteAnswers) :
    Attempt Unit :=
  match device.reapOr answers.reap with
  | (.error error, device) => (.error error, device)
  | (.ok (), device) =>
    match device.slots[slot]? with
    | none => (.ok (), device)
    | some found =>
      if found.output.pending then (.ok (), device)
      else
        match settleWrite found.output answers.clearHalt with
        | .error error => (.error error, device)
        | .ok () => device.submitOr (.output slot) data.length answers.submit

/-! ## Dropping -/

/-- The transfers of a slot. -/
def transfersOf (slot : Nat) : List UrbId := [.input slot 0, .input slot 1, .output slot]

def isPending (slot : Slot) : UrbId → Bool
  | .input _ which => (slot.input which).pending
  | .output _ => slot.output.pending

/-- The transfers that `Drop` finds pending, and asks the kernel to discard. -/
def pendingTransfers (device : Device) : List UrbId :=
  device.slots.zipIdx.flatMap fun (slot, index) => (transfersOf index).filter (isPending slot)

/-- What the blocking `ioctl` of `Drop` returns. -/
inductive DropAnswer where
  | returned (urb : UrbId) (completion : Completion)
  | interrupted
  | failed (error : IoError)

inductive DropEnd where
  | done
  | failed
  /-- The kernel has not answered. -/
  | waiting
  deriving DecidableEq, Repr

/-- A transfer leaves the kernel, which may have completed it in the meantime. -/
def release (device : Device) (urb : UrbId) : Device :=
  { device with
    queued := device.queued.erase urb
    completed := device.completed.filter fun item => item.1 ≠ urb }

/-- The reap loop of `Drop`.  The kernel returns only transfers that it has. -/
def reapPending : Nat → List DropAnswer → Device → DropEnd × Device
  | 0, _, device => (.done, device)
  | _ + 1, [], device => (.waiting, device)
  | pending + 1, answer :: answers, device =>
    match answer with
    | .interrupted => reapPending (pending + 1) answers device
    | .failed _ => (.failed, device)
    | .returned urb completion =>
      if urb ∈ device.queued ++ device.completed.map Prod.fst then
        reapPending pending answers ((device.release urb).completeKnown (urb, completion)).2
      else (.waiting, device)

def drop (device : Device) (answers : List DropAnswer) : DropEnd × Device :=
  reapPending device.pendingTransfers.length answers device

end Device

/-- `Drop`: the transfers are reaped, then the interfaces given back, the last one first. -/
def Handle.drop (handle : Handle) (answers : List Device.DropAnswer) :
    Device.DropEnd × Device × List UInt8 :=
  let (ended, device) := handle.device.drop answers
  (ended, device, handle.claimed.reverse)

end Scd.Daemon.Usb
