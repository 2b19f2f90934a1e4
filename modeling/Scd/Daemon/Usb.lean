import Mathlib.Logic.Function.Basic
import Scd.Foundation.Index
import Scd.Foundation.Outcome
import Scd.Foundation.Path

/-! # The USB transport

`Device` of `usb.rs` together with the kernel's side of it.  Every slot has two input
transfers in flight.  The kernel completes the queued transfers of an endpoint in the
order of their submission, one report each; `reap` learns of every completed transfer, and
`poll` hands out the report of one of them and submits it again.

Completions carry a ghost stamp, their place in the order of all completions.
-/

namespace Scd.Daemon.Usb

open Scd.Foundation

/-- The transfers of a device, known to the program by their address. -/
inductive UrbId where
  | input (slot : Nat) (which : Fin 2)
  | output (slot : Nat)
  deriving DecidableEq, Repr

/-- What the kernel writes into a transfer: its status, and the bytes it has moved. -/
structure Completion where
  status : Int
  data : List UInt8
  stamp : Nat
  deriving DecidableEq, Repr

structure Transfer where
  bufferLength : Nat
  completion : Completion
  pending : Bool
  deriving DecidableEq, Repr

structure Slot where
  interface : UInt8
  input : Fin 2 → Transfer
  output : Transfer

inductive IoError where
  | invalidData
  | errno (code : Nat)
  deriving DecidableEq, Repr

/-- The device file: the slots of the program, and the transfers in the kernel. -/
structure Device where
  slots : List Slot
  /-- Submitted transfers that are not complete, in the order of submission. -/
  queued : List UrbId
  /-- Complete transfers that were not reaped, in the order of completion. -/
  completed : List (UrbId × Completion)
  clock : Nat

/-- What happens to the reports of the slots.  Ghost. -/
inductive Note where
  | completed (slot : Nat) (completion : Completion)
  | handedOut (slot : Nat) (completion : Completion)
  deriving DecidableEq, Repr

/-! ## Transfers -/

def Transfer.new : Transfer := ⟨0, ⟨0, [], 0⟩, false⟩

def Transfer.submit (length : Nat) : Transfer := ⟨length, ⟨0, [], 0⟩, true⟩

/-- `Transfer::result`, with the bytes instead of their number. -/
def Transfer.result (transfer : Transfer) : Except IoError (List UInt8) :=
  if transfer.completion.status = 0 then .ok transfer.completion.data
  else .error (.errno transfer.completion.status.natAbs)

/-- `complete` on the transfer that the kernel has returned. -/
def Transfer.complete (completion : Completion) (transfer : Transfer) : Transfer :=
  { transfer with completion, pending := false }

def Slot.modify (slot : Slot) (which : Fin 2) (change : Transfer → Transfer) : Slot :=
  { slot with input := Function.update slot.input which (change (slot.input which)) }

namespace Device

def modify (device : Device) (urb : UrbId) (change : Transfer → Transfer) : Device :=
  match urb with
  | .input slot which =>
    { device with slots := device.slots.modify slot fun slot => slot.modify which change }
  | .output slot =>
    { device with
      slots := device.slots.modify slot fun slot => { slot with output := change slot.output } }

def submit (device : Device) (urb : UrbId) (length : Nat) : Device :=
  { device.modify urb fun _ => .submit length with queued := device.queued ++ [urb] }

def complete (device : Device) (item : UrbId × Completion) : Except IoError Device :=
  let slot := match item.1 with
    | .input slot _ | .output slot => slot
  -- the source looks for the transfer in every slot
  if slot < device.slots.length then .ok (device.modify item.1 (.complete item.2))
  else .error .invalidData

/-- Every completed transfer, in order. -/
def reap (device : Device) : Except IoError Device :=
  device.completed.foldlM complete { device with completed := [] }

/-- `open`: the slots of the claimed interfaces, with their input transfers submitted. -/
def ofInterfaces (interfaces : List UInt8) : Device :=
  (List.range interfaces.length).foldl
    (fun device slot => (device.submit (.input slot 0) 64).submit (.input slot 1) 64)
    { slots := interfaces.map fun interface => ⟨interface, fun _ => .new, .new⟩
      queued := []
      completed := []
      clock := 0 }

/-! ## The kernel -/

def isInputOf (slot : Nat) : UrbId → Bool
  | .input other _ => other = slot
  | .output _ => false

/-- The transfer that the kernel completes next on an endpoint. -/
def completeNext (device : Device) (endpoint : UrbId → Bool) (status : Int) (data : List UInt8) :
    Device :=
  match device.queued.find? endpoint with
  | none => device
  | some urb => { device with
    queued := device.queued.erase urb
    completed := device.completed ++ [(urb, ⟨status, data, device.clock⟩)]
    clock := device.clock + 1 }

/-- A report of a controller arrives; without a queued transfer the receiver keeps it. -/
def arrive (device : Device) (slot : Nat) (data : List UInt8) : Device × List Note :=
  (device.completeNext (isInputOf slot) 0 data,
    if device.queued.any (isInputOf slot) then [.completed slot ⟨0, data, device.clock⟩] else [])

/-- The kernel is done with the output transfer of a slot. -/
def finishOutput (device : Device) (slot : Nat) (status : Int) (data : List UInt8) : Device :=
  device.completeNext (· = .output slot) status data

def arriveAll (device : Device) : List (Nat × List UInt8) → Device × List Note
  | [] => (device, [])
  | (slot, data) :: reports =>
    let (device, first) := device.arrive slot data
    let (device, rest) := device.arriveAll reports
    (device, first ++ rest)

/-! ## Polling -/

/-- The reports that arrive while `poll` waits, and whether a signal ends the wait. -/
structure Wait where
  reports : List (Nat × List UInt8)
  interrupted : Bool

/-- The input transfer that the scan of a slot finds: the first that is not pending. -/
def ready (slot : Slot) : Option (Fin 2) :=
  if !(slot.input 0).pending then some 0
  else if !(slot.input 1).pending then some 1
  else none

/-- The first slot of the scan with a complete input transfer. -/
def readable (device : Device) (active : Option Nat) : Option (Nat × Fin 2) :=
  (List.range device.slots.length).findSome? fun slot =>
    if active.any (· ≠ slot) then none
    else ((device.slots[slot]?).bind ready).map (slot, ·)

/-- The first half of `poll`: reap, and when there is nothing to read, wait and reap again. -/
def await (device : Device) (active : Option Nat) (wait : Wait) :
    Except IoError (Device × List Note) := do
  let device ← device.reap
  if (device.readable active).isSome then return (device, [])
  let (device, notes) := device.arriveAll wait.reports
  if wait.interrupted || device.completed.isEmpty then return (device, notes)
  return (← device.reap, notes)

/-- The second half of `poll`: the scan over the slots. -/
def scan (device : Device) (active : Option Nat) :
    Except IoError (Device × Option (Nat × List UInt8) × List Note) :=
  match device.readable active with
  | none => .ok (device, none, [])
  | some (slot, which) =>
    match device.slots[slot]? with
    | none => .ok (device, none, [])
    | some found => do
      let data ← (found.input which).result
      -- the report is copied, and its transfer is submitted again
      return (device.submit (.input slot which) 64, some (slot, data),
        [.handedOut slot (found.input which).completion])

def poll (device : Device) (active : Option Nat) (wait : Wait) :
    Except IoError (Device × Option (Nat × List UInt8) × List Note) := do
  let (device, arrived) ← device.await active wait
  let (device, report, handed) ← device.scan active
  return (device, report, arrived ++ handed)

/-- `EPIPE`. -/
def epipe : Int := 32

/-- `write`: a pending transfer is left alone, and a stalled one is submitted again. -/
def write (device : Device) (slot : Nat) (data : List UInt8) : Except IoError Device := do
  let device ← device.reap
  match device.slots[slot]? with
  | none => .ok device
  | some found =>
    if found.output.pending then return device
    if found.output.bufferLength ≠ 0 then
      match found.output.result with
      | .ok _ => return device.submit (.output slot) data.length
      | .error error =>
        if error = .errno epipe.natAbs then return device.submit (.output slot) data.length
        else .error error
    else return device.submit (.output slot) data.length

end Device

/-! ## Runs -/

inductive Event where
  | arrive (slot : Nat) (data : List UInt8)
  | finishOutput (slot : Nat) (status : Int) (data : List UInt8)
  | poll (active : Option Nat) (wait : Device.Wait)
  | write (slot : Nat) (data : List UInt8)

/-- One event; input transfers never fail. -/
def Device.step (device : Device) (event : Event) : Except IoError (Device × List Note) :=
  match event with
  | .arrive slot data => .ok (device.arrive slot data)
  | .finishOutput slot status data => .ok (device.finishOutput slot status data, [])
  | .poll active wait => do
    let (device, _, notes) ← device.poll active wait
    return (device, notes)
  | .write slot data => do return (← device.write slot data, [])

end Scd.Daemon.Usb
