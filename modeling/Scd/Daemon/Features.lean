import Scd.Daemon.Program

/-! # The settings of the controller

A controller keeps the settings that it is sent in feature reports, one word for each number.
The manager does not read them back.  The settings that a slot has taken follow from the reports
that the transport has accepted: those that the methods of the manager send in a step of the
loop, and that are taken.
-/

namespace Scd.Core

/-- A feature report as the controller reads it: the number of a setting, and its word. -/
def readSetting : List UInt8 → Option (UInt8 × UInt16)
  | 1 :: 0x87 :: 3 :: setting :: value => some (setting, leU16 value 0)
  | _ => none

theorem readSetting_settingReport (setting : UInt8) (value : UInt16) :
    readSetting (settingReport setting value) = some (setting, value) := by
  have read : leU16 (leBytes value ++ List.replicate 58 0) 0 = value := leU16_leBytes value
  simp only [settingReport, List.cons_append, List.nil_append, readSetting, read]

end Scd.Core

namespace Scd.Daemon

open Scd.Core Scd.Foundation

/-! ## Settings that are taken -/

/-- The settings that each slot has taken. -/
abbrev Settings := Nat → UInt8 → Option UInt16

namespace Settings

def none : Settings := fun _ _ => .none

def take (settings : Settings) (written : Nat × List UInt8) : Settings :=
  match readSetting written.2 with
  | .none => settings
  | some (setting, value) => fun slot number =>
    if slot = written.1 ∧ number = setting then some value else settings slot number

def takeAll (settings : Settings) (written : List (Nat × List UInt8)) : Settings :=
  written.foldl take settings

@[simp] theorem takeAll_nil (settings : Settings) : settings.takeAll [] = settings := rfl

@[simp] theorem takeAll_append (settings : Settings) (written more : List (Nat × List UInt8)) :
    settings.takeAll (written ++ more) = (settings.takeAll written).takeAll more :=
  List.foldl_append

@[simp] theorem take_settingReport (settings : Settings) (slot index : Nat)
    (setting number : UInt8) (value : UInt16) :
    settings.take (index, settingReport setting value) slot number =
      if slot = index ∧ number = setting then some value else settings slot number := by
  simp [take, readSetting_settingReport]

end Settings

/-! ## Reports that are accepted -/

namespace Transport

variable {P : Type}

/-- The reports that a method sends and the transport takes, with their slots. -/
def accepted {α : Type} (transport : Transport P) (sends : Sends P α) : List (Nat × List UInt8) :=
  ((sends.calls transport.takes).filter transport.takes).map Prod.snd

variable {α β : Type} (transport : Transport P)

@[simp] theorem accepted_done (value : α) :
    transport.accepted (Dialogue.done value : Sends P α) = [] := rfl

@[simp] theorem accepted_bind (sends : Sends P α) (next : α → Sends P β) :
    transport.accepted (sends >>= next) =
      transport.accepted sends ++ transport.accepted (next (sends.run transport.takes)) := by
  simp [accepted]

theorem accepted_ite (condition : Prop) [Decidable condition] (first second : Sends P α) :
    transport.accepted (if condition then first else second) =
      if condition then transport.accepted first else transport.accepted second := by
  split <;> rfl

@[simp] theorem accepted_sendFeature (manager : DeviceManager P) (index : Nat)
    (report : List UInt8) : transport.accepted (manager.sendFeature index report) =
      if (manager.sendFeature index report).run transport.takes then [(index, report)] else [] := by
  unfold DeviceManager.sendFeature
  split
  · rfl
  · next puck _ =>
    cases taken : transport.takes (puck, index, report) <;>
      simp [accepted, Dialogue.ask, taken]

end Transport

/-! ## Steps of the loop -/

namespace Program

variable {P F : Type} [Scalar F]

def effectAccepts (program : Program P F) (transport : Transport P) :
    Effect F → List (Nat × List UInt8)
  | .clickPressure pressure =>
    transport.accepted (program.device.setTrackpadClickPressureSends transport pressure)
  | _ => []

/-- The feature reports that the transport accepts in one step of the loop. -/
def accepts (program : Program P F) (world : World P) : List (Nat × List UInt8) :=
  match program.place with
  | .answering _ _ _ (effect :: _) | .handling (effect :: _) =>
    program.effectAccepts world.transport effect
  | .polling => world.transport.accepted (program.device.pollSends (F := F) world.transport)
  | .refreshing =>
    if program.device.connected ∧ lizardRefresh ≤ world.now 0 - program.lastLizardRefresh then
      world.transport.accepted program.device.suppressLizardModeSends
    else []
  | _ => []

variable [DecidableEq (OskState F)] [Platform F]

/-- The steps of the daemon, with the feature reports that are accepted. -/
inductive Writes (fromStr : List UInt8 → Option Request) :
    Program P F → List (Nat × List UInt8) → Program P F → Prop where
  | loop {program after : Program P F} {world : World P} {seen : List (Occurrence F)} :
      program.advance world = .ok (after, seen) →
      Writes fromStr program (program.accepts world) after
  | socket {program : Program P F} {server : Ipc.System (OskState F)}
      {sightings : List (Ipc.Sighting (OskState F))} :
      Ipc.ThreadStep fromStr program.server sightings server →
      Writes fromStr program [] { program with server }
  | game {program : Program P F} {value : UInt16 × UInt16} :
      Writes fromStr program [] { program with rumbler := program.rumbler.receive value }

/-- These are the steps of the daemon. -/
theorem Writes.step {fromStr : List UInt8 → Option Request} {program after : Program P F}
    {written : List (Nat × List UInt8)} (writes : Writes fromStr program written after) :
    ∃ seen, program.Step fromStr seen after := by
  cases writes with
  | loop advanced => exact ⟨_, .loop advanced⟩
  | socket step => exact ⟨_, .socket step⟩
  | game => exact ⟨_, .game⟩

end Program

end Scd.Daemon
