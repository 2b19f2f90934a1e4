import Mathlib.Data.BitVec
import Scd.Daemon.Xbox
import Scd.Foundation.History

/-! # The rumble of the Xbox gamepad

What the motors are told is a function of the calls alone: the loudest of the effects that are
uploaded and play, told whenever it changes.
-/

namespace Scd.Daemon

open Scd.Foundation

/-! ## Calls -/

inductive RumbleCall where
  | upload (requestedId : Int16) (effect : Option (UInt16 × UInt16))
  | erase (id : Int16)
  | setPlayback (id : Int16) (repetitions : Int32)
  | changedOutput

/-- A call with what it has returned. -/
inductive RumbleEvent where
  | upload (requestedId : Int16) (effect : Option (UInt16 × UInt16)) (returned : Option Int16)
  | erase (id : Int16)
  | setPlayback (id : Int16) (repetitions : Int32)
  | changedOutput (returned : Option (UInt16 × UInt16))

namespace RumbleEvent

/-- What an event tells of the content of a slot. -/
def content (slot : Fin 16) : RumbleEvent → Option (Option (UInt16 × UInt16))
  | .upload _ (some effect) (some id) =>
    if RumbleEffects.slot id = some slot then some (some effect) else none
  | .erase id => if RumbleEffects.slot id = some slot then some none else none
  | _ => none

/-- Whether an event makes a slot play.  An erased slot does not play. -/
def plays (slot : Fin 16) : RumbleEvent → Option Bool
  | .erase id => if RumbleEffects.slot id = some slot then some false else none
  | .setPlayback id repetitions =>
    if RumbleEffects.slot id = some slot ∧ repetitions ≥ 0 then some (repetitions > 0) else none
  | _ => none

def output : RumbleEvent → Option (UInt16 × UInt16)
  | .changedOutput returned => returned
  | _ => none

/-- The effect of a slot, if it plays. -/
def sounding (events : List RumbleEvent) (slot : Fin 16) : Option (UInt16 × UInt16) :=
  if latest (plays slot) events = some true then (latest (content slot) events).join else none

/-- The componentwise maximum of the effects that play. -/
def loudest (events : List RumbleEvent) : UInt16 × UInt16 :=
  ((List.finRange 16).filterMap (sounding events)).foldl RumbleEffects.louder (0, 0)

def lastOutput (events : List RumbleEvent) : UInt16 × UInt16 :=
  (latest output events).getD (0, 0)

end RumbleEvent

namespace RumbleEffects

def perform (rumble : RumbleEffects) : RumbleCall → RumbleEffects × RumbleEvent
  | .upload requestedId effect =>
    ((rumble.upload requestedId effect).1,
      .upload requestedId effect (rumble.upload requestedId effect).2)
  | .erase id => (rumble.erase id, .erase id)
  | .setPlayback id repetitions => (rumble.setPlayback id repetitions, .setPlayback id repetitions)
  | .changedOutput => (rumble.changedOutput.1, .changedOutput rumble.changedOutput.2)

/-- The effects after some calls, and what has happened. -/
def performAll (calls : List RumbleCall) : RumbleEffects × List RumbleEvent :=
  calls.foldl (fun run call => ((run.1.perform call).1, run.2 ++ [(run.1.perform call).2]))
    (default, [])

/-! ## Slots and bits -/

theorem isActive_eq (rumble : RumbleEffects) (index : Fin 16) :
    rumble.isActive index = rumble.active.getLsbD index := by
  rw [isActive, mask, BitVec.and_twoPow]
  cases set : rumble.active.getLsbD index with
  | false => rfl
  | true =>
    have nonzero : ∀ index : Fin 16, BitVec.twoPow 16 index ≠ 0 := by decide
    simpa using nonzero index

theorem getLsbD_mask (index other : Fin 16) :
    (mask index).getLsbD other = decide (other = index) := by
  revert index other
  decide

theorem isActive_set {rumble next : RumbleEffects} {index : Fin 16}
    (sets : next.active = rumble.active ||| mask index) (other : Fin 16) :
    next.isActive other = (rumble.isActive other || decide (other = index)) := by
  rw [isActive_eq, isActive_eq, sets, BitVec.getLsbD_or, getLsbD_mask]

theorem isActive_clear {rumble next : RumbleEffects} {index : Fin 16}
    (clears : next.active = rumble.active &&& ~~~mask index) (other : Fin 16) :
    next.isActive other = (rumble.isActive other && !decide (other = index)) := by
  rw [isActive_eq, isActive_eq, clears, BitVec.getLsbD_and, BitVec.getLsbD_not, getLsbD_mask,
    decide_eq_true other.isLt, Bool.true_and]

/-- The identifier of a slot names it. -/
theorem slot_ofNat (index : Fin 16) : slot (.ofNat index.val) = some index := by
  revert index
  decide

/-! ## The state follows the events -/

/-- The state is what the events say. -/
structure Follows (rumble : RumbleEffects) (events : List RumbleEvent) : Prop where
  content : ∀ slot, rumble.effects.get slot = (latest (RumbleEvent.content slot) events).join
  plays : ∀ slot, rumble.isActive slot = (latest (RumbleEvent.plays slot) events).getD false
  output : rumble.lastOutput = RumbleEvent.lastOutput events

theorem follows_default : Follows default [] where
  content := by
    intro slot
    rw [latest_nil, default, get_eq_getElem, Vector.getElem_replicate]
    rfl
  plays := by
    intro slot
    rw [isActive_eq]
    exact BitVec.getLsbD_zero
  output := rfl

section

variable {rumble : RumbleEffects} {events : List RumbleEvent}

/-- An event that says nothing of the slots and the outputs. -/
theorem Follows.silent (follows : Follows rumble events) {event : RumbleEvent}
    (content : ∀ slot, event.content slot = none) (plays : ∀ slot, event.plays slot = none)
    (output : event.output = none) : Follows rumble (events ++ [event]) where
  content := by
    intro slot
    rw [latest_silent (content slot)]
    exact follows.content slot
  plays := by
    intro slot
    rw [latest_silent (plays slot)]
    exact follows.plays slot
  output := by
    rw [RumbleEvent.lastOutput, latest_silent output]
    exact follows.output

theorem Follows.upload (follows : Follows rumble events) (requestedId : Int16)
    (effect : Option (UInt16 × UInt16)) :
    Follows (rumble.upload requestedId effect).1
      (events ++ [.upload requestedId effect (rumble.upload requestedId effect).2]) := by
  cases effect with
  | none => exact follows.silent (fun _ => rfl) (fun _ => rfl) rfl
  | some effect =>
    unfold RumbleEffects.upload
    dsimp only
    split
    · exact follows.silent (fun _ => rfl) (fun _ => rfl) rfl
    · next index _ =>
      refine ⟨?_, ?_, ?_⟩
      · intro slot
        dsimp only
        rw [latest_snoc, get_put, RumbleEvent.content, slot_ofNat]
        by_cases same : slot = index
        · rw [if_pos same, if_pos (congrArg some same.symm), Option.some_or, Option.join_some]
        · rw [if_neg same, if_neg fun equal => same (Option.some.inj equal).symm, Option.none_or]
          exact follows.content slot
      · intro slot
        rw [latest_silent (by rfl)]
        exact follows.plays slot
      · rw [RumbleEvent.lastOutput, latest_silent (by rfl)]
        exact follows.output

theorem Follows.erase (follows : Follows rumble events) (id : Int16) :
    Follows (rumble.erase id) (events ++ [.erase id]) := by
  unfold RumbleEffects.erase
  cases named : slot id with
  | none =>
    exact follows.silent (fun _ => by simp [RumbleEvent.content, named])
      (fun _ => by simp [RumbleEvent.plays, named]) rfl
  | some index =>
    refine ⟨?_, ?_, ?_⟩
    · intro slot
      dsimp only
      rw [latest_snoc, get_put, RumbleEvent.content, named]
      by_cases same : slot = index
      · rw [if_pos same, if_pos (congrArg some same.symm), Option.some_or, Option.join_some]
      · rw [if_neg same, if_neg fun equal => same (Option.some.inj equal).symm, Option.none_or]
        exact follows.content slot
    · intro slot
      rw [latest_snoc, RumbleEvent.plays, named, isActive_clear rfl]
      by_cases same : slot = index
      · simp [same]
      · rw [if_neg fun equal => same (Option.some.inj equal).symm, Option.none_or,
          decide_eq_false same, Bool.not_false, Bool.and_true]
        exact follows.plays slot
    · rw [RumbleEvent.lastOutput, latest_silent (by rfl)]
      exact follows.output

theorem Follows.setPlayback (follows : Follows rumble events) (id : Int16) (repetitions : Int32) :
    Follows (rumble.setPlayback id repetitions) (events ++ [.setPlayback id repetitions]) := by
  unfold RumbleEffects.setPlayback
  cases named : slot id with
  | none =>
    exact follows.silent (fun _ => rfl) (fun _ => by simp [RumbleEvent.plays, named]) rfl
  | some index =>
    have frame {next : RumbleEffects} (effects : next.effects = rumble.effects)
        (lastOutput : next.lastOutput = rumble.lastOutput)
        (plays : ∀ slot, next.isActive slot =
          (latest (RumbleEvent.plays slot) (events ++ [.setPlayback id repetitions])).getD false) :
        Follows next (events ++ [.setPlayback id repetitions]) := by
      refine ⟨?_, plays, ?_⟩
      · intro slot
        rw [effects, latest_silent (by rfl)]
        exact follows.content slot
      · rw [lastOutput, RumbleEvent.lastOutput, latest_silent (by rfl)]
        exact follows.output
    dsimp only
    split
    · next starts =>
      refine frame rfl rfl fun slot => ?_
      have counts : repetitions ≥ 0 := Int32.le_of_lt starts
      rw [latest_snoc, RumbleEvent.plays, named, isActive_set rfl, follows.plays slot]
      by_cases same : slot = index
      · simp [same, starts, counts]
      · simp [same, Ne.symm same]
    · next other =>
      split
      · next stops =>
        refine frame rfl rfl fun slot => ?_
        rw [latest_snoc, RumbleEvent.plays, named, isActive_clear rfl, follows.plays slot]
        by_cases same : slot = index
        · simp [same, stops]
        · simp [same, Ne.symm same]
      · next nonzero =>
        -- neither positive nor zero
        have negative : ¬ repetitions ≥ 0 := by
          intro counts
          rcases Int32.lt_or_eq_of_le counts with starts | zero
          · exact other starts
          · exact nonzero zero.symm
        refine frame rfl rfl fun slot => ?_
        rw [latest_snoc, RumbleEvent.plays, if_neg fun said => negative said.2, Option.none_or]
        exact follows.plays slot

/-- The loop computes the maximum of the effects that play. -/
theorem Follows.output_eq (follows : Follows rumble events) :
    rumble.output = RumbleEvent.loudest events := by
  unfold RumbleEffects.output RumbleEvent.loudest
  rw [List.foldl_filterMap]
  congr 1
  funext output slot
  rw [RumbleEvent.sounding, ← follows.content slot, follows.plays slot]
  cases latest (RumbleEvent.plays slot) events with
  | none => rfl
  | some plays =>
    cases plays with
    | false => rfl
    | true => cases rumble.effects.get slot <;> rfl

theorem changedOutput_eq (follows : Follows rumble events) :
    rumble.changedOutput.2 =
      if RumbleEvent.loudest events = RumbleEvent.lastOutput events then none
      else some (RumbleEvent.loudest events) := by
  rw [← follows.output_eq, ← follows.output]
  unfold changedOutput
  split <;> rfl

theorem Follows.changedOutput (follows : Follows rumble events) :
    Follows rumble.changedOutput.1 (events ++ [.changedOutput rumble.changedOutput.2]) := by
  unfold RumbleEffects.changedOutput
  split
  · exact follows.silent (fun _ => rfl) (fun _ => rfl) rfl
  · refine ⟨?_, ?_, ?_⟩
    · intro slot
      rw [latest_silent (by rfl)]
      exact follows.content slot
    · intro slot
      rw [latest_silent (by rfl)]
      exact follows.plays slot
    · rw [RumbleEvent.lastOutput, latest_reads (by rfl), Option.getD_some]

theorem Follows.perform (follows : Follows rumble events) (call : RumbleCall) :
    Follows (rumble.perform call).1 (events ++ [(rumble.perform call).2]) := by
  cases call with
  | upload requestedId effect => exact follows.upload requestedId effect
  | erase id => exact follows.erase id
  | setPlayback id repetitions => exact follows.setPlayback id repetitions
  | changedOutput => exact follows.changedOutput

end

theorem follows_performAll (calls : List RumbleCall) :
    Follows (performAll calls).1 (performAll calls).2 := by
  unfold performAll
  induction calls using List.reverseRecOn with
  | nil => exact follows_default
  | append_singleton calls call inductionHypothesis =>
    rw [List.foldl_append]
    exact inductionHypothesis.perform call

/-! ## Calls that change nothing -/

theorem upload_refused {rumble : RumbleEffects} {requestedId : Int16}
    {effect : Option (UInt16 × UInt16)} (refused : (rumble.upload requestedId effect).2 = none) :
    (rumble.upload requestedId effect).1 = rumble := by
  cases effect with
  | none => rfl
  | some effect =>
    unfold upload at refused ⊢
    dsimp only at refused ⊢
    split at refused
    · rfl
    · cases refused

theorem slot_outside {id : Int16} (outside : id < 0 ∨ 16 ≤ id) : slot id = none := by
  refine dif_neg fun within => ?_
  obtain ⟨nonneg, small⟩ := within
  cases outside with
  | inl negative =>
    have below : id.toInt < 0 := Int16.lt_iff_toInt_lt.mp negative
    omega
  | inr large =>
    have above : 16 ≤ id.toInt := Int16.le_iff_toInt_le.mp large
    omega

/-- An upload without an identifier takes an empty slot, and leaves the others. -/
theorem upload_fresh {rumble : RumbleEffects} {requestedId returned : Int16}
    {effect : UInt16 × UInt16} (fresh : requestedId < 0)
    (accepted : (rumble.upload requestedId (some effect)).2 = some returned) :
    ∃ index, slot returned = some index ∧ rumble.effects.get index = none ∧
      ∀ other, other ≠ index →
        (rumble.upload requestedId (some effect)).1.effects.get other = rumble.effects.get other := by
  have without : ¬ requestedId ≥ 0 := Int16.not_le.mpr fresh
  unfold upload at accepted ⊢
  dsimp only at accepted ⊢
  rw [if_neg without] at accepted ⊢
  cases found : (List.finRange 16).find? fun index => (rumble.effects.get index).isNone with
  | none =>
    rw [found] at accepted
    cases accepted
  | some index =>
    rw [found] at accepted
    cases accepted
    refine ⟨index, slot_ofNat index, ?_, ?_⟩
    · exact Option.isNone_iff_eq_none.mp (by simpa using List.find?_some found)
    · intro other differs
      exact (get_put _ _ _ _).trans (if_neg differs)

/-- After any calls the motors are told the componentwise maximum of the effects that play, if
    they were told another one before.  A refused upload, a command for an identifier without a
    slot and a negative number of repetitions change nothing, and an upload without an identifier
    replaces no effect. -/
theorem rumble_follows_playback (calls : List RumbleCall) :
    let (rumble, events) := performAll calls
    rumble.changedOutput.2 =
      (if RumbleEvent.loudest events = RumbleEvent.lastOutput events then none
      else some (RumbleEvent.loudest events)) ∧
    (∀ requestedId effect, (rumble.upload requestedId effect).2 = none →
      (rumble.upload requestedId effect).1 = rumble) ∧
    (∀ id, id < 0 ∨ 16 ≤ id → rumble.erase id = rumble ∧
      (∀ repetitions, rumble.setPlayback id repetitions = rumble) ∧
      (16 ≤ id → ∀ effect, (rumble.upload id effect).2 = none)) ∧
    (∀ id repetitions, repetitions < 0 → rumble.setPlayback id repetitions = rumble) ∧
    (∀ requestedId effect returned, requestedId < 0 →
      (rumble.upload requestedId (some effect)).2 = some returned →
        ∃ index, slot returned = some index ∧ rumble.effects.get index = none ∧
          ∀ other, other ≠ index →
            (rumble.upload requestedId (some effect)).1.effects.get other =
              rumble.effects.get other) := by
  obtain ⟨rumble, events, performed⟩ : ∃ rumble events, performAll calls = (rumble, events) :=
    ⟨_, _, rfl⟩
  have follows := follows_performAll calls
  rw [performed] at follows ⊢
  refine ⟨changedOutput_eq follows, fun _ _ => upload_refused, ?_, ?_,
    fun _ _ _ => upload_fresh⟩
  · intro id outside
    have missing := slot_outside outside
    refine ⟨by rw [erase, missing], fun repetitions => by rw [setPlayback, missing], ?_⟩
    intro large effect
    cases effect with
    | none => rfl
    | some effect =>
      have named : id ≥ 0 := Int16.le_trans (by decide) large
      unfold upload
      simp [named, missing]
  · intro id repetitions negative
    have stays : ¬ repetitions > 0 := Int32.not_lt.mpr (Int32.le_of_lt negative)
    have nonzero : repetitions ≠ 0 := Int32.ne_of_lt negative
    unfold setPlayback
    cases slot id with
    | none => rfl
    | some index => exact (if_neg stays).trans (if_neg nonzero)

end RumbleEffects

end Scd.Daemon
