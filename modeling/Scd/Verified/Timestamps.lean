import Scd.Core.Report
import Scd.Daemon.DualShock
import Scd.Daemon.Process
import Scd.Foundation.Rollover

/-! # Timestamps across the rollover of the controller's clock

Two of the report formats carry a counter of microseconds in a double word.  The third one
carries a counter of ticks of 32 microseconds in a word, which the parser turns into
microseconds again.  The time between two reports is recovered from them, and the timestamp of
the DualShock's sensors runs on.
-/

namespace Scd.Core

open Scd.Foundation

/-- The clock that the reports of a format read. -/
def StateFormat.clock : StateFormat → RolloverClock
  | .timestamp32Us => ⟨32, 2 ^ 16, Nat.succ_pos 31, by decide⟩
  | .standard | .ble => ⟨1, 2 ^ 32, by decide, by decide⟩

/-- The raw counter of the report was read at a time: that of the trackpads, where the format
    has one, or that of the motion sensors. -/
def CounterShows (format : StateFormat) (trackpad : Bool) (report : List UInt8) (time : ℕ) : Prop :=
  match format with
  | .timestamp32Us => leU16 report (if trackpad then 18 else 32) = .ofNat (time / 32)
  | .standard | .ble => leU32 report 30 = .ofNat time

/-- The timestamp of the trackpads, where there is one, or that of the motion sensors. -/
def ControllerState.timestampUs {F : Type} (state : ControllerState F) (trackpad : Bool) : UInt32 :=
  if trackpad then state.trackpadTimestampUs.getD state.imuTimestampUs else state.imuTimestampUs

section

variable {F : Type} [Scalar F] {report : List UInt8} {state : ControllerState F}

/-- Only one format has a timestamp of the trackpads. -/
theorem parsed_trackpad (parsed : parseReport report = some (.state state)) :
    state.trackpadTimestampUs.isSome = decide (state.format = .timestamp32Us) := by
  have read := parseState_of_parseReport parsed
  generalize state.format = format at read ⊢
  unfold parseState at read
  split at read
  · cases read
  · cases read
    cases format <;> rfl

theorem parsed_timestamp (parsed : parseReport report = some (.state state)) {trackpad : Bool}
    {time : ℕ} (shows : CounterShows state.format trackpad report time) :
    (state.timestampUs trackpad).toNat = state.format.clock.reading time := by
  have read := parseState_of_parseReport parsed
  generalize state.format = format at read shows ⊢
  unfold parseState at read
  split at read
  · cases read
  cases read
  cases format with
  | timestamp32Us =>
    have counter (offset : Nat) (counts : leU16 report offset = .ofNat (time / 32)) :
        ((leU16 report offset).toUInt32 * 32).toNat =
          (StateFormat.clock .timestamp32Us).reading time := by
      have small : time / 32 % 2 ^ 16 < 2 ^ 16 := Nat.mod_lt _ (by decide)
      rw [counts, UInt32.toNat_mul, UInt16.toNat_toUInt32, UInt16.toNat_ofNat']
      exact Nat.mod_eq_of_lt (by change time / 32 % 2 ^ 16 * 32 < 2 ^ 32; omega)
    cases trackpad with
    | true => exact counter 18 shows
    | false => exact counter 32 shows
  | standard | ble =>
    have counter : (leU32 report 30).toNat = time / 1 % 2 ^ 32 * 1 := by
      rw [(shows : leU32 report 30 = .ofNat time), UInt32.toNat_ofNat', Nat.div_one, Nat.mul_one]
    cases trackpad <;> exact counter

end

end Scd.Core

namespace Scd.Daemon

open Scd.Core Scd.Foundation

/-! ## The time between two reports -/

theorem timestampDeltaUs_toNat (format : StateFormat) (current previous : UInt32) :
    (timestampDeltaUs format current previous).toNat =
      format.clock.elapsed current.toNat previous.toNat := by
  have wide := current.toNat_lt
  have wide' := previous.toNat_lt
  cases format with
  | timestamp32Us =>
    simp only [timestampDeltaUs, if_true, StateFormat.clock, RolloverClock.elapsed, UInt32.toNat_mul,
      UInt16.toNat_toUInt32, UInt16.toNat_sub, UInt32.toNat_toUInt16, UInt32.toNat_div,
      UInt32.reduceToNat]
    omega
  | standard | ble =>
    simp only [timestampDeltaUs, StateFormat.clock, RolloverClock.elapsed, UInt32.toNat_sub,
      reduceCtorEq, if_false]
    omega

section

variable {F : Type} [Scalar F] {first second : ControllerState F}

theorem frameSeconds_none (other : first.format ≠ second.format) (trackpad : Bool) :
    frameSeconds second (some first) trackpad = none := by
  simp [frameSeconds, Option.filter, other]

/-- Two states that both have a timestamp of the trackpads, or both have none. -/
theorem frameSeconds_eq (same : first.format = second.format)
    (present : first.trackpadTimestampUs.isSome = second.trackpadTimestampUs.isSome)
    (trackpad : Bool) :
    frameSeconds second (some first) trackpad =
      let delta := timestampDeltaUs second.format (second.timestampUs trackpad)
        (first.timestampUs trackpad)
      if 1 ≤ delta.toNat ∧ delta.toNat ≤ 100000 then
        some ((Scalar.ofInt delta.toNat : F) / 1000000.0)
      else none := by
  cases trackpad with
  | false => simp [frameSeconds, Option.filter, same, ControllerState.timestampUs, UInt32.le_iff_toNat_le]
  | true =>
    cases stamp : second.trackpadTimestampUs with
    | none =>
      have missing : first.trackpadTimestampUs = none := by simpa [stamp] using present
      simp [frameSeconds, Option.filter, same, ControllerState.timestampUs, UInt32.le_iff_toNat_le,
        stamp, missing]
    | some current =>
      obtain ⟨previous, earlier⟩ := Option.isSome_iff_exists.mp (by simpa [stamp] using present)
      simp [frameSeconds, Option.filter, same, ControllerState.timestampUs, UInt32.le_iff_toNat_le,
        stamp, earlier]

variable {before after : List UInt8} {time elapsed : ℕ} {trackpad : Bool}

/-- The time between two reports of one format is recovered, if it is shorter than the period of
    the format's clock, and it is the duration of the frame, if it is one of 1 to 100000
    microseconds.  Reports of different formats have no time between them. -/
theorem elapsed_recovered (parsed : parseReport before = some (.state first))
    (parsed' : parseReport after = some (.state second)) :
    (first.format = second.format → CounterShows first.format trackpad before time →
      CounterShows second.format trackpad after (time + elapsed) →
      second.format.clock.tick ∣ elapsed → elapsed < second.format.clock.period →
        (timestampDeltaUs second.format (second.timestampUs trackpad)
          (first.timestampUs trackpad)).toNat = elapsed ∧
        frameSeconds second (some first) trackpad =
          if 1 ≤ elapsed ∧ elapsed ≤ 100000 then some ((Scalar.ofInt elapsed : F) / 1000000.0)
          else none) ∧
    (first.format ≠ second.format → frameSeconds second (some first) trackpad = none) := by
  refine ⟨?_, fun other => frameSeconds_none other trackpad⟩
  intro same shows shows' whole near
  have delta : (timestampDeltaUs second.format (second.timestampUs trackpad)
      (first.timestampUs trackpad)).toNat = elapsed := by
    rw [timestampDeltaUs_toNat, parsed_timestamp parsed' shows', parsed_timestamp parsed shows, same]
    exact second.format.clock.elapsed_reading time whole near
  have present : first.trackpadTimestampUs.isSome = second.trackpadTimestampUs.isSome := by
    rw [parsed_trackpad parsed, parsed_trackpad parsed', same]
  refine ⟨delta, ?_⟩
  rw [frameSeconds_eq same present]
  dsimp only
  rw [delta]

/-! ## The sensors of the DualShock -/

/-- Between two reports the timestamp of the sensors advances by 3/16 of the time, rounded down
    or up to the next one. -/
theorem sensor_timestamp_advances (parsed : parseReport before = some (.state first))
    (parsed' : parseReport after = some (.state second)) (same : first.format = second.format)
    (shows : CounterShows first.format false before time)
    (shows' : CounterShows second.format false after (time + elapsed))
    (whole : second.format.clock.tick ∣ elapsed) (gamepad gamepad' : DualShock.DualShock4)
    (touchpad touchpad' : Option Trackpad) :
    let advance := (gamepad'.updateSource second touchpad').state.sensorTimestamp -
      (gamepad.updateSource first touchpad).state.sensorTimestamp
    advance = .ofNat (3 * elapsed / 16) ∨ advance = .ofNat (3 * elapsed / 16 + 1) := by
  -- the timestamp is the fraction of the reading, modulo 65536
  have stamped {state : ControllerState F} {report : List UInt8} {time : ℕ}
      (parsed : parseReport report = some (.state state))
      (shows : CounterShows state.format false report time) (gamepad : DualShock.DualShock4)
      (touchpad : Option Trackpad) : (gamepad.updateSource state touchpad).state.sensorTimestamp =
        .ofNat (state.format.clock.reading time * 3 / 16) := by
    have reading : state.imuTimestampUs.toNat = _ := parsed_timestamp parsed shows
    have wide := state.imuTimestampUs.toNat_lt
    have widened : (state.imuTimestampUs.toUInt64 * 3 / 16).toNat =
        state.imuTimestampUs.toNat * 3 / 16 := by
      rw [UInt64.toNat_div, UInt64.toNat_mul, UInt32.toNat_toUInt64]
      simp only [UInt64.reduceToNat]
      omega
    apply UInt16.toNat_inj.mp
    change (state.imuTimestampUs.toUInt64 * 3 / 16).toUInt16.toNat = _
    rw [UInt64.toNat_toUInt16, widened, UInt16.toNat_ofNat', reading]
  have fits : 2 ^ 16 * 16 ∣ 3 * second.format.clock.period := by
    cases second.format <;> decide
  obtain ⟨carry, small, runs⟩ :=
    second.format.clock.fraction_reading time (by decide : 0 < 16) fits whole
  rw [stamped parsed shows, stamped parsed' shows', same]
  have sum : UInt16.ofNat (second.format.clock.reading (time + elapsed) * 3 / 16) =
      .ofNat (second.format.clock.reading time * 3 / 16) + .ofNat (3 * elapsed / 16 + carry) := by
    rw [← UInt16.ofNat_add, Nat.mul_comm 3 elapsed]
    exact UInt16.toNat_inj.mp (by rw [UInt16.toNat_ofNat', UInt16.toNat_ofNat']; exact runs)
  rw [sum, UInt16.add_comm, UInt16.add_sub_cancel]
  obtain rfl | rfl := Nat.le_one_iff_eq_zero_or_eq_one.mp small
  · exact .inl rfl
  · exact .inr rfl

end

/-- A report of ticks, of which the two counters show the same. -/
def tickReport (counter : UInt16) : List UInt8 :=
  0x47 :: List.replicate 17 0 ++ leBytes counter ++ List.replicate 12 0 ++ leBytes counter ++
    List.replicate 12 0

theorem tickReport_parsed {counter : UInt16} {time : ℕ} (shows : counter = .ofNat (time / 32)) :
    ∃ state : ControllerState ℚ, parseReport (tickReport counter) = some (.state state) ∧
      state.format = .timestamp32Us ∧
      ∀ trackpad, CounterShows state.format trackpad (tickReport counter) time := by
  refine ⟨_, rfl, rfl, fun trackpad => ?_⟩
  cases trackpad <;> exact (leU16_leBytes counter).trans shows

/-- Three ticks pass while the counter of the ticks rolls over. -/
theorem example_rollover :
    ∃ first second : ControllerState ℚ, parseReport (tickReport 0xfffe) = some (.state first) ∧
      parseReport (tickReport 1) = some (.state second) ∧
      (timestampDeltaUs second.format (second.timestampUs true)
        (first.timestampUs true)).toNat = 96 ∧
      frameSeconds second (some first) true = some (Scalar.ofInt 96 / 1000000.0) := by
  obtain ⟨first, parsed, format, early⟩ :=
    tickReport_parsed (by decide : (0xfffe : UInt16) = .ofNat ((2 ^ 21 - 64) / 32))
  obtain ⟨second, parsed', format', late⟩ :=
    tickReport_parsed (by decide : (1 : UInt16) = .ofNat ((2 ^ 21 - 64 + 96) / 32))
  have recovered := (elapsed_recovered parsed parsed').1 (format.trans format'.symm) (early true)
    (late true) (by rw [format']; decide) (by rw [format']; decide)
  exact ⟨first, second, parsed, parsed', recovered⟩

/-- The sensors see 18 units of 16/3 microseconds meanwhile. -/
theorem example_sensor_timestamp :
    ∃ first second : ControllerState ℚ, parseReport (tickReport 0xfffe) = some (.state first) ∧
      parseReport (tickReport 1) = some (.state second) ∧
      let advance := (DualShock.DualShock4.new.updateSource second none).state.sensorTimestamp -
        (DualShock.DualShock4.new.updateSource first none).state.sensorTimestamp
      advance = .ofNat 18 ∨ advance = .ofNat 19 := by
  obtain ⟨first, parsed, format, early⟩ :=
    tickReport_parsed (by decide : (0xfffe : UInt16) = .ofNat ((2 ^ 21 - 64) / 32))
  obtain ⟨second, parsed', format', late⟩ :=
    tickReport_parsed (by decide : (1 : UInt16) = .ofNat ((2 ^ 21 - 64 + 96) / 32))
  have advanced := sensor_timestamp_advances parsed parsed' (format.trans format'.symm)
    (early false) (late false) (by rw [format']; decide) .new .new none none
  exact ⟨first, second, parsed, parsed', advanced⟩

end Scd.Daemon
