import Scd.Core.Protocol

/-! # Reports of the controller

The bytes that go over the wire: `parse_report` decodes what the receiver sends, the
setting reports and `Haptic::encode` are what it is sent.
-/

namespace Scd.Core

/-! ## Input reports -/

/-- A decoded report of the receiver. -/
inductive Report (F : Type) where
  | state (state : ControllerState F)
  | battery (percent : UInt8) (charging : Bool)
  | disconnected

/-- `report[offset]`; every caller has checked the length. -/
def byteAt (report : List UInt8) (offset : Nat) : UInt8 := report.getD offset 0

def leU16 (report : List UInt8) (offset : Nat) : UInt16 :=
  (byteAt report offset).toUInt16 ||| (byteAt report (offset + 1)).toUInt16 <<< 8

def leI16 (report : List UInt8) (offset : Nat) : Int16 := (leU16 report offset).toInt16

def leU32 (report : List UInt8) (offset : Nat) : UInt32 :=
  (byteAt report offset).toUInt32 ||| (byteAt report (offset + 1)).toUInt32 <<< 8 |||
    (byteAt report (offset + 2)).toUInt32 <<< 16 ||| (byteAt report (offset + 3)).toUInt32 <<< 24

/-- `i16::saturating_neg`. -/
def saturatingNeg (value : Int16) : Int16 :=
  if value = Int16.minValue then Int16.maxValue else -value

section

variable {F : Type} [Scalar F]

def signedUnit (value : Int16) : F :=
  if value < 0 then Scalar.ofInt value.toInt / 32768.0 else Scalar.ofInt value.toInt / 32767.0

def triggerUnit (value : Int16) : F := Scalar.ofInt (max value.toInt 0) / 32767.0

/-- A stick or pad position at an offset, with the vertical axis turned over. -/
def positionAt (report : List UInt8) (offset : Nat) : F × F :=
  (signedUnit (leI16 report offset), -signedUnit (leI16 report (offset + 2)))

/-- The three axes of a sensor, of which the last two are exchanged. -/
def sensorAt (report : List UInt8) (offset : Nat) : Int16 × Int16 × Int16 :=
  (leI16 report offset, leI16 report (offset + 4), saturatingNeg (leI16 report (offset + 2)))

def gyroScale : F := 2000.0 * (Scalar.pi / 180.0) / 32768.0

def parseState (report : List UInt8) (format : StateFormat) : Option (ControllerState F) :=
  if report.length < 46 then none
  else
    let buttons : Buttons := ⟨(leU32 report 2).toBitVec⟩
    let (padOffset, trackpadTimestampUs, imuTimestampUs) :=
      if format = .timestamp32Us then
        (20, some ((leU16 report 18).toUInt32 * 32), (leU16 report 32).toUInt32 * 32)
      else (18, none, leU32 report 30)
    let gyroRaw := sensorAt report 40
    let gyro := fun value : Int16 => Scalar.ofInt value.toInt * (gyroScale : F)
    some {
      format, buttons, trackpadTimestampUs, imuTimestampUs, gyroRaw
      triggers := (triggerUnit (leI16 report 6), triggerUnit (leI16 report 8))
      leftStick := positionAt report 10
      rightStick := positionAt report 14
      leftPad := ⟨buttons.contains .leftPadTouch, buttons.contains .leftPadClick,
        positionAt report padOffset⟩
      rightPad := ⟨buttons.contains .rightPadTouch, buttons.contains .rightPadClick,
        positionAt report (padOffset + 6)⟩
      accel := sensorAt report 34
      gyro := (gyro gyroRaw.1, gyro gyroRaw.2.1, gyro gyroRaw.2.2) }

def parseReport (report : List UInt8) : Option (Report F) :=
  match report with
  | [] => none
  | 0x42 :: _ => (parseState report .standard).map .state
  | 0x43 :: rest =>
    match rest with
    | charge :: percent :: _ => some (.battery (min percent 100) (charge = 2 || charge = 4))
    | _ => none
  | 0x45 :: _ => (parseState report .ble).map .state
  | 0x46 :: rest | 0x79 :: rest => if rest.head? = some 1 then some .disconnected else none
  | 0x47 :: _ => (parseState report .timestamp32Us).map .state
  | _ => none

end

/-- A state is read off the report in the format that it names. -/
theorem parseState_of_parseReport {F : Type} [Scalar F] {report : List UInt8}
    {state : ControllerState F} (parsed : parseReport report = some (.state state)) :
    parseState report state.format = some state := by
  have own {format : StateFormat} (read : parseState report format = some state) :
      state.format = format := by
    unfold parseState at read
    split at read
    · cases read
    · cases read
      rfl
  unfold parseReport at parsed
  split at parsed
  · cases parsed
  · obtain ⟨_, read, same⟩ := Option.map_eq_some_iff.mp parsed
    cases same
    rwa [own read]
  · split at parsed <;> cases parsed
  · obtain ⟨_, read, same⟩ := Option.map_eq_some_iff.mp parsed
    cases same
    rwa [own read]
  · split at parsed <;> cases parsed
  · split at parsed <;> cases parsed
  · obtain ⟨_, read, same⟩ := Option.map_eq_some_iff.mp parsed
    cases same
    rwa [own read]
  · cases parsed

/-! ## Feature reports -/

/-- `u16::to_le_bytes`. -/
def leBytes (value : UInt16) : List UInt8 := [value.toUInt8, (value >>> 8).toUInt8]

/-- The two bytes of a word, read back bit by bit. -/
theorem leU16_leBytes (value : UInt16) : leU16 (leBytes value) 0 = value := by
  simp only [leU16, leBytes, byteAt, List.getD_cons_zero, List.getD_cons_succ]
  apply UInt16.toBitVec_inj.mp
  ext index lt
  simp only [UInt16.toBitVec_or, UInt16.toBitVec_shiftLeft, UInt8.toBitVec_toUInt16,
    UInt16.toBitVec_toUInt8, UInt16.toBitVec_shiftRight]
  by_cases low : index < 8
  · simp [low, BitVec.getLsbD_eq_getElem lt]
  · have high : 8 + (index - 8) = index := by omega
    have within : index - 8 < 8 := by omega
    simp [low, high, within, BitVec.getLsbD_eq_getElem lt]

def settingReport (setting : UInt8) (value : UInt16) : List UInt8 :=
  [1, 0x87, 3, setting] ++ leBytes value ++ List.replicate 58 0

def lizardModeReport (enabled : Bool) : List UInt8 := settingReport 9 (if enabled then 1 else 0)

def imuModeReport (enabled : Bool) : List UInt8 := settingReport 48 (if enabled then 0x0018 else 0)

def trackpadClickPressureReport (trackpad : Trackpad) (pressure : UInt16) : List UInt8 :=
  settingReport (match trackpad with | .left => 52 | .right => 53) pressure

/-! ## Haptics -/

def Trackpad.code : Trackpad → UInt8
  | .left => 0
  | .right => 1

/-- The part of the output report that `Haptic::encode` counts. -/
def Haptic.encode : Haptic → List UInt8
  | .rumble lowFrequency highFrequency =>
    [0x80, 0, 0, 0] ++ leBytes lowFrequency ++ [0] ++ leBytes highFrequency ++ [0]
  | .trackpadClick trackpad gain => [0x82, trackpad.code, 1, gain.toUInt8]
  | .pulse onUs offUs repeats => [0x81, 2] ++ leBytes onUs ++ leBytes offUs ++ leBytes repeats
  | .tone gain frequency durationMs =>
    [0x83, 2, gain.toUInt8] ++ leBytes frequency ++ leBytes durationMs ++ [0, 0, 0]
  | .logSweep gain durationMs startFrequency endFrequency =>
    [0x84, 2, gain.toUInt8] ++ leBytes durationMs ++ leBytes startFrequency ++
      leBytes endFrequency
  | .script number gain => [0x85, 2, number, gain.toUInt8]

/-- Every haptic command fits the output transfer. -/
theorem Haptic.encode_length (haptic : Haptic) :
    0 < haptic.encode.length ∧ haptic.encode.length ≤ 10 := by
  cases haptic <;> simp [encode, leBytes]

end Scd.Core
