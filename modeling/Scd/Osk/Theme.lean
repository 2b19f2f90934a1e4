import Scd.Core.Kdl
import Scd.Foundation.Slicing

/-! # The colours of a theme

`ThemeColor::from_kdl` cuts a string into pairs of bytes and reads each as a number.
-/

namespace Scd.Osk

open Scd.Core Scd.Foundation

/-- `char::to_digit(16)`. -/
def hexDigit (character : Char) : Option ℕ :=
  if '0' ≤ character ∧ character ≤ '9' then some (character.toNat - 48)
  else if 'a' ≤ character ∧ character ≤ 'f' then some (character.toNat - 87)
  else if 'A' ≤ character ∧ character ≤ 'F' then some (character.toNat - 55)
  else none

/-- The digits of a number that fits a byte. -/
def hexByte (digits : List Char) : Option UInt8 := do
  let value ← digits.foldlM (fun value character => do
    let value := value * 16 + (← hexDigit character)
    if value ≤ 255 then some value else none) 0
  return .ofNat value

/-- `u8::from_str_radix(text, 16)`: a plus sign may stand before the digits. -/
def fromStrRadix (text : List Char) : Option UInt8 :=
  match text with
  | [] => none
  | '+' :: digits => if digits.isEmpty then none else hexByte digits
  | digits => hexByte digits

/-- Red, green, blue and alpha. -/
structure ThemeColor where
  bytes : UInt8 × UInt8 × UInt8 × UInt8
  deriving DecidableEq, Repr

namespace ThemeColor

/-- `value.strip_prefix('#').unwrap_or(value)`. -/
def stripHash (value : List Char) : List Char :=
  match value with
  | '#' :: rest => rest
  | _ => value

section

variable {F : Type}

/-- The closure `byte`; slicing off the boundary of a character panics. -/
def byte (entry : KdlEntry F) (value : List Char) (index : ℕ) : ExceptT Issue Checked UInt8 :=
  match slice value index (index + 2) with
  | none => monadLift (.error .notCharBoundary : Checked UInt8)
  | some pair =>
    match fromStrRadix pair with
    | some byte => return byte
    | none => throw ⟨"color must contain only hexadecimal digits", entry.span⟩

def fromKdl (entry : KdlEntry F) (field : String) : ExceptT Issue Checked ThemeColor := do
  match entry.value with
  | .string value =>
    let value := stripHash value.toList
    if ¬ (byteLength value = 6 ∨ byteLength value = 8) then
      throw ⟨"color must contain six or eight hexadecimal digits", entry.span⟩
    let red ← byte entry value 0
    let green ← byte entry value 2
    let blue ← byte entry value 4
    let alpha ← if byteLength value = 8 then byte entry value 6 else pure 255
    return ⟨red, green, blue, alpha⟩
  | _ => throw ⟨field ++ " must be a string", entry.span⟩

end

end ThemeColor

end Scd.Osk
