import Scd.Daemon.DualShock
import Scd.Foundation.Bytes
import Scd.Foundation.Serving

/-! # The USB/IP device

`serve` of `gamepad/dualshock/usbip.rs`, the device end of the socket: requests come in,
each a 48-byte header and the bytes of an outgoing transfer, and replies go out.  The socket
takes all that is written; the pauses between two input reports are left out.
-/

namespace Scd.Daemon.Usbip

open Scd.Core Scd.Foundation

def devId : UInt32 := 0x00010001

def cmdSubmit : UInt32 := 1

def cmdUnlink : UInt32 := 2

def retSubmit : UInt32 := 3

def retUnlink : UInt32 := 4

/-- `libc::EINVAL`. -/
def einval : Int32 := 22

/-- `libc::EPIPE`. -/
def epipe : Int32 := 32

structure Header where
  seqnum : UInt32
  devid : UInt32
  direction : UInt32
  endpoint : UInt32
  deriving DecidableEq, Repr

inductive ErrorKind where
  | invalidData | unexpectedEof
  deriving DecidableEq, Repr

structure ServeError where
  kind : ErrorKind
  message : String
  deriving DecidableEq, Repr

def invalidRequest : ServeError := ⟨.invalidData, "invalid USB/IP request"⟩

def oversizedTransfer : ServeError := ⟨.invalidData, "oversized USB/IP transfer"⟩

/-- The error of `read_exact`. -/
def unexpectedEof : ServeError := ⟨.unexpectedEof, "failed to fill whole buffer"⟩

/-! ## Descriptors -/

def deviceDescriptor : List UInt8 :=
  [18, 1, 0x00, 0x02, 0, 0, 0, 64, 0x4c, 0x05, 0xcc, 0x09, 0x00, 0x01, 1, 2, 0, 1]

def configurationDescriptor : List UInt8 :=
  [9, 2, 41, 0, 1, 1, 0, 0xc0, 250, 9, 4, 0, 0, 2, 3, 0, 0, 0, 9, 0x21, 0x11, 0x01, 0, 1, 0x22,
   0xfb, 0x01, 7, 5, 0x84, 3, 64, 0, 5, 7, 5, 0x03, 3, 64, 0, 5]

/-- `str::encode_utf16`. -/
def encodeUtf16 (text : String) : List UInt16 :=
  text.toList.flatMap fun char =>
    if char.toNat < 0x10000 then [.ofNat char.toNat]
    else
      let rest := char.toNat - 0x10000
      [.ofNat (0xd800 + rest / 0x400), .ofNat (0xdc00 + rest % 0x400)]

/-- A descriptor of a string: its length, its type, and the code units. -/
def textDescriptor (text : String) : List UInt8 :=
  -- the length is reckoned from the bytes of the text, not from its code units
  [.ofNat (2 + text.utf8ByteSize * 2), 3] ++ (encodeUtf16 text).flatMap leBytes

def stringDescriptor (index : UInt8) : Option (List UInt8) :=
  match index with
  | 0 => some [4, 3, 0x09, 0x04]
  | 1 => some (textDescriptor "Sony Interactive Entertainment")
  | 2 => some (textDescriptor "Wireless Controller")
  | _ => none

/-! ## Requests -/

/-- The rumble that an output report asks for. -/
def parseOutput (report : List UInt8) : Option (UInt16 × UInt16) :=
  if 6 ≤ report.length ∧ byteAt report 0 = 0x05 ∧ byteAt report 1 &&& 1 ≠ 0 then
    some ((byteAt report 5).toUInt16 * 257, (byteAt report 4).toUInt16 * 257)
  else none

/-- What a control request is answered with before it is cut to the length it asks for. -/
def controlData (requestType request : UInt8) (value : UInt16) (output : List UInt8)
    (rumble : UInt16 × UInt16) : Except Int32 (List UInt8 × (UInt16 × UInt16)) :=
  match requestType, request with
  | 0x80, 6 =>
    match value >>> 8 with
    | 1 => .ok (deviceDescriptor, rumble)
    | 2 => .ok (configurationDescriptor, rumble)
    | 3 =>
      match stringDescriptor value.toUInt8 with
      | some descriptor => .ok (descriptor, rumble)
      | none => .error epipe
    | _ => .error epipe
  | 0x81, 6 =>
    match value >>> 8 with
    | 0x21 => .ok ((configurationDescriptor.drop 18).take 9, rumble)
    | 0x22 => .ok (DualShock.reportDescriptor, rumble)
    | _ => .error epipe
  | 0x80, 0 | 0x81, 0 | 0x82, 0 => .ok ([0, 0], rumble)
  | 0x80, 8 => .ok ([1], rumble)
  | 0x81, 10 => .ok ([0], rumble)
  | 0x00, 5 | 0x00, 9 | 0x01, 11 | 0x02, 1 => .ok ([], rumble)
  | 0xa1, 1 =>
    match value.toUInt8 with
    | 0x02 => .ok (DualShock.calibration, rumble)
    | 0x12 => .ok (DualShock.pairing, rumble)
    | 0xa3 => .ok (DualShock.firmware, rumble)
    | _ => .error epipe
  | 0xa1, 2 | 0xa1, 3 => .ok ([0], rumble)
  | 0x21, 9 =>
    if value.toUInt8 = 0x05 then
      match parseOutput output with
      | some asked => .ok ([], asked)
      | none => .error einval
    else .ok ([], rumble)
  | 0x21, 10 | 0x21, 11 => .ok ([], rumble)
  | _, _ => .error epipe

/-- The length that a setup packet asks for. -/
def setupLength (setup : List UInt8) : Nat := (leU16 setup 6).toNat

def control (setup output : List UInt8) (rumble : UInt16 × UInt16) :
    Except Int32 (List UInt8 × (UInt16 × UInt16)) := do
  let (data, rumble) ← controlData (byteAt setup 0) (byteAt setup 1) (leU16 setup 2) output rumble
  -- cut to the length of the setup packet, not to that of the transfer
  return (data.take (setupLength setup), rumble)

/-! ## Replies -/

/-- The 48 bytes before the data of a reply. -/
def replyHeader (command : UInt32) (header : Header) (status actualLength : UInt32) : List UInt8 :=
  beWords [command, header.seqnum, header.devid, header.direction, header.endpoint,
    status, actualLength] ++ List.replicate 20 0

def writeReply (command : UInt32) (header : Header) (actualLength : Nat) (data : List UInt8) :
    List UInt8 :=
  replyHeader command header 0 (.ofNat actualLength) ++ data

def writeError (header : Header) (errno : Int32) : List UInt8 :=
  replyHeader retSubmit header (-errno).toUInt32 0

/-! ## The loop -/

/-- What `serve` keeps from one request to the next. -/
structure Session where
  counter : UInt8
  rumble : UInt16 × UInt16
  /-- The input reports sent so far. -/
  inputs : Nat

/-- The input report with the counter in its upper six bits of byte 7. -/
def stampInput (report : Vector UInt8 64) (counter : UInt8) : Vector UInt8 64 :=
  report.set 7 ((report[7] &&& (0x03 : UInt8)) ||| ((counter &&& 0x3f) <<< (2 : UInt8)))

/-- A submitted transfer of this length, whose outgoing bytes are `output`. -/
def submit (report : Vector UInt8 64) (session : Session) (header : Header) (length : Nat)
    (packetCount : UInt32) (setup output : List UInt8) : Session × List UInt8 :=
  if header.devid ≠ devId ∨ ¬ (packetCount = 0 ∨ packetCount = 0xffffffff) then
    (session, writeError header einval)
  else if header.endpoint = 0 then
    match control setup output session.rumble with
    | .ok (data, rumble) =>
      ({ session with rumble },
        writeReply retSubmit header (if header.direction = 0 then length else data.length) data)
    | .error errno => (session, writeError header errno)
  else if header.endpoint = 4 ∧ header.direction = 1 then
    let input := (stampInput report session.counter).toList.take length
    ({ session with counter := (session.counter + 1) &&& 0x3f, inputs := session.inputs + 1 },
      writeReply retSubmit header input.length input)
  else if header.endpoint = 3 ∧ header.direction = 0 then
    -- a report of another kind leaves the rumble as it is
    ({ session with rumble := (parseOutput output).getD session.rumble },
      writeReply retSubmit header length [])
  else (session, writeError header epipe)

/-- The header fields that a reply repeats. -/
def readHeader (request : List UInt8) : Header :=
  ⟨beWord request 4, beWord request 8, beWord request 12, beWord request 16⟩

/-- The number of bytes that follow the header of a transfer. -/
def outgoing (direction : UInt32) (length : Nat) : Nat := if direction = 0 then length else 0

/-- One request: `reports` are the reports that the gamepad has set when each input report
    is sent. -/
def turn (reports : Nat → Vector UInt8 64) (session : Session) (input : List UInt8) :
    Served Session UInt8 UInt8 (Except ServeError Unit) :=
  -- an end within a header is an end of the connection
  if input.length < 48 then .stop (.ok ())
  else
    let request := input.take 48
    let rest := input.drop 48
    let command := beWord request 0
    let header := readHeader request
    if command = cmdUnlink then .next session (writeReply retUnlink header 0 []) rest
    else if command ≠ cmdSubmit then .stop (.error invalidRequest)
    else
      let length := (beWord request 24).toNat
      if length > 4096 then .stop (.error oversizedTransfer)
      else
        let payload := outgoing header.direction length
        if rest.length < payload then .stop (.error unexpectedEof)
        else
          let (session, reply) := submit (reports session.inputs) session header length
            (beWord request 32) (request.drop 40) (rest.take payload)
          .next session reply (rest.drop payload)

theorem turn_reads {reports : Nat → Vector UInt8 64} {session next : Session}
    {input written rest : List UInt8}
    (turned : turn reports session input = .next next written rest) :
    rest.length < input.length := by
  simp only [turn] at turned
  split at turned
  · cases turned
  split at turned
  · cases turned
    rw [List.length_drop]
    omega
  split at turned
  · cases turned
  split at turned
  · cases turned
  split at turned <;> cases turned
  simp only [List.length_drop]
  omega

def serve (reports : Nat → Vector UInt8 64) :
    Server Session UInt8 UInt8 (Except ServeError Unit) where
  turn := turn reports
  reads := turn_reads

end Scd.Daemon.Usbip
