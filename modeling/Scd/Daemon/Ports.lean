import Scd.Core.Parse
import Scd.Daemon.Rumble
import Scd.Foundation.Dialogue

/-! # The ports and devices of the gamepads

`Outputs::set_gamepad` and what it calls, as far as the kernel sees it: a DualShock 4 is
attached to a free port of `vhci_hcd`, and detached when it is dropped; an Xbox gamepad is a
uinput device until it is closed.  Each access to the kernel is one call, and other programs
use the ports between any two of them.
-/

namespace Scd.Daemon.Ports

open Scd.Core Scd.Foundation

/-! ## The status of the ports -/

/-- `str::lines`: a line ends in a line feed, with or without a carriage return. -/
def lines (text : List Char) : List (List Char) :=
  let pieces := text.splitOn '\n'
  let ended := pieces.dropLast.map fun line =>
    if line.getLast? = some '\r' then line.dropLast else line
  match pieces.getLast? with
  | none | some [] => ended
  | some rest => ended ++ [rest]

/-- `str::split_whitespace` -/
def splitWhitespace (text : List Char) : List (List Char) :=
  (text.splitOnP isWhitespace).filter (!·.isEmpty)

def decimalDigit (character : Char) : Option Nat :=
  if '0' ≤ character ∧ character ≤ '9' then some (character.toNat - 48) else none

/-- `str::parse` of an unsigned integer: a plus sign may stand before the digits. -/
def parseUnsigned (limit : Nat) (text : List Char) : Option Nat :=
  let digits := match text with
    | '+' :: digits => digits
    | digits => digits
  if digits.isEmpty then none
  else digits.foldlM (fun value character => do
    let value := value * 10 + (← decimalDigit character)
    if value ≤ limit then some value else none) 0

/-- A line of the status: a high-speed port that is free, with the number that it gives. -/
def freeLine (line : List Char) : Option (Option UInt16) :=
  match splitWhitespace line with
  | hub :: port :: status :: _ =>
    if hub = ['h', 's'] ∧ parseUnsigned 255 status = some 4 then
      some ((parseUnsigned 65535 port).map .ofNat)
    else none
  | _ => none

/-- The first line is a heading. -/
def firstFree (status : List Char) : Option (Option UInt16) :=
  ((lines status).drop 1).findSome? freeLine

/-! ## Calls -/

inductive ErrorKind where
  | resourceBusy | notFound | addrNotAvailable | other
  deriving DecidableEq, Repr

inductive Call where
  | pair
  | tryClone
  | readStatus (index : Nat)
  | attach (port : UInt16)
  | spawn
  | detach (port : UInt16)
  | buildXbox
  | setNonblocking
  | closeXbox
  deriving DecidableEq, Repr

/-- Every call can fail, but for the close of a file. -/
abbrev Answer : Call → Type
  | .readStatus _ => Except ErrorKind (List Char)
  | .closeXbox => Unit
  | _ => Except ErrorKind Unit

abbrev Script : Type → Type := Dialogue Call Answer

def pair : Script (Except ErrorKind Unit) := Dialogue.ask Call.pair

def tryClone : Script (Except ErrorKind Unit) := Dialogue.ask Call.tryClone

def readStatus (index : Nat) : Script (Except ErrorKind (List Char)) :=
  Dialogue.ask (Call.readStatus index)

def writeAttach (port : UInt16) : Script (Except ErrorKind Unit) := Dialogue.ask (Call.attach port)

def spawn : Script (Except ErrorKind Unit) := Dialogue.ask Call.spawn

def detach (port : UInt16) : Script (Except ErrorKind Unit) := Dialogue.ask (Call.detach port)

def buildXbox : Script (Except ErrorKind Unit) := Dialogue.ask Call.buildXbox

def setNonblocking : Script (Except ErrorKind Unit) := Dialogue.ask Call.setNonblocking

def closeXbox : Script Unit := Dialogue.ask Call.closeXbox

/-! ## The transport -/

/-- `free_port`.  The index is an `i32`, and `left` is how many of its values are left: the panic
    behind the last of them is an error here, and ends `main` as one does. -/
def freePortFrom : Nat → Nat → Script (Except ErrorKind UInt16)
  | 0, _ => return .error .addrNotAvailable
  | left + 1, index => do
    match ← readStatus index with
    | .error error =>
      if index ≠ 0 ∧ error = .notFound then return .error .addrNotAvailable
      else return .error error
    | .ok status =>
      match firstFree status with
      | some (some port) => return .ok port
      | some none => return .error .other
      | none => freePortFrom left (index + 1)

def freePort : Script (Except ErrorKind UInt16) := freePortFrom (2 ^ 31) 0

/-- The loop of `attach`. -/
def attachWithin : Nat → Script (Except ErrorKind UInt16)
  | 0 => return .error .resourceBusy
  | tries + 1 => do
    match ← freePort with
    | .error error => return .error error
    | .ok port =>
      match ← writeAttach port with
      | .ok () => return .ok port
      | .error .resourceBusy => attachWithin tries
      | .error error => return .error error

def attach : Script (Except ErrorKind UInt16) := attachWithin 8

structure Transport where
  port : UInt16
  report : Vector UInt8 64
  rumble : UInt16 × UInt16

def Transport.new (report : Vector UInt8 64) : Script (Except ErrorKind Transport) := do
  match ← pair with
  | .error error => return .error error
  | .ok () =>
    match ← tryClone with
    | .error error => return .error error
    | .ok () =>
      match ← attach with
      | .error error => return .error error
      | .ok port =>
        match ← spawn with
        | .ok () => return .ok ⟨port, report, (0, 0)⟩
        | .error error =>
          let _ ← detach port
          return .error error

/-- An error is only logged. -/
def Transport.drop (transport : Transport) : Script Unit := do
  let _ ← detach transport.port

/-! ## The gamepad of the outputs -/

inductive Pad where
  | xbox
  | dualShock4 (transport : Transport)

def Pad.kind : Pad → Gamepad
  | .xbox => .xbox
  | .dualShock4 _ => .dualShock4

/-- `Xbox::new`.  A device that cannot be made non-blocking is dropped. -/
def Pad.newXbox : Script (Except ErrorKind Pad) := do
  match ← buildXbox with
  | .error error => return .error error
  | .ok () =>
    match ← setNonblocking with
    | .ok () => return .ok .xbox
    | .error error =>
      closeXbox
      return .error error

/-- `DualShock4::new` -/
def Pad.newDualShock4 : Script (Except ErrorKind Pad) := do
  match ← Transport.new DualShock.DualShock4.new.report with
  | .error error => return .error error
  | .ok transport => return .ok (.dualShock4 transport)

def Pad.drop : Pad → Script Unit
  | .xbox => closeXbox
  | .dualShock4 transport => transport.drop

/-- The gamepad of the outputs, with what the kernel has of it. -/
structure Plugs where
  gamepad : Option Pad
  gamepadType : Gamepad
  pendingRumbleStop : Bool

namespace Plugs

def drop (plugs : Plugs) : Script Unit :=
  match plugs.gamepad with
  | none => return ()
  | some pad => pad.drop

/-- The gamepad of the new kind, in `Outputs::set_gamepad`. -/
def plug : Gamepad → Script (Except ErrorKind (Option Pad))
  | .none => return .ok none
  | .xbox => return (← Pad.newXbox).map some
  | .dualShock4 => return (← Pad.newDualShock4).map some

/-- `Outputs::set_gamepad`.  The old gamepad is dropped before there is a new one. -/
def setGamepad (plugs : Plugs) (gamepad : Gamepad) : Script (Except ErrorKind Unit × Plugs) := do
  if gamepad = plugs.gamepadType then return (.ok (), plugs)
  let pendingRumbleStop := plugs.pendingRumbleStop || plugs.gamepad.isSome
  plugs.drop
  match ← plug gamepad with
  | .error error => return (.error error, ⟨none, .none, pendingRumbleStop⟩)
  | .ok pad => return (.ok (), ⟨pad, gamepad, pendingRumbleStop⟩)

/-- The outputs before their first gamepad. -/
def empty : Plugs := ⟨none, .none, false⟩

end Plugs

/-! ## The kernel -/

inductive Holder where
  | daemon | other
  deriving DecidableEq, Repr

structure Host where
  /-- Who has attached a device to a port. -/
  holder : UInt16 → Option Holder
  /-- The Xbox gamepads of the daemon. -/
  xboxes : Nat
  /-- The ports that the kernel has refused to detach.  Ghost. -/
  refused : List UInt16
  /-- The ports that others have detached and that the daemon has not given up.  Ghost. -/
  revoked : List UInt16
  /-- The status that the daemon has read last.  Ghost. -/
  status : Option (List Char)

namespace Host

def hold (host : Host) (port : UInt16) (holder : Option Holder) : Host :=
  { host with holder := fun other => if other = port then holder else host.holder other }

/-- How the kernel answers.  A port is attached when it is free, and whatever is at a port can
    be detached.  A status is any text: the ports may have changed since. -/
inductive Answers : (request : Call) → Host → Answer request → Host → Prop where
  | pair {host : Host} {answer : Except ErrorKind Unit} : Answers .pair host answer host
  | tryClone {host : Host} {answer : Except ErrorKind Unit} : Answers .tryClone host answer host
  | spawn {host : Host} {answer : Except ErrorKind Unit} : Answers .spawn host answer host
  | readStatus {host : Host} {index : Nat} {status : List Char} :
      Answers (.readStatus index) host (.ok status) { host with status := some status }
  | unreadable {host : Host} {index : Nat} {error : ErrorKind} :
      Answers (.readStatus index) host (.error error) host
  | attached {host : Host} {port : UInt16} : host.holder port = none →
      Answers (.attach port) host (.ok ()) { host.hold port (some .daemon) with
        refused := host.refused.filter (· ≠ port)
        revoked := host.revoked.filter (· ≠ port) }
  | notAttached {host : Host} {port : UInt16} {error : ErrorKind} :
      Answers (.attach port) host (.error error) host
  | detached {host : Host} {port : UInt16} :
      Answers (.detach port) host (.ok ()) { host.hold port none with
        revoked := host.revoked.filter (· ≠ port) }
  | notDetached {host : Host} {port : UInt16} {error : ErrorKind} :
      Answers (.detach port) host (.error error) { host with
        refused := port :: host.refused
        revoked := host.revoked.filter (· ≠ port) }
  | built {host : Host} :
      Answers .buildXbox host (.ok ()) { host with xboxes := host.xboxes + 1 }
  | notBuilt {host : Host} {error : ErrorKind} : Answers .buildXbox host (.error error) host
  | setNonblocking {host : Host} {answer : Except ErrorKind Unit} :
      Answers .setNonblocking host answer host
  | closed {host : Host} : Answers .closeXbox host () { host with xboxes := host.xboxes - 1 }

/-- What other programs do to the ports. -/
inductive Others : Host → Host → Prop where
  | attach {host : Host} {port : UInt16} : host.holder port = none →
      Others host (host.hold port (some .other))
  | detach {host : Host} {port : UInt16} :
      host.holder port = some .other ∨ port ∈ host.refused → Others host (host.hold port none)
  | revoke {host : Host} {port : UInt16} :
      host.holder port = some .daemon → port ∉ host.refused →
      Others host { host.hold port none with revoked := port :: host.revoked }

def world : Dialogue.World Call Answer Host := ⟨Answers, Others⟩

/-- Other programs have some ports. -/
def occupied (taken : List UInt16) : Host where
  holder := fun port => if port ∈ taken then some .other else none
  xboxes := 0
  refused := []
  revoked := []
  status := none

end Host

/-! ## The life of the outputs -/

/-- What the daemon does with the outputs. -/
inductive Stage where
  | resting (plugs : Plugs)
  | changing (program : Script (Except ErrorKind Unit × Plugs))
  | dropping (program : Script Unit)
  | ended

structure System where
  host : Host
  stage : Stage

inductive Label where
  | requested (gamepad : Gamepad)
  | polled (fetched : Option (List FfEvent))
  | answered (request : Call) (answer : Answer request)

namespace System

def start (taken : List UInt16) (gamepad : Gamepad) : System :=
  ⟨.occupied taken, .changing (Plugs.empty.setGamepad gamepad)⟩

inductive Step : System → List Label → System → Prop where
  | others {host after : Host} {stage : Stage} : Host.Others host after →
      Step ⟨host, stage⟩ [] ⟨after, stage⟩
  | requests {host : Host} {plugs : Plugs} {gamepad : Gamepad} :
      Step ⟨host, .resting plugs⟩ [.requested gamepad] ⟨host, .changing (plugs.setGamepad gamepad)⟩
  /-- `Outputs::poll_rumble` -/
  | polls {host : Host} {plugs : Plugs} {fetched : Option (List FfEvent)} :
      Step ⟨host, .resting plugs⟩ [.polled fetched]
        ⟨host, .resting { plugs with pendingRumbleStop := false }⟩
  | changes {host after : Host} {request : Call} {answer : Answer request}
      {rest : Answer request → Script (Except ErrorKind Unit × Plugs)} :
      Host.Answers request host answer after →
      Step ⟨host, .changing (.call request rest)⟩ [.answered request answer]
        ⟨after, .changing (rest answer)⟩
  | changed {host : Host} {plugs : Plugs} :
      Step ⟨host, .changing (.done (.ok (), plugs))⟩ [] ⟨host, .resting plugs⟩
  /-- The error ends `main`, which drops the outputs. -/
  | fails {host : Host} {plugs : Plugs} {error : ErrorKind} :
      Step ⟨host, .changing (.done (.error error, plugs))⟩ [] ⟨host, .dropping plugs.drop⟩
  /-- `main` ends, for whatever reason. -/
  | leaves {host : Host} {plugs : Plugs} :
      Step ⟨host, .resting plugs⟩ [] ⟨host, .dropping plugs.drop⟩
  | drops {host after : Host} {request : Call} {answer : Answer request}
      {rest : Answer request → Script Unit} : Host.Answers request host answer after →
      Step ⟨host, .dropping (.call request rest)⟩ [.answered request answer]
        ⟨after, .dropping (rest answer)⟩
  | ends {host : Host} : Step ⟨host, .dropping (.done ())⟩ [] ⟨host, .ended⟩

abbrev Run : System → List Label → System → Prop := Path Step

end System

end Scd.Daemon.Ports
