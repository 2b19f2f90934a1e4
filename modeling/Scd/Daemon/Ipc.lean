import Scd.Daemon.Loop
import Scd.Foundation.IndexMap
import Scd.Foundation.Utf8

/-! # The IPC server

The thread that serves the clients of the socket.  A callback of its event loop is a
function of the state; what the socket and the event loop answer is an argument.  `fromStr`
is the JSON parser, and a message that is written stands for its JSON line.

A registration is the token of a source of the event loop.
-/

namespace Scd.Daemon.Ipc

open Scd.Core Scd.Foundation

/-! ## Reading a line -/

/-- `MAX_REQUEST_SIZE`. -/
def maxRequestSize : Nat := 1024 * 1024

def newline : UInt8 := 10

/-- What a read finds behind the bytes that have arrived. -/
inductive ReadEnd where
  | wouldBlock | ended | failed
  deriving DecidableEq, Repr

/-- What a client has sent since the last read. -/
structure Arrived where
  bytes : List UInt8
  ending : ReadEnd

inductive ReadError where
  | wouldBlock | invalidData | other
  deriving DecidableEq, Repr

/-- `read_until` a newline, of at most `limit` bytes. -/
def readUntil (limit : Nat) (arrived : Arrived) : List UInt8 × Except ReadError Unit :=
  let bytes := arrived.bytes.take limit
  if newline ∈ bytes then (bytes.takeWhile (· != newline) ++ [newline], .ok ())
  -- `take` is used up, which reads as an end of file
  else if limit ≤ arrived.bytes.length then (bytes, .ok ())
  else
    match arrived.ending with
    | .wouldBlock => (bytes, .error .wouldBlock)
    | .ended => (bytes, .ok ())
    | .failed => (bytes, .error .other)

/-- `read_line`.  Bytes that are not valid UTF-8 on their own are not kept, and the error of
    the read comes before that of the encoding. -/
def readLine (request : List UInt8) (limit : Nat) (arrived : Arrived) :
    List UInt8 × Except ReadError Nat :=
  let (bytes, result) := readUntil limit arrived
  if Utf8 bytes then (request ++ bytes, result.map fun _ => bytes.length)
  else (request, result.bind fun _ => .error .invalidData)

/-- What `ready` makes of a read. -/
inductive Line where
  | more
  | request (request : Request)
  | rejected (message : String)
  | closed
  deriving DecidableEq

/-- The request so far, and the line it ends in. -/
def read (fromStr : List UInt8 → Option Request) (request : List UInt8) (arrived : Arrived) :
    Checked (List UInt8 × Line) := do
  if maxRequestSize + 1 < request.length then throw .subtractOverflow
  let remaining := maxRequestSize + 1 - request.length
  let (request, result) := readLine request remaining arrived
  match result with
  | .error .wouldBlock => return (request, .more)
  | .error _ => return (request, .rejected "invalid request")
  | .ok 0 => return (request, .closed)
  | .ok _ =>
    if maxRequestSize < request.length then return (request, .rejected "request is too large")
    -- the client has ended within a line
    else if request.getLast? ≠ some newline then return (request, .closed)
    else
      match fromStr request with
      | some parsed => return (request, .request parsed)
      | none => return (request, .rejected "invalid request")

/-! ## The server -/

structure ControlCommand where
  request : Request
  client : Nat
  deriving DecidableEq

inductive IpcEvent where
  | response (client : Nat) (response : Response)
  | shutdown
  deriving DecidableEq

structure ClientConnection where
  registration : Nat
  osk : Bool
  deriving DecidableEq, Repr

structure IpcState (S : Type) where
  clients : IndexMap Nat ClientConnection
  nextClient : Nat
  osk : S

structure ClientReader where
  client : Nat
  request : List UInt8

/-- The command channel.  `receiver` says whether the daemon still has its end. -/
structure Commands where
  queue : List ControlCommand
  receiver : Bool

inductive TrySendError where
  | full | disconnected
  deriving DecidableEq, Repr

/-- `try_send` on `sync_channel(32)`. -/
def Commands.trySend (commands : Commands) (command : ControlCommand) :
    Except TrySendError Commands :=
  if !commands.receiver then .error .disconnected
  else if 32 ≤ commands.queue.length then .error .full
  else .ok { commands with queue := commands.queue ++ [command] }

inductive PostAction where
  | continues | disable | remove
  deriving DecidableEq, Repr

/-- What is written to a client, by the place that writes it. -/
inductive Sent (S : Type) where
  | osk (state : S)
  | rejection (message : String)
  | response (response : Response)
  deriving DecidableEq

/-- What is seen of a run.  A write says whether the whole message was taken. -/
inductive Sighting (S : Type) where
  | accepted (client : Nat)
  | refused (client : Nat)
  | subscribed (client : Nat)
  | queued (command : ControlCommand)
  | answered (command : ControlCommand) (response : Response)
  | lost (command : ControlCommand)
  | wrote (client : Nat) (sent : Sent S) (whole : Bool)
  | closed (client : Nat)
  deriving DecidableEq

/-- What a callback of a client's source leaves and does. -/
structure Ready (S : Type) where
  reader : ClientReader
  action : PostAction
  state : IpcState S
  commands : Commands
  sightings : List (Sighting S)

section

variable {S : Type}

namespace ClientReader

def close (reader : ClientReader) (state : IpcState S) (commands : Commands) : Ready S where
  reader := reader
  action := .remove
  state := { state with clients := state.clients.shiftRemove reader.client }
  commands := commands
  sightings := [.closed reader.client]

/-- What was seen before it closed. -/
def closeAfter (reader : ClientReader) (state : IpcState S) (commands : Commands)
    (sightings : List (Sighting S)) : Ready S :=
  let closing := reader.close state commands
  { closing with sightings := sightings ++ closing.sightings }

def reject (reader : ClientReader) (state : IpcState S) (commands : Commands) (message : String)
    (whole : Bool) : Ready S :=
  reader.closeAfter state commands [.wrote reader.client (.rejection message) whole]

/-- `whole` says how the write of the call ends, if there is one. -/
def ready (fromStr : List UInt8 → Option Request) (reader : ClientReader) (arrived : Arrived)
    (whole : Bool) (state : IpcState S) (commands : Commands) : Checked (Ready S) := do
  let (request, line) ← read fromStr reader.request arrived
  let reader := { reader with request }
  match line with
  | .more => return { reader, action := .continues, state, commands, sightings := [] }
  | .rejected message => return reader.reject state commands message whole
  | .closed => return reader.close state commands
  | .request .osk =>
    match state.clients.get? reader.client with
    | none => throw (.expectFailed "registered IPC client exists")
    | some connection =>
      -- the buffer is not cleared: the next line is read behind the subscription
      let state := { state with
        clients := state.clients.insert reader.client { connection with osk := true } }
      let sightings :=
        [.subscribed reader.client, .wrote reader.client (.osk state.osk) whole]
      if whole then return { reader, action := .continues, state, commands, sightings }
      else return reader.closeAfter state commands sightings
  | .request request =>
    let command : ControlCommand := { request, client := reader.client }
    match commands.trySend command with
    | .ok commands =>
      -- the source stays in the event loop, switched off, until the response removes it
      return { reader, action := .disable, state, commands, sightings := [.queued command] }
    | .error .full => return reader.reject state commands "daemon command queue is full" whole
    | .error .disconnected => return reader.close state commands

end ClientReader

/-! ## The threads -/

structure Source where
  reader : ClientReader
  enabled : Bool

/-- The server's thread, the daemon, and the channels between them. -/
structure System (S : Type) where
  state : IpcState S
  sources : IndexMap Nat Source
  commands : Commands
  /-- The commands that the daemon has received and not yet answered. -/
  held : List ControlCommand
  events : List IpcEvent
  oskCurrent : S
  /-- The state that the thread has not yet seen. -/
  published : Option S

namespace System

def bind (osk : S) : System S where
  state := { clients := .empty, nextClient := 1, osk }
  sources := .empty
  commands := { queue := [], receiver := true }
  held := []
  events := []
  oskCurrent := osk
  published := none

/-- A turn of the loop in `accept_clients`.  The event loop refuses the source or gives a token. -/
def acceptClient (system : System S) (registration : Option Nat) :
    Checked (System S × List (Sighting S)) :=
  let client := system.state.nextClient
  if 2 ^ 64 ≤ client + 1 then throw (.expectFailed "IPC client ID overflow")
  else
    let state := { system.state with nextClient := client + 1 }
    match registration with
    -- the number of the client is used up
    | none => return ({ system with state }, [.refused client])
    | some registration =>
      return ({ system with
        state := { state with clients := state.clients.insert client ⟨registration, false⟩ }
        sources := system.sources.insert registration ⟨⟨client, []⟩, true⟩ }, [.accepted client])

/-- The event loop after a callback of a client's source. -/
def apply (system : System S) (registration : Nat) (result : Ready S) : System S :=
  { system with
    state := result.state
    commands := result.commands
    sources := match result.action with
      | .continues => system.sources.insert registration ⟨result.reader, true⟩
      | .disable => system.sources.insert registration ⟨result.reader, false⟩
      | .remove => system.sources.shiftRemove registration }

/-- The entry of a client is removed, and the source it names. -/
def unregister (system : System S) (client : Nat) (connection : ClientConnection) : System S :=
  { system with
    state := { system.state with clients := system.state.clients.shiftRemove client }
    sources := system.sources.shiftRemove connection.registration }

/-- The callback of the event channel.  `signal.stop()` lets the callbacks that are due run. -/
def deliver (system : System S) (whole : Bool) : System S × List (Sighting S) :=
  match system.events with
  | [] => (system, [])
  | .shutdown :: events => ({ system with events }, [])
  | .response client response :: events =>
    let system := { system with events }
    match system.state.clients.get? client with
    -- the client has gone, and its response is dropped
    | none => (system, [])
    | some connection =>
      (system.unregister client connection,
        [.wrote client (.response response) whole, .closed client])

/-- What `retain` does to one entry. -/
def pushTo (whole : Nat → Bool) (system : System S) (client : Nat) :
    System S × List (Sighting S) :=
  match system.state.clients.get? client with
  | none => (system, [])
  | some connection =>
    if !connection.osk then (system, [])
    else if whole client then (system, [.wrote client (.osk system.state.osk) true])
    else
      (system.unregister client connection,
        [.wrote client (.osk system.state.osk) false, .closed client])

def pushAll (whole : Nat → Bool) (system : System S) : List Nat → System S × List (Sighting S)
  | [] => (system, [])
  | client :: order =>
    let (system, written) := system.pushTo whole client
    let (system, more) := system.pushAll whole order
    (system, written ++ more)

/-- The callback of the OSK ping.  `order` is the order of the map. -/
def push (system : System S) (order : List Nat) (whole : Nat → Bool) :
    System S × List (Sighting S) :=
  match system.published with
  | none => (system, [])
  | some next =>
    { system with
      state := { system.state with osk := next }
      published := none }.pushAll whole order

/-- `Server::respond`. -/
def respond (system : System S) (command : ControlCommand) (response : Response) : System S :=
  { system with
    held := system.held.erase command
    events := system.events ++ [.response command.client response] }

/-- `Server::publish_osk`. -/
def publishOsk [DecidableEq S] (system : System S) (next : S) : System S :=
  if system.oskCurrent ≠ next then { system with oskCurrent := next, published := some next }
  else system

end System

/-- The steps of the two threads, in any order. -/
inductive Step [DecidableEq S] (fromStr : List UInt8 → Option Request) :
    System S → List (Sighting S) → System S → Prop where
  /-- The token of a new source is not the token of another. -/
  | accept {system after : System S} {registration : Option Nat} {sightings : List (Sighting S)} :
      (∀ token ∈ registration, system.sources.get? token = none) →
      system.acceptClient registration = .ok (after, sightings) →
      Step fromStr system sightings after
  /-- Only the callback of a source that is there and enabled runs. -/
  | ready {system : System S} {registration : Nat} {source : Source} {arrived : Arrived}
      {whole : Bool} {result : Ready S} :
      system.sources.get? registration = some source → source.enabled = true →
      source.reader.ready fromStr arrived whole system.state system.commands = .ok result →
      Step fromStr system result.sightings (system.apply registration result)
  | deliver {system : System S} {whole : Bool} :
      Step fromStr system (system.deliver whole).2 (system.deliver whole).1
  | push {system : System S} {order : List Nat} {whole : Nat → Bool} :
      order.Perm system.state.clients.keys →
      Step fromStr system (system.push order whole).2 (system.push order whole).1
  | receive {system : System S} {command : ControlCommand} {queue : List ControlCommand} :
      system.commands = ⟨command :: queue, true⟩ →
      Step fromStr system []
        { system with commands := ⟨queue, true⟩, held := system.held ++ [command] }
  | respond {system : System S} {command : ControlCommand} {response : Response} :
      command ∈ system.held →
      Step fromStr system [.answered command response] (system.respond command response)
  /-- The daemon drops a command unanswered. -/
  | abandon {system : System S} {command : ControlCommand} : command ∈ system.held →
      Step fromStr system [.lost command] { system with held := system.held.erase command }
  | hangUp {system : System S} :
      Step fromStr system [] { system with commands := ⟨system.commands.queue, false⟩ }
  /-- What is left in the queue goes with the receiver. -/
  | discard {system : System S} {command : ControlCommand} {queue : List ControlCommand} :
      system.commands = ⟨command :: queue, false⟩ →
      Step fromStr system [.lost command] { system with commands := ⟨queue, false⟩ }
  | publish {system : System S} {next : S} : Step fromStr system [] (system.publishOsk next)
  | shutdown {system : System S} :
      Step fromStr system [] { system with events := system.events ++ [.shutdown] }

end

end Scd.Daemon.Ipc
