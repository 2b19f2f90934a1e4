import Scd.Daemon.Usbip

/-! # Replies of the USB/IP device

The stream of the socket is a list of requests and an ending.  `serve` answers every request
with one reply that repeats its header, and what it returns is decided by the ending alone.
-/

namespace Scd.Daemon.Usbip

open Scd.Core Scd.Foundation

/-! ## Requests and their replies -/

/-- The number of bytes that a control request has for an answer. -/
def controlLength (requestType request : UInt8) (value : UInt16) : Nat :=
  match requestType, request with
  | 0x80, 6 =>
    match value >>> 8 with
    | 1 => 18
    | 2 => 41
    | 3 =>
      match value.toUInt8 with
      | 0 => 4
      | 1 => 62
      | 2 => 40
      | _ => 0
    | _ => 0
  | 0x81, 6 =>
    match value >>> 8 with
    | 0x21 => 9
    | 0x22 => 507
    | _ => 0
  | 0x80, 0 | 0x81, 0 | 0x82, 0 => 2
  | 0x80, 8 | 0x81, 10 => 1
  | 0xa1, 1 =>
    match value.toUInt8 with
    | 0x02 => 37
    | 0x12 => 16
    | 0xa3 => 49
    | _ => 0
  | 0xa1, 2 | 0xa1, 3 => 1
  | _, _ => 0

/-- The bytes of data of the answer to a setup packet. -/
def setupAnswer (setup : List UInt8) : Nat :=
  min (controlLength (byteAt setup 0) (byteAt setup 1) (leU16 setup 2)) (setupLength setup)

/-- A request as the peer sends it: the header, and the bytes of an outgoing transfer. -/
structure Request where
  header : List UInt8
  payload : List UInt8
  header_length : header.length = 48
  command : beWord header 0 = cmdSubmit ∨ beWord header 0 = cmdUnlink
  transfer : beWord header 0 = cmdSubmit → (beWord header 24).toNat ≤ 4096
  payload_length : payload.length =
    if beWord header 0 = cmdSubmit then outgoing (beWord header 12) (beWord header 24).toNat else 0

namespace Request

def bytes (request : Request) : List UInt8 := request.header ++ request.payload

def setup (request : Request) : List UInt8 := request.header.drop 40

def length (request : Request) : Nat := (beWord request.header 24).toNat

def direction (request : Request) : UInt32 := beWord request.header 12

def endpoint (request : Request) : UInt32 := beWord request.header 16

/-- The command of the reply. -/
def replyCommand (request : Request) : UInt32 :=
  if beWord request.header 0 = cmdUnlink then retUnlink else retSubmit

/-- The bytes of data of the reply, which follow from the header of the request alone. -/
def dataLength (request : Request) : Nat :=
  if beWord request.header 0 = cmdUnlink then 0
  else if beWord request.header 8 ≠ devId ∨
      ¬ (beWord request.header 32 = 0 ∨ beWord request.header 32 = 0xffffffff) then 0
  else if request.endpoint = 0 then setupAnswer request.setup
  else if request.endpoint = 4 ∧ request.direction = 1 then min request.length 64
  else 0

theorem bytes_ne_nil (request : Request) : request.bytes ≠ [] := by
  intro empty
  have none : request.header = [] := (List.append_eq_nil_iff.mp empty).1
  have length := request.header_length
  rw [none] at length
  cases length

end Request

/-- A byte string is one reply to the request: a header of 48 bytes, of which five words answer
    to the request, and exactly the data of this reply.  The reply to an incoming transfer says
    itself how many bytes of data there are. -/
structure Answers (request : Request) (reply : List UInt8) : Prop where
  length : reply.length = 48 + request.dataLength
  actualLength : request.direction ≠ 0 → (beWord reply 24).toNat = request.dataLength
  command : beWord reply 0 = request.replyCommand
  seqnum : beWord reply 4 = beWord request.header 4
  devid : beWord reply 8 = beWord request.header 8
  direction : beWord reply 12 = beWord request.header 12
  endpoint : beWord reply 16 = beWord request.header 16

@[simp] theorem length_replyHeader (command : UInt32) (header : Header)
    (status actualLength : UInt32) :
    (replyHeader command header status actualLength).length = 48 := by
  simp [replyHeader]

/-- The word at an index of a reply. -/
theorem beWord_replyHeader {command : UInt32} {header : Header} {status actualLength value : UInt32}
    (index : Nat)
    (found : [command, header.seqnum, header.devid, header.direction, header.endpoint, status,
      actualLength][index]? = some value) (data : List UInt8) :
    beWord (replyHeader command header status actualLength ++ data) (4 * index) = value := by
  rw [replyHeader, List.append_assoc]
  exact beWord_beWords index found _

/-- A reply header with the command and the fields of the request, and its data. -/
theorem answers_replyHeader {request : Request} {command : UInt32}
    (same : command = request.replyCommand) (status actualLength : UInt32) {data : List UInt8}
    (counted : data.length = request.dataLength)
    (told : request.direction ≠ 0 → actualLength.toNat = data.length) :
    Answers request (replyHeader command (readHeader request.header) status actualLength ++ data) where
  length := by simp [counted]
  actualLength := by
    intro inward
    rw [← counted, ← told inward]
    exact congrArg UInt32.toNat (beWord_replyHeader 6 rfl data)
  command := by
    rw [← same]
    exact beWord_replyHeader 0 rfl data
  seqnum := beWord_replyHeader 1 rfl data
  devid := beWord_replyHeader 2 rfl data
  direction := beWord_replyHeader 3 rfl data
  endpoint := beWord_replyHeader 4 rfl data

/-- What a control request is answered with has this length; a refusal has none. -/
def HasLength (result : Except Int32 (List UInt8 × (UInt16 × UInt16))) (count : Nat) : Prop :=
  match result with
  | .ok (data, _) => data.length = count
  | .error _ => count = 0

theorem controlData_length (requestType request : UInt8) (value : UInt16) (output : List UInt8)
    (rumble : UInt16 × UInt16) :
    HasLength (controlData requestType request value output rumble)
      (controlLength requestType request value) := by
  unfold controlData
  -- the requests in the order of the table
  split
  · simp only [controlLength]
    generalize value.toUInt8 = index
    generalize value >>> 8 = kind
    split
    · exact rfl
    · exact rfl
    · unfold stringDescriptor
      split <;> rename_i found
      · split at found <;> cases found <;> rfl
      · split at found <;> cases found
        simp only [HasLength]
    · simp only [HasLength]
  · simp only [controlLength]
    generalize value >>> 8 = kind
    split
    · exact rfl
    · exact DualShock.length_reportDescriptor
    · simp only [HasLength]
  · exact rfl
  · exact rfl
  · exact rfl
  · exact rfl
  · exact rfl
  · exact rfl
  · exact rfl
  · exact rfl
  · exact rfl
  · simp only [controlLength]
    generalize value.toUInt8 = index
    split
    · exact rfl
    · exact rfl
    · exact rfl
    · simp only [HasLength]
  · exact rfl
  · exact rfl
  · split
    · split <;> exact rfl
    · exact rfl
  · exact rfl
  · exact rfl
  · -- a request that is not in the table
    simp only [HasLength, controlLength]

theorem control_answer (setup output : List UInt8) (rumble : UInt16 × UInt16) :
    HasLength (control setup output rumble) (setupAnswer setup) := by
  have answered := controlData_length (byteAt setup 0) (byteAt setup 1) (leU16 setup 2) output rumble
  unfold control setupAnswer
  cases asked : controlData (byteAt setup 0) (byteAt setup 1) (leU16 setup 2) output rumble with
  | error errno =>
    rw [asked] at answered
    simp only [HasLength] at answered
    simp only [error_bind, HasLength, answered, Nat.zero_min]
  | ok result =>
    obtain ⟨data, rumble'⟩ := result
    rw [asked] at answered
    simp only [HasLength] at answered
    simp only [ok_bind, pure, Except.pure, HasLength, List.length_take, answered, Nat.min_comm]

/-- The replies as long as the requests tell. -/
theorem lengths_answers {requests : List Request} {replies : List (List UInt8)}
    (answered : List.Forall₂ Answers requests replies) :
    replies.map List.length = requests.map fun request => 48 + request.dataLength := by
  induction answered with
  | nil => rfl
  | cons first _ inductionHypothesis =>
    rw [List.map_cons, List.map_cons, first.length, inductionHypothesis]

/-! ## One turn -/

/-- What `serve` does with a request. -/
def respond (report : Vector UInt8 64) (session : Session) (request : Request) :
    Session × List UInt8 :=
  let header := readHeader request.header
  if beWord request.header 0 = cmdUnlink then (session, writeReply retUnlink header 0 [])
  else
    submit report session header request.length (beWord request.header 32) request.setup
      request.payload

/-- A turn reads the request and nothing more. -/
theorem turn_request (reports : Nat → Vector UInt8 64) (session : Session) (request : Request)
    (rest : List UInt8) :
    turn reports session (request.bytes ++ rest) =
      .next (respond (reports session.inputs) session request).1
        (respond (reports session.inputs) session request).2 rest := by
  obtain ⟨header, payload, header_length, command, transfer, payload_length⟩ := request
  have front : (header ++ (payload ++ rest)).take 48 = header := by
    rw [List.take_append_of_le_length (by omega), List.take_of_length_le (by omega)]
  have back : (header ++ (payload ++ rest)).drop 48 = payload ++ rest := by
    rw [← header_length, List.drop_left]
  have long : ¬ (header ++ (payload ++ rest)).length < 48 := by
    rw [List.length_append]
    omega
  simp only [turn, Request.bytes, respond, Request.length, Request.setup, List.append_assoc, front,
    back, if_neg long]
  by_cases unlink : beWord header 0 = cmdUnlink
  · -- an unlink request is its header alone
    have empty : payload = [] := by
      rw [unlink] at payload_length
      exact List.length_eq_zero_iff.mp payload_length
    rw [if_pos unlink, if_pos unlink, empty, List.nil_append]
  · have submitted : beWord header 0 = cmdSubmit := command.resolve_right unlink
    rw [if_pos submitted] at payload_length
    have small : ¬ (beWord header 24).toNat > 4096 := by
      have := transfer submitted
      omega
    have field : (readHeader header).direction = beWord header 12 := rfl
    have enough : ¬ (payload ++ rest).length <
        outgoing (beWord header 12) (beWord header 24).toNat := by
      rw [List.length_append, payload_length]
      omega
    have taken : (payload ++ rest).take
        (outgoing (beWord header 12) (beWord header 24).toNat) = payload := by
      rw [← payload_length, List.take_left]
    have left : (payload ++ rest).drop
        (outgoing (beWord header 12) (beWord header 24).toNat) = rest := by
      rw [← payload_length, List.drop_left]
    rw [if_neg unlink, if_neg unlink, if_neg (not_not_intro submitted), if_neg small, field,
      if_neg enough, taken, left]

/-- The data of a reply is short, so that its length fits a word. -/
theorem toNat_length {data : List UInt8} (short : data.length < 4294967296) :
    (UInt32.ofNat data.length).toNat = data.length := by
  rw [UInt32.toNat_ofNat', Nat.mod_eq_of_lt short]

theorem setupAnswer_le (setup : List UInt8) : setupAnswer setup ≤ 65535 := by
  have := (leU16 setup 6).toNat_lt
  simp only [setupAnswer, setupLength]
  omega

theorem respond_answers (report : Vector UInt8 64) (session : Session) (request : Request) :
    Answers request (respond report session request).2 := by
  unfold respond
  by_cases unlink : beWord request.header 0 = cmdUnlink
  · rw [if_pos unlink]
    exact answers_replyHeader (by simp [Request.replyCommand, unlink]) 0 _
      (by simp [Request.dataLength, unlink]) (fun _ => rfl)
  rw [if_neg unlink]
  have command : retSubmit = request.replyCommand := by simp [Request.replyCommand, unlink]
  have refused : request.dataLength = 0 →
      ∀ errno, Answers request (writeError (readHeader request.header) errno) := by
    intro none errno
    have counted : ([] : List UInt8).length = request.dataLength := none.symm
    have answers := answers_replyHeader command (-errno).toUInt32 0 counted fun _ => rfl
    rwa [List.append_nil] at answers
  -- one case for each branch of the dispatch, with the length of its data
  unfold submit
  split
  · next invalid =>
    change beWord request.header 8 ≠ devId ∨ _ at invalid
    have none : request.dataLength = 0 := by
      rw [Request.dataLength, if_neg unlink, if_pos invalid]
    exact refused none _
  next valid =>
  change ¬ (beWord request.header 8 ≠ devId ∨ _) at valid
  split
  · next control_endpoint =>
    change request.endpoint = 0 at control_endpoint
    have counted : request.dataLength = setupAnswer request.setup := by
      rw [Request.dataLength, if_neg unlink, if_neg valid, if_pos control_endpoint]
    have answered := control_answer request.setup request.payload session.rumble
    split
    · next data rumble asked =>
      rw [asked] at answered
      have same : data.length = request.dataLength := answered.trans counted.symm
      apply answers_replyHeader command 0 _ same
      intro inward
      have small := setupAnswer_le request.setup
      have direction : ¬ (readHeader request.header).direction = 0 := inward
      rw [if_neg direction, toNat_length (by omega)]
    · next errno asked =>
      rw [asked] at answered
      exact refused (counted.trans answered) _
  next other_endpoint =>
  change ¬ request.endpoint = 0 at other_endpoint
  have rest : request.dataLength =
      if request.endpoint = 4 ∧ request.direction = 1 then min request.length 64 else 0 := by
    rw [Request.dataLength, if_neg unlink, if_neg valid, if_neg other_endpoint]
  split
  · next interrupt_in =>
    change request.endpoint = 4 ∧ request.direction = 1 at interrupt_in
    have counted : ((stampInput report session.counter).toList.take request.length).length =
        request.dataLength := by
      rw [rest, if_pos interrupt_in, List.length_take, Vector.length_toList]
    apply answers_replyHeader command 0 _ counted
    intro _
    have small : ((stampInput report session.counter).toList.take request.length).length ≤ 64 := by
      rw [List.length_take, Vector.length_toList]
      omega
    exact toNat_length (by omega)
  next not_in =>
  change ¬ (request.endpoint = 4 ∧ request.direction = 1) at not_in
  have none : request.dataLength = 0 := by rw [rest, if_neg not_in]
  split
  · next interrupt_out =>
    exact answers_replyHeader command 0 _ none.symm
      fun inward => absurd interrupt_out.2 inward
  · exact refused none _

theorem serve_handles (reports : Nat → Vector UInt8 64) :
    (serve reports).Handles Request.bytes Answers := by
  intro session request rest
  exact ⟨_, _, turn_request reports session request rest, respond_answers _ session request⟩

/-! ## The end of the stream -/

/-- A stream that does not begin with a request, and what `serve` returns there. -/
inductive Ends (tail : List UInt8) : Except ServeError Unit → Prop where
  | closed (short : tail.length < 48) : Ends tail (.ok ())
  | command (whole : 48 ≤ tail.length) (submit : beWord tail 0 ≠ cmdSubmit)
      (unlink : beWord tail 0 ≠ cmdUnlink) : Ends tail (.error invalidRequest)
  | oversized (whole : 48 ≤ tail.length) (submit : beWord tail 0 = cmdSubmit)
      (large : 4096 < (beWord tail 24).toNat) : Ends tail (.error oversizedTransfer)
  | truncated (whole : 48 ≤ tail.length) (submit : beWord tail 0 = cmdSubmit)
      (fits : (beWord tail 24).toNat ≤ 4096) (direction : beWord tail 12 = 0)
      (short : tail.length < 48 + (beWord tail 24).toNat) : Ends tail (.error unexpectedEof)

/-- The words of the header, read from the whole stream. -/
theorem beWord_take {input : List UInt8} {offset : Nat} (whole : 48 ≤ input.length)
    (within : offset + 4 ≤ 48) : beWord (input.take 48) offset = beWord input offset := by
  have front : offset + 4 ≤ (input.take 48).length := by
    rw [List.length_take]
    omega
  rw [← beWord_append_left front (input.drop 48), List.take_append_drop]

theorem turn_ends (reports : Nat → Vector UInt8 64) (session : Session) {tail : List UInt8}
    {result : Except ServeError Unit} (ends : Ends tail result) :
    turn reports session tail = .stop result := by
  have distinct : cmdSubmit ≠ cmdUnlink := by decide
  cases ends with
  | closed short => rw [turn, if_pos short]
  | command whole submit unlink =>
    simp only [turn, beWord_take whole (show 0 + 4 ≤ 48 by omega)]
    rw [if_neg (by omega), if_neg unlink, if_pos submit]
  | oversized whole submit large =>
    simp only [turn, beWord_take whole (show 0 + 4 ≤ 48 by omega),
      beWord_take whole (show 24 + 4 ≤ 48 by omega), submit]
    rw [if_neg (by omega), if_neg distinct, if_neg (by simp), if_pos large]
  | truncated whole submit fits direction short =>
    have missing : (tail.drop 48).length < outgoing 0 (beWord tail 24).toNat := by
      rw [List.length_drop, outgoing, if_pos rfl]
      omega
    simp only [turn, beWord_take whole (show 0 + 4 ≤ 48 by omega), readHeader,
      beWord_take whole (show 24 + 4 ≤ 48 by omega), submit,
      beWord_take whole (show 12 + 4 ≤ 48 by omega), direction]
    rw [if_neg (by omega), if_neg distinct, if_neg (by simp), if_neg (by omega), if_pos missing]

/-- The request at the beginning of a stream whose header it is, cut off behind its bytes. -/
theorem begins_of_header {input : List UInt8} (whole : 48 ≤ input.length) (payload : Nat)
    (command : beWord input 0 = cmdSubmit ∨ beWord input 0 = cmdUnlink)
    (transfer : beWord input 0 = cmdSubmit → (beWord input 24).toNat ≤ 4096)
    (counted : payload =
      if beWord input 0 = cmdSubmit then outgoing (beWord input 12) (beWord input 24).toNat else 0)
    (enough : 48 + payload ≤ input.length) :
    ∃ (request : Request) (rest : List UInt8), input = request.bytes ++ rest := by
  refine ⟨⟨input.take 48, (input.drop 48).take payload, ?_, ?_, ?_, ?_⟩,
    (input.drop 48).drop payload, ?_⟩
  · rw [List.length_take]
    omega
  · rwa [beWord_take whole (by omega)]
  · rwa [beWord_take whole (by omega), beWord_take whole (by omega)]
  · rw [List.length_take, List.length_drop, beWord_take whole (by omega),
      beWord_take whole (by omega), beWord_take whole (by omega), ← counted]
    omega
  · rw [Request.bytes, List.append_assoc, List.take_append_drop, List.take_append_drop]

/-- Every stream begins with a request, or it is an ending. -/
theorem begins (input : List UInt8) :
    (∃ (request : Request) (rest : List UInt8), input = request.bytes ++ rest) ∨
      ∃ result, Ends input result := by
  by_cases whole : 48 ≤ input.length
  swap
  · exact .inr ⟨_, .closed (by omega)⟩
  by_cases unlink : beWord input 0 = cmdUnlink
  · have other : ¬ beWord input 0 = cmdSubmit := by
      rw [unlink]
      decide
    exact .inl (begins_of_header whole 0 (.inr unlink) (fun submit => absurd submit other)
      (by rw [if_neg other]) whole)
  by_cases submit : beWord input 0 = cmdSubmit
  swap
  · exact .inr ⟨_, .command whole submit unlink⟩
  by_cases fits : (beWord input 24).toNat ≤ 4096
  swap
  · exact .inr ⟨_, .oversized whole submit (by omega)⟩
  by_cases enough : 48 + outgoing (beWord input 12) (beWord input 24).toNat ≤ input.length
  · exact .inl (begins_of_header whole _ (.inl submit) (fun _ => fits) (if_pos submit).symm enough)
  · have direction : beWord input 12 = 0 := by
      by_contra inward
      rw [outgoing, if_neg inward] at enough
      omega
    rw [outgoing, if_pos direction] at enough
    exact .inr ⟨_, .truncated whole submit fits direction (by omega)⟩

/-! ## The whole stream -/

/-- Every stream is a list of requests and an ending.  The requests are answered one by one
    and in order, each turn beginning where the request before it ends, and the ending alone
    decides the result: no error exactly for an end at or inside a header. -/
theorem serve_answers_requests (reports : Nat → Vector UInt8 64) (session : Session) :
    (∀ (requests : List Request) (tail : List UInt8), ∃ next replies,
      List.Forall₂ Answers requests replies ∧
        (serve reports).run session (requests.flatMap Request.bytes ++ tail) =
          (replies.flatten ++ ((serve reports).run next tail).1,
            ((serve reports).run next tail).2)) ∧
    (∀ (requests : List Request) (tail : List UInt8) (result : Except ServeError Unit),
      Ends tail result → ∃ replies, List.Forall₂ Answers requests replies ∧
        (serve reports).run session (requests.flatMap Request.bytes ++ tail) =
          (replies.flatten, result)) ∧
    (∀ input : List UInt8, ∃ (requests : List Request) (tail : List UInt8) (result : _),
      input = requests.flatMap Request.bytes ++ tail ∧ Ends tail result) ∧
    ∀ input : List UInt8, ((serve reports).run session input).2 = .ok () ↔
      ∃ (requests : List Request) (tail : List UInt8),
        input = requests.flatMap Request.bytes ++ tail ∧ tail.length < 48 := by
  -- the run over the requests, the run to the ending, and that every stream is both
  have answered := Server.run_requests (serve_handles reports) session
  have ended : ∀ (requests : List Request) (tail : List UInt8) (result : Except ServeError Unit),
      Ends tail result → ∃ replies, List.Forall₂ Answers requests replies ∧
        (serve reports).run session (requests.flatMap Request.bytes ++ tail) =
          (replies.flatten, result) := by
    intro requests tail result ends
    exact Server.run_ending (serve_handles reports) session requests
      fun state => turn_ends reports state ends
  have splits := Server.exists_requests Request.bytes_ne_nil begins
  refine ⟨answered, ended, splits, ?_⟩
  intro input
  constructor
  · intro success
    obtain ⟨requests, tail, result, rfl, ends⟩ := splits input
    obtain ⟨replies, _, ran⟩ := ended requests tail result ends
    rw [ran] at success
    subst success
    cases ends with
    | closed short => exact ⟨requests, tail, rfl, short⟩
  · rintro ⟨requests, tail, rfl, short⟩
    obtain ⟨replies, _, ran⟩ := ended requests tail _ (.closed short)
    rw [ran]

/-- A request for the 18 bytes of the device descriptor, in a transfer of this length. -/
def deviceDescriptorRequest (length : UInt32) (fits : length.toNat ≤ 4096) : Request where
  header := beWords [cmdSubmit, 1, devId, 1, 0, 0, length, 0, 0, 0] ++ [0x80, 6, 0, 1, 0, 0, 18, 0]
  payload := []
  header_length := by simp
  command := .inl (beWord_beWords 0 rfl _)
  transfer := by
    intro _
    rwa [show 24 = 4 * 6 from rfl, beWord_beWords 6 rfl]
  payload_length := by
    rw [show 12 = 4 * 3 from rfl, beWord_beWords 3 rfl]
    simp [outgoing]

def inputRequest : Request where
  header := beWords [cmdSubmit, 1, devId, 1, 4, 0, 64, 0, 0, 0, 0, 0]
  payload := []
  header_length := rfl
  command := .inl rfl
  transfer := fun _ => by decide
  payload_length := rfl

def unlinkRequest : Request where
  header := beWords [cmdUnlink, 2, devId, 0, 0, 1, 0, 0, 0, 0, 0, 0]
  payload := []
  header_length := rfl
  command := .inr rfl
  transfer := fun _ => by decide
  payload_length := rfl

/-- The device descriptor, an input report, the end of a transfer, and half a header. -/
theorem serve_answers_requests_enumerates : ∃ replies : List (List UInt8),
    List.Forall₂ Answers [deviceDescriptorRequest 18 (by decide), inputRequest, unlinkRequest]
      replies ∧
    (serve fun _ => .replicate 64 0).run ⟨0, (0, 0), 0⟩
        ([deviceDescriptorRequest 18 (by decide), inputRequest, unlinkRequest].flatMap
          Request.bytes ++ [0, 0, 0, 1]) = (replies.flatten, .ok ()) ∧
    replies.map List.length = [48 + 18, 48 + 64, 48] := by
  obtain ⟨_, ended, _, _⟩ := serve_answers_requests (fun _ => .replicate 64 0) ⟨0, (0, 0), 0⟩
  obtain ⟨replies, answered, ran⟩ := ended
    [deviceDescriptorRequest 18 (by decide), inputRequest, unlinkRequest] [0, 0, 0, 1] _
    (.closed (by decide))
  refine ⟨replies, answered, ran, (lengths_answers answered).trans ?_⟩
  decide +kernel

/-! ## Decoding a reply

The peer takes the length of the data from the reply, and whether there is data at all from
its own request.
-/

/-- A peer that has sent the request can decode the reply. -/
def Decodable (request : Request) (reply : List UInt8) : Prop :=
  (beWord reply 24).toNat ≤ request.length ∧
    reply.length = 48 + if request.direction = 1 then (beWord reply 24).toNat else 0

/-- The header of the request leaves room for the data that its setup packet asks for. -/
def Request.Consistent (request : Request) : Prop :=
  beWord request.header 8 = devId →
    (beWord request.header 32 = 0 ∨ beWord request.header 32 = 0xffffffff) →
    request.endpoint = 0 →
    setupAnswer request.setup ≤ if request.direction = 1 then request.length else 0

/-- The length in the reply, against the bytes behind its header. -/
theorem decodable_replyHeader (request : Request) (command : UInt32) (header : Header)
    (status : UInt32) {actualLength : Nat} (small : actualLength < 4294967296) (data : List UInt8) :
    Decodable request (replyHeader command header status (.ofNat actualLength) ++ data) ↔
      actualLength ≤ request.length ∧
        data.length = if request.direction = 1 then actualLength else 0 := by
  have word : (beWord (replyHeader command header status (.ofNat actualLength) ++ data) 24).toNat =
      actualLength := by
    rw [beWord_replyHeader 6 rfl data, UInt32.toNat_ofNat', Nat.mod_eq_of_lt small]
  simp only [Decodable, word, List.length_append, length_replyHeader]
  constructor
  · rintro ⟨fits, counted⟩
    exact ⟨fits, by omega⟩
  · rintro ⟨fits, counted⟩
    exact ⟨fits, by omega⟩

theorem respond_decodable (report : Vector UInt8 64) (session : Session) (request : Request)
    (submitted : beWord request.header 0 = cmdSubmit)
    (direction : request.direction = 0 ∨ request.direction = 1) :
    Decodable request (respond report session request).2 ↔ request.Consistent := by
  have other : beWord request.header 0 ≠ cmdUnlink := by
    rw [submitted]
    decide
  have bound : request.length ≤ 4096 := request.transfer submitted
  -- an error reply has no data, whatever was asked for
  have refused : ∀ errno, Decodable request (writeError (readHeader request.header) errno) := by
    intro errno
    have decodable := decodable_replyHeader request retSubmit (readHeader request.header)
      (-errno).toUInt32 (show 0 < 4294967296 by omega) []
    rw [List.append_nil] at decodable
    exact decodable.mpr ⟨Nat.zero_le _, by simp⟩
  rw [respond, if_neg other, submit]
  by_cases invalid : (readHeader request.header).devid ≠ devId ∨
      ¬ (beWord request.header 32 = 0 ∨ beWord request.header 32 = 0xffffffff)
  · rw [if_pos invalid]
    refine iff_of_true (refused _) ?_
    intro devid packets
    exact absurd invalid (not_or.mpr ⟨not_not_intro devid, not_not_intro packets⟩)
  rw [if_neg invalid]
  obtain ⟨devid, packets⟩ := not_or.mp invalid
  by_cases endpoint : (readHeader request.header).endpoint = 0
  · -- a control request: the setup packet cuts the data, the header of the request does not
    rw [if_pos endpoint]
    have known : request.Consistent ↔
        setupAnswer request.setup ≤ if request.direction = 1 then request.length else 0 := by
      constructor
      · intro consistent
        exact consistent (not_not.mp devid) (not_not.mp packets) endpoint
      · intro room _ _ _
        exact room
    have answered := control_answer request.setup request.payload session.rumble
    rw [known]
    cases asked : control request.setup request.payload session.rumble with
    | error errno =>
      rw [asked] at answered
      refine iff_of_true (refused _) ?_
      rw [show setupAnswer request.setup = 0 from answered]
      exact Nat.zero_le _
    | ok result =>
      obtain ⟨data, rumble⟩ := result
      rw [asked] at answered
      have counted : data.length = setupAnswer request.setup := answered
      have short := setupAnswer_le request.setup
      rcases direction with outward | inward
      · have zero : (readHeader request.header).direction = 0 := outward
        simp only [zero, writeReply, if_true]
        rw [decodable_replyHeader request _ _ _ (by omega), outward, counted]
        simp
      · have one : (readHeader request.header).direction = 1 := inward
        have nonzero : ¬ (1 : UInt32) = 0 := by decide
        simp only [one, writeReply, if_neg nonzero]
        rw [decodable_replyHeader request _ _ _ (by omega), inward, counted]
        simp
  -- every other endpoint is answered with the length of the header
  rw [if_neg endpoint]
  have consistent : request.Consistent := fun _ _ control => absurd control endpoint
  refine iff_of_true ?_ consistent
  by_cases interrupt_in : (readHeader request.header).endpoint = 4 ∧
      (readHeader request.header).direction = 1
  · have inward : request.direction = 1 := interrupt_in.2
    rw [if_pos interrupt_in]
    simp only [writeReply]
    have fits : ((stampInput report session.counter).toList.take request.length).length ≤
        request.length := List.length_take_le _ _
    rw [decodable_replyHeader request _ _ _ (by omega), if_pos inward]
    exact ⟨fits, rfl⟩
  rw [if_neg interrupt_in]
  by_cases interrupt_out : (readHeader request.header).endpoint = 3 ∧
      (readHeader request.header).direction = 0
  · have outward : request.direction = 0 := interrupt_out.2
    rw [if_pos interrupt_out]
    simp only [writeReply]
    rw [decodable_replyHeader request _ _ _ (by omega), outward]
    exact ⟨Nat.le_refl _, by simp⟩
  · rw [if_neg interrupt_out]
    exact refused _

/-- The reply of a submitted transfer can be decoded exactly when the header of the request
    leaves room for the answer to its setup packet. -/
theorem reply_decodable_iff (reports : Nat → Vector UInt8 64) (session : Session)
    (request : Request) (rest : List UInt8) (submitted : beWord request.header 0 = cmdSubmit)
    (direction : request.direction = 0 ∨ request.direction = 1) :
    ∃ next reply, turn reports session (request.bytes ++ rest) = .next next reply rest ∧
      (Decodable request reply ↔ request.Consistent) :=
  ⟨_, _, turn_request reports session request rest,
    respond_decodable (reports session.inputs) session request submitted direction⟩

theorem reply_decodable_iff_descriptor :
    ∃ next reply, turn (fun _ => .replicate 64 0) ⟨0, (0, 0), 0⟩
        ((deviceDescriptorRequest 18 (by decide)).bytes ++ []) = .next next reply [] ∧
      (Decodable (deviceDescriptorRequest 18 (by decide)) reply ↔
        (deviceDescriptorRequest 18 (by decide)).Consistent) :=
  reply_decodable_iff _ _ _ [] (beWord_beWords 0 rfl _)
    (.inr (beWord_beWords 3 rfl _))

/-- The device descriptor in a transfer of eight bytes: the reply says 18 bytes. -/
theorem descriptor_exceeds_transfer :
    ¬ ∀ (reports : Nat → Vector UInt8 64) (session next : Session) (request : Request)
        (rest reply : List UInt8), beWord request.header 0 = cmdSubmit →
      (request.direction = 0 ∨ request.direction = 1) →
      turn reports session (request.bytes ++ rest) = .next next reply rest →
      Decodable request reply := by
  intro decodable
  have first := decodable (fun _ => .replicate 64 0) ⟨0, (0, 0), 0⟩ _
    (deviceDescriptorRequest 8 (by decide)) [] _ (by decide) (.inr (by decide))
    (turn_request _ _ _ [])
  exact absurd first.1 (by decide +kernel)

end Scd.Daemon.Usbip
