import Scd.Daemon.Ports
import Scd.Foundation.Path
import Scd.Verified.RumbleRelay

/-! # Gamepads come and go

Whatever the kernel answers and whatever other programs do to the ports: the host has one
gamepad of the daemon at most, the daemon touches no port but its own, and a daemon that has
ended leaves nothing plugged in but what the kernel refused to detach.  `Claim` is the device
that the daemon answers for; each function takes a claim to another one.
-/

namespace Scd.Daemon.Ports

open Scd.Core Scd.Foundation Dialogue

/-! ## What the daemon has -/

/-- The device that the daemon answers for. -/
inductive Claim where
  | nothing
  | port (number : UInt16)
  | xbox
  deriving DecidableEq

/-- The host has of the daemon what it claims, but for what others took from it, and for the
    ports that the kernel refused to detach. -/
structure Host.Holds (claim : Claim) (host : Host) : Prop where
  own : ∀ port, host.holder port = some .daemon → claim = .port port ∨ port ∈ host.refused
  kept : ∀ port, claim = .port port → host.holder port = some .daemon ∨ port ∈ host.revoked
  attached : ∀ port, claim = .port port → port ∉ host.refused
  lost : ∀ port, port ∈ host.revoked → claim = .port port
  xboxes : host.xboxes = if claim = .xbox then 1 else 0

/-- The port that the status which was read last lists as free. -/
def Host.Listed (host : Host) (port : UInt16) : Prop :=
  ∃ status, host.status = some status ∧ firstFree status = some (some port)

/-- The calls that the daemon may make.  It detaches what it has attached, and has nothing when
    it plugs something in. -/
def Host.Permits (host : Host) : Call → Prop
  | .attach port => host.Holds .nothing ∧ host.Listed port
  | .buildXbox => host.Holds .nothing
  | .detach port => host.holder port = some .daemon ∨ port ∈ host.revoked
  | .closeXbox => 0 < host.xboxes
  | _ => True

/-- A call that may be made, after which the host has one device of the daemon at most. -/
def Allowed (request : Call) (before after : Host) : Prop :=
  before.Permits request ∧ ∃ claim, after.Holds claim

namespace Host

variable {host after : Host} {claim : Claim}

/-- Who has a port after the daemon has lost one. -/
theorem hold_daemon {holder : Option Holder} (strange : holder ≠ some .daemon) (host : Host)
    (port other : UInt16) : (host.hold port holder).holder other = some .daemon ↔
      other ≠ port ∧ host.holder other = some .daemon := by
  by_cases same : other = port
  · simp [hold, same, strange]
  · simp [hold, same]

/-- A port that the daemon does not claim goes from hand to hand. -/
theorem Holds.hold (holds : host.Holds claim) {port : UInt16} {holder : Option Holder}
    (unclaimed : claim = .port port → host.holder port ≠ some .daemon)
    (strange : holder ≠ some .daemon) : (host.hold port holder).Holds claim := by
  constructor
  case own =>
    intro other mine
    exact holds.own other ((hold_daemon strange host port other).mp mine).2
  case kept =>
    intro other claimed
    refine (holds.kept other claimed).imp_left fun mine => ?_
    have differs : other ≠ port := by
      rintro rfl
      exact unclaimed claimed mine
    exact (hold_daemon strange host port other).mpr ⟨differs, mine⟩
  case attached => exact holds.attached
  case lost => exact holds.lost
  case xboxes => exact holds.xboxes

theorem Holds.others (holds : host.Holds claim) (others : Others host after) :
    after.Holds claim := by
  cases others with
  | attach free => exact holds.hold (by simp [free]) (by simp)
  | detach foreign =>
    refine holds.hold (fun claimed => ?_) (by simp)
    cases foreign with
    | inl other => simp [other]
    | inr refused => exact absurd refused (holds.attached _ claimed)
  | @revoke port mine served =>
    have claimed : claim = .port port := (holds.own port mine).resolve_right served
    constructor
    case own =>
      intro other still
      exact holds.own other ((hold_daemon (by simp) host port other).mp still).2
    case kept =>
      intro other same
      cases claimed.symm.trans same
      exact .inr List.mem_cons_self
    case attached => exact holds.attached
    case lost =>
      intro other revoked
      cases revoked with
      | head => exact claimed
      | tail _ before => exact holds.lost other before
    case xboxes => exact holds.xboxes

theorem holds_stable (claim : Claim) : world.Stable (Holds claim) :=
  fun others holds => Holds.others holds others

/-! ## Calls -/

/-- A free port is attached. -/
theorem Holds.attach (holds : host.Holds .nothing) (port : UInt16) :
    Holds (.port port) { host.hold port (some .daemon) with
      refused := host.refused.filter (· ≠ port)
      revoked := host.revoked.filter (· ≠ port) } := by
  constructor
  case own =>
    intro other mine
    by_cases same : other = port
    · exact .inl (congrArg Claim.port same.symm)
    · have before : host.holder other = some .daemon := by simpa [Host.hold, same] using mine
      have refused := (holds.own other before).resolve_left nofun
      exact .inr (List.mem_filter.mpr ⟨refused, by simpa using same⟩)
  case kept =>
    intro other claimed
    cases claimed
    exact .inl (if_pos rfl)
  case attached =>
    intro other claimed
    cases claimed
    simp
  case lost =>
    intro other revoked
    cases holds.lost other (List.mem_filter.mp revoked).1
  case xboxes => exact holds.xboxes

/-- A port is given up, whatever the kernel answers. -/
theorem Holds.detach {port : UInt16} {answer : Except ErrorKind Unit}
    (holds : host.Holds (.port port)) (answers : Answers (.detach port) host answer after) :
    after.Holds .nothing := by
  -- others have taken no other port
  have kept : ∀ other, other ∉ host.revoked.filter (· ≠ port) := by
    intro other member
    obtain ⟨revoked, differs⟩ := List.mem_filter.mp member
    cases holds.lost other revoked
    simp at differs
  cases answers with
  | detached =>
    constructor
    case own =>
      intro other mine
      obtain ⟨differs, mine⟩ := (hold_daemon (by simp) host port other).mp mine
      cases holds.own other mine with
      | inl claimed => cases claimed; exact absurd rfl differs
      | inr refused => exact .inr refused
    case kept => nofun
    case attached => nofun
    case lost => exact fun other revoked => absurd revoked (kept other)
    case xboxes => exact holds.xboxes
  | notDetached =>
    constructor
    case own =>
      intro other mine
      cases holds.own other mine with
      | inl claimed => cases claimed; exact .inr List.mem_cons_self
      | inr refused => exact .inr (List.mem_cons_of_mem _ refused)
    case kept => nofun
    case attached => nofun
    case lost => exact fun other revoked => absurd revoked (kept other)
    case xboxes => exact holds.xboxes

theorem Holds.build (holds : host.Holds .nothing) :
    Holds .xbox { host with xboxes := host.xboxes + 1 } where
  own port mine := (holds.own port mine).imp_left nofun
  kept := nofun
  attached := nofun
  lost port revoked := nomatch holds.lost port revoked
  xboxes := congrArg (· + 1) holds.xboxes

theorem Holds.close (holds : host.Holds .xbox) :
    Holds .nothing { host with xboxes := host.xboxes - 1 } where
  own port mine := (holds.own port mine).imp_left nofun
  kept := nofun
  attached := nofun
  lost port revoked := nomatch holds.lost port revoked
  xboxes := congrArg (· - 1) holds.xboxes

end Host

/-- A call that plugs nothing in, and nothing out. -/
def Call.Quiet : Call → Prop
  | .pair | .tryClone | .spawn | .setNonblocking | .readStatus _ => True
  | .attach _ | .detach _ | .buildXbox | .closeXbox => False

namespace Host

variable {host after : Host} {claim : Claim} {request : Call} {answer : Answer request}

theorem Holds.quiet (holds : host.Holds claim) (quiet : request.Quiet)
    (answers : Answers request host answer after) : after.Holds claim := by
  cases answers with
  | pair | tryClone | spawn | unreadable | setNonblocking => exact holds
  | readStatus => exact ⟨holds.own, holds.kept, holds.attached, holds.lost, holds.xboxes⟩
  | attached | notAttached | detached | notDetached | built | notBuilt | closed => cases quiet

theorem permits_quiet (host : Host) (quiet : request.Quiet) : host.Permits request := by
  cases request with
  | attach | detach | buildXbox | closeXbox => cases quiet
  | pair | tryClone | spawn | setNonblocking | readStatus => trivial

end Host

/-! ## Functions -/

variable {α : Type} {request : Call} {rest : Answer request → Script α} {post : α → Host → Prop}

/-- A call that takes one claim to another, depending on its answer. -/
theorem ensures_call {claim : Claim} (next : Answer request → Claim)
    (permits : ∀ {host : Host}, host.Holds claim → host.Permits request)
    (moves : ∀ {host answer after}, host.Holds claim → Host.Answers request host answer after →
      after.Holds (next answer))
    (continues : ∀ answer, Ensures Host.world Allowed (Host.Holds (next answer)) (rest answer)
      post) : Ensures Host.world Allowed (Host.Holds claim) (.call request rest) post := by
  refine .call (fun answer => Host.Holds (next answer)) (Host.holds_stable claim) ?_ continues
  intro host answer after holds answers
  have moved := moves holds answers
  exact ⟨⟨permits holds, _, moved⟩, moved⟩

theorem ensures_quiet {claim : Claim} (quiet : request.Quiet)
    (continues : ∀ answer, Ensures Host.world Allowed (Host.Holds claim) (rest answer) post) :
    Ensures Host.world Allowed (Host.Holds claim) (.call request rest) post :=
  ensures_call (fun _ => claim) (fun _ => Host.permits_quiet _ quiet)
    (fun holds answers => holds.quiet quiet answers) continues

theorem ensures_done {claim : Claim} {value : α} (holds : ∀ host, host.Holds claim → post value host) :
    Ensures Host.world Allowed (Host.Holds claim) (.done value) post :=
  .done (Host.holds_stable claim) holds

theorem ensures_settled {claim : Claim} {facts : Prop} {value : α}
    (holds : ∀ host : Host, host.Holds claim → facts → post value host) :
    Ensures Host.world Allowed (fun host => host.Holds claim ∧ facts) (.done value) post :=
  .done (fun others reached => ⟨reached.1.others others, reached.2⟩)
    fun host reached => holds host reached.1 reached.2

/-- Others do not touch what the daemon has read. -/
theorem read_stable (answer : Except ErrorKind (List Char)) : Host.world.Stable fun host =>
    host.Holds .nothing ∧ ∀ status, answer = .ok status → host.status = some status := by
  rintro host after others ⟨holds, read⟩
  refine ⟨holds.others others, ?_⟩
  cases others <;> exact read

theorem listed_stable (result : Except ErrorKind UInt16) : Host.world.Stable fun host =>
    host.Holds .nothing ∧ ∀ port, result = .ok port → host.Listed port := by
  rintro host after others ⟨holds, listed⟩
  refine ⟨holds.others others, ?_⟩
  cases others <;> exact listed

/-- A free port is one that the status lists, as it was read last. -/
theorem freePortFrom_ensures (left index : Nat) :
    Ensures Host.world Allowed (Host.Holds .nothing) (freePortFrom left index) fun result host =>
      host.Holds .nothing ∧ ∀ port, result = .ok port → host.Listed port := by
  induction left generalizing index with
  | zero => exact ensures_done fun host holds => ⟨holds, nofun⟩
  | succ left inductionHypothesis =>
    simp only [freePortFrom, readStatus, ask_bind]
    refine .call (fun answer host => host.Holds .nothing ∧
      ∀ status, answer = .ok status → host.status = some status) (Host.holds_stable _) ?_ ?_
    · intro host answer after holds answers
      have quiet : (Call.readStatus index).Quiet := trivial
      have still := holds.quiet quiet answers
      refine ⟨⟨trivial, _, still⟩, still, ?_⟩
      cases answers with
      | readStatus => rintro status ⟨rfl⟩; rfl
      | unreadable => nofun
    · intro answer
      cases answer with
      | error error =>
        dsimp only
        split <;> exact .done (read_stable _) fun host reached => ⟨reached.1, nofun⟩
      | ok status =>
        dsimp only
        split
        · next port first =>
          refine .done (read_stable _) fun host reached => ⟨reached.1, ?_⟩
          rintro other ⟨rfl⟩
          exact ⟨status, reached.2 status rfl, first⟩
        · exact .done (read_stable _) fun host reached => ⟨reached.1, nofun⟩
        · exact fun host reached => inductionHypothesis (index + 1) host reached.1

/-- What is claimed after a function that attaches a port. -/
def portClaim : Except ErrorKind UInt16 → Claim
  | .ok port => .port port
  | .error _ => .nothing

theorem attachWithin_ensures (tries : Nat) :
    Ensures Host.world Allowed (Host.Holds .nothing) (attachWithin tries) fun result host =>
      host.Holds (portClaim result) := by
  induction tries with
  | zero => exact ensures_done fun _ => id
  | succ tries inductionHypothesis =>
    refine .bind _ (freePortFrom_ensures (2 ^ 31) 0) fun result => ?_
    cases result with
    | error error => exact .done (listed_stable _) fun _ reached => reached.1
    | ok port =>
      refine .call (fun answer host => host.Holds (match answer with
        | .ok () => .port port
        | .error _ => .nothing)) (listed_stable _) ?_ ?_
      · rintro host answer after ⟨holds, listed⟩ answers
        have permits : host.Permits (.attach port) := ⟨holds, listed port rfl⟩
        cases answers with
        | attached => exact ⟨⟨permits, _, holds.attach port⟩, holds.attach port⟩
        | notAttached => exact ⟨⟨permits, _, holds⟩, holds⟩
      · intro answer
        cases answer with
        | ok => exact ensures_done fun _ => id
        | error error =>
          cases error with
          -- somebody else was faster: the status is read again
          | resourceBusy => exact inductionHypothesis
          | _ => exact ensures_done fun _ => id

theorem detach_ensures (port : UInt16) :
    Ensures Host.world Allowed (Host.Holds (.port port)) (detach port) fun _ host =>
      host.Holds .nothing :=
  ensures_call (fun _ => .nothing) (fun holds => holds.kept port rfl)
    (fun holds answers => holds.detach answers) fun _ => ensures_done fun _ => id

def transportClaim : Except ErrorKind Transport → Claim
  | .ok transport => .port transport.port
  | .error _ => .nothing

theorem new_ensures (report : Vector UInt8 64) :
    Ensures Host.world Allowed (Host.Holds .nothing) (Transport.new report) fun result host =>
      host.Holds (transportClaim result) := by
  simp only [Transport.new, pair, tryClone, spawn, ask_bind]
  refine ensures_quiet trivial fun paired => ?_
  cases paired with
  | error => exact ensures_done fun _ => id
  | ok =>
    refine ensures_quiet trivial fun cloned => ?_
    cases cloned with
    | error => exact ensures_done fun _ => id
    | ok =>
      refine .bind _ (attachWithin_ensures 8) fun attached => ?_
      cases attached with
      | error => exact ensures_done fun _ => id
      | ok port =>
        refine ensures_quiet trivial fun spawned => ?_
        cases spawned with
        | ok => exact ensures_done fun _ => id
        -- the port is given up again
        | error => exact .bind _ (detach_ensures port) fun _ => ensures_done fun _ => id

def Pad.claim : Pad → Claim
  | .xbox => .xbox
  | .dualShock4 transport => .port transport.port

def Plugs.claim (plugs : Plugs) : Claim := (plugs.gamepad.map Pad.claim).getD .nothing

theorem closeXbox_ensures :
    Ensures Host.world Allowed (Host.Holds .xbox) closeXbox fun _ host => host.Holds .nothing := by
  refine ensures_call (fun _ => .nothing) (fun holds => ?_) (fun holds answers => ?_)
    fun _ => ensures_done fun _ => id
  · have one := holds.xboxes
    rw [if_pos rfl] at one
    show 0 < Host.xboxes _
    omega
  · cases answers with
    | closed => exact holds.close

theorem newXbox_ensures :
    Ensures Host.world Allowed (Host.Holds .nothing) Pad.newXbox fun result host =>
      host.Holds (match result with
        | .ok _ => .xbox
        | .error _ => .nothing) ∧ ∀ pad, result = .ok pad → pad = .xbox := by
  simp only [Pad.newXbox, buildXbox, setNonblocking, ask_bind]
  refine ensures_call (fun answer => match answer with
    | .ok () => .xbox
    | .error _ => .nothing) id (fun holds answers => ?_) fun built => ?_
  · cases answers with
    | built => exact holds.build
    | notBuilt => exact holds
  · cases built with
    | error => exact ensures_done fun _ holds => ⟨holds, nofun⟩
    | ok =>
      refine ensures_quiet trivial fun answer => ?_
      cases answer with
      | ok => exact ensures_done fun _ holds => ⟨holds, fun _ same => (Except.ok.inj same).symm⟩
      | error =>
        exact .bind _ closeXbox_ensures fun _ => ensures_done fun _ holds => ⟨holds, nofun⟩

def padClaim : Except ErrorKind (Option Pad) → Claim
  | .ok pad => (pad.map Pad.claim).getD .nothing
  | .error _ => .nothing

theorem plug_ensures (gamepad : Gamepad) :
    Ensures Host.world Allowed (Host.Holds .nothing) (Plugs.plug gamepad) fun result host =>
      host.Holds (padClaim result) ∧
        ∀ pad, result = .ok pad → pad.map Pad.kind = (RumblePad.new gamepad).map RumblePad.kind := by
  cases gamepad with
  | none =>
    refine ensures_done fun _ holds => ⟨holds, ?_⟩
    rintro pad ⟨⟩
    rfl
  | xbox =>
    refine .bind _ newXbox_ensures fun result => ?_
    cases result with
    | error => exact ensures_settled fun _ holds _ => ⟨holds, nofun⟩
    | ok pad =>
      refine ensures_settled fun host holds same => ?_
      obtain rfl := same pad rfl
      refine ⟨holds, ?_⟩
      rintro pad ⟨⟩
      rfl
  | dualShock4 =>
    simp only [Plugs.plug, Pad.newDualShock4]
    refine .bind (fun result host => host.Holds (padClaim (result.map some)) ∧
      ∀ pad, result = .ok pad → pad.kind = .dualShock4) ?_ fun result => ?_
    · refine .bind _ (new_ensures _) fun result => ?_
      cases result with
      | error => exact ensures_done fun _ holds => ⟨holds, nofun⟩
      | ok transport =>
        refine ensures_done fun _ holds => ⟨holds, ?_⟩
        rintro pad ⟨⟩
        rfl
    · refine ensures_settled fun host holds kind => ⟨holds, fun pad same => ?_⟩
      cases result with
      | error => cases same
      | ok made =>
        cases same
        exact congrArg some (kind made rfl)

theorem drop_ensures (plugs : Plugs) :
    Ensures Host.world Allowed (Host.Holds plugs.claim) plugs.drop fun _ host =>
      host.Holds .nothing := by
  obtain ⟨gamepad, _, _⟩ := plugs
  match gamepad with
  | none => exact ensures_done fun _ => id
  | some .xbox => exact closeXbox_ensures
  | some (.dualShock4 transport) =>
    exact .bind _ (detach_ensures transport.port) fun _ => ensures_done fun _ => id

/-- The outputs have the gamepad that the loop believes them to have. -/
structure Plugs.Shows (plugs : Plugs) (outputs : RumbleOutputs) : Prop where
  kind : plugs.gamepad.map Pad.kind = outputs.gamepad.map RumblePad.kind
  gamepadType : plugs.gamepadType = outputs.gamepadType
  pendingRumbleStop : plugs.pendingRumbleStop = outputs.pendingRumbleStop

/-- How `Outputs::set_gamepad` ends. -/
def Changed (outputs : RumbleOutputs) (result : Except ErrorKind Unit × Plugs) (host : Host) :
    Prop :=
  host.Holds result.2.claim ∧ (result.1 = .ok () → result.2.Shows outputs)

theorem setGamepad_ensures {plugs : Plugs} {outputs : RumbleOutputs} (shows : plugs.Shows outputs)
    (gamepad : Gamepad) :
    Ensures Host.world Allowed (Host.Holds plugs.claim) (plugs.setGamepad gamepad)
      (Changed (outputs.setGamepad gamepad)) := by
  unfold Plugs.setGamepad RumbleOutputs.setGamepad
  rw [← shows.gamepadType]
  split
  · exact ensures_done fun _ holds => ⟨holds, fun _ => shows⟩
  · have plugged : plugs.gamepad.isSome = outputs.gamepad.isSome := by
      simpa using congrArg Option.isSome shows.kind
    -- the old gamepad is gone before there is a new one
    refine .bind _ (drop_ensures plugs) fun _ => .bind _ (plug_ensures gamepad) fun result => ?_
    cases result with
    | error => exact ensures_settled fun _ holds _ => ⟨holds, nofun⟩
    | ok pad =>
      refine ensures_settled fun _ holds kind => ⟨holds, fun _ => ?_⟩
      constructor
      case kind => exact kind pad rfl
      case gamepadType => rfl
      case pendingRumbleStop => rw [shows.pendingRumbleStop, plugged]

/-! ## The life of the outputs -/

/-- The outputs as the loop believes them to be. -/
def Label.next (outputs : RumbleOutputs) : Label → RumbleOutputs
  | .requested gamepad => outputs.setGamepad gamepad
  | .polled fetched => (outputs.pollRumble fetched).1
  | .answered _ _ => outputs

def believed (gamepad : Gamepad) (labels : List Label) : RumbleOutputs :=
  labels.foldl Label.next (.new gamepad)

theorem Plugs.Shows.poll {plugs : Plugs} {outputs : RumbleOutputs} (shows : plugs.Shows outputs)
    (fetched : Option (List FfEvent)) :
    { plugs with pendingRumbleStop := false }.Shows (outputs.pollRumble fetched).1 := by
  unfold RumbleOutputs.pollRumble
  split
  · exact ⟨shows.kind, shows.gamepadType, rfl⟩
  · next quiet =>
    have stop : false = outputs.pendingRumbleStop := by simpa using quiet
    split
    · exact ⟨shows.kind, shows.gamepadType, stop⟩
    · next pad present =>
      refine ⟨?_, shows.gamepadType, stop⟩
      rw [shows.kind, present]
      simp [RumblePad.kind_pollRumble]

/-- Where the daemon stands, the host has what it claims there, and what is left of the program
    is safe. -/
def Stage.Keeps (outputs : RumbleOutputs) (host : Host) : Stage → Prop
  | .resting plugs => host.Holds plugs.claim ∧ plugs.Shows outputs
  | .changing program => Safe Host.world Allowed (Changed outputs) program host
  | .dropping program => Safe Host.world Allowed (fun _ host => host.Holds .nothing) program host
  | .ended => host.Holds .nothing

structure System.Sound (outputs : RumbleOutputs) (system : System) : Prop where
  single : ∃ claim, system.host.Holds claim
  keeps : system.stage.Keeps outputs system.host

variable {outputs : RumbleOutputs} {system after : System} {labels : List Label}
  {gamepad : Gamepad} {taken : List UInt16}

theorem System.Sound.step (sound : system.Sound outputs) (step : System.Step system labels after) :
    after.Sound (labels.foldl Label.next outputs) := by
  cases step with
  | @others host after stage others =>
    obtain ⟨claim, holds⟩ := sound.single
    refine ⟨⟨claim, holds.others others⟩, ?_⟩
    have keeps := sound.keeps
    -- what is left of the program is safe whenever others have moved
    cases stage with
    | resting plugs => exact ⟨keeps.1.others others, keeps.2⟩
    | changing program => exact keeps.settle (.single others)
    | dropping program => exact keeps.settle (.single others)
    | ended => exact keeps.others others
  | requests =>
    exact ⟨sound.single, setGamepad_ensures sound.keeps.2 _ _ sound.keeps.1⟩
  | polls => exact ⟨sound.single, sound.keeps.1, sound.keeps.2.poll _⟩
  | changes answers | drops answers =>
    obtain ⟨allowed, safe⟩ := sound.keeps.answered answers
    exact ⟨allowed.2, safe⟩
  | changed =>
    have keeps : Safe Host.world Allowed (Changed outputs) _ _ := sound.keeps
    exact ⟨sound.single, keeps.finished.1, keeps.finished.2 rfl⟩
  | fails =>
    have keeps : Safe Host.world Allowed (Changed outputs) _ _ := sound.keeps
    exact ⟨sound.single, drop_ensures _ _ keeps.finished.1⟩
  | leaves => exact ⟨sound.single, drop_ensures _ _ sound.keeps.1⟩
  | ends =>
    have keeps : Safe Host.world Allowed (fun _ host => host.Holds .nothing) _ _ := sound.keeps
    exact ⟨sound.single, keeps.finished⟩

theorem System.Sound.start (taken : List UInt16) (gamepad : Gamepad) :
    (System.start taken gamepad).Sound (.new gamepad) := by
  have holds : (Host.occupied taken).Holds .nothing := by
    constructor
    case own =>
      intro port mine
      simp only [Host.occupied] at mine
      split at mine <;> cases mine
    case kept => nofun
    case attached => nofun
    case lost => nofun
    case xboxes => rfl
  have empty : Plugs.empty.Shows ⟨none, .none, false⟩ := ⟨rfl, rfl, rfl⟩
  exact ⟨⟨_, holds⟩, setGamepad_ensures empty gamepad _ holds⟩

/-- What holds in every state that is reached. -/
structure System.Plugged (gamepad : Gamepad) (labels : List Label) (system : System) : Prop where
  /-- There is one gamepad at most. -/
  single : ∃ claim, system.host.Holds claim
  /-- Whatever is called next is permitted. -/
  permitted : ∀ {request : Call} {answer : Answer request} {after : System},
    system.Step [.answered request answer] after → system.host.Permits request
  /-- The devices of others stay, but where they have taken a port from the daemon. -/
  foreign : ∀ {request : Call} {answer : Answer request} {after : System} {port : UInt16},
    system.Step [.answered request answer] after → system.host.holder port = some .other →
      after.host.holder port = some .other ∨ request = .detach port ∧ port ∈ system.host.revoked
  /-- Between two changes the host has what the loop believes. -/
  resting : ∀ plugs, system.stage = .resting plugs →
    system.host.Holds plugs.claim ∧ plugs.Shows (believed gamepad labels)
  ended : system.stage = .ended → system.host.Holds .nothing

/-- Another's device goes only when it is detached. -/
theorem Host.foreign_answers {host after : Host} {request : Call} {answer : Answer request}
    {port : UInt16} (answers : Host.Answers request host answer after)
    (foreign : host.holder port = some .other) :
    after.holder port = some .other ∨ request = .detach port := by
  cases answers with
  | @attached _ other free =>
    have differs : port ≠ other := by
      rintro rfl
      rw [free] at foreign
      cases foreign
    exact .inl (by simpa [Host.hold, differs] using foreign)
  | @detached _ other =>
    by_cases same : port = other
    · exact .inr (congrArg Call.detach same.symm)
    · exact .inl (by simpa [Host.hold, same] using foreign)
  | _ => exact .inl foreign

/-- In every run, whatever the kernel answers, whatever other programs do, and wherever the
    daemon ends. -/
theorem gamepads_come_and_go (run : System.Run (.start taken gamepad) labels system) :
    system.Plugged gamepad labels := by
  have initial : (System.start taken gamepad).Sound (believed gamepad []) := .start taken gamepad
  have preserved : ∀ {past : List Label} {system : System} {more : List Label} {after : System},
      System.Step system more after → system.Sound (believed gamepad past) →
        after.Sound (believed gamepad (past ++ more)) := by
    intro past system more after step sound
    rw [believed, List.foldl_append]
    exact sound.step step
  have sound : system.Sound (believed gamepad ([] ++ labels)) :=
    run.history (fun past system => system.Sound (believed gamepad past)) preserved initial
  have permitted : ∀ {request : Call} {answer : Answer request} {after : System},
      system.Step [.answered request answer] after →
        system.host.Permits request ∧ Host.Answers request system.host answer after.host := by
    intro request answer after step
    cases step with
    | changes answers => exact ⟨(sound.keeps.answered answers).1.1, answers⟩
    | drops answers => exact ⟨(sound.keeps.answered answers).1.1, answers⟩
  constructor
  case single => exact sound.single
  case permitted => exact fun step => (permitted step).1
  case foreign =>
    intro request answer after port step foreign
    obtain ⟨permits, answers⟩ := permitted step
    refine (Host.foreign_answers answers foreign).imp_right fun detaches => ⟨detaches, ?_⟩
    subst detaches
    refine Or.resolve_left permits fun mine => ?_
    rw [foreign] at mine
    cases mine
  case resting =>
    intro plugs resting
    have keeps := sound.keeps
    rw [resting] at keeps
    exact keeps
  case ended =>
    intro ended
    have keeps := sound.keeps
    rw [ended] at keeps
    exact keeps

/-- Port 0 is in use, and port 1 is free. -/
def exampleStatus : List Char := "hub port sta\nhs 0000 006\nhs 0001 004\n".toList

example : firstFree exampleStatus = some (some 1) := by decide +kernel

/-- A DualShock 4 is attached to the free port, and an Xbox gamepad takes its place. -/
theorem gamepads_come_and_go_switched :
    ∃ (labels : List Label) (system : System) (plugs : Plugs),
      .answered (.attach 1) (.ok ()) ∈ labels ∧ system.stage = .resting plugs ∧
        plugs.claim = .xbox ∧ system.host.holder 0 = some .other ∧
        system.Plugged .dualShock4 labels := by
  have begun : System.Run (.start [0] .dualShock4) [] _ := .refl
  have paired := begun.snoc (.changes (@Host.Answers.pair _ (.ok ())))
  have cloned := paired.snoc (.changes (@Host.Answers.tryClone _ (.ok ())))
  have read := cloned.snoc (.changes (@Host.Answers.readStatus _ 0 exampleStatus))
  have attached := read.snoc (.changes (@Host.Answers.attached _ 1 rfl))
  have spawned := attached.snoc (.changes (@Host.Answers.spawn _ (.ok ())))
  have rests := spawned.snoc .changed
  have asked := rests.snoc (@System.Step.requests _ _ .xbox)
  have detached := asked.snoc (.changes (@Host.Answers.detached _ 1))
  have built := detached.snoc (.changes .built)
  have unblocked := built.snoc (.changes (@Host.Answers.setNonblocking _ (.ok ())))
  have switched := unblocked.snoc .changed
  exact ⟨_, _, _, .tail _ (.tail _ (.tail _ (.head _))), rfl, rfl, rfl,
    gamepads_come_and_go switched⟩

end Scd.Daemon.Ports
