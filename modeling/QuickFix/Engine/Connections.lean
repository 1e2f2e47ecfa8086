import QuickFix.Network.Peers
import Mathlib.Logic.Function.Basic

/-!
# Connections and sessions

Model of `src/transport.rs`, of the session handles of `src/session.rs` and of the tasks that
`src/engine.rs` starts. The tasks share nothing but channels, so the engine takes one `Move` after the
other: a task takes a step of its own, or the outside does something to it. A full channel only delays
its sender, so channels are lists. TLS is left out: the bytes of a connection are its plain text.
-/

namespace QuickFix

/-! ## Identifying a connection -/

/-- Registry key for routing an inbound connection to a session: BeginString, our CompID, their CompID. -/
abbrev SessionKey := Bytes × Bytes × Bytes

/-- The key of a session. -/
def keyOf (id : SessionId) : SessionKey := (id.beginString, id.senderCompId, id.targetCompId)

/-- Why a connection is dropped before it is attached. -/
inductive Rejection where
  /-- The peer closed it, or reading failed, before a message came. -/
  | closed
  | timedOut
  | unparseable (e : ParseError)
  | missingTag (tag : Tag)
  | unconfigured (key : SessionKey)
  | alreadyConnected
  | notRunning
  deriving DecidableEq

/-- The session the first message of a connection is for: their sender is our target and vice versa. -/
def firstKey (first : Bytes) : Except Rejection SessionKey := do
  let msg ← (Message.parse first false).mapError .unparseable
  let get (tag : Tag) : Except Rejection Bytes :=
    match msg.header.getRaw tag with
    | some v => .ok (utf8Lossy v)
    | none => .error (.missingTag tag)
  return (← get Tags.beginString, ← get Tags.targetCompId, ← get Tags.senderCompId)

/-! ## Connections -/

/-- The socket of a connection: accepted on a port, or dialed for a session. -/
inductive Socket where
  | accepted (port : Nat)
  | dialed (key : SessionKey)
  deriving DecidableEq

/-- The wait of a connection for its session to be free. -/
inductive Poll where
  | due
  | asked
  | busy
  | free
  deriving DecidableEq

/-- What a connection has come to. -/
inductive ConnStage where
  | identifying
  | polling (key : SessionKey) (first : Bytes) (poll : Poll)
  /-- It is on its way to the session. -/
  | offered (key : SessionKey)
  | held (key : SessionKey)
  | gone (why : Option Rejection)
  deriving DecidableEq

/-- A connection. What was received, taken and written is kept for the record. -/
structure Conn where
  socket : Socket
  stage : ConnStage
  received : Bytes := []
  /-- What was received and not framed yet. -/
  buf : Bytes := []
  /-- Whether the read task has ended. -/
  eof : Bool := false
  /-- The channel from the read task. -/
  inbound : List Bytes := []
  /-- The channel behind the relay of an accepted connection. -/
  relay : List Bytes := []
  /-- The frames its session took. -/
  taken : List Bytes := []
  /-- The frames its write task was given. -/
  written : List Bytes := []
  deriving DecidableEq

namespace Conn

variable (conn : Conn)

/-- The connection is closed, for a reason where it was never attached. -/
def close (why : Option Rejection) : Conn := { conn with stage := .gone why }

/-- Looks for the first message in what was read. -/
def identify (known : SessionKey → Bool) : Conn :=
  match extractFrame conn.buf with
  | (none, rest) => { conn with buf := rest }
  | (some first, rest) =>
    match firstKey first with
    | .error why => { conn with buf := rest }.close why
    | .ok key =>
      if known key then { conn with buf := rest, stage := .polling key first .due }
      else { conn with buf := rest }.close (some (.unconfigured key))

/-- The read task hands on the frames there are. -/
def readTask : Conn :=
  { conn with
    buf := (framer.drain conn.buf).2
    inbound := conn.inbound ++ (framer.drain conn.buf).1 }

/-- One read of the socket. -/
def arrive (known : Nat → SessionKey → Bool) (data : Bytes) : Conn :=
  let read := { conn with received := conn.received ++ data, buf := conn.buf ++ data }
  match conn.eof, conn.stage, conn.socket with
  | false, .identifying, .accepted port => read.identify (known port)
  | false, .offered _, _ | false, .held _, _ => read.readTask
  | _, _, _ => conn

/-- A read finds the end of the stream, or fails. -/
def endOfFile : Conn :=
  match conn.stage with
  | .identifying => conn.close (some .closed)
  | .offered _ | .held _ => { conn with eof := true }
  | _ => conn

/-- The wait for the first message, or for the session to be free, has taken too long. -/
def giveUp : Conn :=
  match conn.stage with
  | .identifying => conn.close (some .timedOut)
  | .polling _ _ .busy => conn.close (some .alreadyConnected)
  | _ => conn

/-- The session tells whether it is connected. -/
def answered (connected : Bool) : Conn :=
  match conn.stage with
  | .polling key first .asked =>
    { conn with stage := .polling key first (if connected then .busy else .free) }
  | _ => conn

/-- The session will not tell whether it is connected. -/
def unanswered : Conn :=
  match conn.stage with
  | .polling _ _ .asked => conn.close (some .notRunning)
  | _ => conn

/-- The tasks of the connection are spawned; the first message goes ahead through the relay. -/
def spawnTasks (key : SessionKey) (first : Bytes) : Conn :=
  { conn with stage := .offered key, relay := [first] }.readTask

/-- The relay hands on a frame. -/
def forward : Conn :=
  match conn.socket, conn.inbound with
  | .accepted _, raw :: rest => { conn with inbound := rest, relay := conn.relay ++ [raw] }
  | _, _ => conn

/-- What the session reads from. -/
def channel : List Bytes :=
  match conn.socket with
  | .accepted _ => conn.relay
  | .dialed _ => conn.inbound

/-- The session takes frames. -/
def take (n : Nat) : Conn :=
  match conn.socket with
  | .accepted _ => { conn with relay := conn.relay.drop n, taken := conn.taken ++ conn.relay.take n }
  | .dialed _ => { conn with inbound := conn.inbound.drop n, taken := conn.taken ++ conn.inbound.take n }

/-- Whether the session finds its channel closed: the read task has ended, and all it read was taken. -/
def drained : Bool := conn.eof && conn.inbound.isEmpty && conn.relay.isEmpty

/-- The session takes frames and gives others to the write task; then it keeps the connection or drops
it. -/
def served (n : Nat) (frames : List Bytes) (connected : Bool) : Conn :=
  let conn := { conn.take n with written := conn.written ++ frames }
  if connected then conn else conn.close none

end Conn

/-! ## Sessions -/

/-- What a handle asks its session for. -/
inductive HandleRequest where
  | send (msg : Message)
  | logout
  | setSeqNums (sender target : Option UInt64)
  | stop

/-- The commands of a session; connections are told by their place. -/
inductive Command where
  | request (r : HandleRequest)
  | attach (c : Nat)
  | status (c : Nat)

/-- A session task, what its loop has woken up for so far, and its channel of commands. -/
structure Slot where
  inputs : List Input := []
  commands : List Command := []
  /-- The connections it has had, the latest first. -/
  links : List Nat := []
  /-- The connection its initiator opened last. -/
  dialed : Option Nat := none

namespace Slot

/-- A command is queued. -/
def push (command : Command) (slot : Slot) : Slot := { slot with commands := slot.commands ++ [command] }

/-- Whether the session task has ended. -/
def ended (slot : Slot) : Bool := slot.inputs.any Session.ends

end Slot

/-- What the engine starts for a key: the session, and the port it is to be reached on. -/
structure Entry (σ ω : Type) where
  party : Party σ ω
  port : Nat := 0

/-- The sessions of an engine. -/
abbrev Registry (σ ω : Type) := SessionKey → Option (Entry σ ω)

namespace Registry

variable {σ ω : Type} (reg : Registry σ ω)

/-- Whether the listener of a port has a session of this key. -/
def accepts (port : Nat) (key : SessionKey) : Bool :=
  match reg key with
  | some entry => entry.party.cfg.connectionType = .acceptor && entry.port = port
  | none => false

/-- Whether a session has an initiator. -/
def dials (key : SessionKey) : Bool :=
  match reg key with
  | some entry => entry.party.cfg.connectionType = .initiator
  | none => false

variable [Chrono] [MessageStore σ] [Application ω] [Runtime ω]

/-- Whether a session is connected after these inputs. -/
def connected (key : SessionKey) (inputs : List Input) : Bool :=
  match reg key with
  | some entry => (entry.party.after inputs).session.isConnected
  | none => false

/-- What a session has written after these inputs. -/
def frames (key : SessionKey) (inputs : List Input) : List Bytes :=
  match reg key with
  | some entry => writtenFrames (entry.party.after inputs).trace
  | none => []

end Registry

/-! ## The engine -/

/-- The sessions of an engine and the connections they have or wait for. -/
structure Engine where
  slots : SessionKey → Slot := fun _ => {}
  /-- In the order in which they were opened. -/
  conns : List Conn := []
  /-- Whether its listeners and initiators are running. -/
  running : Bool := true

/-- What a task does next, or what is done to it. -/
inductive Move where
  | accept (port : Nat)
  | dial (key : SessionKey)
  | arrive (c : Nat) (data : Bytes)
  | endOfFile (c : Nat)
  | giveUp (c : Nat)
  | ask (c : Nat)
  | offer (c : Nat)
  | forward (c : Nat)
  | request (key : SessionKey) (r : HandleRequest)
  /-- The session takes its next command; should it stop, it takes `n` frames meanwhile. -/
  | serve (key : SessionKey) (n : Nat)
  | take (key : SessionKey)
  | hangUp (key : SessionKey)
  | scheduleTick (key : SessionKey)
  | protocolTimer (key : SessionKey)
  /-- Every handle of the session is gone. -/
  | abandon (key : SessionKey)
  /-- The tasks that listen and dial are aborted. -/
  | stop

namespace Engine

/-- One connection changes. -/
def onConn (e : Engine) (c : Nat) (f : Conn → Conn) : Engine := { e with conns := e.conns.modify c f }

/-- One slot changes. -/
def onSlot (e : Engine) (key : SessionKey) (f : Slot → Slot) : Engine :=
  { e with slots := Function.update e.slots key (f (e.slots key)) }

/-- A connection is opened. -/
def opening (e : Engine) (conn : Conn) : Engine := { e with conns := e.conns ++ [conn] }

/-- Where a connection stands. -/
def stage (e : Engine) (c : Nat) : Option ConnStage := e.conns[c]?.map Conn.stage

/-- The session has a connection. -/
def holding (e : Engine) (key : SessionKey) (c : Nat) : Engine :=
  (e.onSlot key fun slot => { slot with links := c :: slot.links }).onConn c
    fun conn => { conn with stage := .held key }

/-- Whether an initiator has no connection under way. -/
def idle (e : Engine) (key : SessionKey) : Bool :=
  match (e.slots key).dialed with
  | none => true
  | some c =>
    match e.stage c with
    | some (.gone _) => true
    | _ => false

variable {σ ω : Type} [Chrono] [MessageStore σ] [Application ω] [Runtime ω] (reg : Registry σ ω)

/-- Whether there is a session of this key, and its task has not ended. -/
def alive (e : Engine) (key : SessionKey) : Bool := (reg key).isSome && !(e.slots key).ended

/-- The connection a session has. -/
def link (e : Engine) (key : SessionKey) : Option Nat :=
  if reg.connected key (e.slots key).inputs then (e.slots key).links.head? else none

/-- The loop of a session wakes up for an input, for which it takes `n` frames; meanwhile it has the
connection `link`. -/
def feed (e : Engine) (key : SessionKey) (link : Option Nat) (n : Nat) (input : Input) : Engine :=
  let before := (e.slots key).inputs
  let inputs := before ++ [input]
  let frames := (reg.frames key inputs).drop (reg.frames key before).length
  let fed := e.onSlot key fun slot => { slot with inputs := inputs }
  match link with
  | none => fed
  | some c => fed.onConn c (·.served n frames (reg.connected key inputs))

/-- An input that is no frame. -/
def wake (e : Engine) (key : SessionKey) (input : Input) : Engine := e.feed reg key (e.link reg key) 0 input

/-- The frames the connection of a session has for it. -/
def channel (e : Engine) (key : SessionKey) : List Bytes :=
  match e.link reg key with
  | none => []
  | some c => (e.conns[c]?.map Conn.channel).getD []

/-- A session is asked for something by one of its handles. -/
def serveRequest (e : Engine) (key : SessionKey) (n : Nat) : HandleRequest → Engine
  | .send msg => e.wake reg key (.send msg)
  | .logout => e.wake reg key .logout
  | .setSeqNums sender target => e.wake reg key (.setSeqNums sender target)
  | .stop => e.feed reg key (e.link reg key) n (.stop ((e.channel reg key).take n))

/-- A session is given a connection; it drops it when it has one already. -/
def serveAttach (e : Engine) (key : SessionKey) (c : Nat) : Engine :=
  if reg.connected key (e.slots key).inputs then (e.onConn c (·.close none)).wake reg key .attach
  else (e.holding key c).feed reg key (some c) 0 .attach

/-- A command of a session is taken. -/
def serveCommand (e : Engine) (key : SessionKey) (n : Nat) : Command → Engine
  | .request r => e.serveRequest reg key n r
  | .attach c => e.serveAttach reg key c
  | .status c => e.onConn c (·.answered (reg.connected key (e.slots key).inputs))

/-- A command is dropped with the channel of a session that has ended. -/
def discard (e : Engine) : Command → Engine
  | .request _ => e
  | .attach c => e.onConn c (·.close (some .notRunning))
  | .status c => e.onConn c Conn.unanswered

/-- What a move does; nothing where it is not possible. -/
def step (e : Engine) : Move → Engine
  | .accept port => if e.running then e.opening { socket := .accepted port, stage := .identifying } else e
  | .dial key =>
    if e.running && reg.dials key && e.alive reg key && e.idle key then
      (e.opening { socket := .dialed key, stage := .offered key }).onSlot key fun slot =>
        { slot.push (.attach e.conns.length) with dialed := some e.conns.length }
    else e
  | .arrive c data => e.onConn c (·.arrive reg.accepts data)
  | .endOfFile c => e.onConn c Conn.endOfFile
  | .giveUp c => e.onConn c Conn.giveUp
  | .ask c =>
    match e.stage c with
    | some (.polling key first .due) | some (.polling key first .busy) =>
      if e.alive reg key then
        (e.onConn c fun conn => { conn with stage := .polling key first .asked }).onSlot key
          (·.push (.status c))
      else e.onConn c (·.close (some .notRunning))
    | _ => e
  | .offer c =>
    match e.stage c with
    | some (.polling key first .free) =>
      if e.alive reg key then (e.onConn c (·.spawnTasks key first)).onSlot key (·.push (.attach c))
      else e.onConn c (·.close (some .notRunning))
    | _ => e
  | .forward c => e.onConn c Conn.forward
  | .request key r => if e.alive reg key then e.onSlot key (·.push (.request r)) else e
  | .serve key n =>
    match (e.slots key).commands with
    | [] => e
    | command :: commands =>
      let e := e.onSlot key fun slot => { slot with commands := commands }
      if e.alive reg key then e.serveCommand reg key n command else e.discard command
  | .take key =>
    match e.channel reg key with
    | [] => e
    | raw :: _ => e.feed reg key (e.link reg key) 1 (.inbound raw)
  | .hangUp key =>
    match (e.link reg key).bind (e.conns[·]?) with
    | some conn => if conn.drained then e.wake reg key .closed else e
    | none => e
  | .scheduleTick key => if e.alive reg key then e.wake reg key .scheduleTick else e
  | .protocolTimer key => if e.alive reg key then e.wake reg key .protocolTimer else e
  | .abandon key =>
    if e.alive reg key && (e.slots key).commands.isEmpty then e.wake reg key .dropped else e
  | .stop => { e with running := false }

/-- The engine after its moves. -/
def ran (moves : List Move) : Engine := moves.foldl (step reg) {}

end Engine

end QuickFix
