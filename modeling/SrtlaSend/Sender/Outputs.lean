import SrtlaSend.Sender.EventLoop

/-!
# What the handlers send

The state machine of the event loop keeps what a handler does to the state. This module reads
off what the same handler sends: the replies relayed to the client, the copies of client
datagrams queued on the uplinks, and the batches that leave the queues for the sockets.
Registration packets and keepalives are not among them.
-/

namespace SrtlaSend

/-! ### To the client -/

/-- A datagram with the address it goes to. -/
abbrev Reply := SocketAddr × Bytes

/-- What the handling of one uplink datagram has for the client: the ACK that is offered to the
local socket before the links are told, and the replies sent after. -/
structure Replies where
  ack : Option Bytes := none
  deferred : List Bytes := []

def Replies.all (replies : Replies) : List Bytes := replies.ack.toList ++ replies.deferred

namespace Sender

def relayUplinkPacket (hashOf : Bytes → Nat) (s : Sender) (connId : Nat) (bytes : Bytes)
    (env : UplinkEnv) : Replies :=
  if bytes.isEmpty then {}
  else
    match s.conns.findIdx? (·.connId == connId) with
    | none => {}
    | some idx =>
      match s.conns[idx]? with
      | none => {}
      | some conn =>
        let out := processUplinkPacket hashOf conn idx s.reg s.lastClientAddr s.dedup bytes env.now
        let (after, incoming) := s.receiveUplink hashOf idx conn bytes env
        let (_, deferred) :=
          processConnectionEvents idx after.conns after.lastClientAddr after.tracker env.classic
            incoming env.eventsMs
        { ack := out.ackToClient, deferred }

def replies (ext : Externals) (s : Sender) : Event → Replies
  | .uplink connId bytes env => s.relayUplinkPacket ext.hashOf connId bytes env
  | _ => {}

/-- The replies for which a client is known. -/
def addressed (s : Sender) (replies : List Bytes) : List Reply :=
  replies.filterMap fun reply => s.lastClientAddr.map fun client => (client, reply)

/-- The datagrams an event decides to send to the client, with the address they go to. -/
def relayed (ext : Externals) (s : Sender) (e : Event) : List Reply :=
  s.addressed (s.replies ext e).all

end Sender

/-! ### The socket of the client

The event loop sends to the client itself. Only an ACK that finds the socket busy goes through
the channel to the instant forwarding task, which sends it when it comes to it. -/

/-- What `try_send_to` answers at once. -/
inductive TrySend
  | sent
  | wouldBlock
  | failed
deriving DecidableEq, Repr

/-- What the local socket does with the replies of one event. -/
structure LocalSends where
  trySendTo : TrySend
  sendTo : Bytes → Bool

inductive Carrier
  | loop
  | instantTask
deriving DecidableEq, Repr

/-- A datagram that left for the client. -/
structure SentReply where
  carrier : Carrier
  reply : Reply
deriving DecidableEq, Repr

/-- The loop and what its instant forwarding task has not sent yet. -/
structure ReplyPath where
  sender : Sender
  instant : List Reply

inductive ReplyEvent
  | handle (e : Event) (socket : LocalSends)
  | instantForward (sent : Bool)

namespace ReplyPath

/-- The ACK of an event: what is sent of it now, and what is handed to the task. -/
def offerAck (s : Sender) (ack : Option Bytes) : TrySend → List Reply × List Reply
  | .sent => (s.addressed ack.toList, [])
  | .wouldBlock => ([], s.addressed ack.toList)
  | .failed => ([], [])

def step (ext : Externals) (p : ReplyPath) : ReplyEvent → ReplyPath × List SentReply
  | .handle e socket =>
    let replies := p.sender.replies ext e
    let (now, handed) := offerAck p.sender replies.ack socket.trySendTo
    let deferred := p.sender.addressed (replies.deferred.filter socket.sendTo)
    ({ sender := p.sender.step ext e, instant := p.instant ++ handed },
      (now ++ deferred).map (⟨.loop, ·⟩))
  | .instantForward sent =>
    match p.instant with
    | [] => (p, [])
    | reply :: rest => ({ p with instant := rest }, if sent then [⟨.instantTask, reply⟩] else [])

end ReplyPath

/-! ### To the uplinks -/

/-- A copy of a datagram from the client, queued on an uplink. -/
structure QueuedCopy where
  connId : Nat
  bytes : Bytes
deriving DecidableEq, Repr

/-- A batch handed to the socket of an uplink, and whether the socket took it. -/
structure Transmission where
  connId : Nat
  datagrams : List Bytes
  sent : Bool
deriving DecidableEq, Repr

/-- What is queued on the uplinks, and which batches leave their queues, each in order. -/
structure Traffic where
  copies : List QueuedCopy := []
  batches : List Transmission := []
deriving DecidableEq, Repr

instance : Append Traffic := ⟨fun t u => ⟨t.copies ++ u.copies, t.batches ++ u.batches⟩⟩

/-- The batch of a flush; an empty one does not reach the socket. -/
def flushedBatch (conn : SrtlaConnection) (outcome : SendOutcome) : Option Transmission :=
  let (_, batch) := conn.takeBatch outcome.now
  if batch.isEmpty then none else some ⟨conn.connId, batch.map (·.1), outcome.sent⟩

def flushedIfNeeded (needsFlush : Bool) (conn : SrtlaConnection) (connIo : ConnIoMap)
    (sends : Sends) : List Transmission :=
  if needsFlush ∧ conn.connId ∈ connIo then (flushedBatch conn (sends conn.connId)).toList else []

/-- The batches of a periodic flush, in the order of the links. -/
def flushTraffic (connIo : ConnIoMap) (sends : Sends) (now : Nat) : List SrtlaConnection → Traffic
  | [] => {}
  | conn :: rest =>
    let due := conn.needsBatchFlush now || conn.hasQueuedPackets
    { batches := flushedIfNeeded due conn connIo sends } ++ flushTraffic connIo sends now rest

namespace DataPath

/-- The unique copy, and the batch that it fills up. -/
def forwardTraffic (s : DataPath) (selIdx : Nat) (pkt : Bytes) (seq : Option Nat)
    (connIo : ConnIoMap) (sends : Sends) (packetTimeMs : Nat) : Traffic :=
  match s.conns[selIdx]? with
  | none => {}
  | some conn =>
    let (queued, needsFlush) := conn.queueDataPacket pkt seq packetTimeMs
    { copies := [⟨conn.connId, pkt⟩]
      batches := flushedIfNeeded needsFlush queued connIo sends }

/-- A probe whose turn has come, and the batch that it fills up. -/
def probeTraffic (pkt : Bytes) (probeSeq : Nat) (connIo : ConnIoMap) (sends : Sends)
    (packetTimeMs : Nat) (conn : SrtlaConnection) : Traffic :=
  let (conn, due) := conn.stallProbeDue
  if due then
    let probe := setSrtDataRetransmit pkt
    let (queued, needsFlush) := conn.queueProbePacket probe probeSeq packetTimeMs
    { copies := [⟨conn.connId, probe⟩]
      batches := flushedIfNeeded needsFlush queued connIo sends }
  else {}

def probesTraffic (selIdx : Nat) (pkt : Bytes) (probeSeq : Nat) (connIo : ConnIoMap)
    (sends : Sends) (packetTimeMs : Nat) : Nat → List SrtlaConnection → Traffic
  | _, [] => {}
  | i, conn :: rest =>
    let traffic :=
      if i ≠ selIdx ∧ isProbed conn then probeTraffic pkt probeSeq connIo sends packetTimeMs conn
      else {}
    traffic ++ probesTraffic selIdx pkt probeSeq connIo sends packetTimeMs (i + 1) rest

/-- A packet on its link, and its duplicates on the held-out ones. -/
def deliverTraffic (s : DataPath) (selIdx : Nat) (pkt : Bytes) (connIo : ConnIoMap)
    (sends : Sends) (packetTimeMs : Nat) : Traffic :=
  let seq := getSrtSequenceNumber pkt
  let unique := s.forwardTraffic selIdx pkt seq connIo sends packetTimeMs
  let s := s.forwardViaConnection selIdx pkt seq connIo sends packetTimeMs
  match seq with
  | some probeSeq => unique ++ probesTraffic selIdx pkt probeSeq connIo sends packetTimeMs 0 s.conns
  | none => unique

/-- One datagram from the client. -/
def clientTraffic (calculate : SrtlaConnection → Nat → ℚ) (s : DataPath) (pkt : Bytes)
    (connIo : ConnIoMap) (sends : Sends) (registrationComplete : Bool) (config : ConfigSnapshot)
    (criticalWindow : CriticalWindow) (packetTimeMs : Nat) : Traffic :=
  if pkt.isEmpty then {}
  else if !registrationComplete then
    match selectPreRegistrationConnection s.conns s.lastSelectedIdx packetTimeMs with
    | some selIdx =>
      s.forwardTraffic selIdx pkt (getSrtSequenceNumber pkt) connIo sends packetTimeMs
    | none => {}
  else
    let (conns, selIdx) := s.routePacket calculate pkt packetTimeMs config criticalWindow
    match selIdx with
    | some selIdx => { s with conns }.deliverTraffic selIdx pkt connIo sends packetTimeMs
    | none => {}

end DataPath

/-- What an event queues on the uplinks and hands to their sockets. -/
def Sender.traffic (ext : Externals) (s : Sender) : Event → Traffic
  | .data pkt _ sends config criticalWindow now =>
    s.toDataPath.clientTraffic ext.calculate pkt s.connIo sends s.reg.hasConnected config
      criticalWindow now
  | .flush sends now => flushTraffic s.connIo sends now s.conns
  | _ => {}

end SrtlaSend
