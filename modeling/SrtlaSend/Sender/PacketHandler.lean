import SrtlaSend.Core.AckNak
import SrtlaSend.Core.Priority
import SrtlaSend.Sender.Connections

/-!
# Packet handling

Data packets from the SRT client on their way to a link, and feedback from the
receiver on its way to every link. A call that sends reads the clock again and
may find the socket refusing the batch: both are given by a `Sends`.
-/

namespace SrtlaSend

open MachineInt

/-- The clock a send reads, and whether the socket takes it. -/
structure SendOutcome where
  now : Nat
  sent : Bool
deriving DecidableEq, Repr

/-- The outcome of the send each uplink makes in a call, by connection id. -/
abbrev Sends := Nat → SendOutcome

/-! ### Flushing -/

/-- Drain a link's queue and transmit it; the flag is false if the socket refuses. -/
def sendConnectionBatch (conn : SrtlaConnection) (outcome : SendOutcome) : SrtlaConnection × Bool :=
  let (conn, batch) := conn.takeBatch outcome.now
  if batch.isEmpty then (conn, true)
  -- the batch is registered as in flight before the socket has taken it
  else if outcome.sent then (conn.noteSent outcome.now, true)
  else (conn, false)

/-- A refused batch puts the link into recovery. -/
def flushConnection (conn : SrtlaConnection) (outcome : SendOutcome) (tracker : SequenceTracker) :
    SrtlaConnection × SequenceTracker :=
  match sendConnectionBatch conn outcome with
  | (conn, true) => (conn, tracker)
  | (conn, false) => recoverConnection conn tracker

/-- The three ways a flush ends: nothing was queued, the batch is away, or it was refused. -/
theorem flushConnection_cases (conn : SrtlaConnection) (outcome : SendOutcome)
    (tracker : SequenceTracker) :
    flushConnection conn outcome tracker = ((conn.takeBatch outcome.now).1, tracker) ∨
      flushConnection conn outcome tracker =
        ((conn.takeBatch outcome.now).1.noteSent outcome.now, tracker) ∨
      (outcome.sent = false ∧
        flushConnection conn outcome tracker =
          recoverConnection (conn.takeBatch outcome.now).1 tracker) := by
  simp only [flushConnection, sendConnectionBatch]
  by_cases empty : (conn.takeBatch outcome.now).2.isEmpty = true
  · simp only [empty, if_true, true_or]
  · simp only [empty, Bool.false_eq_true, if_false]
    cases outcome.sent with
    | true => exact Or.inr (Or.inl rfl)
    | false => exact Or.inr (Or.inr ⟨rfl, rfl⟩)

/-- Flush a link that asks for it and has a socket. -/
def flushIfNeeded (needsFlush : Bool) (conn : SrtlaConnection) (connIo : ConnIoMap) (sends : Sends)
    (tracker : SequenceTracker) : SrtlaConnection × SequenceTracker :=
  if needsFlush ∧ conn.connId ∈ connIo then flushConnection conn (sends conn.connId) tracker
  else (conn, tracker)

/-- Flush every link that has something queued, in order. -/
def flushAllBatches (connIo : ConnIoMap) (sends : Sends) (now : Nat) :
    List SrtlaConnection → SequenceTracker → List SrtlaConnection × SequenceTracker
  | [], tracker => ([], tracker)
  | conn :: rest, tracker =>
    let due := conn.needsBatchFlush now || conn.hasQueuedPackets
    let (conn, tracker) := flushIfNeeded due conn connIo sends tracker
    let (rest, tracker) := flushAllBatches connIo sends now rest tracker
    (conn :: rest, tracker)

/-! ### Feedback from the receiver -/

/-- One cumulative ACK: every link prunes, and the owner of `lastAcked` may sample. -/
def applySrtAck (tracker : SequenceTracker) (nowMs : Nat) (conns : List SrtlaConnection)
    (ack : Nat) : List SrtlaConnection :=
  let lastAcked := srtAckLastAcked ack
  -- the ring is asked for the sequence as the sender wrote it
  let owner := tracker.get (asU32 lastAcked) nowMs
  conns.map fun c => c.handleSrtAck lastAcked nowMs (owner == some c.connId)

/-- The scan for an SRTLA ACK the arrival link `idx` does not know: the first
other link that has the packet takes it. -/
def fallbackSrtlaAck (idx : Nat) (seq : Int) (classic : Bool) (nowMs : Nat) :
    Nat → List SrtlaConnection → List SrtlaConnection
  | _, [] => []
  | i, c :: rest =>
    if i = idx then c :: fallbackSrtlaAck idx seq classic nowMs (i + 1) rest
    else
      let (c, found) := c.handleSrtlaAckSpecific seq classic nowMs
      -- the first link that knows the packet ends the scan
      if found then c :: rest else c :: fallbackSrtlaAck idx seq classic nowMs (i + 1) rest

/-- Credit one SRTLA ACK: the arrival link first, then the scan. -/
def creditSrtlaAck (idx : Nat) (classic : Bool) (nowMs : Nat) (conns : List SrtlaConnection)
    (srtlaAck : Nat) : List SrtlaConnection :=
  -- the arrival link may have left with the last reload
  match conns[idx]? with
  | none => conns
  | some arrival =>
    let (arrival, foundOnArrival) := arrival.handleSrtlaAckSpecific (asI32 srtlaAck) classic nowMs
    let conns := conns.set idx arrival
    if foundOnArrival then conns else fallbackSrtlaAck idx (asI32 srtlaAck) classic nowMs 0 conns

/-- One SRTLA ACK: its credit, then the growth every live link gets. -/
def applySrtlaAck (idx : Nat) (classic : Bool) (nowMs : Nat) (conns : List SrtlaConnection)
    (srtlaAck : Nat) : List SrtlaConnection :=
  (creditSrtlaAck idx classic nowMs conns srtlaAck).map (·.handleSrtlaAckGlobal)

/-- Offer a NAK to the links in order until one recognises the packet. -/
def scanNak (seq : Int) (nowMs : Nat) : Nat → List SrtlaConnection → List SrtlaConnection × Option Nat
  | _, [] => ([], none)
  | i, c :: rest =>
    match c.handleNak seq nowMs with
    | (c, true) => (c :: rest, some i)
    | (c, false) =>
      let (rest, found) := scanNak seq nowMs (i + 1) rest
      (c :: rest, found)

/-- The link that carried the lost packet, if the tracker and the list know it. -/
def nakOwner (conns : List SrtlaConnection) (tracker : SequenceTracker) (nak nowMs : Nat) :
    Option Nat :=
  (tracker.get nak nowMs).bind fun connId => conns.findIdx? (·.connId == connId)

def attributeNak (tracker : SequenceTracker) (nowMs : Nat) (conns : List SrtlaConnection)
    (nak : Nat) : List SrtlaConnection × Option Nat :=
  match nakOwner conns tracker nak nowMs with
  | some pos =>
    match conns[pos]? with
    | some c =>
      let (c, counted) := c.handleNak (asI32 nak) nowMs
      -- an owner that has already released the packet is not charged, and nobody else is
      (conns.set pos c, if counted then some pos else none)
    | none => (conns, none)
  | none => scanNak (asI32 nak) nowMs 0 conns

/-- Everything one datagram of feedback does to the links, and what is relayed to
the client. -/
def processConnectionEvents (idx : Nat) (conns : List SrtlaConnection)
    (lastClientAddr : Option SocketAddr) (tracker : SequenceTracker) (classic : Bool)
    (incoming : SrtlaIncoming) (nowMs : Nat) : List SrtlaConnection × List Bytes :=
  -- the arrival link was removed while the datagram waited
  if idx ≥ conns.length then (conns, [])
  else
    let conns := incoming.ackNumbers.foldl (applySrtAck tracker nowMs) conns
    let conns := incoming.srtlaAckNumbers.foldl (applySrtlaAck idx classic nowMs) conns
    let conns := incoming.nakNumbers.foldl (fun conns nak => (attributeNak tracker nowMs conns nak).1) conns
    -- without a client the replies are dropped
    (conns, if lastClientAddr.isSome then incoming.forwardToClient else [])

/-! ### Data from the client -/

/-- Before the first REG3: the last link if it still serves, else any that has
not timed out. -/
def selectPreRegistrationConnection (conns : List SrtlaConnection) (lastSelectedIdx : Option Nat)
    (nowMs : Nat) : Option Nat :=
  let last := lastSelectedIdx.filter fun idx =>
    conns[idx]?.any fun conn => conn.connected && !conn.isTimedOut nowMs
  last <|> conns.findIdx? fun c => !c.isTimedOut nowMs

/-- What the data path owns. -/
structure DataPath where
  conns : List SrtlaConnection
  lastSelectedIdx : Option Nat
  tracker : SequenceTracker
  lastClientAddr : Option SocketAddr

namespace DataPath

/-- Queue the unique copy of a packet on link `selIdx` and record its carrier. -/
def forwardViaConnection (s : DataPath) (selIdx : Nat) (pkt : Bytes) (seq : Option Nat)
    (connIo : ConnIoMap) (sends : Sends) (packetTimeMs : Nat) : DataPath :=
  match s.conns[selIdx]? with
  | none => s
  | some conn =>
    let (queued, needsFlush) := conn.queueDataPacket pkt seq packetTimeMs
    -- control packets have no sequence and no carrier
    let tracker :=
      match seq with
      | some seq => s.tracker.insert seq conn.connId packetTimeMs
      | none => s.tracker
    let (flushed, tracker) := flushIfNeeded needsFlush queued connIo sends tracker
    { s with conns := s.conns.set selIdx flushed, lastSelectedIdx := some selIdx, tracker }

/-- A link that is held out but connected is probed. -/
def isProbed (conn : SrtlaConnection) : Bool :=
  (conn.stallGated || conn.qualityExcluded) && conn.connected

/-- Queue one duplicate on a held-out link when its turn comes. -/
def probeLink (pkt : Bytes) (probeSeq : Nat) (connIo : ConnIoMap) (sends : Sends)
    (packetTimeMs : Nat) (conn : SrtlaConnection) (tracker : SequenceTracker) :
    SrtlaConnection × SequenceTracker :=
  -- the turn is counted even if the probe is not due
  let (conn, due) := conn.stallProbeDue
  if due then
    let (conn, needsFlush) :=
      conn.queueProbePacket (setSrtDataRetransmit pkt) probeSeq packetTimeMs
    flushIfNeeded needsFlush conn connIo sends tracker
  else (conn, tracker)

/-- Offer a duplicate to every held-out link but the chosen one, in order. -/
def sendStallProbes (selIdx : Nat) (pkt : Bytes) (probeSeq : Nat) (connIo : ConnIoMap)
    (sends : Sends) (packetTimeMs : Nat) :
    Nat → List SrtlaConnection → SequenceTracker → List SrtlaConnection × SequenceTracker
  | _, [], tracker => ([], tracker)
  | i, conn :: rest, tracker =>
    let (conn, tracker) :=
      if i ≠ selIdx ∧ isProbed conn then probeLink pkt probeSeq connIo sends packetTimeMs conn tracker
      else (conn, tracker)
    let (rest, tracker) :=
      sendStallProbes selIdx pkt probeSeq connIo sends packetTimeMs (i + 1) rest tracker
    (conn :: rest, tracker)

/-- The link a packet is routed to: the scheduler's choice, unless the packet
must land and one path is better. -/
def overrideSelection (conns : List SrtlaConnection) (selIdx : Option Nat) (pkt : Bytes)
    (packetTimeMs : Nat) (config : ConfigSnapshot) (criticalWindow : CriticalWindow) : Option Nat :=
  -- only data packets are worth an override
  if (getSrtSequenceNumber pkt).isSome ∧
      (criticalWindow.isCriticalNow packetTimeMs ∨ isSrtDataRetransmit pkt) then
    Priority.selectBestPathOverrideIdx conns packetTimeMs config.mode <|> selIdx
  else selIdx

/-- Selection for a packet after registration: the pass writes the links' gates. -/
def routePacket (calculate : SrtlaConnection → Nat → ℚ) (s : DataPath) (pkt : Bytes)
    (packetTimeMs : Nat) (config : ConfigSnapshot) (criticalWindow : CriticalWindow) :
    List SrtlaConnection × Option Nat :=
  let (conns, selIdx) := selectConnectionIdx calculate s.conns s.lastSelectedIdx packetTimeMs config
  (conns, overrideSelection conns selIdx pkt packetTimeMs config criticalWindow)

/-- Send a packet on its link, and its duplicates on the held-out ones. -/
def deliver (s : DataPath) (selIdx : Nat) (pkt : Bytes) (connIo : ConnIoMap) (sends : Sends)
    (packetTimeMs : Nat) : DataPath :=
  let seq := getSrtSequenceNumber pkt
  let s := s.forwardViaConnection selIdx pkt seq connIo sends packetTimeMs
  match seq with
  | some probeSeq =>
    let (conns, tracker) :=
      sendStallProbes selIdx pkt probeSeq connIo sends packetTimeMs 0 s.conns s.tracker
    { s with conns, tracker }
  | none => s

/-- One datagram from the client. -/
def handleSrtPacket (calculate : SrtlaConnection → Nat → ℚ) (s : DataPath) (pkt : Bytes)
    (src : SocketAddr) (connIo : ConnIoMap) (sends : Sends) (registrationComplete : Bool)
    (config : ConfigSnapshot) (criticalWindow : CriticalWindow) (packetTimeMs : Nat) : DataPath :=
  if pkt.isEmpty then s
  -- before the first REG3 the pass over the links is not made
  else if !registrationComplete then
    let seq := getSrtSequenceNumber pkt
    let s :=
      match selectPreRegistrationConnection s.conns s.lastSelectedIdx packetTimeMs with
      | some selIdx => s.forwardViaConnection selIdx pkt seq connIo sends packetTimeMs
      | none => s
    { s with lastClientAddr := some src }
  else
    let (conns, selIdx) := s.routePacket calculate pkt packetTimeMs config criticalWindow
    let s := { s with conns }
    let s :=
      match selIdx with
      | some selIdx => s.deliver selIdx pkt connIo sends packetTimeMs
      | none => s
    { s with lastClientAddr := some src }

end DataPath

end SrtlaSend
