import SrtlaSend.Control.Config
import SrtlaSend.Core.Classifier
import SrtlaSend.Core.LinkCc
import SrtlaSend.Sender.EventLoop
import SrtlaSend.Sender.Reload

/-!
# The loop around the handlers

What the sender's task owns besides the bond: the queue that the reader tasks fill, the
sockets with their readers, the two controllers that judge the links once a second, and the
list of uplinks that a hangup leaves for the next tick. A branch of the loop is one step. The
cells of the configuration belong to other tasks, so every read of them is an input, as is the
order of the branches. Logging and statistics are left out.
-/

namespace SrtlaSend

def maxDrainPackets : Nat := 64

/-- What a reader hands over; an empty datagram reports that the receive failed. -/
structure UplinkPacket where
  connId : Nat
  bytes : Bytes
deriving DecidableEq, Repr

/-! ### Sockets and readers -/

/-- A reader task and the socket it was spawned for. -/
structure ReaderHandle where
  socket : Nat
  finished : Bool := false
deriving DecidableEq, Repr

/-- The sockets and the readers of the uplinks, by connection id. Sockets are told apart by
the order in which they were opened. -/
structure UplinkTasks where
  sockets : FiniteMap Nat Nat := ∅
  nextSocket : Nat := 0
  readers : FiniteMap Nat ReaderHandle := ∅

namespace UplinkTasks

/-- A new socket for the uplink; the one it had is dropped. -/
def openSocket (t : UplinkTasks) (connId : Nat) : UplinkTasks :=
  { t with
    sockets := t.sockets.insert connId t.nextSocket
    nextSocket := t.nextSocket + 1 }

def closeSocket (t : UplinkTasks) (connId : Nat) : UplinkTasks :=
  { t with sockets := t.sockets.erase connId }

/-- Abort the reader of the uplink and spawn one for its present socket. -/
def restartReaderFor (t : UplinkTasks) (connId : Nat) : UplinkTasks :=
  match t.sockets.lookup connId with
  | some socket => { t with readers := t.readers.insert connId { socket } }
  | none => t

def reopen (t : UplinkTasks) (connId : Nat) : UplinkTasks :=
  (t.openSocket connId).restartReaderFor connId

/-- Spawn the reader of an uplink that has a socket and no reader. -/
def spawnMissing (sockets : FiniteMap Nat Nat) (readers : FiniteMap Nat ReaderHandle)
    (connId : Nat) : FiniteMap Nat ReaderHandle :=
  match sockets.lookup connId with
  | some socket => if connId ∈ readers then readers else readers.insert connId { socket }
  | none => readers

/-- A reader for every uplink with a socket, and none for an uplink that has left. -/
def syncReaders (t : UplinkTasks) (connIds : List Nat) : UplinkTasks :=
  let readers := connIds.foldl (spawnMissing t.sockets) t.readers
  { t with readers := readers.retain fun connId _ => decide (connId ∈ connIds) }

/-- The task of a reader has ended. -/
def readerEnded (t : UplinkTasks) (connId : Nat) : UplinkTasks :=
  match t.readers.lookup connId with
  | some reader => { t with readers := t.readers.insert connId { reader with finished := true } }
  | none => t

/-- Sockets and readers across one iteration of the housekeeping loop, `s` being the state
before it. A socket that is opened anew gets a reader, and so does one whose reader is dead. -/
def tendUplink (env : HousekeepingEnv) (s : Sender) (t : UplinkTasks) (i : Nat) : UplinkTasks :=
  match s.conns[i]? with
  | none => t
  | some conn =>
    if conn.isTimedOut env.now then
      if conn.shouldAttemptReconnect env.now ∧ conn.connId ∈ s.connIo ∧ env.opened conn.connId then
        t.reopen conn.connId
      else t
    else if (t.readers.lookup conn.connId).any (·.finished) ∧ conn.connId ∈ s.connIo then
      t.restartReaderFor conn.connId
    else t

/-- Every uplink of a bond that moves gets a new socket, if one can be opened. -/
def rehome (connIo : ConnIoMap) (opened : Nat → Bool) (t : UplinkTasks)
    (conns : List SrtlaConnection) : UplinkTasks :=
  conns.foldl
    (fun t conn => if conn.connId ∈ connIo ∧ opened conn.connId then t.reopen conn.connId else t) t

end UplinkTasks

namespace Sender

/-- The pass ends with the move of the bond. -/
def movesBond (s : Sender) (env : HousekeepingEnv) : Bool :=
  let failedAt := s.allFailedAt.getD env.now
  decide ((s.conns.filter fun c => !c.isTimedOut env.now).length = 0) &&
    decide (env.now - failedAt > globalTimeoutMs) &&
    ({ s with allFailedAt := some failedAt }.tryRehome env.rehome env.now).2

/-- Housekeeping with what it does to sockets and readers. -/
def housekeepWithTasks (s : Sender) (t : UplinkTasks) (env : HousekeepingEnv) :
    Sender × UplinkTasks :=
  let s := s.beginHousekeeping env
  let (s, t) := (List.range s.conns.length).foldl
    (fun acc i => (housekeepUplink env acc.1 i, acc.2.tendUplink env acc.1 i)) (s, t)
  let s := s.driveRegistration env
  let t := if s.movesBond env then t.rehome s.connIo env.rehome.opened s.conns else t
  ((s.checkAllFailed env).1, t)

/-- The reload keeps the uplink. -/
def desiredBy (showIp : IpAddr → String) (env : ReloadEnv) (c : SrtlaConnection) : Bool :=
  (env.newIps.map (uplinkLabel showIp env.receiverHost env.receiverPort)).contains c.label

/-- Sockets across a reload: those of removed uplinks are dropped, the dialled ones are new. -/
def reloadTasks (showIp : IpAddr → String) (s : Sender) (t : UplinkTasks) (env : ReloadEnv) :
    UplinkTasks :=
  let removed := s.conns.filter fun c => !desiredBy showIp env c
  let kept := s.conns.filter (desiredBy showIp env)
  let added := (s.applyReload showIp env).conns.drop kept.length
  (added.map (·.connId)).foldl UplinkTasks.openSocket
    ((removed.map (·.connId)).foldl UplinkTasks.closeSocket t)

end Sender

/-! ### The loop -/

structure PendingConnectionChanges where
  newIps : Option (List IpAddr)
  newWeights : List Nat
  receiverHost : String
  receiverPort : Nat
deriving DecidableEq

/-- What is fixed when the sender is started. -/
structure LoopSetup extends Externals where
  exp : ℚ → ℚ
  parseIp : List Char → Option IpAddr
  receiverHost : String
  receiverPort : Nat

/-- The variables of the loop. -/
structure SenderLoop where
  sender : Sender
  tasks : UplinkTasks
  packetRx : List UplinkPacket := []
  pendingChanges : Option PendingConnectionChanges := none
  weakLinkFilter : WeakLinkFilter := .new
  linkCcController : LinkCcController := .new
  running : Bool := true

/-- What the handling of one queued packet reads from outside. -/
structure ReceiveIo where
  now : Nat
  eventsMs : Nat
  sends : Sends

def ReceiveIo.env (io : ReceiveIo) (classic : Bool) : UplinkEnv :=
  { now := io.now, eventsMs := io.eventsMs, sends := io.sends, classic }

/-- What a tick reads from outside. The mode of the pass is the configured one. -/
structure TickIo where
  pass : HousekeepingEnv
  config : DynamicConfig
  ccNow : Nat
  dial : IpAddr → Option Dialed
  drainConfig : DynamicConfig
  drain : Nat → ReceiveIo

def TickIo.env (io : TickIo) : HousekeepingEnv :=
  { io.pass with classic := io.config.schedulingMode.isClassic }

/-- A branch of the loop, or what a reader task does between two branches. -/
inductive LoopEvent
  | queued (packet : UplinkPacket)
  | readerEnded (connId : Nat)
  | client (received : Option (Bytes × SocketAddr)) (sends : Sends) (config : DynamicConfig)
      (criticalWindow : CriticalWindow) (now : Nat) (drain : Nat → ReceiveIo)
  | uplink (config : DynamicConfig) (drain : Nat → ReceiveIo)
  | tick (io : TickIo)
  | hangup (file : Option (List Char)) (config : DynamicConfig) (drain : Nat → ReceiveIo)
  | flush (sends : Sends) (now : Nat)
  | terminate

/-- The verdict on a link: what the classification and the controller say about its id, or
that nothing is wrong with it. -/
def linkVerdict (classification : ClassificationResult) (snapshots : FiniteMap Nat LinkCcSnapshot)
    (connId : Nat) : LinkVerdict :=
  let entry := classification.perLink.find? (·.connId == connId)
  let cc := snapshots.lookup connId
  { weak := (entry.map (·.weak)).getD false
    weakReason := (entry.map (·.reason)).getD .healthy
    ccBackingOff := (cc.map (·.state == .backingOff)).getD false
    ccTargetBps := (cc.map (·.targetBps)).getD 0
    lossDegraded := (cc.map (·.lossDegraded)).getD false }

namespace SenderLoop

/-- Handle at most `left` packets from the front of the queue; `env i` is what the handling
of the packet at position `i` reads. -/
def drainFrom (hashOf : Bytes → Nat) (env : Nat → UplinkEnv) :
    Nat → Nat → Sender → List UplinkPacket → Sender × List UplinkPacket
  | 0, _, s, rx => (s, rx)
  | _ + 1, _, s, [] => (s, [])
  | left + 1, i, s, packet :: rx =>
    drainFrom hashOf env left (i + 1) (s.handleUplinkPacket hashOf packet.connId packet.bytes (env i))
      rx

def drainPacketQueue (setup : LoopSetup) (l : SenderLoop) (classic : Bool) (io : Nat → ReceiveIo) :
    SenderLoop :=
  let (sender, packetRx) :=
    drainFrom setup.hashOf (fun i => (io i).env classic) maxDrainPackets 0 l.sender l.packetRx
  { l with sender, packetRx }

/-- A receive on the local socket; one that fails is only logged. -/
def receiveClient (setup : LoopSetup) (l : SenderLoop) (received : Option (Bytes × SocketAddr))
    (sends : Sends) (snap : ConfigSnapshot) (criticalWindow : CriticalWindow) (now : Nat) :
    SenderLoop :=
  match received with
  | some (pkt, src) =>
    { l with
      sender.toDataPath :=
        l.sender.toDataPath.handleSrtPacket setup.calculate pkt src l.sender.connIo sends
          l.sender.reg.hasConnected snap criticalWindow now }
  | none => l

def handleClient (setup : LoopSetup) (l : SenderLoop) (received : Option (Bytes × SocketAddr))
    (sends : Sends) (config : DynamicConfig) (criticalWindow : CriticalWindow) (now : Nat)
    (drain : Nat → ReceiveIo) : SenderLoop :=
  let snap := config.snapshot l.sender.negotiatedLatencyMs
  (l.receiveClient setup received sends snap criticalWindow now).drainPacketQueue setup
    snap.mode.isClassic drain

def handleUplink (setup : LoopSetup) (l : SenderLoop) (config : DynamicConfig)
    (drain : Nat → ReceiveIo) : SenderLoop :=
  let classic := config.schedulingMode.isClassic
  match l.packetRx with
  -- the branch is not taken while the queue is empty
  | [] => l
  | packet :: packetRx =>
    let sender :=
      l.sender.handleUplinkPacket setup.hashOf packet.connId packet.bytes ((drain 0).env classic)
    { l with sender, packetRx }.drainPacketQueue setup classic fun i => drain (i + 1)

def housekeep (l : SenderLoop) (env : HousekeepingEnv) : SenderLoop :=
  { l with
    sender := (l.sender.housekeepWithTasks l.tasks env).1
    tasks := (l.sender.housekeepWithTasks l.tasks env).2 }

/-- Judge the links and stamp the verdicts on them. -/
def judgeLinks (setup : LoopSetup) (l : SenderLoop) (ccNow : Nat) : SenderLoop :=
  let classified := l.weakLinkFilter.classify l.sender.conns l.sender.negotiatedLatencyMs
  let ticked := l.linkCcController.tickAll setup.exp l.sender.conns ccNow
  { l with
    sender := l.sender.stampVerdicts (linkVerdict classified.2 ticked.2)
    weakLinkFilter := classified.1
    linkCcController := ticked.1 }

/-- Whatever is pending is taken; a list of uplinks is applied. -/
def applyPending (setup : LoopSetup) (l : SenderLoop) (dial : IpAddr → Option Dialed) : SenderLoop :=
  match l.pendingChanges with
  | some ⟨some newIps, newWeights, receiverHost, receiverPort⟩ =>
    let env : ReloadEnv := { newIps, newWeights, receiverHost, receiverPort, dial }
    let sender := l.sender.applyReload setup.showIp env
    { l with
      sender
      tasks :=
        (l.sender.reloadTasks setup.showIp l.tasks env).syncReaders (sender.conns.map (·.connId))
      pendingChanges := none }
  | _ => { l with pendingChanges := none }

def syncReaders (l : SenderLoop) : SenderLoop :=
  { l with tasks := l.tasks.syncReaders (l.sender.conns.map (·.connId)) }

def handleTick (setup : LoopSetup) (l : SenderLoop) (io : TickIo) : SenderLoop :=
  let l := ((l.housekeep io.env).judgeLinks setup io.ccNow).applyPending setup io.dial
  l.syncReaders.drainPacketQueue setup io.drainConfig.schedulingMode.isClassic io.drain

/-- The uplink file is read again. A file without a usable line is refused, and the list that
may already be pending stays. -/
def queueReload (setup : LoopSetup) (l : SenderLoop) (file : Option (List Char)) : SenderLoop :=
  match analyzeIpReload setup.parseIp file with
  | some (.apply ips weights _) =>
    { l with
      pendingChanges :=
        some
          { newIps := some ips
            newWeights := weights
            receiverHost := setup.receiverHost
            receiverPort := setup.receiverPort } }
  | _ => l

def handleHangup (setup : LoopSetup) (l : SenderLoop) (file : Option (List Char))
    (config : DynamicConfig) (drain : Nat → ReceiveIo) : SenderLoop :=
  (l.queueReload setup file).drainPacketQueue setup config.schedulingMode.isClassic drain

def handleFlush (l : SenderLoop) (sends : Sends) (now : Nat) : SenderLoop :=
  let (conns, tracker) := flushAllBatches l.sender.connIo sends now l.sender.conns l.sender.tracker
  { l with sender.conns := conns, sender.tracker := tracker }

def branch (setup : LoopSetup) (l : SenderLoop) : LoopEvent → SenderLoop
  | .queued packet => { l with packetRx := l.packetRx ++ [packet] }
  | .readerEnded connId => { l with tasks := l.tasks.readerEnded connId }
  | .client received sends config criticalWindow now drain =>
    l.handleClient setup received sends config criticalWindow now drain
  | .uplink config drain => l.handleUplink setup config drain
  | .tick io => l.handleTick setup io
  | .hangup file config drain => l.handleHangup setup file config drain
  | .flush sends now => l.handleFlush sends now
  | .terminate => { l with running := false }

/-- Once the loop has returned nothing happens any more. -/
def step (setup : LoopSetup) (l : SenderLoop) (e : LoopEvent) : SenderLoop :=
  if l.running then l.branch setup e else l

/-- The loop as it is entered: every uplink has a socket and a reader, and one pass of
housekeeping has been made. -/
def enter (s : Sender) (pass : HousekeepingEnv) (config : DynamicConfig) : SenderLoop :=
  let tasks := (s.conns.map (·.connId)).foldl UplinkTasks.openSocket {}
  let l : SenderLoop := { sender := s, tasks }
  l.syncReaders.housekeep { pass with classic := config.schedulingMode.isClassic }

/-- From the uplink file to the loop; `none` if the file has no usable line or no uplink can
be opened. -/
def startup (setup : LoopSetup) (file : Option (List Char)) (dial : Nat → IpAddr → Option Dialed)
    (id probeId : SrtlaId) (config : DynamicConfig) (now : Nat) (pass : HousekeepingEnv) :
    Option SenderLoop :=
  match analyzeIpReload setup.parseIp file with
  | some (.apply ips weights _) =>
    (Sender.startup setup.toExternals setup.receiverHost setup.receiverPort dial ips weights id probeId
        config.rehomeOnFailure now).map fun s => enter s pass config
  | _ => none

end SenderLoop

end SrtlaSend
