import SrtlaSend.Lib.Run
import SrtlaSend.Sender.Housekeeping

/-!
# Event loop

The handlers of the sender as one state machine. Every branch of the loop is an
event that carries what it reads from outside: bytes, clocks, socket outcomes.
-/

namespace SrtlaSend

open Runs

/-- What the handling of one uplink datagram reads from outside. `eventsMs` is
the second clock read, after the datagram was parsed. -/
structure UplinkEnv where
  now : Nat
  eventsMs : Nat
  sends : Sends
  classic : Bool

/-- A reload of the uplink list, with the outcome of every dial. -/
structure ReloadEnv where
  newIps : List IpAddr
  newWeights : List Nat
  receiverHost : String
  receiverPort : Nat
  dial : IpAddr → Option Dialed

/-- What the weak-link classifier and the congestion controller say about a link. -/
structure LinkVerdict where
  weak : Bool
  weakReason : WeakReason
  ccBackingOff : Bool
  ccTargetBps : Nat
  lossDegraded : Bool

inductive Event
  | data (pkt : Bytes) (src : SocketAddr) (sends : Sends) (config : ConfigSnapshot)
      (criticalWindow : CriticalWindow) (now : Nat)
  | uplink (connId : Nat) (bytes : Bytes) (env : UplinkEnv)
  | flush (sends : Sends) (now : Nat)
  | housekeeping (env : HousekeepingEnv)
  | classify (verdict : Nat → LinkVerdict)
  | reload (env : ReloadEnv)

namespace Sender

/-- The part of a datagram's handling that concerns link, manager and relay. -/
def receiveUplink (hashOf : Bytes → Nat) (s : Sender) (idx : Nat) (conn : SrtlaConnection)
    (bytes : Bytes) (env : UplinkEnv) : Sender × SrtlaIncoming :=
  let out := processUplinkPacket hashOf conn idx s.reg s.lastClientAddr s.dedup bytes env.now
  -- an immediate REG1 goes out on the same socket
  let sendReg1 := out.incoming.reg1Send.isSome && decide (conn.connId ∈ s.connIo) &&
    (env.sends conn.connId).sent
  let conn := if sendReg1 then out.conn.noteSent (env.sends conn.connId).now else out.conn
  ({ s with
      conns := s.conns.set idx conn
      reg := out.reg
      dedup := out.dedup
      negotiatedLatencyMs := out.incoming.negotiatedLatencyMs.getD s.negotiatedLatencyMs },
    out.incoming)

/-- One datagram from the receiver, by the uplink it arrived on. -/
def handleUplinkPacket (hashOf : Bytes → Nat) (s : Sender) (connId : Nat) (bytes : Bytes)
    (env : UplinkEnv) : Sender :=
  if bytes.isEmpty then s
  else
    match s.conns.findIdx? (·.connId == connId) with
    | none => s
    | some idx =>
      match s.conns[idx]? with
      | none => s
      | some conn =>
        let (s, incoming) := s.receiveUplink hashOf idx conn bytes env
        let (conns, _) :=
          processConnectionEvents idx s.conns s.lastClientAddr s.tracker env.classic incoming
            env.eventsMs
        { s with conns }

/-- Stamp the verdicts on the links, by connection id. -/
def stampVerdicts (s : Sender) (verdict : Nat → LinkVerdict) : Sender :=
  { s with
    conns := s.conns.map fun conn =>
      let v := verdict conn.connId
      { conn with
        weak := v.weak
        weakReason := v.weakReason
        ccBackingOff := v.ccBackingOff
        ccTargetBps := v.ccTargetBps
        lossDegraded := v.lossDegraded } }

def applyReload (showIp : IpAddr → String) (s : Sender) (env : ReloadEnv) : Sender :=
  let reloaded :=
    applyConnectionChanges showIp env.dial s.conns s.connIo env.newIps env.newWeights
      env.receiverHost env.receiverPort s.lastSelectedIdx s.tracker
  { s with
    conns := reloaded.conns
    connIo := reloaded.connIo
    lastSelectedIdx := reloaded.lastSelectedIdx
    tracker := reloaded.tracker }

end Sender

/-- The parameters of the model: the quality function, the deduplication hash and
the textual form of an address. -/
structure Externals where
  calculate : SrtlaConnection → Nat → ℚ
  hashOf : Bytes → Nat
  showIp : IpAddr → String

def Sender.step (ext : Externals) (s : Sender) : Event → Sender
  | .data pkt src sends config criticalWindow now =>
    { s with
      toDataPath :=
        s.toDataPath.handleSrtPacket ext.calculate pkt src s.connIo sends s.reg.hasConnected config
          criticalWindow now }
  | .uplink connId bytes env => s.handleUplinkPacket ext.hashOf connId bytes env
  | .flush sends now =>
    let (conns, tracker) := flushAllBatches s.connIo sends now s.conns s.tracker
    { s with conns, tracker }
  | .housekeeping env => (s.handleHousekeeping env).1
  | .classify verdict => s.stampVerdicts verdict
  | .reload env => s.applyReload ext.showIp env

@[simp] theorem Sender.step_uplink (ext : Externals) (s : Sender) (connId : Nat) (bytes : Bytes)
    (env : UplinkEnv) :
    s.step ext (.uplink connId bytes env) = s.handleUplinkPacket ext.hashOf connId bytes env := rfl

@[simp] theorem Sender.step_housekeeping (ext : Externals) (s : Sender) (env : HousekeepingEnv) :
    s.step ext (.housekeeping env) = (s.handleHousekeeping env).1 := rfl

/-- The sender as its loop is entered: a new manager has probed every uplink. -/
def Sender.start (conns : List SrtlaConnection) (connIo : ConnIoMap) (id probeId : SrtlaId)
    (rehomeEnabled : Bool) (now : Nat) : Sender :=
  let (reg, conns, _) := (SrtlaRegistrationManager.new id probeId).startProbing conns now
  { conns
    lastSelectedIdx := none
    tracker := .new
    lastClientAddr := none
    connIo
    reg
    dedup := .new
    negotiatedLatencyMs := 0
    allFailedAt := none
    rehome := { enabled := rehomeEnabled } }

/-- From the list of uplinks to the loop; `none` if no uplink can be opened. -/
def Sender.startup (ext : Externals) (receiverHost : String) (receiverPort : Nat)
    (dial : Nat → IpAddr → Option Dialed) (ips : List IpAddr) (weights : List Nat)
    (id probeId : SrtlaId) (rehomeEnabled : Bool) (now : Nat) : Option Sender :=
  let (conns, connIo) :=
    createConnectionsFromIps ext.showIp receiverHost receiverPort dial ips weights ∅
  if conns.isEmpty then none else some (.start conns connIo id probeId rehomeEnabled now)

/-! ### A sample bond

Two uplinks and an environment in which every socket works, for concrete runs. -/

namespace Sample

def groupId (byte : UInt8) : SrtlaId := ⟨List.replicate srtlaIdLen byte, List.length_replicate⟩

def receiver : SocketAddr := ⟨.v4 0xcb007101, 5000⟩

def client : SocketAddr := ⟨.v4 0x7f000001, 6000⟩

/-- A constant quality and hash; addresses print as their bits. -/
def externals : Externals :=
  { calculate := fun _ _ => 1
    hashOf := fun _ => 0
    showIp := fun
      | .v4 bits => toString bits
      | .v6 bits => toString bits }

/-- A link not yet registered, created half a second after the clock started. -/
def link (connId : Nat) : SrtlaConnection :=
  .newRegistering connId (uplinkLabel externals.showIp "receiver" 5000 (.v4 connId)) (.v4 connId) 500

/-- A sender whose uplinks have the given connection ids. -/
def sender (connIds : List Nat) : Sender :=
  .start (connIds.map link) (connIds.foldl (fun io connId => io.insert connId receiver) ∅)
    (groupId 1) (groupId 2) false 500

def sends (now : Nat) : Sends := fun _ => ⟨now, true⟩

/-- A datagram on uplink `connId`. -/
def receive (connId : Nat) (bytes : Bytes) (now : Nat) : Event :=
  .uplink connId bytes { now, eventsMs := now, sends := sends now, classic := true }

def regNgp : Bytes := toBe16 srtlaTypeRegNgp
def reg2 (byte : UInt8) : Bytes := toBe16 srtlaTypeReg2 ++ (groupId byte).val
def reg3 : Bytes := toBe16 srtlaTypeReg3
def regErr : Bytes := toBe16 srtlaTypeRegErr

/-- A pass in which the sockets of the uplinks in `down` cannot be opened. -/
def pass (now : Nat) (down : List Nat) : HousekeepingEnv :=
  { now, classic := true, probeNow := now
    opened := fun connId => decide (connId ∉ down)
    sent := fun connId => decide (connId ∉ down)
    rehome := { resolved := none, opened := fun _ => true, freshId := groupId 3, probeId := groupId 4 } }

/-- Both uplinks of `sender [1, 2]` answer their probe, and the faster one gets the
group id; the pass at two seconds tells it to both. -/
def grouped : List Event :=
  [receive 1 regNgp 520, receive 2 regNgp 540, .housekeeping (pass 1000 []), receive 1 (reg2 5) 1100,
    .housekeeping (pass 2000 [])]

/-- Both uplinks register. -/
def handshake : List Event := grouped ++ [receive 1 reg3 2100, receive 2 reg3 2100]

end Sample

end SrtlaSend
