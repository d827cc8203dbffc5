import SrtlaSend.Lib.FirstMax
import SrtlaSend.Core.Connection

/-!
# Registration

The bond-wide handshake driver: one REG1/REG2 slot, a REG2 broadcast flag, the
one-shot REG3 grants, and the RTT probing that picks the first uplink. Uplinks
are addressed by their position. Random identifiers are inputs, and so is the
clock that `checkProbingComplete` reads for itself.
-/

namespace SrtlaSend

open MachineInt

inductive RegistrationEvent
  | regNgp
  | reg2
  | reg3
  | regErr
deriving DecidableEq, Repr

structure OutOfPhaseCounters where
  reg3 : Nat := 0
  regErr : Nat := 0
deriving DecidableEq, Repr

inductive ProbingState
  | notStarted
  | probing
  | waitingForProbes
  | complete
deriving DecidableEq, Repr

structure ProbeResult where
  connIdx : Nat
  probeSentMs : Nat
  rttMs : Option Nat
deriving DecidableEq, Repr

/-- What the driver wants sent: a REG1 to one uplink, a REG2 to all of them. -/
structure RegDriverSends where
  reg1 : Option (Nat × Bytes) := none
  broadcastReg2 : Option Bytes := none
deriving DecidableEq, Repr

structure SrtlaRegistrationManager where
  srtlaId : SrtlaId
  pendingReg2Idx : Option Nat
  pendingTimeoutAtMs : Nat
  activeConnections : Nat
  hasConnected : Bool
  broadcastReg2Pending : Bool
  reg1TargetIdx : Option Nat
  reg1NextSendAtMs : Nat
  probingState : ProbingState
  probeId : SrtlaId
  probeResults : List ProbeResult
  awaitingReg3 : List Nat
  connectedSnapshot : List Bool
  outOfPhase : OutOfPhaseCounters
deriving DecidableEq

namespace SrtlaRegistrationManager

def new (id probeId : SrtlaId) : SrtlaRegistrationManager :=
  { srtlaId := id
    pendingReg2Idx := none
    pendingTimeoutAtMs := 0
    activeConnections := 0
    hasConnected := false
    broadcastReg2Pending := false
    reg1TargetIdx := none
    reg1NextSendAtMs := 0
    probingState := .notStarted
    probeId
    probeResults := []
    awaitingReg3 := []
    connectedSnapshot := []
    outOfPhase := {} }

/-- The sender's half of the id, followed by the fresh receiver's half. -/
def keepSenderHalf (id fresh : SrtlaId) : SrtlaId :=
  ⟨id.val.take (srtlaIdLen / 2) ++ fresh.val.drop (srtlaIdLen / 2), by
    simp [id.property, fresh.property, srtlaIdLen]⟩

def resetForRehome (r : SrtlaRegistrationManager) (fresh probeId : SrtlaId) :
    SrtlaRegistrationManager :=
  { r with
    srtlaId := keepSenderHalf r.srtlaId fresh
    pendingReg2Idx := none
    pendingTimeoutAtMs := 0
    activeConnections := 0
    broadcastReg2Pending := false
    reg1TargetIdx := none
    reg1NextSendAtMs := 0
    awaitingReg3 := []
    connectedSnapshot := []
    probingState := .notStarted
    probeId
    probeResults := [] }

/-! ### Grants -/

def armReg3Grant (r : SrtlaRegistrationManager) (connIdx : Nat) : SrtlaRegistrationManager :=
  if connIdx ∈ r.awaitingReg3 then r
  else { r with awaitingReg3 := r.awaitingReg3 ++ [connIdx] }

def revokeReg3Grant (r : SrtlaRegistrationManager) (connIdx : Nat) : SrtlaRegistrationManager :=
  { r with awaitingReg3 := r.awaitingReg3.filter fun idx => decide (idx ≠ connIdx) }

def isConnectedSnapshot (r : SrtlaRegistrationManager) (connIdx : Nat) : Bool :=
  (r.connectedSnapshot[connIdx]?).getD false

/-! ### Builders -/

/-- Build a REG1 and take the slot until the REG2 timeout. -/
def buildReg1For (r : SrtlaRegistrationManager) (connIdx now : Nat) :
    SrtlaRegistrationManager × Bytes :=
  ({ r with
      pendingReg2Idx := some connIdx
      reg1TargetIdx := some connIdx
      pendingTimeoutAtMs := now + reg2Timeout * 1000
      reg1NextSendAtMs := now + 1000 },
    createReg1Packet r.srtlaId)

/-- Build the REG2 of a reconnect, which arms unconditionally. -/
def buildReg2 (r : SrtlaRegistrationManager) (connIdx : Nat) : SrtlaRegistrationManager × Bytes :=
  (r.armReg3Grant connIdx, createReg2Packet r.srtlaId)

/-! ### Probing -/

/-- The first result of `connIdx` gets its round trip, once. -/
def recordProbeResponse (connIdx now : Nat) : List ProbeResult → List ProbeResult
  | [] => []
  | result :: rest =>
    if result.connIdx = connIdx then
      (if result.rttMs.isNone then { result with rttMs := some (now - result.probeSentMs) }
        else result) :: rest
    else result :: recordProbeResponse connIdx now rest

def handleProbeResponse (r : SrtlaRegistrationManager) (connIdx now : Nat) :
    SrtlaRegistrationManager :=
  if r.probingState ≠ .waitingForProbes then r
  else { r with probeResults := recordProbeResponse connIdx now r.probeResults }

/-- Probe every uplink once; each probe renews the uplink's startup grace. -/
def startProbing (r : SrtlaRegistrationManager) (connections : List SrtlaConnection) (now : Nat) :
    SrtlaRegistrationManager × List SrtlaConnection × List (Nat × Bytes) :=
  if r.probingState ≠ .notStarted ∨ r.activeConnections > 0 then (r, connections, [])
  else
    let probed := connections.map (·.probeReg2Packet r.probeId now)
    let probeResults := connections.mapIdx fun idx _ => ⟨idx, now, none⟩
    let probes := probed.mapIdx fun idx p => (idx, p.2)
    let r :=
      if probeResults.isEmpty then { r with probeResults, probingState := .complete }
      else
        { r with
          probeResults
          probingState := .waitingForProbes
          pendingTimeoutAtMs := now + 2000 }
    (r, probed.map (·.1), probes)

/-- The uplink with the fastest answer, the first one on a tie. -/
def fastestProbe (results : List ProbeResult) : Option Nat :=
  let rtts := results.map fun result => result.rttMs.map OrderDual.toDual
  ((FirstMax.scan none rtts).idx.bind fun i => results[i]?).map (·.connIdx)

def checkProbingComplete (r : SrtlaRegistrationManager) (now : Nat) :
    SrtlaRegistrationManager × Bool :=
  if r.probingState ≠ .waitingForProbes then (r, false)
  else
    let allResponded := r.probeResults.all (·.rttMs.isSome)
    let timedOut := decide (now ≥ r.pendingTimeoutAtMs)
    if allResponded || timedOut then
      ({ r with
          -- Without any answer the first connection is used.
          reg1TargetIdx := some ((fastestProbe r.probeResults).getD 0)
          reg1NextSendAtMs := now
          probingState := .complete
          pendingTimeoutAtMs := 0 },
        true)
    else (r, false)

def isProbing (r : SrtlaRegistrationManager) : Bool :=
  r.probingState == .probing || r.probingState == .waitingForProbes

/-! ### Received frames -/

def handleRegNgp (r : SrtlaRegistrationManager) (connIdx nowMs : Nat) : SrtlaRegistrationManager :=
  if r.probingState = .waitingForProbes then r.handleProbeResponse connIdx nowMs
  else if r.activeConnections = 0 ∧ r.pendingReg2Idx = none then
    { r with reg1TargetIdx := some connIdx, reg1NextSendAtMs := nowMs }
  else r

/-- The id carried by a REG2 of sufficient length. -/
def reg2Id (buf : Bytes) : Option SrtlaId :=
  if h : 2 + srtlaIdLen ≤ buf.length then
    some ⟨(buf.drop 2).take srtlaIdLen, by rw [List.length_take, List.length_drop]; omega⟩
  else none

def handleReg2 (r : SrtlaRegistrationManager) (connIdx : Nat) (buf : Bytes) (nowMs : Nat) :
    SrtlaRegistrationManager :=
  match reg2Id buf with
  | none => r
  | some id =>
    if r.pendingReg2Idx = some connIdx then
      { r with
        srtlaId := id
        pendingReg2Idx := none
        pendingTimeoutAtMs := nowMs + reg3Timeout * 1000
        broadcastReg2Pending := true
        reg1TargetIdx := none
        reg1NextSendAtMs := 0 }
    else r

/-- A REG3 is honoured only against a grant, which it consumes. -/
def handleReg3 (r : SrtlaRegistrationManager) (connIdx : Nat) : SrtlaRegistrationManager × Bool :=
  if connIdx ∉ r.awaitingReg3 then
    ({ r with outOfPhase.reg3 := satU64 (r.outOfPhase.reg3 + 1) }, false)
  else ({ r.revokeReg3Grant connIdx with hasConnected := true }, true)

/-- Give up the slot after a REG_ERR for its owner. -/
def abandonSlot (r : SrtlaRegistrationManager) (nowMs : Nat) : SrtlaRegistrationManager :=
  { r with
    pendingReg2Idx := none
    pendingTimeoutAtMs := 0
    reg1TargetIdx := none
    reg1NextSendAtMs := nowMs + reg2Timeout * 1000 }

/-- A REG_ERR is honoured only while this uplink awaits REG2 or REG3. -/
def handleRegErr (r : SrtlaRegistrationManager) (connIdx nowMs : Nat) :
    SrtlaRegistrationManager × Bool :=
  let awaitingReg2 := r.pendingReg2Idx = some connIdx
  let awaitingReg3 := connIdx ∈ r.awaitingReg3
  if ¬ awaitingReg2 ∧ ¬ awaitingReg3 then
    ({ r with outOfPhase.regErr := satU64 (r.outOfPhase.regErr + 1) }, false)
  else ((if awaitingReg2 then r.abandonSlot nowMs else r).revokeReg3Grant connIdx, true)

/-- Dispatch on the frame type; an out-of-phase REG3 or REG_ERR is no event. -/
def processRegistrationPacket (r : SrtlaRegistrationManager) (connIdx : Nat) (buf : Bytes)
    (nowMs : Nat) : SrtlaRegistrationManager × Option RegistrationEvent :=
  let type := getPacketType buf
  if type = some srtlaTypeRegNgp then (r.handleRegNgp connIdx nowMs, some .regNgp)
  else if type = some srtlaTypeReg2 then (r.handleReg2 connIdx buf nowMs, some .reg2)
  else if type = some srtlaTypeReg3 then
    let (r, accepted) := r.handleReg3 connIdx
    (r, if accepted then some .reg3 else none)
  else if type = some srtlaTypeRegErr then
    let (r, accepted) := r.handleRegErr connIdx nowMs
    (r, if accepted then some .regErr else none)
  else (r, none)

/-- Answer a REG_NGP at once, when a REG1 is due on that uplink. -/
def reg1IfNgpImmediate (r : SrtlaRegistrationManager) (connIdx now : Nat) :
    SrtlaRegistrationManager × Option Bytes :=
  if r.activeConnections = 0 ∧ r.pendingReg2Idx = none ∧ r.reg1TargetIdx = some connIdx ∧
      now ≥ r.reg1NextSendAtMs then
    let (r, pkt) := r.buildReg1For connIdx now
    (r, some pkt)
  else (r, none)

/-! ### Driver -/

def updateActiveConnections (r : SrtlaRegistrationManager) (connections : List SrtlaConnection) :
    SrtlaRegistrationManager :=
  { r with
    activeConnections := (connections.filter (·.connected)).length
    connectedSnapshot := connections.map (·.connected) }

/-- The REG1 half of the driver: it keeps its own, slower retry time. -/
def driveReg1 (r : SrtlaRegistrationManager) (now : Nat) :
    SrtlaRegistrationManager × Option (Nat × Bytes) :=
  match r.reg1TargetIdx with
  | some idx =>
    if r.activeConnections = 0 ∧ r.pendingReg2Idx = none ∧ now ≥ r.reg1NextSendAtMs then
      ({ r with
          pendingReg2Idx := some idx
          pendingTimeoutAtMs := now + reg2Timeout * 1000
          reg1NextSendAtMs := now + reg2Timeout * 1000 },
        some (idx, createReg1Packet r.srtlaId))
    else (r, none)
  | none => (r, none)

/-- Arm every uplink that was not connected in the last snapshot. -/
def armBroadcast (r : SrtlaRegistrationManager) (connectionCount : Nat) :
    SrtlaRegistrationManager :=
  (List.range connectionCount).foldl
    (fun r idx => if r.isConnectedSnapshot idx then r else r.armReg3Grant idx) r

/-- The REG2 half of the driver. -/
def driveBroadcast (r : SrtlaRegistrationManager) (connectionCount : Nat) :
    SrtlaRegistrationManager × Option Bytes :=
  if r.broadcastReg2Pending then
    ({ r.armBroadcast connectionCount with broadcastReg2Pending := false },
      some (createReg2Packet r.srtlaId))
  else (r, none)

def regDriverPendingSends (r : SrtlaRegistrationManager) (connectionCount now : Nat) :
    SrtlaRegistrationManager × RegDriverSends :=
  let (r, reg1) := r.driveReg1 now
  let (r, broadcastReg2) := r.driveBroadcast connectionCount
  (r, { reg1, broadcastReg2 })

def clearPendingIfTimedOut (r : SrtlaRegistrationManager) (nowMs : Nat) :
    SrtlaRegistrationManager × Option Nat :=
  match r.pendingReg2Idx with
  | some idx =>
    if r.pendingTimeoutAtMs ≠ 0 ∧ nowMs ≥ r.pendingTimeoutAtMs then
      ({ r with
          pendingReg2Idx := none
          pendingTimeoutAtMs := 0
          reg1TargetIdx := none
          reg1NextSendAtMs := nowMs },
        some idx)
    else (r, none)
  | none => (r, none)

def getSelectedConnectionIdx (r : SrtlaRegistrationManager) : Option Nat := r.reg1TargetIdx

end SrtlaRegistrationManager

end SrtlaSend
