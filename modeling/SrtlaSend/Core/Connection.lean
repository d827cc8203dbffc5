import SrtlaSend.Lib.FiniteMap
import SrtlaSend.Lib.FloatRounding
import SrtlaSend.Core.Seq
import SrtlaSend.Core.Rtt
import SrtlaSend.Core.Congestion
import SrtlaSend.Core.BatchSend
import SrtlaSend.Core.Reconnection
import SrtlaSend.Core.Config

/-!
# One uplink

The socket-free state of an uplink and everything it decides on its own: its
score, its batch queue, its lifecycle phase, the stall latch with the silence
pull above it, the liveness timeout, and the three resets. A method that
mutates the connection returns the updated one. Log lines are left out.
-/

namespace SrtlaSend

open MachineInt

/-! ### Lifecycle phase -/

def warmingRttProbes : Nat := 2

def warmingTimeoutMs : Nat := 5000

inductive LinkPhase
  | registering
  | warming (rttProbes enteredMs : Nat)
  | live
  | degraded
deriving DecidableEq, Repr

namespace LinkPhase

/-- Only a link without REG3 is barred from carrying data. -/
def isSchedulable : LinkPhase → Bool
  | registering => false
  | _ => true

def weight : LinkPhase → ℚ
  | registering => 0
  | warming _ _ => 8 / 10
  | live => 1
  | degraded => 1

end LinkPhase

/-! ### Small records -/

def qualityCacheIntervalMs : Nat := 50

structure CachedQuality where
  multiplier : ℚ := 1
  lastCalculatedMs : Nat := 0
deriving DecidableEq, Repr

/-- Why the classifier called a link weak. -/
inductive WeakReason
  | healthy
  | highRtt
  | queueBuilding
  | noTraffic
  | lowShare
  | bypassed
deriving DecidableEq, Repr

/-- The verdict is about delay: the link is late, not merely under-used. -/
def WeakReason.isDelay : WeakReason → Bool
  | highRtt => true
  | queueBuilding => true
  | _ => false

structure BitrateTracker where
  bytesSentTotal : Nat
  bytesSentWindow : Nat
  lastRateUpdateMs : Nat
  currentBitrateBps : ℚ
deriving DecidableEq, Repr

namespace BitrateTracker

def bitrateUpdateIntervalMs : Nat := 2000

def new (nowMs : Nat) : BitrateTracker := ⟨0, 0, nowMs, 0⟩

def reset (_ : BitrateTracker) (nowMs : Nat) : BitrateTracker := ⟨0, 0, nowMs, 0⟩

def updateOnSend (b : BitrateTracker) (bytesSent : Nat) : BitrateTracker :=
  { b with bytesSentTotal := satU64 (b.bytesSentTotal + bytesSent) }

def calculate (b : BitrateTracker) (nowMs : Nat) : BitrateTracker :=
  let timeDiffMs := nowMs - b.lastRateUpdateMs
  if timeDiffMs ≥ bitrateUpdateIntervalMs then
    let bits := satU64 ((b.bytesSentTotal - b.bytesSentWindow) * 8)
    { b with
      currentBitrateBps := bits * 1000 / timeDiffMs
      lastRateUpdateMs := nowMs
      bytesSentWindow := b.bytesSentTotal }
  else b

end BitrateTracker

/-- An address in either family, as its 32 or 128 bits. -/
inductive IpAddr
  | v4 (bits : Nat)
  | v6 (bits : Nat)
deriving DecidableEq, Repr

/-! ### Score multipliers -/

def linkWeightMin : Nat := 1
def linkWeightMax : Nat := 10
def linkWeightFullAboveWindow : Int := 20 * windowMult
def linkWeightNoneAtOrBelowWindow : Int := 10 * windowMult

/-- Rounding to `f32`, as after every operation on such numbers. -/
def asF32 : ℚ → ℚ := FloatFormat.binary32.round

/-- Score multiplier of an operator weight at a given window, an `f32`. -/
def linkWeightMultiplier (window : Int) (weight : Nat) : ℚ :=
  -- a weight is a `u8`, which an `f32` holds exactly
  let weight : ℚ := (max linkWeightMin (min weight linkWeightMax) : Nat)
  if window > linkWeightFullAboveWindow then weight
  else if window > linkWeightNoneAtOrBelowWindow then
    let factor : ℚ :=
      asF32 (asF32 (window - linkWeightNoneAtOrBelowWindow : Int) /
        asF32 (linkWeightFullAboveWindow - linkWeightNoneAtOrBelowWindow : Int))
    asF32 (1 + asF32 (asF32 (weight - 1) * factor))
  else 1

/-- Shift the weights so that the lowest is 1; `none` if an operation on `u8` leaves its
range. -/
def normaliseLinkWeights (weights : List Nat) : Option (List Nat) :=
  let weights := weights.map fun w => max linkWeightMin (min w linkWeightMax)
  match weights.min? with
  | none => some weights
  | some lowest => weights.mapM fun w => (subU w lowest).bind (addU8 · 1)

/-- Share of its natural score a link competes with while it ramps back in. -/
def rejoinRampMultiplier (rampStartMs rampMs nowMs : Nat) : ℚ :=
  if rampStartMs = 0 ∨ rampMs = 0 then 1
  else
    let elapsed := nowMs - rampStartMs
    if elapsed ≥ rampMs then 1
    else
      let progress : ℚ := elapsed / rampMs
      max stallRejoinRampFloor (min (stallRejoinRampFloor + (1 - stallRejoinRampFloor) * progress) 1)

/-- Rejoin-dwell multiplier to serve after the latch engages again. -/
def stallRejoinBackoffNext (backoff releasedAtMs heldForMs probationMs : Nat) : Nat :=
  if releasedAtMs = 0 ∨ heldForMs ≥ probationMs then 1
  else
    let doubled := if backoff ≤ 1 then 2 else satU32 (backoff * 2)
    min doubled stallRejoinBackoffMax

/-- Proof of delivery counts only if half the round trip fits the receiver's buffer. -/
def deliveryProofIsTimely (smoothRttMs : ℚ) (budgetMs : Nat) : Bool :=
  if budgetMs = 0 ∨ smoothRttMs ≤ 0 then true else decide (smoothRttMs / 2 ≤ budgetMs)

/-! ### The connection -/

structure SrtlaConnection where
  connId : Nat
  localIp : IpAddr
  label : String
  connected : Bool
  window : Int
  inFlightPackets : Int
  packetLog : FiniteMap Int Nat
  probeLog : FiniteMap Int Nat
  highestAckedSeq : Int
  lastReceived : Option Nat
  lastSent : Option Nat
  lastKeepaliveSent : Option Nat
  lastAckOrRttSampleMs : Nat
  stallGated : Bool
  stallLatchedSinceMs : Nat
  stallRecoverySinceMs : Nat
  stallGateEvents : Nat
  stallProbeCounter : Nat
  stallReleasedAtMs : Nat
  stallRejoinBackoff : Nat
  stallRejoinRampStartMs : Nat
  stallRejoinRampMs : Nat
  stallRejoinRampFromStallGate : Bool
  soleCarrier : Bool
  soleCarrierSinceMs : Nat
  soleCarrierExcluded : Bool
  soleCarrierElections : Nat
  silencePulled : Bool
  silencePulls : Nat
  connTimeoutMs : Nat
  delayBudgetMs : Nat
  rtt : RttTracker
  congestion : CongestionControl
  bitrate : BitrateTracker
  reconnection : ReconnectionState
  qualityCache : CachedQuality
  batchSender : BatchSender
  phase : LinkPhase
  weak : Bool
  weakReason : WeakReason
  qualityExcluded : Bool
  ccBackingOff : Bool
  ccTargetBps : Nat
  lossDegraded : Bool
  linkWeight : Nat

namespace SrtlaConnection

def newRegistering (connId : Nat) (label : String) (localIp : IpAddr) (now : Nat) :
    SrtlaConnection :=
  { connId, localIp, label
    connected := false
    window := windowDef * windowMult
    inFlightPackets := 0
    packetLog := ∅
    probeLog := ∅
    highestAckedSeq := noAckYet
    lastReceived := none
    lastSent := none
    lastKeepaliveSent := none
    lastAckOrRttSampleMs := 0
    stallGated := false
    stallLatchedSinceMs := 0
    stallRecoverySinceMs := 0
    stallGateEvents := 0
    stallProbeCounter := 0
    stallReleasedAtMs := 0
    stallRejoinBackoff := 0
    stallRejoinRampStartMs := 0
    stallRejoinRampMs := 0
    stallRejoinRampFromStallGate := false
    soleCarrier := false
    soleCarrierSinceMs := 0
    soleCarrierExcluded := false
    soleCarrierElections := 0
    silencePulled := false
    silencePulls := 0
    connTimeoutMs := SrtlaSend.connTimeoutMs
    delayBudgetMs := 0
    rtt := RttTracker.default
    congestion := {}
    bitrate := BitrateTracker.new now
    reconnection := { startupGraceDeadlineMs := now + startupGraceMs }
    qualityCache := {}
    batchSender := {}
    phase := .registering
    weak := false
    weakReason := .healthy
    qualityExcluded := false
    ccBackingOff := false
    ccTargetBps := 0
    lossDegraded := false
    linkWeight := linkWeightMin }

/-! ### Score -/

def weightMultiplier (c : SrtlaConnection) : ℚ := linkWeightMultiplier c.window c.linkWeight

/-- What `getScore` divides the window by: queued packets count as in flight. -/
def scoreDenom (c : SrtlaConnection) : Int :=
  let totalInFlight := satI32 (c.inFlightPackets + c.batchSender.queuedCount)
  max (satI32 (totalInFlight + 1)) 1

def getScore (c : SrtlaConnection) : Int :=
  if !c.connected then -1 else c.window.tdiv c.scoreDenom

theorem one_le_scoreDenom (c : SrtlaConnection) : 1 ≤ c.scoreDenom := le_max_right _ _

theorem getScore_nonneg {c : SrtlaConnection} (on : c.connected = true) (window : 0 ≤ c.window) :
    0 ≤ c.getScore := by
  have positive := c.one_le_scoreDenom
  simp only [getScore, on, Bool.not_true, Bool.false_eq_true, if_false]
  exact Int.tdiv_nonneg window (by omega)

/-! ### Queueing and sending -/

/-- Queue a data packet; the flag asks for a flush. -/
def queueDataPacket (c : SrtlaConnection) (data : Bytes) (seq : Option Nat) (sendTimeMs : Nat) :
    SrtlaConnection × Bool :=
  let (batchSender, full) := c.batchSender.queuePacket data seq sendTimeMs
  ({ c with bitrate := c.bitrate.updateOnSend data.length, batchSender }, full)

/-- Record an outstanding probe; stale entries go first once the log is full. -/
def recordProbe (c : SrtlaConnection) (seq : Int) (sendTimeMs : Nat) : SrtlaConnection :=
  let log :=
    -- only a log that fills up is swept
    if c.probeLog.len ≥ probeLogSoftCap then
      let cutoff := sendTimeMs - probeLogMaxAgeMs
      let live := c.probeLog.retain fun _ sent => decide (sent ≥ cutoff)
      -- a burst within the age limit: the whole log is given up
      if live.len ≥ probeLogSoftCap then ∅ else live
    else c.probeLog
  { c with probeLog := log.insert seq sendTimeMs }

/-- Queue a duplicate probe: untracked by the batch, logged in the probe log. -/
def queueProbePacket (c : SrtlaConnection) (data : Bytes) (seq sendTimeMs : Nat) :
    SrtlaConnection × Bool :=
  let c := { c with bitrate := c.bitrate.updateOnSend data.length }
  -- `seq as i32`, as in the packet log
  let c := c.recordProbe (asI32 seq) sendTimeMs
  let (batchSender, full) := c.batchSender.queuePacket data none sendTimeMs
  ({ c with batchSender }, full)

def registerPacket (c : SrtlaConnection) (seq : Int) (sendTimeMs : Nat) : SrtlaConnection :=
  let packetLog : FiniteMap Int Nat := c.packetLog.insert seq sendTimeMs
  { c with packetLog, inFlightPackets := asI32 packetLog.len }

/-- Register the tracked packets of a drained batch, in order. -/
def registerBatch (c : SrtlaConnection) (batch : List DrainedPacket) : SrtlaConnection :=
  batch.foldl
    (fun c packet =>
      match packet.2.1 with
      | some s => c.registerPacket (asI32 s) packet.2.2
      | none => c)
    c

def needsBatchFlush (c : SrtlaConnection) (nowMs : Nat) : Bool := c.batchSender.needsTimeFlush nowMs

def hasQueuedPackets (c : SrtlaConnection) : Bool := c.batchSender.hasQueuedPackets

def takeBatch (c : SrtlaConnection) (now : Nat) : SrtlaConnection × List DrainedPacket :=
  let (batchSender, batch) := c.batchSender.drain now
  (registerBatch { c with batchSender } batch, batch)

def keepalivePacket (c : SrtlaConnection) (now : Nat) : SrtlaConnection × Bytes :=
  let info : ConnectionInfo :=
    { connId := c.connId % 2 ^ 32
      window := c.window
      inFlight := c.inFlightPackets
      rttMs := satU32 (trunc c.rtt.kalmanRtt.value).toNat
      nakCount := asU32 c.congestion.nakCount
      bitrateBytesPerSec := satU32 (trunc (c.bitrate.currentBitrateBps / 8)).toNat }
  -- one measurement at a time, and none right after another
  let measure := !c.rtt.waitingForKeepaliveResponse &&
    (c.rtt.lastRttMeasurementMs == 0 || decide (now - c.rtt.lastRttMeasurementMs > 3000))
  ({ c with
      lastSent := some now
      lastKeepaliveSent := some now
      rtt := if measure then c.rtt.recordKeepaliveSent now else c.rtt },
    createKeepalivePacketExt info now)

def noteSent (c : SrtlaConnection) (now : Nat) : SrtlaConnection := { c with lastSent := some now }

def probeReg2Packet (c : SrtlaConnection) (probeId : SrtlaId) (now : Nat) :
    SrtlaConnection × Bytes :=
  ({ c with reconnection.startupGraceDeadlineMs := now + startupGraceMs },
    createReg2Packet probeId)

/-! ### Measurements -/

/-- The filter can overshoot below zero, which no round trip is. -/
def getSmoothRttMs (c : SrtlaConnection) : ℚ := max c.rtt.kalmanRtt.value 0

def getRttVelocity (c : SrtlaConnection) : ℚ := c.rtt.kalmanRtt.velocity

def getRttMinMs (c : SrtlaConnection) : ℚ := c.rtt.rttMinMs

def needsRttMeasurement (c : SrtlaConnection) (nowMs : Nat) : Bool :=
  c.rtt.needsMeasurement c.connected c.reconnection.connectionEstablishedMs nowMs

def needsKeepalive (c : SrtlaConnection) (nowMs : Nat) : Bool :=
  if !c.connected then false
  else
    match c.lastKeepaliveSent with
    | none => true
    -- half a tick of slack, so that a pass which comes early still sends
    | some last => decide (nowMs - last + tickSlackMs ≥ idleTime * 1000)

def performWindowRecovery (c : SrtlaConnection) (nowMs : Nat) : SrtlaConnection :=
  let (congestion, window) :=
    c.congestion.performWindowRecovery c.window c.connected c.getRttVelocity nowMs
  { c with congestion, window }

/-- Advance a warming link to live once enough probes came back. -/
def recordRttProbe (c : SrtlaConnection) : SrtlaConnection :=
  match c.phase with
  | .warming rttProbes enteredMs =>
    if rttProbes + 1 ≥ warmingRttProbes then { c with phase := .live }
    else { c with phase := .warming (rttProbes + 1) enteredMs }
  | _ => c

def handleKeepaliveEcho (c : SrtlaConnection) (data : Bytes) (nowMs : Nat) : SrtlaConnection :=
  let (rtt, sample) := c.rtt.handleKeepaliveResponse data nowMs
  let c := { c with rtt }
  -- only a sample of this link counts for the warming
  let c := if sample.isSome then c.recordRttProbe else c
  -- any echo is proof of delivery
  if (keepaliveEchoRttMs data nowMs).isSome then { c with lastAckOrRttSampleMs := nowMs } else c

/-! ### Phase transitions -/

def degradedQualityThreshold : ℚ := 1 / 2

def degradedNakBurstThreshold : Int := 5

def updatePhase (c : SrtlaConnection) (nowMs : Nat) : SrtlaConnection :=
  let nakDegraded :=
    c.qualityCache.multiplier < degradedQualityThreshold ∧
      c.congestion.nakBurstCount ≥ degradedNakBurstThreshold
  let nakRecovered :=
    c.qualityCache.multiplier ≥ degradedQualityThreshold ∧
      c.congestion.nakBurstCount < degradedNakBurstThreshold
  match c.phase with
  | .warming _ enteredMs =>
    if nowMs - enteredMs ≥ warmingTimeoutMs then { c with phase := .live } else c
  -- either signal degrades; both have to clear
  | .live => if nakDegraded ∨ c.lossDegraded then { c with phase := .degraded } else c
  | .degraded => if nakRecovered ∧ !c.lossDegraded then { c with phase := .live } else c
  | .registering => c

def isSchedulable (c : SrtlaConnection) : Bool := c.phase.isSchedulable

def phaseWeight (c : SrtlaConnection) : ℚ := c.phase.weight

/-! ### Stall latch -/

/-- Staleness window of delivery proof, scaled with the path up to a ceiling. -/
def effectiveStallStaleMs (c : SrtlaConnection) (ceilingMs : Nat) : Nat :=
  let srtt := c.getSmoothRttMs
  -- no sample yet
  if srtt ≤ 0 then ceilingMs
  else min (max (satU64 (satU64 (trunc srtt).toNat * stallStaleRttMult)) stallStaleFloorMs) ceilingMs

def isStalled (c : SrtlaConnection) (nowMs : Nat) (minInFlight : Int) (staleCeilingMs : Nat) :
    Bool :=
  c.connected && decide (c.inFlightPackets ≥ minInFlight) && c.lastAckOrRttSampleMs != 0 &&
    decide (nowMs - c.lastAckOrRttSampleMs ≥ c.effectiveStallStaleMs staleCeilingMs)

def rejoinRampMultiplier (c : SrtlaConnection) (nowMs : Nat) : ℚ :=
  SrtlaSend.rejoinRampMultiplier c.stallRejoinRampStartMs c.stallRejoinRampMs nowMs

/-- Start the share ramp unless one is running. -/
def armRejoinRamp (c : SrtlaConnection) (nowMs rampMs : Nat) (fromStallGate : Bool) :
    SrtlaConnection :=
  if c.rejoinRampMultiplier nowMs < 1 then c
  else
    { c with
      stallRejoinRampStartMs := nowMs
      stallRejoinRampMs := rampMs
      stallRejoinRampFromStallGate := fromStallGate }

/-- The rising edge of the latch: judge the rejoin that just ended, then start
a new gate. -/
def engageStallLatch (c : SrtlaConnection) (nowMs staleCeilingMs : Nat) : SrtlaConnection :=
  let probationMs := satU64 (c.effectiveStallStaleMs staleCeilingMs * stallRejoinProbationMult)
  { c with
    stallRejoinBackoff :=
      stallRejoinBackoffNext c.stallRejoinBackoff c.stallReleasedAtMs
        (nowMs - c.stallReleasedAtMs) probationMs
    stallLatchedSinceMs := nowMs
    stallGateEvents := c.stallGateEvents + 1 }

/-- Quick to engage, slow to rejoin: the latch is released only by an
uninterrupted run of fresh and timely delivery proof. -/
def updateStallLatch (c : SrtlaConnection) (nowMs : Nat) (minInFlight : Int)
    (staleCeilingMs : Nat) : SrtlaConnection :=
  let proofFullyStale := c.lastAckOrRttSampleMs != 0 &&
    decide (nowMs - c.lastAckOrRttSampleMs ≥ c.effectiveStallStaleMs staleCeilingMs)
  -- a pulled link drains, so no load is asked of it
  if c.isStalled nowMs minInFlight staleCeilingMs || (c.silencePulled && proofFullyStale) then
    let c := if c.stallLatchedSinceMs = 0 then c.engageStallLatch nowMs staleCeilingMs else c
    { c with stallRecoverySinceMs := 0 }
  else if c.stallLatchedSinceMs = 0 then c
  else
    let staleMs := c.effectiveStallStaleMs staleCeilingMs
    let proofWindowMs := max staleMs stallRejoinProofFloorMs
    let proofFresh := c.lastAckOrRttSampleMs != 0 &&
      decide (nowMs - c.lastAckOrRttSampleMs < proofWindowMs) &&
      deliveryProofIsTimely c.getSmoothRttMs c.delayBudgetMs
    -- a gap in the proof starts the dwell again
    if !proofFresh then { c with stallRecoverySinceMs := 0 }
    else
      let c := if c.stallRecoverySinceMs = 0 then { c with stallRecoverySinceMs := nowMs } else c
      -- the ramp is as long as the dwell without the backoff
      let baseDwellMs := satU64 (staleMs * stallRejoinDwellMult)
      let dwellMs := satU64 (baseDwellMs * max c.stallRejoinBackoff 1)
      if nowMs - c.stallRecoverySinceMs ≥ dwellMs then
        let c :=
          { c with
            stallLatchedSinceMs := 0
            stallRecoverySinceMs := 0
            stallReleasedAtMs := nowMs }
        c.armRejoinRamp nowMs baseDwellMs true
      else c

def clearQualityGateState (c : SrtlaConnection) : SrtlaConnection :=
  { c with
    qualityExcluded := false
    soleCarrier := false
    soleCarrierExcluded := false
    soleCarrierSinceMs := 0 }

def stallLatched (c : SrtlaConnection) : Bool := c.stallLatchedSinceMs != 0

/-- Drop the latch, and the ramp only if the latch armed it. -/
def clearStallLatch (c : SrtlaConnection) : SrtlaConnection :=
  let c :=
    { c with
      stallLatchedSinceMs := 0
      stallRecoverySinceMs := 0
      stallReleasedAtMs := 0
      stallRejoinBackoff := 0 }
  if c.stallRejoinRampFromStallGate then
    { c with
      stallRejoinRampStartMs := 0
      stallRejoinRampMs := 0
      stallRejoinRampFromStallGate := false }
  else c

/-- One in `stallProbeOneInN` calls asks for a duplicate probe. -/
def stallProbeDue (c : SrtlaConnection) : SrtlaConnection × Bool :=
  if c.stallProbeCounter + 1 ≥ stallProbeOneInN then ({ c with stallProbeCounter := 0 }, true)
  else ({ c with stallProbeCounter := c.stallProbeCounter + 1 }, false)

/-! ### Silence pull -/

def silencePullWindowMs (c : SrtlaConnection) (staleCeilingMs : Nat) : Nat :=
  let srtt := c.getSmoothRttMs
  let base :=
    if srtt ≤ 0 then silencePullFloorMs
    else max (satU64 (satU64 (trunc srtt).toNat * silencePullRttMult)) silencePullFloorMs
  min base (c.effectiveStallStaleMs staleCeilingMs)

def isBrieflySilent (c : SrtlaConnection) (nowMs : Nat) (minInFlight : Int)
    (staleCeilingMs : Nat) : Bool :=
  if !c.connected || decide (c.inFlightPackets < minInFlight) then false
  else
    match c.lastReceived with
    | none => false
    | some lastReceived => decide (nowMs - lastReceived ≥ c.silencePullWindowMs staleCeilingMs)

/-- The pull engages on silence under load and holds until the link speaks. -/
def updateSilencePull (c : SrtlaConnection) (nowMs : Nat) (minInFlight : Int)
    (staleCeilingMs : Nat) : SrtlaConnection :=
  if c.isBrieflySilent nowMs minInFlight staleCeilingMs then
    { c with
      -- counted on the rising edge
      silencePulls := if c.silencePulled then c.silencePulls else c.silencePulls + 1
      silencePulled := true }
  else if !c.silencePulled then c
  else
    let window := c.silencePullWindowMs staleCeilingMs
    let spoke := c.lastReceived.any fun lr => decide (nowMs - lr < window)
    -- a link that went down is released too
    if spoke || !c.connected then { c with silencePulled := false } else c

/-! ### Liveness -/

def isTimedOut (c : SrtlaConnection) (nowMs : Nat) : Bool :=
  if !c.connected then
    -- the startup grace of a link that never registered
    if c.reconnection.connectionEstablishedMs = 0 ∧
        nowMs < c.reconnection.startupGraceDeadlineMs then false
    else
      match c.lastReceived with
      -- a link in recovery is due at once
      | none => true
      | some lr => decide (nowMs - lr ≥ c.connTimeoutMs)
  else
    match c.lastReceived with
    | some lr => decide (nowMs - lr ≥ c.connTimeoutMs)
    | none => false

/-! ### Resets -/

/-- REG3 arrived: drop what was accumulated before it and start warming. -/
def clearPreRegistrationState (c : SrtlaConnection) (nowMs : Nat) : SrtlaConnection :=
  { c with
    packetLog := ∅
    probeLog := ∅
    inFlightPackets := 0
    highestAckedSeq := noAckYet
    congestion := c.congestion.reset
    batchSender := c.batchSender.reset
    qualityCache := {}
    phase := .warming 0 nowMs }

def resetCoreState (c : SrtlaConnection) : SrtlaConnection :=
  { c with
    connected := false
    window := windowDef * windowMult
    inFlightPackets := 0
    packetLog := ∅
    probeLog := ∅
    highestAckedSeq := noAckYet
    batchSender := c.batchSender.reset
    phase := .registering
    lastAckOrRttSampleMs := 0
    stallGated := false
    stallLatchedSinceMs := 0
    stallRecoverySinceMs := 0
    stallProbeCounter := 0
    stallReleasedAtMs := 0
    stallRejoinBackoff := 0
    stallRejoinRampStartMs := 0
    stallRejoinRampMs := 0
    stallRejoinRampFromStallGate := false
    soleCarrier := false
    soleCarrierSinceMs := 0
    soleCarrierExcluded := false
    silencePulled := false }

/-- Soft reset: congestion and bitrate statistics survive. -/
def markForRecovery (c : SrtlaConnection) : SrtlaConnection :=
  let c :=
    { c with
      lastReceived := none
      lastKeepaliveSent := none
      rtt.lastKeepaliveSentMs := 0
      rtt.waitingForKeepaliveResponse := false }
  let c := c.resetCoreState
  { c with reconnection.startupGraceDeadlineMs := 0 }

/-- Full reset after the socket was replaced; the attempt count survives. -/
def resetForReconnect (c : SrtlaConnection) (now : Nat) : SrtlaConnection :=
  let c := { c with lastReceived := none }
  let c := c.resetCoreState
  { c with
    congestion := c.congestion.reset
    rtt := c.rtt.reset
    bitrate := c.bitrate.reset now
    reconnection.lastReconnectAttemptMs := now }

/-! ### Delegation -/

def timeSinceLastNakMs (c : SrtlaConnection) (nowMs : Nat) : Option Nat :=
  c.congestion.timeSinceLastNakMs nowMs

/-- The quality multiplier, recomputed by `calculate` when the cache is stale. -/
def getCachedQualityMultiplier (calculate : SrtlaConnection → Nat → ℚ) (c : SrtlaConnection)
    (currentTimeMs : Nat) : SrtlaConnection × ℚ :=
  let c :=
    if currentTimeMs - c.qualityCache.lastCalculatedMs ≥ qualityCacheIntervalMs then
      { c with qualityCache := ⟨calculate c currentTimeMs, currentTimeMs⟩ }
    else c
  (c, c.qualityCache.multiplier)

def shouldAttemptReconnect (c : SrtlaConnection) (nowMs : Nat) : Bool :=
  c.reconnection.shouldAttemptReconnect nowMs

def recordReconnectAttempt (c : SrtlaConnection) (nowMs : Nat) : SrtlaConnection :=
  { c with reconnection := c.reconnection.recordAttempt nowMs }

def markReconnectSuccess (c : SrtlaConnection) : SrtlaConnection :=
  { c with reconnection := c.reconnection.markSuccess }

def calculateBitrate (c : SrtlaConnection) (nowMs : Nat) : SrtlaConnection :=
  { c with bitrate := c.bitrate.calculate nowMs }

def recomputeBatchRegime (c : SrtlaConnection) : SrtlaConnection :=
  { c with batchSender := c.batchSender.setRegime (BatchRegime.fromBps c.bitrate.currentBitrateBps) }

end SrtlaConnection

end SrtlaSend
