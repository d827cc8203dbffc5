import SrtlaSend.Core.Connection
import SrtlaSend.Lib.FiniteMap

/-!
# Per-link soft cap

The congestion controller of one link: an age-bucketed RTT average, a sliding window of
losses, and a state machine that moves the cap `targetBps` once a tick. Floats are exact
rationals and casts to integers truncate; the exponential of the loss average is a
parameter, and the minimum RTT of the source, infinite before the first sample, is an
option.
-/

namespace SrtlaSend

open MachineInt

/-! ### Constants -/

def lossWindowMs : Nat := 1000
def lossBackoffPermille : Nat := 5
def backoffPermille : Nat := 850
def backoffMinLoadPermille : Nat := 300
def backoffEfficacyTicks : Nat := 3
def backoffEfficacyImprovementPermille : Nat := 800
def lossUncongestiveRetestTicks : Nat := 30
def aiStepPermille : Nat := 20
def haiStepPermille : Nat := 60
def fastRecoveryStepPermille : Nat := 40
def fastRecoveryTicks : Nat := 5
def drainRttInflation : ℚ := 2
def drainPermille : Nat := 750
def haiVarianceFraction : ℚ := 1 / 10
def assumedSrtPayloadBytes : Nat := 1316
def rttHoldFactor : ℚ := 3 / 2
def minTargetBps : Nat := 100000
def maxTargetBps : Nat := 200000000
def initialTargetBps : Nat := 1000000
def lossEwmaTauMs : ℚ := 2000
def lossDegradeEnter : ℚ := 55 / 100
def lossDegradeClear : ℚ := 25 / 100
def lossDegradeSustainMs : Nat := 4000
def ccRttMinWindowMs : Nat := 30000
def ccOutlierFactor : ℚ := 4

/-! ### State -/

inductive CcState where
  | bootstrap
  | climbing
  | holding
  | backingOff
  | drain
deriving DecidableEq, Repr

inductive ClimbMode where
  | normal
  | hai
  | fastRecovery
deriving DecidableEq, Repr

namespace ClimbMode

def stepPermille : ClimbMode → Nat
  | normal => aiStepPermille
  | hai => haiStepPermille
  | fastRecovery => fastRecoveryStepPermille

end ClimbMode

structure LossSample where
  tsMs : Nat
  lost : Nat
  sent : Nat
deriving DecidableEq, Repr

structure LinkCongestionState where
  state : CcState
  climbMode : ClimbMode
  targetBps : Nat
  rttEwmaMs : ℚ
  rttVarMs : ℚ
  rttMinMs : Option ℚ
  rttMinStampMs : Nat
  lastRttUpdateMs : Nat
  lossSamples : List LossSample
  windowLost : Nat
  windowSent : Nat
  fastRecoveryTicks : Nat
  prevBytesSentTotal : Nat
  prevNakTotal : Int
  trafficBaselineSet : Bool
  lossEwma : ℚ
  lossEwmaLastMs : Nat
  lossHighSinceMs : Nat
  lossDegraded : Bool
  backoffTicks : Nat
  backoffEntryLossPm : Nat
  lossUncongestive : Bool
  uncongestiveTicks : Nat

namespace LinkCongestionState

def default : LinkCongestionState :=
  { state := .bootstrap
    climbMode := .normal
    targetBps := minTargetBps
    rttEwmaMs := 0
    rttVarMs := 0
    rttMinMs := none
    rttMinStampMs := 0
    lastRttUpdateMs := 0
    lossSamples := []
    windowLost := 0
    windowSent := 0
    fastRecoveryTicks := 0
    prevBytesSentTotal := 0
    prevNakTotal := 0
    trafficBaselineSet := false
    lossEwma := 0
    lossEwmaLastMs := 0
    lossHighSinceMs := 0
    lossDegraded := false
    backoffTicks := 0
    backoffEntryLossPm := 0
    lossUncongestive := false
    uncongestiveTicks := 0 }

/-! ### Round trips -/

/-- Adopt a lower sample, or any sample once the held minimum is stale. -/
def updateRttMin (s : LinkCongestionState) (rttMs : ℚ) (nowMs : Nat) : LinkCongestionState :=
  let stale := decide (nowMs - s.rttMinStampMs > ccRttMinWindowMs)
  let adopt :=
    match s.rttMinMs with
    | none => true
    | some m => decide (rttMs < m) || stale
  if adopt then { s with rttMinMs := some rttMs, rttMinStampMs := nowMs } else s

/-- The weight of the old average against a new sample, by the age of the last one. -/
def oldWeight (ageMs : Nat) : ℚ :=
  if ageMs ≥ 1000 then 1 else if ageMs ≥ 500 then 4 else if ageMs ≥ 250 then 8 else 16

def recordRtt (s : LinkCongestionState) (rttMs : ℚ) (nowMs : Nat) : LinkCongestionState :=
  if rttMs ≤ 0 then s
  else
    let ageMs := nowMs - s.lastRttUpdateMs
    if s.rttEwmaMs = 0 ∨ ageMs ≥ 2000 then
      let s := { s with rttEwmaMs := rttMs, rttVarMs := 0, lastRttUpdateMs := nowMs }
      s.updateRttMin rttMs nowMs
    else
      let wOld := oldWeight ageMs
      let prev := s.rttEwmaMs
      let s :=
        { s with
          rttEwmaMs := (rttMs * 1 + prev * wOld) / (1 + wOld)
          rttVarMs := (|rttMs - prev| * 1 + s.rttVarMs * 3) / 4 }
      { s.updateRttMin rttMs nowMs with lastRttUpdateMs := nowMs }

/-! ### Loss window -/

/-- The eviction loop over the oldest samples. -/
def evictLoop (cutoff : Nat) : List LossSample → Nat → Nat → List LossSample × Nat × Nat
  | front :: rest, windowSent, windowLost =>
    if front.tsMs < cutoff then
      evictLoop cutoff rest (windowSent - front.sent) (windowLost - front.lost)
    else (front :: rest, windowSent, windowLost)
  | [], windowSent, windowLost => ([], windowSent, windowLost)

def evictExpired (s : LinkCongestionState) (nowMs : Nat) : LinkCongestionState :=
  let (lossSamples, windowSent, windowLost) :=
    evictLoop (nowMs - lossWindowMs) s.lossSamples s.windowSent s.windowLost
  { s with lossSamples, windowSent, windowLost }

def recordLoss (s : LinkCongestionState) (sent lost nowMs : Nat) : LinkCongestionState :=
  let pushed : LinkCongestionState :=
    { s with
      lossSamples := s.lossSamples ++ [⟨nowMs, lost, sent⟩]
      windowSent := satU32 (s.windowSent + sent)
      windowLost := satU32 (s.windowLost + lost) }
  pushed.evictExpired nowMs

/-- The sample the counters of one tick give, or none when nothing moved. -/
def trafficSample (s : LinkCongestionState) (bytesSentTotal : Nat) (nakTotal : Int) :
    Option (Nat × Nat) :=
  let deltaBytes := bytesSentTotal - s.prevBytesSentTotal
  let deltaNak := max (satI32 (nakTotal - s.prevNakTotal)) 0
  if deltaBytes = 0 ∧ deltaNak = 0 then none
  else
    let sentPkts := satU32 (deltaBytes / assumedSrtPayloadBytes)
    let lostPkts := asU32 deltaNak
    some (max sentPkts (if lostPkts > 0 then 1 else 0), lostPkts)

/-- Cumulative counters to per-tick deltas. The first call only sets the baseline. -/
def observeTraffic (s : LinkCongestionState) (bytesSentTotal : Nat) (nakTotal : Int)
    (nowMs : Nat) : LinkCongestionState :=
  if !s.trafficBaselineSet then
    { s with
      prevBytesSentTotal := bytesSentTotal, prevNakTotal := nakTotal, trafficBaselineSet := true }
  else
    let noted := { s with prevBytesSentTotal := bytesSentTotal, prevNakTotal := nakTotal }
    match s.trafficSample bytesSentTotal nakTotal with
    | none => noted
    | some (sent, lost) => noted.recordLoss sent lost nowMs

def lossPermille (s : LinkCongestionState) : Nat :=
  if s.windowSent = 0 then 0
  else min (satU64 (s.windowLost * 1000) / s.windowSent) 1000000

/-! ### Tick -/

def updateLossEwma (exp : ℚ → ℚ) (s : LinkCongestionState) (lossPm nowMs : Nat) :
    LinkCongestionState :=
  let inst : ℚ := min (max ((lossPm : ℚ) / 1000) 0) 1
  let lossEwma :=
    if s.lossEwmaLastMs = 0 then inst
    else
      let dt : ℚ := (nowMs - s.lossEwmaLastMs : Nat)
      s.lossEwma + (inst - s.lossEwma) * (1 - exp (-dt / lossEwmaTauMs))
  let s := { s with lossEwma, lossEwmaLastMs := nowMs }
  if lossEwma > lossDegradeEnter then
    if s.lossHighSinceMs = 0 then { s with lossHighSinceMs := nowMs }
    else if nowMs - s.lossHighSinceMs ≥ lossDegradeSustainMs then { s with lossDegraded := true }
    else s
  else
    { s with
      lossHighSinceMs := 0
      lossDegraded := if lossEwma < lossDegradeClear then false else s.lossDegraded }

/-- The loss average and its latch are all that moves. -/
theorem updateLossEwma_eq (exp : ℚ → ℚ) (s : LinkCongestionState) (lossPm nowMs : Nat) :
    ∃ average last since degraded, s.updateLossEwma exp lossPm nowMs =
      { s with
        lossEwma := average, lossEwmaLastMs := last, lossHighSinceMs := since
        lossDegraded := degraded } := by
  simp only [updateLossEwma]
  split_ifs <;> exact ⟨_, _, _, _, rfl⟩

/-- Whether the loss-driven backoff achieves anything, judged on the state of the
previous tick. -/
def updateBackoffEfficacy (s : LinkCongestionState) (lossHigh : Bool) (lossPm : Nat) :
    LinkCongestionState :=
  if !lossHigh then
    { s with
      backoffTicks := 0, backoffEntryLossPm := 0, lossUncongestive := false
      uncongestiveTicks := 0 }
  else if s.lossUncongestive then
    let uncongestiveTicks := s.uncongestiveTicks + 1
    if uncongestiveTicks ≥ lossUncongestiveRetestTicks then
      { s with
        lossUncongestive := false, uncongestiveTicks := 0, backoffTicks := 0
        backoffEntryLossPm := lossPm }
    else { s with uncongestiveTicks }
  else if s.state ≠ .backingOff then { s with backoffTicks := 0, backoffEntryLossPm := lossPm }
  else
    let backoffTicks := s.backoffTicks + 1
    if backoffTicks < backoffEfficacyTicks then { s with backoffTicks }
    else if lossPm * 1000 < s.backoffEntryLossPm * backoffEfficacyImprovementPermille then
      { s with backoffTicks := 0, backoffEntryLossPm := lossPm }
    else { s with backoffTicks, lossUncongestive := true, uncongestiveTicks := 0 }

/-- The throughput sample, clamped to a multiple of the running estimate. -/
def saneObserved (s : LinkCongestionState) (observedBps : Nat) : Nat :=
  let baseline : ℚ := max s.targetBps initialTargetBps
  satU64 (trunc (min (observedBps : ℚ) (ccOutlierFactor * baseline))).toNat

def clampTarget (target : Nat) : Nat := max minTargetBps (min target maxTargetBps)

/-- The floor of the target is also the mark of a target not yet seeded. -/
def seedTarget (s : LinkCongestionState) (saneObserved : Nat) : LinkCongestionState :=
  if s.targetBps = minTargetBps then
    { s with targetBps := clampTarget (max saneObserved initialTargetBps) }
  else s

def loaded (s : LinkCongestionState) (saneObserved : Nat) : Bool :=
  decide (saneObserved * 1000 ≥ s.targetBps * backoffMinLoadPermille)

def rttInflation (s : LinkCongestionState) : ℚ :=
  match s.rttMinMs with
  | some m => if m > 0 then s.rttEwmaMs / m else 1
  | none => 1

def nextState (s : LinkCongestionState) (lossHigh loaded : Bool) : CcState :=
  if lossHigh && loaded && !s.lossUncongestive then .backingOff
  else if s.rttInflation ≥ drainRttInflation then .drain
  else if s.rttInflation > rttHoldFactor then .holding
  else .climbing

def pickClimbMode (s : LinkCongestionState) : ClimbMode :=
  if s.fastRecoveryTicks > 0 then .fastRecovery
  else if s.rttEwmaMs > 0 ∧ s.rttVarMs ≤ s.rttEwmaMs * haiVarianceFraction then .hai
  else .normal

/-- The target before truncation and clamping. -/
def nextTarget (s : LinkCongestionState) (prevState next : CcState) (saneObserved : Nat) : ℚ :=
  let prev : ℚ := s.targetBps
  match next with
  | .bootstrap => prev
  | .climbing =>
    let step := prev * s.pickClimbMode.stepPermille / 1000
    let measuredCap := (saneObserved : ℚ) * 2
    if saneObserved > 0 then max prev minTargetBps + max (min step (measuredCap - prev)) 0
    else prev
  | .holding => prev
  | .backingOff => max (prev * backoffPermille / 1000) (min (saneObserved : ℚ) prev)
  -- one cut on the way in, then hold
  | .drain => if prevState ≠ .drain then prev * drainPermille / 1000 else prev

/-- Leaving a cut for a climb opens the fast-recovery window. -/
def armFastRecovery (s : LinkCongestionState) (next : CcState) : LinkCongestionState :=
  if (s.state = .backingOff ∨ s.state = .drain) ∧ next = .climbing then
    { s with fastRecoveryTicks := SrtlaSend.fastRecoveryTicks }
  else s

/-- Enter the next state and move the target with it. A climb uses up one tick of fast
recovery, after its mode was picked. -/
def moveTo (s : LinkCongestionState) (next : CcState) (saneObserved : Nat) :
    LinkCongestionState :=
  let s := s.armFastRecovery next
  { s with
    state := next
    climbMode := if next = .climbing then s.pickClimbMode else .normal
    targetBps := clampTarget (satU64 (trunc (s.nextTarget s.state next saneObserved)).toNat)
    fastRecoveryTicks := if next = .climbing then s.fastRecoveryTicks - 1 else 0 }

/-- The part of a tick after the first RTT sample. -/
def tickMeasured (exp : ℚ → ℚ) (s : LinkCongestionState) (observedBps nowMs : Nat) :
    LinkCongestionState :=
  let lossPm := s.lossPermille
  let s := s.updateLossEwma exp lossPm nowMs
  let sane := s.saneObserved observedBps
  let s := s.seedTarget sane
  let loaded := s.loaded sane
  let lossHigh := decide (lossPm > lossBackoffPermille)
  let s := s.updateBackoffEfficacy lossHigh lossPm
  s.moveTo (s.nextState lossHigh loaded) sane

/-- Recompute the state and the target. -/
def tick (exp : ℚ → ℚ) (s : LinkCongestionState) (observedBps nowMs : Nat) :
    LinkCongestionState :=
  let s := s.evictExpired nowMs
  if s.rttEwmaMs = 0 then
    { s with state := .bootstrap, climbMode := .normal, targetBps := minTargetBps }
  else s.tickMeasured exp observedBps nowMs

end LinkCongestionState

/-! ### Controller -/

structure LinkCcSnapshot where
  state : CcState
  climbMode : ClimbMode
  targetBps : Nat
  rttEwmaMs : ℚ
  rttVarMs : ℚ
  rttMinMs : ℚ
  lossPermille : Nat
  lossEwma : ℚ
  lossDegraded : Bool

def LinkCongestionState.snapshot (s : LinkCongestionState) : LinkCcSnapshot :=
  { state := s.state
    climbMode := s.climbMode
    targetBps := s.targetBps
    rttEwmaMs := s.rttEwmaMs
    rttVarMs := s.rttVarMs
    rttMinMs := s.rttMinMs.getD 0
    lossPermille := s.lossPermille
    lossEwma := s.lossEwma
    lossDegraded := s.lossDegraded }

/-- One congestion state for each connection, by `connId`. -/
structure LinkCcController where
  perConn : FiniteMap Nat LinkCongestionState

namespace LinkCcController

def new : LinkCcController := ⟨∅⟩

/-- What one pass feeds to the state of a connection. -/
def feed (exp : ℚ → ℚ) (conn : SrtlaConnection) (nowMs : Nat) (entry : LinkCongestionState) :
    LinkCongestionState :=
  let rttMs := conn.getSmoothRttMs
  let entry := if rttMs > 0 then entry.recordRtt rttMs nowMs else entry
  let entry := entry.observeTraffic conn.bitrate.bytesSentTotal conn.congestion.nakCount nowMs
  entry.tick exp (satU64 (trunc (max conn.bitrate.currentBitrateBps 0)).toNat) nowMs

def tickOne (exp : ℚ → ℚ) (nowMs : Nat)
    (acc : FiniteMap Nat LinkCongestionState × FiniteMap Nat LinkCcSnapshot)
    (conn : SrtlaConnection) :
    FiniteMap Nat LinkCongestionState × FiniteMap Nat LinkCcSnapshot :=
  let entry := feed exp conn nowMs ((acc.1.lookup conn.connId).getD LinkCongestionState.default)
  (acc.1.insert conn.connId entry, acc.2.insert conn.connId entry.snapshot)

/-- Tick every connection and drop the entries of those that disappeared. -/
def tickAll (exp : ℚ → ℚ) (c : LinkCcController) (connections : List SrtlaConnection)
    (nowMs : Nat) : LinkCcController × FiniteMap Nat LinkCcSnapshot :=
  let (perConn, alive) := connections.foldl (tickOne exp nowMs) (c.perConn, ∅)
  (⟨perConn.retain fun id _ => decide (id ∈ alive)⟩, alive)

end LinkCcController

end SrtlaSend
