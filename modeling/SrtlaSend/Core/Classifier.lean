import SrtlaSend.Core.Connection

/-!
# Weak-link classifier

Once a second every link is judged by its delay and by its share of the traffic. The filter
remembers five things of each link, in maps that are built anew at every tick. Bit rates and
round trips are rationals; casts to integers truncate and saturate.
-/

namespace SrtlaSend

open MachineInt

def targetBestSafeCapMs : Nat := 2500
def targetMaxCapMs : Nat := 5000
def rttToDelayBudgetMult : Nat := 3
def minBudgetMs : Nat := 500
def maxBudgetMs : Nat := 5000
def maxNegotiatedBudgetMs : Nat := 20000
def share85Permille : Nat := 850
def share50Permille : Nat := 500
def share25Permille : Nat := 250
def enterFairShareNumerator : Nat := 250
def leaveFairShareNumerator : Nat := 750
def minTotalBpsForClassification : ℚ := 100000
def weakSustainTicks : Nat := 2
def probationIntervalTicks : Nat := 15
def probationWindowTicks : Nat := 3
def probationBackoffMax : Nat := 16

/-- The multiplier for the re-test after the window that is armed now. -/
def probationBackoffNext (backoff : Nat) : Nat :=
  let doubled := if backoff ≤ 1 then 2 else satU32 (backoff * 2)
  min doubled probationBackoffMax

/-! ### The delay tier -/

def deriveMaxDelayBudget (longestRttMs : Nat) : Nat :=
  let raw := satU32 (longestRttMs * rttToDelayBudgetMult)
  max minBudgetMs (min raw maxBudgetMs)

/-- The budget the tiers are cut from; a negotiated latency of 0 is not known yet. -/
def delayBudgetMs (negotiatedLatencyMs longestRttMs : Nat) : Nat :=
  if negotiatedLatencyMs = 0 then deriveMaxDelayBudget longestRttMs
  else max minBudgetMs (min (satU32 (negotiatedLatencyMs * 2)) maxNegotiatedBudgetMs)

def targetBestDelayMs (estMs : Nat) : Nat := min (estMs * 40 / 100) targetBestSafeCapMs
def targetSafeDelayMs (estMs : Nat) : Nat := min (estMs * 50 / 100) targetBestSafeCapMs
def targetMaxDelayMs (estMs : Nat) : Nat := min (estMs * 60 / 100) targetMaxCapMs

def permilleOf (bps totalBps : ℚ) : Nat := satU64 (trunc (bps * 1000 / totalBps)).toNat

def pickTier (totalBps bestBps safeBps maxBps : ℚ) (bestDelay safeDelay maxDelay : Nat) : Nat :=
  let bestPm := permilleOf bestBps totalBps
  let safePm := permilleOf safeBps totalBps
  let maxPm := permilleOf maxBps totalBps
  if bestPm > share85Permille then bestDelay
  else if safePm > share85Permille then safeDelay
  else if maxPm > share85Permille then
    if bestPm > share50Permille then bestDelay
    else if safePm > share50Permille then safeDelay
    else if maxPm > share50Permille then maxDelay
    else if bestPm > share25Permille then bestDelay
    else if safePm > share25Permille then safeDelay
    else maxDelay
  else maxDelay

/-! ### The signals -/

namespace SrtlaConnection

def classifierRttMs (c : SrtlaConnection) : Nat := satU32 (trunc c.getSmoothRttMs).toNat

def classifierBps (c : SrtlaConnection) : ℚ := max c.bitrate.currentBitrateBps 0

end SrtlaConnection

/-- What the passes over the connected links gather. -/
structure TrafficSignals where
  totalBps : ℚ
  connectedCount : Nat
  estimatedMaxDelayMs : Nat
  selectedDelayMs : Nat

def gatherSignals (conns : List SrtlaConnection) (negotiatedLatencyMs : Nat) : TrafficSignals :=
  let connected := conns.filter (·.connected)
  let totalBps := (connected.map (·.classifierBps)).sum
  let longestRttMs := (connected.map (·.classifierRttMs)).foldl max 0
  let est := delayBudgetMs negotiatedLatencyMs longestRttMs
  let within (target : Nat) : ℚ :=
    ((connected.filter fun c => decide (c.classifierRttMs ≤ target)).map (·.classifierBps)).sum
  let best := targetBestDelayMs est
  let safe := targetSafeDelayMs est
  let max := targetMaxDelayMs est
  { totalBps
    connectedCount := connected.length
    estimatedMaxDelayMs := est
    selectedDelayMs := pickTier totalBps (within best) (within safe) (within max) best safe max }

namespace TrafficSignals

/-- There is too little traffic to judge anyone. -/
def bypassed (s : TrafficSignals) : Bool :=
  decide (s.totalBps < minTotalBpsForClassification) || s.connectedCount == 0

def enterThresholdPermille (s : TrafficSignals) : Nat := enterFairShareNumerator / s.connectedCount
def leaveThresholdPermille (s : TrafficSignals) : Nat := leaveFairShareNumerator / s.connectedCount

def sharePermille (s : TrafficSignals) (c : SrtlaConnection) : Nat :=
  if s.totalBps > 0 then
    (trunc (max 0 (min (c.classifierBps * 1000 / s.totalBps) 1000))).toNat
  else 0

/-- A round trip over the tier, or a queue that is forming. -/
def delaySignal (s : TrafficSignals) (c : SrtlaConnection) : Option WeakReason :=
  if c.classifierRttMs > s.selectedDelayMs then some .highRtt
  else if c.rtt.queueBuildingSuspected then some .queueBuilding
  else none

end TrafficSignals

/-! ### The verdict on a link -/

/-- What the filter remembers of a link. -/
structure LinkMemory where
  prevWeak : Bool := false
  delayWeakStreak : Nat := 0
  weakStreak : Nat := 0
  probationTicks : Nat := 0
  probationBackoff : Nat := 0
deriving DecidableEq, Repr

/-- A verdict: whether the link is weak, and why. -/
abbrev Verdict := Bool × WeakReason

def Verdict.shareWeak (v : Verdict) : Bool := v.1 && (v.2 == .lowShare || v.2 == .noTraffic)

namespace LinkMemory

variable (m : LinkMemory) (s : TrafficSignals) (c : SrtlaConnection)

def delayStreak : Nat :=
  if (s.delaySignal c).isSome then satU32 (m.delayWeakStreak + 1) else 0

def delayWeak : Bool := decide (m.delayStreak s c ≥ weakSustainTicks)

/-- The verdict on the signals of this tick, before any re-test. -/
def computed : Verdict :=
  if m.delayWeak s c then (true, (s.delaySignal c).getD .healthy)
  else if c.classifierBps = 0 then (true, .noTraffic)
  else if m.prevWeak && decide (s.sharePermille c < s.leaveThresholdPermille) then (true, .lowShare)
  else if !m.prevWeak && decide (s.sharePermille c < s.enterThresholdPermille) then
    (true, .lowShare)
  else (false, .healthy)

/-- The re-test of a link that is held out for its share: after enough ticks it is treated
as not weak for a window, unless it turns out to be late. -/
def retest (delayWeak : Bool) (v : Verdict) : LinkMemory × Verdict :=
  if m.probationTicks > 0 ∧ delayWeak = true then
    ({ m with probationTicks := 0, weakStreak := 0 }, v)
  else if m.probationTicks > 0 then
    ({ m with probationTicks := m.probationTicks - 1, weakStreak := 0 }, (false, .healthy))
  else if v.shareWeak then
    let streak := satU32 (m.weakStreak + 1)
    let interval := satU32 (probationIntervalTicks * max m.probationBackoff 1)
    if streak ≥ interval then
      -- the tick that arms the window stays gated
      ({ m with
          weakStreak := 0
          probationTicks := probationWindowTicks
          probationBackoff := probationBackoffNext m.probationBackoff }, v)
    else ({ m with weakStreak := streak }, v)
  else
    -- only a healthy verdict takes the escalation back, not a late link
    ({ m with
        weakStreak := 0
        probationBackoff := if v.1 then m.probationBackoff else 1 }, v)

/-- One tick of a connected link. -/
def judge : LinkMemory × Verdict :=
  let (m', v) := m.retest (m.delayWeak s c) (m.computed s c)
  ({ m' with prevWeak := v.1, delayWeakStreak := m.delayStreak s c }, v)

end LinkMemory

/-! ### The filter -/

structure LinkClassification where
  connId : Nat
  weak : Bool
  reason : WeakReason
  sharePermille : Nat
  thresholdPermille : Nat
deriving DecidableEq, Repr

structure ClassificationResult where
  selectedDelayMs : Nat
  estimatedMaxDelayMs : Nat
  perLink : List LinkClassification
deriving DecidableEq, Repr

structure WeakLinkFilter where
  prevWeak : FiniteMap Nat Bool := ∅
  delayWeakStreak : FiniteMap Nat Nat := ∅
  weakStreak : FiniteMap Nat Nat := ∅
  probationTicks : FiniteMap Nat Nat := ∅
  probationBackoff : FiniteMap Nat Nat := ∅

namespace WeakLinkFilter

def new : WeakLinkFilter := {}

/-- The entries of a link, with their defaults. -/
def memory (f : WeakLinkFilter) (connId : Nat) : LinkMemory :=
  { prevWeak := (f.prevWeak.lookup connId).getD false
    delayWeakStreak := (f.delayWeakStreak.lookup connId).getD 0
    weakStreak := (f.weakStreak.lookup connId).getD 0
    probationTicks := (f.probationTicks.lookup connId).getD 0
    probationBackoff := (f.probationBackoff.lookup connId).getD 0 }

def remember (f : WeakLinkFilter) (connId : Nat) (m : LinkMemory) : WeakLinkFilter :=
  { prevWeak := f.prevWeak.insert connId m.prevWeak
    delayWeakStreak := f.delayWeakStreak.insert connId m.delayWeakStreak
    weakStreak := f.weakStreak.insert connId m.weakStreak
    probationTicks := f.probationTicks.insert connId m.probationTicks
    probationBackoff := f.probationBackoff.insert connId m.probationBackoff }

/-- The classification of one link. -/
def classifyLink (f : WeakLinkFilter) (s : TrafficSignals) (c : SrtlaConnection) : LinkClassification :=
  if c.connected then
    let m := f.memory c.connId
    let v := (m.judge s c).2
    { connId := c.connId
      weak := v.1
      reason := v.2
      sharePermille := s.sharePermille c
      thresholdPermille :=
        if m.prevWeak then s.leaveThresholdPermille else s.enterThresholdPermille }
  else ⟨c.connId, false, .healthy, 0, 0⟩

/-- The maps for the next tick, with the entries of one more link. -/
def rememberLink (f : WeakLinkFilter) (s : TrafficSignals) (next : WeakLinkFilter)
    (c : SrtlaConnection) : WeakLinkFilter :=
  if c.connected then next.remember c.connId ((f.memory c.connId).judge s c).1 else next

def classify (f : WeakLinkFilter) (conns : List SrtlaConnection) (negotiatedLatencyMs : Nat) :
    WeakLinkFilter × ClassificationResult :=
  let s := gatherSignals conns negotiatedLatencyMs
  if s.bypassed then
    ({}, ⟨0, 0, conns.map fun c => ⟨c.connId, false, .bypassed, 0, 0⟩⟩)
  else
    (conns.foldl (f.rememberLink s) {},
      ⟨s.selectedDelayMs, s.estimatedMaxDelayMs, conns.map (f.classifyLink s)⟩)

end WeakLinkFilter

end SrtlaSend
