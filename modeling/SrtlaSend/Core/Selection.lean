import SrtlaSend.Lib.FirstMax
import SrtlaSend.Core.Connection
import Mathlib.Order.Basic
import Mathlib.Data.Rat.Floor

/-!
# Link selection

One selection pass: the stall gate, then either the classic capacity ranking or
the enhanced one with its sole-carrier election, quality exclusion, in-flight
cap and score hysteresis. Each loop over the links is a map or a scan over the
list; a pass returns the updated links with the chosen index.

The quality multiplier is computed by a parameter `calculate`. Scores are exact
rationals.
-/

namespace SrtlaSend

open MachineInt SrtlaConnection

/-! ### Stall gate -/

/-- Not timed out and past registration. -/
def SrtlaConnection.isUsable (c : SrtlaConnection) (nowMs : Nat) : Bool :=
  !c.isTimedOut nowMs && c.isSchedulable

/-- The runtime-tunable timeouts a link carries with it. -/
def SrtlaConnection.refreshTimeouts (c : SrtlaConnection) (config : ConfigSnapshot) :
    SrtlaConnection :=
  { c with connTimeoutMs := config.connTimeoutMs, delayBudgetMs := config.negotiatedLatencyMs }

/-- The pull is driven first: the latch escalates from its fresh state. -/
def SrtlaConnection.updateStallState (c : SrtlaConnection) (nowMs : Nat)
    (config : ConfigSnapshot) : SrtlaConnection :=
  (c.updateSilencePull nowMs config.stallMinInFlight config.stallAckStaleMs).updateStallLatch
    nowMs config.stallMinInFlight config.stallAckStaleMs

def SrtlaConnection.isHealthy (c : SrtlaConnection) (nowMs : Nat) : Bool :=
  c.isUsable nowMs && !c.stallLatched && !c.silencePulled

/-- With the guard off, flag, pull and latch are all dropped. -/
def SrtlaConnection.dropStallGuard (c : SrtlaConnection) : SrtlaConnection :=
  { c with stallGated := false, silencePulled := false }.clearStallLatch

def SrtlaConnection.setStallGated (c : SrtlaConnection) (anyHealthy : Bool) : SrtlaConnection :=
  { c with stallGated := anyHealthy && (c.stallLatched || c.silencePulled) }

/-- A link is gated only while a link that is neither latched nor pulled can
carry the traffic. -/
def applyStallGate (conns : List SrtlaConnection) (currentTimeMs : Nat) (config : ConfigSnapshot) :
    List SrtlaConnection :=
  let conns := conns.map (·.refreshTimeouts config)
  if !config.stallDeselect then conns.map (·.dropStallGuard)
  else
    let conns := conns.map (·.updateStallState currentTimeMs config)
    let anyHealthy := conns.any (·.isHealthy currentTimeMs)
    conns.map (·.setStallGated anyHealthy)

/-- What both mode selectors require of a link before they look at its score. -/
def SrtlaConnection.isCandidate (c : SrtlaConnection) (nowMs : Nat) : Bool :=
  c.isUsable nowMs && !c.stallGated

/-! ### Classic selection -/

namespace Classic

/-- `getScore` scaled by the operator weight in `f32` and truncated. -/
def weightedScore (c : SrtlaConnection) : Int :=
  let score := c.getScore
  -- the neutral weight keeps the integer score
  if c.linkWeight ≤ 1 ∨ score ≤ 0 then score
  else satI32 (trunc (asF32 (asF32 score * c.weightMultiplier)))

def rank (nowMs : Nat) (c : SrtlaConnection) : Option Int :=
  if c.isCandidate nowMs then some (weightedScore c) else none

def selectConnection (conns : List SrtlaConnection) (nowMs : Nat) : Option Nat :=
  (FirstMax.scan (some (-1)) (conns.map (rank nowMs))).idx

end Classic

/-! ### Enhanced selection -/

namespace Enhanced

def inFlightCapBdpMult : ℚ := 3 / 2
def switchThreshold : ℚ := 11 / 10
def ccSoftCapFloor : ℚ := 1 / 10
def gatedLinkPenalty : ℚ := 2 / 100
def soleCarrierMargin : ℚ := 2
def soleCarrierMinHoldMs : Nat := 2000
def heldOutRejoinRampMs : Nat := 2000
def assumedSrtPayloadBytes : ℚ := 1316

/-- `f64::MAX`. -/
def f64Max : ℚ := (2 ^ 53 - 1) * 2 ^ 971

def soleCarrierHandover (incumbentRttMs challengerRttMs : ℚ) (heldForMs holdMinMs : Nat)
    (margin : ℚ) : Bool :=
  -- neither before the hold nor without a measurement of both
  if heldForMs < holdMinMs then false
  else if incumbentRttMs ≤ 0 ∨ challengerRttMs ≤ 0 then false
  else decide (challengerRttMs * margin ≤ incumbentRttMs)

/-- Smoothed RTT of a measured candidate; the order is dual, as lower is better. -/
def measuredRtt (nowMs : Nat) (c : SrtlaConnection) : Option ℚᵒᵈ :=
  if c.isCandidate nowMs ∧ c.getSmoothRttMs > 0 then some (OrderDual.toDual c.getSmoothRttMs)
  else none

/-- Score of a candidate without a measurement. -/
def unmeasuredScore (nowMs : Nat) (c : SrtlaConnection) : Option Int :=
  if c.isCandidate nowMs ∧ ¬ c.getSmoothRttMs > 0 then some c.getScore else none

def bestMeasured (conns : List SrtlaConnection) (nowMs : Nat) : FirstMax.Best ℚᵒᵈ :=
  FirstMax.scan none (conns.map (measuredRtt nowMs))

def bestUnmeasured (conns : List SrtlaConnection) (nowMs : Nat) : FirstMax.Best Int :=
  FirstMax.scan none (conns.map (unmeasuredScore nowMs))

/-- The last candidate that holds the role. -/
def incumbent (conns : List SrtlaConnection) (nowMs : Nat) : Option Nat :=
  conns.zipIdx.foldl
    (fun found entry =>
      if entry.1.isCandidate nowMs && entry.1.soleCarrier then some entry.2 else found)
    none

/-- Who carries alone: the incumbent unless a challenger measures clearly better. -/
def electedCarrier (conns : List SrtlaConnection) (currentTimeMs : Nat) : Option Nat :=
  let best := (bestMeasured conns currentTimeMs).idx.or (bestUnmeasured conns currentTimeMs).idx
  -- no measured candidate: nothing beats the incumbent
  let bestRtt := ((bestMeasured conns currentTimeMs).bar.map OrderDual.ofDual).getD f64Max
  match incumbent conns currentTimeMs, best with
  | some inc, some b =>
    let takesOver := (conns[inc]?).any fun c =>
      soleCarrierHandover c.getSmoothRttMs bestRtt (currentTimeMs - c.soleCarrierSinceMs)
        soleCarrierMinHoldMs soleCarrierMargin
    if b ≠ inc ∧ takesOver then some b else some inc
  | some inc, none => some inc
  | none, best => best

/-- A link that leaves an exclusion re-enters on a ramp. -/
def leaveExclusion (c : SrtlaConnection) (currentTimeMs : Nat) : SrtlaConnection :=
  if c.soleCarrierExcluded then c.armRejoinRamp currentTimeMs heldOutRejoinRampMs false else c

/-- The election is over. The role clock keeps running. -/
def releaseSoleCarrier (c : SrtlaConnection) (currentTimeMs : Nat) : SrtlaConnection :=
  { leaveExclusion c currentTimeMs with soleCarrierExcluded := false, soleCarrier := false }

/-- Re-forming the election around its incumbent neither counts nor restarts the hold. -/
def takeRole (c : SrtlaConnection) (handover : Bool) (currentTimeMs : Nat) : SrtlaConnection :=
  if !c.soleCarrier then
    { c with
      soleCarrier := true
      soleCarrierSinceMs :=
        if handover || c.soleCarrierSinceMs = 0 then currentTimeMs else c.soleCarrierSinceMs
      soleCarrierElections :=
        if handover then c.soleCarrierElections + 1 else c.soleCarrierElections }
  else c

/-- The link that carries. -/
def installCarrier (c : SrtlaConnection) (handover : Bool) (currentTimeMs : Nat) :
    SrtlaConnection :=
  { takeRole (leaveExclusion c currentTimeMs) handover currentTimeMs with
    soleCarrierExcluded := false }

/-- Every other link; only one that could have carried counts as excluded. -/
def dismissCarrier (c : SrtlaConnection) (handover elected : Bool) (currentTimeMs : Nat) :
    SrtlaConnection :=
  { c with
    soleCarrier := false
    -- the role clock stops only when the role changes hands
    soleCarrierSinceMs := if handover then 0 else c.soleCarrierSinceMs
    soleCarrierExcluded := elected && c.isCandidate currentTimeMs }

def electSoleCarrier (conns : List SrtlaConnection) (currentTimeMs : Nat) (anyQualityOk : Bool) :
    List SrtlaConnection × Option Nat :=
  if anyQualityOk then (conns.map (releaseSoleCarrier · currentTimeMs), none)
  else
    let keep := electedCarrier conns currentTimeMs
    let handover :=
      -- a first election is no handover
      match incumbent conns currentTimeMs, keep with
      | some inc, some k => inc != k
      | _, _ => false
    (conns.mapIdx fun i c =>
        if some i = keep then installCarrier c handover currentTimeMs
        else dismissCarrier c handover keep.isSome currentTimeMs,
      keep)

/-- Bandwidth-delay product in packets, with headroom; none without a target. -/
def inFlightCapPackets (ccTargetBps : Nat) (rttMinMs : ℚ) : Option Int :=
  if ccTargetBps = 0 then none
  else
    -- a path without a minimum counts as one millisecond
    let rttMs := if rttMinMs > 0 then rttMinMs else 1
    let bdpBytes : ℚ := ccTargetBps * (rttMs / 1000) / 8 * inFlightCapBdpMult
    some (min (max ⌊bdpBytes / assumedSrtPayloadBytes⌋ 1) (2 ^ 31 - 1))

def inFlightCapExceeded (c : SrtlaConnection) : Bool :=
  (inFlightCapPackets c.ccTargetBps c.getRttMinMs).any fun cap => decide (c.inFlightPackets > cap)

def ccSoftCapMultiplier (conn : SrtlaConnection) : ℚ :=
  if conn.ccTargetBps = 0 then 1
  else
    let measured := conn.bitrate.currentBitrateBps
    -- an idle link is not capped
    if measured ≤ 0 then 1
    else
      let cap : ℚ := conn.ccTargetBps
      max ccSoftCapFloor (min (max (cap - measured) 0 / cap) 1)

/-- A candidate with no quality verdict against it. -/
def qualityOk (nowMs : Nat) (c : SrtlaConnection) : Bool :=
  c.isCandidate nowMs && !c.weak && !c.lossDegraded

def unconstrained (nowMs : Nat) (c : SrtlaConnection) : Bool :=
  qualityOk nowMs c && !inFlightCapExceeded c

/-- The link is late rather than under-used. -/
def isLate (c : SrtlaConnection) : Bool := c.lossDegraded || (c.weak && c.weakReason.isDelay)

/-- Whether a link is held out of the payload rotation in this pass. -/
def isExcluded (currentTimeMs : Nat) (anyUnconstrained : Bool) (soleCarrier : Option Nat) (i : Nat)
    (c : SrtlaConnection) : Bool :=
  c.isCandidate currentTimeMs &&
    ((anyUnconstrained && isLate c) || (soleCarrier.isSome && decide (some i ≠ soleCarrier)))

/-- Write the verdict; its falling edge arms the ramp. -/
def setExcluded (c : SrtlaConnection) (excluded : Bool) (currentTimeMs : Nat) : SrtlaConnection :=
  if c.qualityExcluded && !excluded then
    { c.armRejoinRamp currentTimeMs heldOutRejoinRampMs false with qualityExcluded := excluded }
  else { c with qualityExcluded := excluded }

def holdOut (currentTimeMs : Nat) (anyUnconstrained : Bool) (soleCarrier : Option Nat) (i : Nat)
    (c : SrtlaConnection) : SrtlaConnection :=
  setExcluded c (isExcluded currentTimeMs anyUnconstrained soleCarrier i c) currentTimeMs

/-- The skips of the ranking loop. -/
def isRanked (currentTimeMs : Nat) (anyUnconstrained : Bool) (c : SrtlaConnection) : Bool :=
  c.isCandidate currentTimeMs && !c.qualityExcluded && !(anyUnconstrained && inFlightCapExceeded c)

/-- The score before the quality multiplier. -/
def baseScore (currentTimeMs : Nat) (c : SrtlaConnection) : ℚ :=
  c.getScore * c.phaseWeight * c.rejoinRampMultiplier currentTimeMs

def gateMultiplier (anyUnconstrained : Bool) (c : SrtlaConnection) : ℚ :=
  if anyUnconstrained && c.weak then gatedLinkPenalty else 1

/-- Score one link; the quality cache may be refreshed on the way. -/
def scoreLink (calculate : SrtlaConnection → Nat → ℚ) (currentTimeMs : Nat)
    (anyUnconstrained enableQuality : Bool) (c : SrtlaConnection) : SrtlaConnection × Option ℚ :=
  -- a skipped link keeps its cache
  if !isRanked currentTimeMs anyUnconstrained c then (c, none)
  else
    let base := baseScore currentTimeMs c
    let capMult := ccSoftCapMultiplier c
    let gateMult := gateMultiplier anyUnconstrained c
    if !enableQuality then (c, some (base * capMult * gateMult))
    else
      let (c, qualityMult) := c.getCachedQualityMultiplier calculate currentTimeMs
      (c, some (base * qualityMult * capMult * gateMult))

/-- Stay on the last link unless the best one is clearly better. -/
def applyHysteresis (lastIdx : Option Nat) (scores : List (Option ℚ)) (best : FirstMax.Best ℚ) :
    Option Nat :=
  match lastIdx with
  | none => best.idx
  | some last =>
    if best.idx = some last then best.idx
    else
      match (scores[last]?).join with
      -- the last link was skipped in this pass
      | none => best.idx
      | some current =>
        if best.bar.any fun bestScore => decide (bestScore < current * switchThreshold) then some last
        else best.idx

/-- The links as the ranking loop sees them. -/
def prepare (conns : List SrtlaConnection) (currentTimeMs : Nat) : List SrtlaConnection :=
  let anyUnconstrained := conns.any (unconstrained currentTimeMs)
  let anyQualityOk := conns.any (qualityOk currentTimeMs)
  let (conns, soleCarrier) := electSoleCarrier conns currentTimeMs anyQualityOk
  conns.mapIdx (holdOut currentTimeMs anyUnconstrained soleCarrier)

/-- The ranking loop: each link as the loop leaves it, with its score. -/
def rankLinks (calculate : SrtlaConnection → Nat → ℚ) (conns : List SrtlaConnection)
    (currentTimeMs : Nat) (enableQuality : Bool) : List (SrtlaConnection × Option ℚ) :=
  let anyUnconstrained := conns.any (unconstrained currentTimeMs)
  (prepare conns currentTimeMs).map
    (scoreLink calculate currentTimeMs anyUnconstrained enableQuality)

def selectConnection (calculate : SrtlaConnection → Nat → ℚ) (conns : List SrtlaConnection)
    (lastIdx : Option Nat) (currentTimeMs : Nat) (enableQuality : Bool) :
    List SrtlaConnection × Option Nat :=
  let ranked := rankLinks calculate conns currentTimeMs enableQuality
  let scores := ranked.map (·.2)
  let best := FirstMax.scan (some (-1)) scores
  (ranked.map (·.1), applyHysteresis lastIdx scores best)

end Enhanced

/-! ### Entry point -/

def selectConnectionIdx (calculate : SrtlaConnection → Nat → ℚ) (conns : List SrtlaConnection)
    (lastIdx : Option Nat) (currentTimeMs : Nat) (config : ConfigSnapshot) :
    List SrtlaConnection × Option Nat :=
  let conns := applyStallGate conns currentTimeMs config
  match config.mode with
  | .classic =>
    let conns := conns.map (·.clearQualityGateState)
    (conns, Classic.selectConnection conns currentTimeMs)
  | .enhanced =>
    Enhanced.selectConnection calculate conns lastIdx currentTimeMs config.effectiveQualityEnabled

end SrtlaSend
