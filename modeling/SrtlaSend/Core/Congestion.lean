import SrtlaSend.Lib.MachineInt
import SrtlaSend.Protocol.Wire
import Mathlib.Algebra.Order.Field.Rat

/-!
# Congestion control

The window rules of both scheduling modes. Every function takes the link's
window and returns the new one with the controller's own state, as the source
passes `&mut window` next to `&mut self`.
-/

namespace SrtlaSend

open MachineInt

def nakBurstWindowMs : Nat := 1000

structure CongestionControl where
  nakCount : Int := 0
  lastNakTimeMs : Nat := 0
  lastWindowIncreaseMs : Nat := 0
  consecutiveAcksWithoutNak : Int := 0
  fastRecoveryMode : Bool := false
  fastRecoveryStartMs : Nat := 0
  nakBurstCount : Int := 0
  nakBurstStartTimeMs : Nat := 0
deriving DecidableEq, Repr

namespace CongestionControl

/-- Every field is overwritten with its initial value. -/
def reset (_ : CongestionControl) : CongestionControl := {}

def handleNak (cc : CongestionControl) (window : Int) (nowMs : Nat) : CongestionControl × Int :=
  let nakCount := satI32 (cc.nakCount + 1)
  let timeSinceLastNak := nowMs - cc.lastNakTimeMs
  let (burstCount, burstStart) :=
    if cc.lastNakTimeMs > 0 ∧ timeSinceLastNak < nakBurstWindowMs then
      if cc.nakBurstCount = 0 then (2, cc.lastNakTimeMs)
      else (satI32 (cc.nakBurstCount + 1), cc.nakBurstStartTimeMs)
    else (0, 0)
  let window := max (window - windowDecr) (windowMin * windowMult)
  let entering := window ≤ 2000 ∧ !cc.fastRecoveryMode
  ({ cc with
      nakCount
      nakBurstCount := burstCount
      nakBurstStartTimeMs := burstStart
      lastNakTimeMs := nowMs
      consecutiveAcksWithoutNak := 0
      fastRecoveryMode := if entering then true else cc.fastRecoveryMode
      fastRecoveryStartMs := if entering then nowMs else cc.fastRecoveryStartMs },
    window)

/-- The growth step shared by both modes: one step of `windowIncr - 1` while the
link has more in flight than its window allows. -/
def growOnAck (window inFlightPackets : Int) : Int :=
  if satI32 (inFlightPackets * windowMult) > window then
    min (window + windowIncr - 1) (windowMax * windowMult)
  else window

def handleSrtlaAckSpecificClassic (cc : CongestionControl) (window inFlightPackets : Int) :
    CongestionControl × Int :=
  (cc, growOnAck window inFlightPackets)

def fastRecoveryDisableWindow : Int := 12000

def handleSrtlaAckEnhanced (cc : CongestionControl) (window inFlightPackets : Int) :
    CongestionControl × Int :=
  let window := growOnAck window inFlightPackets
  ({ cc with
      fastRecoveryMode :=
        if cc.fastRecoveryMode ∧ window ≥ fastRecoveryDisableWindow then false
        else cc.fastRecoveryMode },
    window)

def normalMinWaitMs : Nat := 2000
def fastMinWaitMs : Nat := 500
def normalIncrementWaitMs : Nat := 1000
def fastIncrementWaitMs : Nat := 300
def rttVelocityGateThreshold : ℚ := 2

/-- Time since the last NAK; a link that never had one counts as very old. -/
def recoveryAge (lastNakTimeMs nowMs : Nat) : Nat :=
  if lastNakTimeMs > 0 then nowMs - lastNakTimeMs else 2 ^ 64 - 1

/-- Base increment of the time-based recovery, before the velocity gate. -/
def recoveryBaseIncr (timeSinceLastNak : Nat) (fastRecoveryMode : Bool) : Int :=
  let fastModeBonus : Int := if fastRecoveryMode then 2 else 1
  if timeSinceLastNak > 10000 then windowIncr * 2 * fastModeBonus
  else if timeSinceLastNak > 7000 then windowIncr * fastModeBonus
  else if timeSinceLastNak > 5000 then windowIncr * fastModeBonus / 2
  else windowIncr * fastModeBonus / 4

/-- What one recovery step adds to the window. -/
def recoveryIncr (timeSinceLastNak : Nat) (fastRecoveryMode : Bool) (rttVelocity : ℚ) : Int :=
  let velocityScale : ℚ := if rttVelocity > rttVelocityGateThreshold then 1 / 2 else 1
  satI32 (trunc (recoveryBaseIncr timeSinceLastNak fastRecoveryMode * velocityScale))

def performWindowRecovery (cc : CongestionControl) (window : Int) (connected : Bool)
    (rttVelocity : ℚ) (nowMs : Nat) : CongestionControl × Int :=
  if !connected ∨ window ≥ windowMax * windowMult then (cc, window)
  else
    let timeSinceLastNak := recoveryAge cc.lastNakTimeMs nowMs
    let clearBurst := timeSinceLastNak ≥ nakBurstWindowMs ∧ cc.nakBurstCount > 0
    let cc :=
      { cc with
        nakBurstCount := if clearBurst then 0 else cc.nakBurstCount
        nakBurstStartTimeMs := if clearBurst then 0 else cc.nakBurstStartTimeMs }
    let minWaitTime := if cc.fastRecoveryMode then fastMinWaitMs else normalMinWaitMs
    let incrementWait := if cc.fastRecoveryMode then fastIncrementWaitMs else normalIncrementWaitMs
    if timeSinceLastNak > minWaitTime ∧ nowMs - cc.lastWindowIncreaseMs > incrementWait then
      let window :=
        min (window + recoveryIncr timeSinceLastNak cc.fastRecoveryMode rttVelocity)
          (windowMax * windowMult)
      ({ cc with
          lastWindowIncreaseMs := nowMs
          fastRecoveryMode :=
            if cc.fastRecoveryMode ∧ window ≥ fastRecoveryDisableWindow then false
            else cc.fastRecoveryMode },
        window)
    else (cc, window)

def timeSinceLastNakMs (cc : CongestionControl) (nowMs : Nat) : Option Nat :=
  if cc.lastNakTimeMs = 0 then none else some (nowMs - cc.lastNakTimeMs)

end CongestionControl

end SrtlaSend
