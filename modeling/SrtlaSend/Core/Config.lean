import SrtlaSend.Protocol.Wire
import Mathlib.Data.Rat.Defs

/-!
# Configuration snapshot

The scheduling mode and the runtime-tunable values one selection pass reads,
with the constants of the stall guard.
-/

namespace SrtlaSend

inductive SchedulingMode
  | classic
  | enhanced
deriving DecidableEq, Repr

def SchedulingMode.isClassic : SchedulingMode → Bool
  | classic => true
  | enhanced => false

def stallMinInFlightPackets : Int := 32
def stallAckStaleMs : Nat := 3000
def stallStaleRttMult : Nat := 4
def stallStaleFloorMs : Nat := 1000
def stallRejoinProofFloorMs : Nat := idleTime * 1000 + 500
def stallRejoinDwellMult : Nat := 2
def stallRejoinBackoffMax : Nat := 16
def stallRejoinProbationMult : Nat := stallRejoinDwellMult + 1
def probeLogSoftCap : Nat := 128
def probeLogMaxAgeMs : Nat := 10000
def stallRejoinRampFloor : ℚ := 5 / 100
def stallProbeOneInN : Nat := 100
def silencePullFloorMs : Nat := 250
def silencePullRttMult : Nat := 2
def connTimeoutMs : Nat := connTimeout * 1000

structure ConfigSnapshot where
  mode : SchedulingMode := .enhanced
  qualityEnabled : Bool := true
  stallDeselect : Bool := true
  stallMinInFlight : Int := stallMinInFlightPackets
  stallAckStaleMs : Nat := SrtlaSend.stallAckStaleMs
  connTimeoutMs : Nat := SrtlaSend.connTimeoutMs
  negotiatedLatencyMs : Nat := 0
deriving DecidableEq, Repr

def ConfigSnapshot.effectiveQualityEnabled (config : ConfigSnapshot) : Bool :=
  config.qualityEnabled && !config.mode.isClassic

end SrtlaSend
