import SrtlaSend.Core.Config
import Mathlib.Order.Lattice

/-!
# Runtime configuration

The cells of the shared configuration that the operator sets, at startup or over the control
protocol. The liveness timeout carries its bounds. The latency that the peer negotiates is
written by the event loop alone and is part of its state.
-/

namespace SrtlaSend

def connTimeoutMsMin : Nat := 1000
def connTimeoutMsMax : Nat := 60000

namespace SchedulingMode

def asU8 : SchedulingMode → UInt8
  | classic => 0
  | enhanced => 1

/-- Every other value reads as enhanced. -/
def fromU8 (value : UInt8) : SchedulingMode := if value = 0 then classic else enhanced

@[simp] theorem fromU8_asU8 (mode : SchedulingMode) : fromU8 mode.asU8 = mode := by
  cases mode <;> rfl

def display : SchedulingMode → String
  | classic => "classic"
  | enhanced => "enhanced"

end SchedulingMode

/-- A liveness timeout within the bounds. -/
abbrev ConnTimeout := { ms : Nat // connTimeoutMsMin ≤ ms ∧ ms ≤ connTimeoutMsMax }

namespace ConnTimeout

def clamp (ms : Nat) : ConnTimeout :=
  ⟨max connTimeoutMsMin (min ms connTimeoutMsMax),
    le_max_left _ _, max_le (by decide) (min_le_right _ _)⟩

end ConnTimeout

structure DynamicConfig where
  mode : UInt8
  qualityEnabled : Bool
  stallDeselect : Bool
  stallMinInFlight : Int
  stallAckStaleMs : Nat
  connTimeoutMs : ConnTimeout
  rehomeOnFailure : Bool
deriving DecidableEq

namespace DynamicConfig

def new : DynamicConfig :=
  { mode := SchedulingMode.enhanced.asU8
    qualityEnabled := true
    stallDeselect := true
    stallMinInFlight := stallMinInFlightPackets
    stallAckStaleMs := SrtlaSend.stallAckStaleMs
    connTimeoutMs := ⟨SrtlaSend.connTimeoutMs, by decide⟩
    rehomeOnFailure := true }

def fromCli (mode : SchedulingMode) (noQuality noStallDeselect : Bool) (stallMinInFlight : Int)
    (stallAckStaleMs connTimeoutMs : Nat) (noRehome : Bool) : DynamicConfig :=
  { mode := mode.asU8
    qualityEnabled := !noQuality
    stallDeselect := !noStallDeselect
    stallMinInFlight
    stallAckStaleMs
    connTimeoutMs := ConnTimeout.clamp connTimeoutMs
    rehomeOnFailure := !noRehome }

/-- The cells as the event loop reads them; the latency is its own. -/
def snapshot (config : DynamicConfig) (negotiatedLatencyMs : Nat) : ConfigSnapshot :=
  { mode := SchedulingMode.fromU8 config.mode
    qualityEnabled := config.qualityEnabled
    stallDeselect := config.stallDeselect
    stallMinInFlight := config.stallMinInFlight
    stallAckStaleMs := config.stallAckStaleMs
    connTimeoutMs := config.connTimeoutMs.val
    negotiatedLatencyMs }

def schedulingMode (config : DynamicConfig) : SchedulingMode := SchedulingMode.fromU8 config.mode

def setMode (config : DynamicConfig) (mode : SchedulingMode) : DynamicConfig :=
  { config with mode := mode.asU8 }

def setQualityEnabled (config : DynamicConfig) (enabled : Bool) : DynamicConfig :=
  { config with qualityEnabled := enabled }

def setStallDeselect (config : DynamicConfig) (enabled : Bool) : DynamicConfig :=
  { config with stallDeselect := enabled }

/-- The applied value is returned. -/
def setConnTimeoutMs (config : DynamicConfig) (ms : Nat) : DynamicConfig × Nat :=
  let applied := ConnTimeout.clamp ms
  ({ config with connTimeoutMs := applied }, applied.val)

end DynamicConfig

end SrtlaSend
