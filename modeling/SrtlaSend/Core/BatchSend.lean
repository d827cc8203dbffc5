import SrtlaSend.Lib.MachineInt
import SrtlaSend.Protocol.Wire
import Mathlib.Algebra.Order.Field.Rat

/-!
# Batch queue

Data packets wait in a per-link queue until a size threshold or a timer drains
it. The queue keeps three parallel vectors, as in the source; that they stay
equally long is a theorem about the operations, not part of the type.
-/

namespace SrtlaSend

open MachineInt

inductive BatchRegime
  | lowActivity
  | normal
  | highLoad
deriving DecidableEq, Repr

namespace BatchRegime

def highLoadThresholdBps : ℚ := 5000000
def lowActivityThresholdBps : ℚ := 500000

def fromBps (bps : ℚ) : BatchRegime :=
  if bps > highLoadThresholdBps then .highLoad
  else if bps ≤ lowActivityThresholdBps then .lowActivity
  else .normal

def batchSize : BatchRegime → Nat
  | lowActivity => 4
  | normal => 16
  | highLoad => 32

end BatchRegime

/-- Bytes, tracked sequence (if any) and queue time of a drained datagram. -/
abbrev DrainedPacket := Bytes × Option Nat × Nat

structure BatchSender where
  queue : List Bytes := []
  sequences : List (Option Nat) := []
  queueTimes : List Nat := []
  lastFlushMs : Nat := 0
  regime : BatchRegime := .normal

namespace BatchSender

def flushIntervalMs : Nat := 15

/-- Queue a packet; the flag says that the threshold is reached. -/
def queuePacket (b : BatchSender) (data : Bytes) (seq : Option Nat) (currentTimeMs : Nat) :
    BatchSender × Bool :=
  let b :=
    { b with
      queue := b.queue ++ [data]
      sequences := b.sequences ++ [seq]
      queueTimes := b.queueTimes ++ [currentTimeMs] }
  (b, decide (b.queue.length ≥ b.regime.batchSize))

def setRegime (b : BatchSender) (regime : BatchRegime) : BatchSender := { b with regime }

def hasQueuedPackets (b : BatchSender) : Bool := !b.queue.isEmpty

def needsTimeFlush (b : BatchSender) (nowMs : Nat) : Bool :=
  !b.queue.isEmpty && decide (nowMs - b.lastFlushMs ≥ flushIntervalMs)

def queuedCount (b : BatchSender) : Int := asI32 b.queue.length

def drain (b : BatchSender) (nowMs : Nat) : BatchSender × List DrainedPacket :=
  let b := { b with lastFlushMs := nowMs }
  if b.queue.isEmpty then (b, [])
  else
    ({ b with queue := [], sequences := [], queueTimes := [] },
      b.queue.zip (b.sequences.zip b.queueTimes))

def reset (b : BatchSender) : BatchSender :=
  { b with queue := [], sequences := [], queueTimes := [], lastFlushMs := 0 }

end BatchSender

end SrtlaSend
