import SrtlaSend.Core.Connection

/-!
# Acknowledgements and loss reports

The three kinds of feedback a link receives: the cumulative SRT ACK, which every
link is given; the NAK, which goes to the link that carried the packet; and the
SRTLA ACK, which names single packets.
-/

namespace SrtlaSend

open MachineInt

/-- Widest range that is cleared by walking sequence numbers. -/
def targetedRemovalLimit : Int := 64

namespace SrtlaConnection

/-- The log after an ACK that advances `oldHighest` to `ack`: the newly acked
range is walked when it is short, and the whole log is swept otherwise. -/
def clearAcked (log : FiniteMap Int Nat) (oldHighest ack : Int) : FiniteMap Int Nat :=
  let advance := if oldHighest = noAckYet then 2 ^ 31 - 1 else seqDiff ack oldHighest
  if advance ≤ targetedRemovalLimit then
    (seqsAfter oldHighest advance.toNat).foldl (fun log seq => AList.erase seq log) log
  else log.retain fun seq _ => seqAfter seq ack

/-- A cumulative ACK for everything up to `ack`. The round trip is sampled only
by the link that carried the unique copy of `ack`. -/
def handleSrtAck (c : SrtlaConnection) (ack : Int) (nowMs : Nat) (ownsAckedSeq : Bool) :
    SrtlaConnection :=
  let ack := seqNormalize ack
  let oldHighest := c.highestAckedSeq
  if oldHighest ≠ noAckYet ∧ !seqAfter ack oldHighest then c
  else
    let ackSendTimeMs := c.packetLog.lookup ack
    let packetLog := clearAcked c.packetLog oldHighest ack
    let c :=
      { c with highestAckedSeq := ack, packetLog, inFlightPackets := asI32 packetLog.len }
    match ackSendTimeMs with
    | some sentMs =>
      if ownsAckedSeq then { c with rtt := (c.rtt.recordRoundTrip sentMs nowMs).1 } else c
    | none => c

/-- A loss report; the flag says that this link had the packet in flight. -/
def handleNak (c : SrtlaConnection) (seq : Int) (nowMs : Nat) : SrtlaConnection × Bool :=
  if seq ∈ c.packetLog then
    let packetLog : FiniteMap Int Nat := c.packetLog.erase seq
    let (congestion, window) := c.congestion.handleNak c.window nowMs
    ({ c with packetLog, inFlightPackets := asI32 packetLog.len, congestion, window }, true)
  else (c, false)

/-- An SRTLA ACK for one packet. The probe log is consulted first, and a probe
never moves the window. -/
def handleSrtlaAckSpecific (c : SrtlaConnection) (seq : Int) (classicMode : Bool) (nowMs : Nat) :
    SrtlaConnection × Bool :=
  match c.probeLog.lookup seq with
  | some sentMs =>
    ({ c with
        probeLog := c.probeLog.erase seq
        lastAckOrRttSampleMs := nowMs
        rtt := (c.rtt.recordRoundTrip sentMs nowMs).1 },
      true)
  | none =>
    match c.packetLog.lookup seq with
    | some sentMs =>
      let packetLog : FiniteMap Int Nat := c.packetLog.erase seq
      let inFlightPackets := asI32 packetLog.len
      let (congestion, window) :=
        if classicMode then c.congestion.handleSrtlaAckSpecificClassic c.window inFlightPackets
        else c.congestion.handleSrtlaAckEnhanced c.window inFlightPackets
      ({ c with
          packetLog, inFlightPackets, congestion, window
          lastAckOrRttSampleMs := nowMs
          rtt := (c.rtt.recordRoundTrip sentMs nowMs).1 },
        true)
    | none => (c, false)

/-- The `+1` every live link's window gets for each acknowledged packet. -/
def handleSrtlaAckGlobal (c : SrtlaConnection) : SrtlaConnection :=
  if c.connected ∧ c.lastReceived.isSome then
    { c with window := min (c.window + 1) (windowMax * windowMult) }
  else c

end SrtlaConnection

end SrtlaSend
