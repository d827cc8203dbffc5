import SrtlaSend.Sender.PacketHandler

/-!
# Whole-bond re-home

The state of the sender, and the move of every uplink to a newly resolved
receiver. The resolver's answer, the fresh random identifiers and whether a
socket opens are inputs.
-/

namespace SrtlaSend

open MachineInt

def rehomeMinIntervalMs : Nat := 60000

structure RehomeGate where
  enabled : Bool
  lastProbeMs : Option Nat := none
  rehomes : Nat := 0
deriving DecidableEq, Repr

/-- Claim a probe slot, at most one a minute. -/
def RehomeGate.claimProbe (gate : RehomeGate) (now : Nat) : RehomeGate × Bool :=
  if !gate.enabled then (gate, false)
  else if gate.lastProbeMs.any fun last => decide (now - last < rehomeMinIntervalMs) then (gate, false)
  else ({ gate with lastProbeMs := some now }, true)

/-- Everything the event loop owns, reader tasks and statistics apart. -/
structure Sender extends DataPath where
  connIo : ConnIoMap
  reg : SrtlaRegistrationManager
  dedup : ClientDedup
  negotiatedLatencyMs : Nat
  allFailedAt : Option Nat
  rehome : RehomeGate

/-- What a re-home draws from outside. -/
structure RehomeEnv where
  resolved : Option (List SocketAddr)
  opened : Nat → Bool
  freshId : SrtlaId
  probeId : SrtlaId

namespace Sender

/-- The addresses the bond is pinned to, each once. -/
def pinnedRemotes (s : Sender) : List SocketAddr :=
  (s.conns.filterMap fun conn => s.connIo.lookup conn.connId).eraseDups

/-- Rebuild one uplink, or recover it if its socket or its I/O entry is missing. -/
def rebuildUplink (connIo : ConnIoMap) (opened : Nat → Bool) (now : Nat) (conn : SrtlaConnection)
    (tracker : SequenceTracker) : SrtlaConnection × SequenceTracker :=
  if conn.connId ∈ connIo then rebuildOrRecover conn tracker now (opened conn.connId)
  else recoverConnection conn tracker

/-- Rebuild the uplinks in order. -/
def rebuildAll (connIo : ConnIoMap) (opened : Nat → Bool) (now : Nat) :
    List SrtlaConnection → SequenceTracker → List SrtlaConnection × SequenceTracker
  | [], tracker => ([], tracker)
  | conn :: rest, tracker =>
    let (conn, tracker) := rebuildUplink connIo opened now conn tracker
    let (rest, tracker) := rebuildAll connIo opened now rest tracker
    (conn :: rest, tracker)

/-- Repoint every uplink and start the handshake over. -/
def rehomeBond (s : Sender) (newRemote : SocketAddr) (env : RehomeEnv) (now : Nat) : Sender :=
  let connIo := s.conns.foldl
    (fun io conn => if conn.connId ∈ io then io.insert conn.connId newRemote else io) s.connIo
  let (conns, tracker) := rebuildAll connIo env.opened now s.conns s.tracker
  let reg := s.reg.resetForRehome env.freshId env.probeId
  let (reg, conns, _) := reg.startProbing conns now
  { s with conns, tracker, connIo, reg }

/-- Move the bond if the receiver's name stopped answering with any address the
bond is pinned to; the flag says that it moved. -/
def tryRehome (s : Sender) (env : RehomeEnv) (now : Nat) : Sender × Bool :=
  let current := s.pinnedRemotes
  if current.isEmpty then (s, false)
  else
    let (rehome, claimed) := s.rehome.claimProbe now
    let s := { s with rehome }
    if !claimed then (s, false)
    else
      match env.resolved with
      | none => (s, false)
      | some [] => (s, false)
      | some (newRemote :: others) =>
        if receiverMoved current (newRemote :: others) then
          let s := s.rehomeBond newRemote env now
          ({ s with rehome.rehomes := satU64 (s.rehome.rehomes + 1) }, true)
        else (s, false)

end Sender

end SrtlaSend
