import SrtlaSend.Protocol.Wire

/-!
# Relay deduplication

One forward to the local client per distinct ACK or NAK: a ring of the hashes
forwarded lately, one for each kind. The hash function is a parameter.
-/

namespace SrtlaSend

def ackDedupWindowMs : Nat := 1000
def ackRingSize : Nat := 512
def nakDedupWindowMs : Nat := 50
def nakRingSize : Nat := 64

structure Forwarded where
  hash : Nat
  atMs : Nat
deriving DecidableEq, Repr

structure Ring where
  entries : List (Option Forwarded)
  next : Nat
  windowMs : Nat
deriving DecidableEq, Repr

namespace Ring

def new (size windowMs : Nat) : Ring := ⟨List.replicate size none, 0, windowMs⟩

def seenRecently (ring : Ring) (hash nowMs : Nat) : Bool :=
  ring.entries.reduceOption.any fun e => e.hash == hash && decide (nowMs - e.atMs < ring.windowMs)

/-- Record and forward, unless a recent entry has the same hash. -/
def shouldForward (hashOf : Bytes → Nat) (ring : Ring) (packet : Bytes) (nowMs : Nat) :
    Ring × Bool :=
  let hash := hashOf packet
  if ring.seenRecently hash nowMs then (ring, false)
  else
    ({ ring with
        entries := ring.entries.set ring.next (some ⟨hash, nowMs⟩)
        next := (ring.next + 1) % ring.entries.length },
      true)

end Ring

structure ClientDedup where
  acks : Ring
  naks : Ring
deriving DecidableEq, Repr

namespace ClientDedup

def new : ClientDedup :=
  ⟨Ring.new ackRingSize ackDedupWindowMs, Ring.new nakRingSize nakDedupWindowMs⟩

def shouldForwardAck (hashOf : Bytes → Nat) (d : ClientDedup) (packet : Bytes) (nowMs : Nat) :
    ClientDedup × Bool :=
  let (acks, forward) := d.acks.shouldForward hashOf packet nowMs
  ({ d with acks }, forward)

def shouldForwardNak (hashOf : Bytes → Nat) (d : ClientDedup) (packet : Bytes) (nowMs : Nat) :
    ClientDedup × Bool :=
  let (naks, forward) := d.naks.shouldForward hashOf packet nowMs
  ({ d with naks }, forward)

end ClientDedup

end SrtlaSend
