import SrtlaSend.Protocol.Wire

/-!
# Sequence tracker

A ring of entries indexed by the low bits of the sequence number, which says
which uplink carried the unique copy of a packet. The array is a function of the
slot. The approximate entry count, kept for logging only, is left out.
-/

namespace SrtlaSend

def seqTrackingSize : Nat := 16384

def seqTrackingMask : Nat := seqTrackingSize - 1

def sequenceTrackingMaxAgeMs : Nat := 5000

/-- A `connId` of zero marks an empty entry. -/
structure SequenceTrackingEntry where
  connId : Nat := 0
  timestampMs : Nat := 0
  seq : Nat := 0
deriving DecidableEq, Repr

namespace SequenceTrackingEntry

def isExpired (entry : SequenceTrackingEntry) (currentTimeMs : Nat) : Bool :=
  decide (currentTimeMs - entry.timestampMs > sequenceTrackingMaxAgeMs)

def isValid (entry : SequenceTrackingEntry) (seq currentTimeMs : Nat) : Bool :=
  entry.connId != 0 && entry.seq == seq && !entry.isExpired currentTimeMs

end SequenceTrackingEntry

structure SequenceTracker where
  entries : Nat → SequenceTrackingEntry

namespace SequenceTracker

def new : SequenceTracker := ⟨fun _ => {}⟩

def slot (seq : Nat) : Nat := seq &&& seqTrackingMask

def insert (t : SequenceTracker) (seq connId timestampMs : Nat) : SequenceTracker :=
  ⟨fun s => if s = slot seq then ⟨connId, timestampMs, seq⟩ else t.entries s⟩

def get (t : SequenceTracker) (seq currentTimeMs : Nat) : Option Nat :=
  let entry := t.entries (slot seq)
  if entry.isValid seq currentTimeMs then some entry.connId else none

def removeConnection (t : SequenceTracker) (connId : Nat) : SequenceTracker :=
  ⟨fun s => if (t.entries s).connId = connId then {} else t.entries s⟩

/-- A packet just inserted is found at once, under its carrier. -/
theorem get_insert (t : SequenceTracker) (seq now : Nat) {connId : Nat} (valid : connId ≠ 0) :
    (t.insert seq connId now).get seq now = some connId := by
  simp [get, insert, SequenceTrackingEntry.isValid, SequenceTrackingEntry.isExpired, valid]

/-- Removing another connection does not hide an entry. -/
theorem get_removeConnection {t : SequenceTracker} {seq now owner connId : Nat}
    (found : t.get seq now = some owner) (other : owner ≠ connId) :
    (t.removeConnection connId).get seq now = some owner := by
  simp only [get] at found
  split at found
  case isTrue valid =>
    obtain rfl := Option.some.inj found
    simp only [get, removeConnection, if_neg other, valid, if_true]
  case isFalse => cases found

end SequenceTracker

end SrtlaSend
