import SrtlaSend.Core.Priority
import SrtlaSend.Lib.Json

/-!
# Priority sidecar

The datagrams with which an encoder opens critical windows. What is not such a datagram is
counted and changes nothing else.
-/

namespace SrtlaSend

def protoMagic : UInt8 := 0xc1
def datagramLen : Nat := 5

/-- The window with the counters that telemetry shows. -/
structure PriorityState extends CriticalWindow where
  windowsReceived : Nat := 0
  malformedDatagrams : Nat := 0
deriving DecidableEq, Repr

namespace PriorityState

def extendTo (s : PriorityState) (deadlineMs : Nat) : PriorityState :=
  { s with
    toCriticalWindow := s.toCriticalWindow.extendTo deadlineMs
    windowsReceived := s.windowsReceived + 1 }

def recordMalformed (s : PriorityState) : PriorityState :=
  { s with malformedDatagrams := s.malformedDatagrams + 1 }

/-- The length of the window that a datagram opens. A longer one is cut off by the buffer,
and is too long even so. -/
def windowMs (datagram : Bytes) : Option Nat :=
  match datagram with
  | [magic, a, b, c, d] => if magic = protoMagic then some (be32Word a b c d) else none
  | _ => none

/-- One datagram, and the event published for it. -/
def receive (s : PriorityState) (datagram : Bytes) (now : Nat) : PriorityState × Option Json :=
  match windowMs datagram with
  | some windowMs =>
    (s.extendTo (now + windowMs),
      some (.object
        [("at_ms", .ofNat now), ("window_ms", .ofNat windowMs), ("deadline_ms", .ofNat (now + windowMs))]))
  | none => (s.recordMalformed, none)

end PriorityState

end SrtlaSend
