import SrtlaSend.Sender.Sequence
import SrtlaSend.Sender.UplinkRecv

/-!
# Recovering, rebuilding and reloading uplinks

The two resets of a link that also drop its sequence ownership, and the reload
of the uplink list. Sockets are outside the model: whether one can be opened is
an argument.
-/

namespace SrtlaSend

/-- The I/O half of the uplinks by connection id: the address a socket is pinned to. -/
abbrev ConnIoMap := FiniteMap Nat SocketAddr

def recoverConnection (conn : SrtlaConnection) (tracker : SequenceTracker) :
    SrtlaConnection × SequenceTracker :=
  (conn.markForRecovery, tracker.removeConnection conn.connId)

/-- Re-open the socket of an uplink. `opened` says whether the socket could be
bound; the connection is untouched if not. -/
def rebuildUplinkSocket (conn : SrtlaConnection) (tracker : SequenceTracker) (now : Nat)
    (opened : Bool) : Option (SrtlaConnection × SequenceTracker) :=
  if opened then
    let conn := conn.resetForReconnect now
    some ({ conn with reconnection := conn.reconnection.resetStartupGrace now },
      tracker.removeConnection conn.connId)
  else none

/-- Rebuild the socket, or put the link into recovery if that fails. -/
def rebuildOrRecover (conn : SrtlaConnection) (tracker : SequenceTracker) (now : Nat)
    (opened : Bool) : SrtlaConnection × SequenceTracker :=
  match rebuildUplinkSocket conn tracker now opened with
  | some rebuilt => rebuilt
  | none => recoverConnection conn tracker

/-! ### Receiver drift -/

def dnsDriftDetected (cached : SocketAddr) (fresh : List SocketAddr) : Bool :=
  !fresh.isEmpty && !fresh.contains cached

def receiverMoved (current fresh : List SocketAddr) : Bool :=
  !current.isEmpty && current.all (dnsDriftDetected · fresh)

/-! ### Reload -/

/-- Operator weight of `ip`: the first match wins, and an unlisted link has weight 1. -/
def weightFor (ips : List IpAddr) (weights : List Nat) (ip : IpAddr) : Nat :=
  ((ips.idxOf? ip).bind fun i => weights[i]?).getD linkWeightMin

def applyLinkWeights (conns : List SrtlaConnection) (ips : List IpAddr) (weights : List Nat) :
    List SrtlaConnection :=
  conns.map fun conn => { conn with linkWeight := weightFor ips weights conn.localIp }

/-- `showIp` is the textual form of an address. -/
def uplinkLabel (showIp : IpAddr → String) (receiverHost : String) (receiverPort : Nat)
    (ip : IpAddr) : String :=
  receiverHost ++ ":" ++ toString receiverPort ++ " via " ++ showIp ip

/-- What dialling one uplink yields: the id drawn for it, the address it resolved
and the time. -/
structure Dialed where
  connId : Nat
  remote : SocketAddr
  now : Nat
deriving DecidableEq, Repr

/-- Dial every entry of the list, `dial i` the `i`-th; an uplink that cannot be opened is
skipped. -/
def createConnectionsFromIps (showIp : IpAddr → String) (receiverHost : String)
    (receiverPort : Nat) (dial : Nat → IpAddr → Option Dialed) (ips : List IpAddr)
    (weights : List Nat) (connIo : ConnIoMap) : List SrtlaConnection × ConnIoMap :=
  let dialed := ips.zipIdx.filterMap fun (ip, i) => (dial i ip).map fun d => (ip, d)
  (dialed.map fun (ip, d) =>
      { SrtlaConnection.newRegistering d.connId (uplinkLabel showIp receiverHost receiverPort ip) ip
          d.now with
        linkWeight := weightFor ips weights ip },
    dialed.foldl (fun io (_, d) => io.insert d.connId d.remote) connIo)

/-- A list dialled by address alone. -/
theorem filterMap_zipIdx_dial (dial : IpAddr → Option Dialed) (ips : List IpAddr) :
    (ips.zipIdx.filterMap fun (ip, _) => (dial ip).map fun d => (ip, d)) =
      ips.filterMap fun ip => (dial ip).map fun d => (ip, d) := by
  conv_rhs => rw [← List.zipIdx_map_fst 0 ips, List.filterMap_map]
  rfl

/-- What a reload writes. The registration manager is not part of it. -/
structure Reloaded where
  conns : List SrtlaConnection
  connIo : ConnIoMap
  lastSelectedIdx : Option Nat
  tracker : SequenceTracker

def applyConnectionChanges (showIp : IpAddr → String) (dial : IpAddr → Option Dialed)
    (conns : List SrtlaConnection) (connIo : ConnIoMap) (newIps : List IpAddr)
    (newWeights : List Nat) (receiverHost : String) (receiverPort : Nat)
    (lastSelectedIdx : Option Nat) (tracker : SequenceTracker) : Reloaded :=
  let label := uplinkLabel showIp receiverHost receiverPort
  let desired (c : SrtlaConnection) : Bool := (newIps.map label).contains c.label
  let removed := (conns.filter fun c => !desired c).map (·.connId)
  let kept := conns.filter desired
  let shrunk := kept.length ≠ conns.length
  let needed := newIps.eraseDups.filter fun ip => !(conns.map (·.label)).contains (label ip)
  -- no address is needed twice, so the address alone says which attempt it is
  let (added, connIo) :=
    createConnectionsFromIps showIp receiverHost receiverPort (fun _ => dial) needed
      (needed.map (weightFor newIps newWeights))
      (if shrunk then removed.foldl (fun io id => io.erase id) connIo else connIo)
  { conns := applyLinkWeights kept newIps newWeights ++ added
    connIo
    lastSelectedIdx := if shrunk then none else lastSelectedIdx
    tracker := if shrunk then removed.foldl (·.removeConnection) tracker else tracker }

end SrtlaSend
