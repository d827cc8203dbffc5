import SrtlaSend.Core.Registration
import SrtlaSend.Sender.ClientDedup

/-!
# Receiving on an uplink

What one datagram from the receiver does to its link, to the registration
manager and to the relay state, and the effects it leaves for the shell.
-/

namespace SrtlaSend

structure SocketAddr where
  ip : IpAddr
  port : Nat
deriving DecidableEq, Repr

structure SrtlaIncoming where
  forwardToClient : List Bytes := []
  ackNumbers : List Nat := []
  nakNumbers : List Nat := []
  srtlaAckNumbers : List Nat := []
  readAny : Bool := false
  reg1Send : Option Bytes := none
  negotiatedLatencyMs : Option Nat := none
deriving DecidableEq, Repr

namespace SrtlaConnection

/-- The effects of an accepted REG3. -/
def acceptReg3 (c : SrtlaConnection) (now : Nat) : SrtlaConnection :=
  let c := c.clearPreRegistrationState now
  let c :=
    { c with
      connected := true
      lastReceived := some now
      -- the time of the first registration stays
      reconnection.connectionEstablishedMs :=
        if c.reconnection.connectionEstablishedMs = 0 then now
        else c.reconnection.connectionEstablishedMs }
  c.markReconnectSuccess

/-- The effects of an accepted REG_ERR; the phase is left alone. -/
def acceptRegErr (c : SrtlaConnection) : SrtlaConnection :=
  { c with connected := false, lastReceived := none }

/-- Liveness counts for a link that is registered or never was. -/
def noteReceived (c : SrtlaConnection) (now : Nat) : SrtlaConnection :=
  if c.connected ∨ c.reconnection.connectionEstablishedMs = 0 then
    { c with lastReceived := some now }
  else c

end SrtlaConnection

/-- The states a datagram touches, and what it leaves to be done. The ACK that is
relayed to the client on the spot is kept apart from the deferred forwards. -/
structure UplinkOutcome where
  conn : SrtlaConnection
  reg : SrtlaRegistrationManager
  dedup : ClientDedup
  incoming : SrtlaIncoming
  ackToClient : Option Bytes := none

/-- A registration event acts on the link, and a REG_NGP may ask for a REG1. -/
def applyRegistrationEvent (conn : SrtlaConnection) (connIdx : Nat)
    (reg : SrtlaRegistrationManager) (event : RegistrationEvent) (now : Nat) :
    SrtlaConnection × SrtlaRegistrationManager × Option Bytes :=
  match event with
  | .regNgp =>
    let (reg, reg1) := reg.reg1IfNgpImmediate connIdx now
    (conn, reg, reg1)
  | .reg3 => (conn.acceptReg3 now, reg, none)
  | .regErr => (conn.acceptRegErr, reg, none)
  | .reg2 => (conn, reg, none)

/-- A datagram of type `pt` that is no registration event. -/
def processUplinkData (hashOf : Bytes → Nat) (conn : SrtlaConnection)
    (reg : SrtlaRegistrationManager) (clientAddr : Option SocketAddr) (dedup : ClientDedup)
    (pt : Nat) (data : Bytes) (now : Nat) : UplinkOutcome :=
  let conn := conn.noteReceived now
  let incoming : SrtlaIncoming := { readAny := true }
  if pt = srtTypeAck then
    let incoming := { incoming with ackNumbers := (parseSrtAck data).toList }
    -- the relay is asked only if there is somebody to relay to
    if clientAddr.isSome then
      let (dedup, forward) := dedup.shouldForwardAck hashOf data now
      ⟨conn, reg, dedup, incoming, if forward then some data else none⟩
    else ⟨conn, reg, dedup, incoming, none⟩
  else if pt = srtTypeNak then
    let incoming := { incoming with nakNumbers := parseSrtNak data }
    if clientAddr.isSome then
      let (dedup, forward) := dedup.shouldForwardNak hashOf data now
      ⟨conn, reg, dedup, { incoming with forwardToClient := if forward then [data] else [] }, none⟩
    else ⟨conn, reg, dedup, incoming, none⟩
  else if pt = srtlaTypeAck then
    ⟨conn, reg, dedup, { incoming with srtlaAckNumbers := parseSrtlaAck data }, none⟩
  else if pt = srtTypeHandshake then
    let negotiatedLatencyMs :=
      -- the request of the client is not what the receiver will do
      (parseSrtHandshakeLatency data).bind fun hs => if hs.isResponse then hs.rcvMs else none
    ⟨conn, reg, dedup, { incoming with negotiatedLatencyMs, forwardToClient := [data] }, none⟩
  else if pt = srtlaTypeKeepalive then
    ⟨conn.handleKeepaliveEcho data now, reg, dedup, incoming, none⟩
  -- any other packet is for the client
  else ⟨conn, reg, dedup, { incoming with forwardToClient := [data] }, none⟩

def processUplinkPacket (hashOf : Bytes → Nat) (conn : SrtlaConnection) (connIdx : Nat)
    (reg : SrtlaRegistrationManager) (clientAddr : Option SocketAddr) (dedup : ClientDedup)
    (data : Bytes) (now : Nat) : UplinkOutcome :=
  match getPacketType data with
  | none => ⟨conn, reg, dedup, { readAny := true }, none⟩
  | some pt =>
    -- registration packets do not count as traffic
    match reg.processRegistrationPacket connIdx data now with
    | (reg, some event) =>
      let (conn, reg, reg1Send) := applyRegistrationEvent conn connIdx reg event now
      ⟨conn, reg, dedup, { readAny := true, reg1Send }, none⟩
    | (reg, none) => processUplinkData hashOf conn reg clientAddr dedup pt data now

end SrtlaSend
