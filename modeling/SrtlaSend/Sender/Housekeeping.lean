import SrtlaSend.Sender.Rehome

/-!
# Housekeeping

One pass of the periodic housekeeping. The loop over the uplinks is a fold of
`housekeepUplink` over their positions, each iteration reading and writing the
whole state, so that what happens in the middle of a pass can be talked about.
-/

namespace SrtlaSend

def globalTimeoutMs : Nat := 10000

/-- What a pass meets outside the model, sockets by connection id. `probeNow` is
the clock the probing check reads for itself. -/
structure HousekeepingEnv where
  now : Nat
  classic : Bool
  probeNow : Nat
  opened : Nat → Bool
  sent : Nat → Bool
  rehome : RehomeEnv

namespace Sender

/-- Free the slot after its timeout, and finish the probing phase; the uplink it
selects gets a new startup grace. -/
def beginHousekeeping (s : Sender) (env : HousekeepingEnv) : Sender :=
  let (reg, _) := s.reg.clearPendingIfTimedOut env.now
  if reg.isProbing then
    let (reg, _) := reg.checkProbingComplete env.probeNow
    let conns :=
      match reg.isProbing, reg.getSelectedConnectionIdx with
      | false, some idx =>
        s.conns.modify idx fun conn =>
          { conn with reconnection.startupGraceDeadlineMs := env.now + startupGraceMs }
      | _, _ => s.conns
    { s with reg, conns }
  else { s with reg }

/-- The handshake packet of uplink `i` after its socket was rebuilt: REG1 for the
holder of the slot, REG2 if the slot is free, nothing while another uplink
holds it. -/
def resendRegistration (reg : SrtlaRegistrationManager) (i now : Nat) :
    SrtlaRegistrationManager × Option Bytes :=
  match reg.pendingReg2Idx with
  | some idx =>
    if idx = i then
      let (reg, pkt) := reg.buildReg1For i now
      (reg, some pkt)
    else (reg, none)
  | none =>
    let (reg, pkt) := reg.buildReg2 i
    (reg, some pkt)

/-- A send that succeeds stamps the link. -/
def noteSentIf (connIo : ConnIoMap) (env : HousekeepingEnv) (conn : SrtlaConnection) :
    SrtlaConnection :=
  if conn.connId ∈ connIo ∧ env.sent conn.connId then conn.noteSent env.now else conn

/-- Rebuild a timed-out uplink whose retry is due, before its handshake packet. -/
def reconnectUplink (connIo : ConnIoMap) (env : HousekeepingEnv) (conn : SrtlaConnection)
    (tracker : SequenceTracker) : SrtlaConnection × SequenceTracker :=
  rebuildUplink connIo env.opened env.now (conn.recordReconnectAttempt env.now) tracker

/-- Keepalives and periodic state of an uplink that has not timed out. -/
def serviceUplink (env : HousekeepingEnv) (conn : SrtlaConnection) : SrtlaConnection :=
  let now := env.now
  let conn := if conn.needsKeepalive now then (conn.keepalivePacket now).1 else conn
  let conn := if conn.needsRttMeasurement now then (conn.keepalivePacket now).1 else conn
  let conn := if env.classic then conn else conn.performWindowRecovery now
  ((conn.calculateBitrate now).updatePhase now).recomputeBatchRegime

/-- What every part of the service keeps, the service keeps. -/
theorem serviceUplink_invariant {P : SrtlaConnection → Prop} (env : HousekeepingEnv)
    {c : SrtlaConnection} (init : P c) (keepalive : ∀ d, P d → P (d.keepalivePacket env.now).1)
    (recovery : ∀ d, P d → P (d.performWindowRecovery env.now))
    (bitrate : ∀ d, P d → P (d.calculateBitrate env.now))
    (phase : ∀ d, P d → P (d.updatePhase env.now))
    (regime : ∀ d, P d → P d.recomputeBatchRegime) : P (serviceUplink env c) := by
  simp only [serviceUplink]
  refine regime _ (phase _ (bitrate _ ?_))
  have sent (d : SrtlaConnection) (due : Bool) (held : P d) :
      P (if due then (d.keepalivePacket env.now).1 else d) := by
    split
    · exact keepalive d held
    · exact held
  split
  · exact sent _ _ (sent c _ init)
  · exact recovery _ (sent _ _ (sent c _ init))

/-- One iteration of the housekeeping loop. -/
def housekeepUplink (env : HousekeepingEnv) (s : Sender) (i : Nat) : Sender :=
  match s.conns[i]? with
  | none => s
  | some conn =>
    if conn.isTimedOut env.now then
      if conn.shouldAttemptReconnect env.now then
        let (conn, tracker) := reconnectUplink s.connIo env conn s.tracker
        let (reg, pkt) := resendRegistration s.reg i env.now
        let conn := if pkt.isSome then noteSentIf s.connIo env conn else conn
        { s with conns := s.conns.set i conn, tracker, reg }
      else s
    else { s with conns := s.conns.set i (serviceUplink env conn) }

/-- Count the registered links and let the driver send. -/
def driveRegistration (s : Sender) (env : HousekeepingEnv) : Sender :=
  let reg := s.reg.updateActiveConnections s.conns
  let (reg, sends) := reg.regDriverPendingSends s.conns.length env.now
  let conns :=
    match sends.reg1 with
    | some (idx, _) => s.conns.modify idx (noteSentIf s.connIo env)
    | none => s.conns
  let conns := if sends.broadcastReg2.isSome then conns.map (noteSentIf s.connIo env) else conns
  { s with reg, conns }

/-- The all-links-failed timer, and the re-home it may lead to. The second
component is the error of a pass that gives up. -/
def checkAllFailed (s : Sender) (env : HousekeepingEnv) : Sender × Option String :=
  if (s.conns.filter fun c => !c.isTimedOut env.now).length = 0 then
    let failedAt := s.allFailedAt.getD env.now
    let s := { s with allFailedAt := some failedAt }
    if env.now - failedAt > globalTimeoutMs then
      let (s, moved) := s.tryRehome env.rehome env.now
      if moved then ({ s with allFailedAt := some env.now }, none)
      else if s.reg.hasConnected then (s, some "Failed to re-establish any connections")
      else (s, some "Failed to establish any initial connections")
    else (s, none)
  else ({ s with allFailedAt := none }, none)

def handleHousekeeping (s : Sender) (env : HousekeepingEnv) : Sender × Option String :=
  let s := s.beginHousekeeping env
  let s := (List.range s.conns.length).foldl (housekeepUplink env) s
  let s := s.driveRegistration env
  s.checkAllFailed env

end Sender

end SrtlaSend
