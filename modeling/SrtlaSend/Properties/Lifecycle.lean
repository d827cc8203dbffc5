import SrtlaSend.Properties.LinkFrames
import SrtlaSend.Properties.SelectionFrame
import SrtlaSend.Sender.EventLoop

/-!
# Link lifecycle

Five fields say where a link is in its life: `connected`, the phase, the last
time it was heard, when it first registered, and the startup grace. About ten
operations write some of them, and none writes them all. `Lifecycle` is what they
keep together: a registered link was heard and is out of the registering phase,
and a link that lost its registration counts as never heard, so that the timeout
finds it whatever arrives.
-/

namespace SrtlaSend

open Runs

/-- What can happen to one link. The rest of the bond is given with the operation
where it takes part: the manager that sees a frame, the other links of a
selection pass, the sender whose housekeeping reaches the link. -/
inductive LifeOp
  | frame (connIdx : Nat) (reg : SrtlaRegistrationManager) (clientAddr : Option SocketAddr)
      (dedup : ClientDedup) (data : Bytes) (now : Nat)
  | housekeep (s : Sender) (env : HousekeepingEnv) (i : Nat)
  | select (calculate : SrtlaConnection → Nat → ℚ) (before after : List SrtlaConnection)
      (lastIdx : Option Nat) (now : Nat) (config : ConfigSnapshot)
  | queueData (data : Bytes) (seq : Option Nat) (now : Nat)
  | queueProbe (data : Bytes) (seq now : Nat)
  | flush (needsFlush : Bool) (connIo : ConnIoMap) (sends : Sends) (tracker : SequenceTracker)
  | srtAck (ack : Int) (now : Nat) (owns : Bool)
  | nak (seq : Int) (now : Nat)
  | srtlaAck (seq : Int) (classic : Bool) (now : Nat)
  | srtlaAckGlobal
  | probe (probeId : SrtlaId) (now : Nat)
  | renewGrace (deadlineMs : Nat)
  | markForRecovery
  | resetForReconnect (now : Nat)
  | rebuild (tracker : SequenceTracker) (now : Nat) (opened : Bool)

namespace SrtlaConnection

def applyLifeOp (hashOf : Bytes → Nat) (c : SrtlaConnection) : LifeOp → SrtlaConnection
  | .frame connIdx reg clientAddr dedup data now =>
    (processUplinkPacket hashOf c connIdx reg clientAddr dedup data now).conn
  | .housekeep s env i =>
    ((Sender.housekeepUplink env { s with conns := s.conns.set i c } i).conns[i]?).getD c
  | .select calculate before after lastIdx now config =>
    ((selectConnectionIdx calculate (before ++ c :: after) lastIdx now config).1[before.length]?).getD c
  | .queueData data seq now => (c.queueDataPacket data seq now).1
  | .queueProbe data seq now => (c.queueProbePacket data seq now).1
  | .flush needsFlush connIo sends tracker => (flushIfNeeded needsFlush c connIo sends tracker).1
  | .srtAck ack now owns => c.handleSrtAck ack now owns
  | .nak seq now => (c.handleNak seq now).1
  | .srtlaAck seq classic now => (c.handleSrtlaAckSpecific seq classic now).1
  | .srtlaAckGlobal => c.handleSrtlaAckGlobal
  | .probe probeId now => (c.probeReg2Packet probeId now).1
  | .renewGrace deadlineMs => { c with reconnection.startupGraceDeadlineMs := deadlineMs }
  | .markForRecovery => c.markForRecovery
  | .resetForReconnect now => c.resetForReconnect now
  | .rebuild tracker now opened => (rebuildOrRecover c tracker now opened).1

/-! ### The invariant -/

/-- Where a link can be in its life. -/
structure Lifecycle (c : SrtlaConnection) : Prop where
  phase : c.connected = true → c.phase ≠ .registering
  heard : c.connected = true → c.lastReceived.isSome = true
  established : c.phase ≠ .registering → c.reconnection.connectionEstablishedMs ≠ 0
  lost : c.connected = false → c.reconnection.connectionEstablishedMs ≠ 0 → c.lastReceived = none

/-- It is the same uplink: id, label, address and operator weight are as before. -/
def SameUplink (c c' : SrtlaConnection) : Prop :=
  (c'.connId, c'.label, c'.localIp, c'.linkWeight) = (c.connId, c.label, c.localIp, c.linkWeight)

/-- It is the same link, at the same place in its life. -/
structure SameLife (c c' : SrtlaConnection) : Prop where
  connected : c'.connected = c.connected
  phase : c'.phase = .registering ↔ c.phase = .registering
  lastReceived : c'.lastReceived = c.lastReceived
  established :
    c'.reconnection.connectionEstablishedMs = c.reconnection.connectionEstablishedMs
  uplink : SameUplink c c'

/-- It is the same link turned off, and the history of its registration is as before. -/
structure TurnedOff (c c' : SrtlaConnection) : Prop where
  connected : c'.connected = false
  phase : c'.phase = .registering
  lastReceived : c'.lastReceived = none
  established :
    c'.reconnection.connectionEstablishedMs = c.reconnection.connectionEstablishedMs
  uplink : SameUplink c c'

section Relations

variable {c c' c'' : SrtlaConnection}

theorem SameUplink.refl (c : SrtlaConnection) : SameUplink c c := rfl

theorem SameUplink.trans (h : SameUplink c c') (h' : SameUplink c' c'') : SameUplink c c'' :=
  Eq.trans h' h

theorem SameUplink.connId (h : SameUplink c c') : c'.connId = c.connId := congrArg Prod.fst h

theorem SameUplink.label (h : SameUplink c c') : c'.label = c.label := congrArg (·.2.1) h

theorem SameUplink.localIp (h : SameUplink c c') : c'.localIp = c.localIp := congrArg (·.2.2.1) h

theorem SameUplink.linkWeight (h : SameUplink c c') : c'.linkWeight = c.linkWeight :=
  congrArg (·.2.2.2) h

theorem SameLife.connId (h : SameLife c c') : c'.connId = c.connId := h.uplink.connId

theorem SameLife.refl (c : SrtlaConnection) : SameLife c c := ⟨rfl, Iff.rfl, rfl, rfl, rfl⟩

theorem SameLife.trans (h : SameLife c c') (h' : SameLife c' c'') : SameLife c c'' :=
  ⟨h'.connected.trans h.connected, h'.phase.trans h.phase, h'.lastReceived.trans h.lastReceived,
    h'.established.trans h.established, h.uplink.trans h'.uplink⟩

theorem SameLife.thenOff (h : SameLife c c') (h' : TurnedOff c' c'') : TurnedOff c c'' :=
  ⟨h'.connected, h'.phase, h'.lastReceived, h'.established.trans h.established,
    h.uplink.trans h'.uplink⟩

theorem TurnedOff.thenSame (h : TurnedOff c c') (h' : SameLife c' c'') : TurnedOff c c'' :=
  ⟨h'.connected.trans h.connected, h'.phase.mpr h.phase, h'.lastReceived.trans h.lastReceived,
    h'.established.trans h.established, h.uplink.trans h'.uplink⟩

theorem Lifecycle.of_sameLife (life : c.Lifecycle) (h : SameLife c c') : c'.Lifecycle := by
  refine ⟨fun on => ?_, fun on => ?_, fun out => ?_, fun off once => ?_⟩
  · rw [h.connected] at on
    exact fun registering => life.phase on (h.phase.mp registering)
  · rw [h.connected] at on
    rw [h.lastReceived]
    exact life.heard on
  · rw [h.established]
    exact life.established fun registering => out (h.phase.mpr registering)
  · rw [h.connected] at off
    rw [h.established] at once
    rw [h.lastReceived]
    exact life.lost off once

/-- Turning a link off restores the invariant from any state. -/
theorem Lifecycle.of_turnedOff (h : TurnedOff c c') : c'.Lifecycle :=
  ⟨fun on => absurd (on.symm.trans h.connected) Bool.true_eq_false.mp,
    fun on => absurd (on.symm.trans h.connected) Bool.true_eq_false.mp,
    fun out => absurd h.phase out, fun _ _ => h.lastReceived⟩

end Relations

/-- A link that is schedulable and not timed out is connected. -/
theorem Lifecycle.connected_of_usable {c : SrtlaConnection} (life : c.Lifecycle) {now : Nat}
    (schedulable : c.isSchedulable = true) (alive : c.isTimedOut now = false) :
    c.connected = true := by
  by_contra off
  rw [Bool.not_eq_true] at off
  have out : c.phase ≠ .registering := by
    intro registering
    simp [isSchedulable, registering, LinkPhase.isSchedulable] at schedulable
  have once := life.established out
  simp [isTimedOut, off, once, life.lost off once] at alive

theorem lifecycle_newRegistering (connId : Nat) (label : String) (localIp : IpAddr) (now : Nat) :
    (newRegistering connId label localIp now).Lifecycle :=
  ⟨fun on => absurd on Bool.false_ne_true, fun on => absurd on Bool.false_ne_true,
    fun out => absurd rfl out, fun _ once => absurd rfl once⟩

/-! ### Operations that leave the life of a link alone -/

theorem sameLife_keepalivePacket (c : SrtlaConnection) (now : Nat) :
    SameLife c (c.keepalivePacket now).1 := ⟨rfl, Iff.rfl, rfl, rfl, rfl⟩

theorem sameLife_noteSent (c : SrtlaConnection) (now : Nat) : SameLife c (c.noteSent now) :=
  ⟨rfl, Iff.rfl, rfl, rfl, rfl⟩

theorem sameLife_performWindowRecovery (c : SrtlaConnection) (now : Nat) :
    SameLife c (c.performWindowRecovery now) := ⟨rfl, Iff.rfl, rfl, rfl, rfl⟩

theorem sameLife_calculateBitrate (c : SrtlaConnection) (now : Nat) :
    SameLife c (c.calculateBitrate now) := ⟨rfl, Iff.rfl, rfl, rfl, rfl⟩

theorem sameLife_recomputeBatchRegime (c : SrtlaConnection) :
    SameLife c c.recomputeBatchRegime := ⟨rfl, Iff.rfl, rfl, rfl, rfl⟩

theorem sameLife_of_feedback {c c' : SrtlaConnection} (same : SameUpToFeedback c c') :
    SameLife c c' := by
  rw [same]
  exact ⟨rfl, Iff.rfl, rfl, rfl, rfl⟩

theorem sameLife_of_phase {c c' : SrtlaConnection} (same : SameUpToPhase c c') : SameLife c c' := by
  refine ⟨?_, same.registering, ?_, ?_, ?_⟩
  · rw [same.frame]
    rfl
  · rw [same.frame]
    rfl
  · rw [same.frame]
    rfl
  · rw [same.frame]
    rfl

theorem sameLife_updatePhase (c : SrtlaConnection) (now : Nat) : SameLife c (c.updatePhase now) :=
  sameLife_of_phase (updatePhase_frame c now)

theorem sameLife_handleKeepaliveEcho (c : SrtlaConnection) (data : Bytes) (now : Nat) :
    SameLife c (c.handleKeepaliveEcho data now) :=
  sameLife_of_phase (handleKeepaliveEcho_frame c data now)

theorem sameLife_queueDataPacket (c : SrtlaConnection) (data : Bytes) (seq : Option Nat) (now : Nat) :
    SameLife c (c.queueDataPacket data seq now).1 := ⟨rfl, Iff.rfl, rfl, rfl, rfl⟩

theorem sameLife_queueProbePacket (c : SrtlaConnection) (data : Bytes) (seq now : Nat) :
    SameLife c (c.queueProbePacket data seq now).1 := ⟨rfl, Iff.rfl, rfl, rfl, rfl⟩

theorem sameLife_takeBatch (c : SrtlaConnection) (now : Nat) : SameLife c (c.takeBatch now).1 := by
  have queue : SameLife c { c with batchSender := (c.batchSender.drain now).1 } :=
    ⟨rfl, Iff.rfl, rfl, rfl, rfl⟩
  exact queue.trans (sameLife_of_feedback (takeBatch_frame c now))

theorem sameLife_recordReconnectAttempt (c : SrtlaConnection) (now : Nat) :
    SameLife c (c.recordReconnectAttempt now) := by
  refine ⟨rfl, Iff.rfl, rfl, ?_, rfl⟩
  simp only [recordReconnectAttempt, ReconnectionState.recordAttempt]
  split
  · rfl
  · rfl

/-- A selection pass leaves the life of a link alone. -/
theorem sameLife_pass {c c' : SrtlaConnection} {config : ConfigSnapshot}
    (frame : SameUpToPass (c.refreshTimeouts config) c') : SameLife c c' := by
  rw [frame]
  simp only [withPass, withGates, withElection, refreshTimeouts]
  exact ⟨rfl, Iff.rfl, rfl, rfl, rfl⟩

/-- Whatever the rest of the bond, a selection pass leaves the life of a link alone. -/
theorem sameLife_select (c : SrtlaConnection) (calculate : SrtlaConnection → Nat → ℚ)
    (before after : List SrtlaConnection) (lastIdx : Option Nat) (now : Nat)
    (config : ConfigSnapshot) :
    SameLife c
      (((selectConnectionIdx calculate (before ++ c :: after) lastIdx now
        config).1[before.length]?).getD c) := by
  have frame := selectConnectionIdx_frame calculate (before ++ c :: after) lastIdx now config
  have here : (before ++ c :: after)[before.length]? = some c := by simp
  obtain ⟨c', at_c', same⟩ := Pointwise.getElem?_of_forall₂ frame here
  rw [at_c', Option.getD_some]
  exact sameLife_pass same

/-! ### Operations that turn a link off -/

theorem turnedOff_markForRecovery (c : SrtlaConnection) : TurnedOff c c.markForRecovery :=
  ⟨rfl, rfl, rfl, rfl, rfl⟩

theorem turnedOff_resetForReconnect (c : SrtlaConnection) (now : Nat) :
    TurnedOff c (c.resetForReconnect now) := ⟨rfl, rfl, rfl, rfl, rfl⟩

/-- Rebuilt or recovered, the link waits for its next REG3. -/
theorem turnedOff_rebuildOrRecover (c : SrtlaConnection) (tracker : SequenceTracker) (now : Nat)
    (opened : Bool) : TurnedOff c (rebuildOrRecover c tracker now opened).1 := by
  cases opened with
  | true => exact ⟨rfl, rfl, rfl, rfl, rfl⟩
  | false => exact turnedOff_markForRecovery c

theorem turnedOff_rebuildUplink (connIo : ConnIoMap) (opened : Nat → Bool) (now : Nat)
    (c : SrtlaConnection) (tracker : SequenceTracker) :
    TurnedOff c (Sender.rebuildUplink connIo opened now c tracker).1 := by
  unfold Sender.rebuildUplink
  split
  · exact turnedOff_rebuildOrRecover c tracker now (opened c.connId)
  · exact turnedOff_markForRecovery c

/-- A flush leaves the link alone or turns it off. -/
theorem flushIfNeeded_life (needsFlush : Bool) (c : SrtlaConnection) (connIo : ConnIoMap)
    (sends : Sends) (tracker : SequenceTracker) :
    SameLife c (flushIfNeeded needsFlush c connIo sends tracker).1 ∨
      TurnedOff c (flushIfNeeded needsFlush c connIo sends tracker).1 := by
  have drained := sameLife_takeBatch c (sends c.connId).now
  unfold flushIfNeeded
  split
  · rcases flushConnection_cases c (sends c.connId) tracker with empty | sent | ⟨-, failed⟩
    · rw [empty]
      exact Or.inl drained
    · rw [sent]
      exact Or.inl (drained.trans (sameLife_noteSent _ _))
    · -- a failed send is the only way a flush turns the link off
      rw [failed]
      exact Or.inr (drained.thenOff (turnedOff_markForRecovery _))
  · exact Or.inl (SameLife.refl c)

/-! ### Every operation -/

end SrtlaConnection

/-- The operation is a REG3 frame that the manager accepts. -/
def LifeOp.AcceptsReg3 : LifeOp → Prop
  | .frame connIdx reg _ _ data now =>
    (getPacketType data).isSome = true ∧
      (reg.processRegistrationPacket connIdx data now).2 = some .reg3
  | _ => False

/-- The clock of a frame is positive. -/
def LifeOp.Timely : LifeOp → Prop
  | .frame _ _ _ _ _ now => 0 < now
  | _ => True

namespace SrtlaConnection

/-- What an operation does to the life of a link: nothing, turning it off, a
liveness stamp, an accepted REG3, or an accepted REG_ERR. -/
inductive LifeEffect (op : LifeOp) (c c' : SrtlaConnection) : Prop
  | same (h : SameLife c c')
  | off (h : TurnedOff c c')
  | heard (now : Nat) (h : SameLife (c.noteReceived now) c')
  | admitted (now : Nat) (accepted : op.AcceptsReg3) (timely : op.Timely → 0 < now)
      (h : c' = c.acceptReg3 now)
  | expelled (h : c' = c.acceptRegErr)

theorem processUplinkData_life (hashOf : Bytes → Nat) (c : SrtlaConnection)
    (reg : SrtlaRegistrationManager) (clientAddr : Option SocketAddr) (dedup : ClientDedup)
    (pt : Nat) (data : Bytes) (now : Nat) :
    SameLife (c.noteReceived now)
      (processUplinkData hashOf c reg clientAddr dedup pt data now).conn := by
  simp only [processUplinkData]
  -- only a keepalive echo touches the link again
  split
  · split <;> exact SameLife.refl _
  · split
    · split <;> exact SameLife.refl _
    · split
      · exact SameLife.refl _
      · split
        · exact SameLife.refl _
        · split
          · exact sameLife_handleKeepaliveEcho _ data now
          · exact SameLife.refl _

theorem frame_life (hashOf : Bytes → Nat) (c : SrtlaConnection) (connIdx : Nat)
    (reg : SrtlaRegistrationManager) (clientAddr : Option SocketAddr) (dedup : ClientDedup)
    (data : Bytes) (now : Nat) :
    LifeEffect (.frame connIdx reg clientAddr dedup data now) c
      (processUplinkPacket hashOf c connIdx reg clientAddr dedup data now).conn := by
  simp only [processUplinkPacket]
  cases type : getPacketType data with
  | none => exact .same (SameLife.refl c)
  | some pt =>
    simp only
    rcases frame : reg.processRegistrationPacket connIdx data now with ⟨reg', event⟩
    cases event with
    | none => exact .heard now (processUplinkData_life hashOf c reg' clientAddr dedup pt data now)
    | some event =>
      cases event with
      | regNgp => exact .same (SameLife.refl c)
      | reg2 => exact .same (SameLife.refl c)
      | regErr => exact .expelled rfl
      | reg3 => exact .admitted now ⟨by rw [type]; rfl, by rw [frame]⟩ id rfl

theorem sameLife_serviceUplink (env : HousekeepingEnv) (c : SrtlaConnection) :
    SameLife c (Sender.serviceUplink env c) :=
  Sender.serviceUplink_invariant env (SameLife.refl c)
    (fun d same => same.trans (sameLife_keepalivePacket d env.now))
    (fun d same => same.trans (sameLife_performWindowRecovery d env.now))
    (fun d same => same.trans (sameLife_calculateBitrate d env.now))
    (fun d same => same.trans (sameLife_updatePhase d env.now))
    (fun d same => same.trans (sameLife_recomputeBatchRegime d))

theorem sameLife_noteSentIf (connIo : ConnIoMap) (env : HousekeepingEnv) (c : SrtlaConnection) :
    SameLife c (Sender.noteSentIf connIo env c) := by
  simp only [Sender.noteSentIf]
  split
  · exact sameLife_noteSent c env.now
  · exact SameLife.refl c

theorem turnedOff_reconnectUplink (connIo : ConnIoMap) (env : HousekeepingEnv) (c : SrtlaConnection)
    (tracker : SequenceTracker) : TurnedOff c (Sender.reconnectUplink connIo env c tracker).1 :=
  (sameLife_recordReconnectAttempt c env.now).thenOff
    (turnedOff_rebuildUplink connIo env.opened env.now _ tracker)

/-- The link a housekeeping iteration leaves behind. -/
theorem housekeepUplink_getElem? {s : Sender} {i : Nat} {c : SrtlaConnection}
    (at_i : s.conns[i]? = some c) (env : HousekeepingEnv) :
    (s.housekeepUplink env i).conns[i]? = some
      (if c.isTimedOut env.now then
        if c.shouldAttemptReconnect env.now then
          if (Sender.resendRegistration s.reg i env.now).2.isSome then
            Sender.noteSentIf s.connIo env (Sender.reconnectUplink s.connIo env c s.tracker).1
          else (Sender.reconnectUplink s.connIo env c s.tracker).1
        else c
      else Sender.serviceUplink env c) := by
  have inside : i < s.conns.length := (List.getElem?_eq_some_iff.mp at_i).1
  simp only [Sender.housekeepUplink, at_i]
  split
  · split
    · simp only [List.getElem?_set_self inside]
    · exact at_i
  · simp only [List.getElem?_set_self inside]

theorem housekeep_life (c : SrtlaConnection) (s : Sender) (env : HousekeepingEnv) (i : Nat) :
    LifeEffect (.housekeep s env i) c
      (((Sender.housekeepUplink env { s with conns := s.conns.set i c } i).conns[i]?).getD c) := by
  by_cases inside : i < s.conns.length
  · have at_i : ({ s with conns := s.conns.set i c } : Sender).conns[i]? = some c :=
      List.getElem?_set_self inside
    rw [housekeepUplink_getElem? at_i env, Option.getD_some]
    -- a retry turns the link off, and any other pass leaves its life alone
    split
    · split
      · have off := turnedOff_reconnectUplink s.connIo env c s.tracker
        split
        · exact .off (off.thenSame (sameLife_noteSentIf s.connIo env _))
        · exact .off off
      · exact .same (SameLife.refl c)
    · exact .same (sameLife_serviceUplink env c)
  · -- a pass over a position behind the last link
    have nobody : ({ s with conns := s.conns.set i c } : Sender).conns[i]? = none := by
      rw [List.getElem?_eq_none_iff, List.length_set]
      omega
    simp only [Sender.housekeepUplink, nobody, Option.getD_none]
    exact .same (SameLife.refl c)

/-- Every operation has one of the five effects. -/
theorem applyLifeOp_effect (hashOf : Bytes → Nat) (c : SrtlaConnection) (op : LifeOp) :
    LifeEffect op c (c.applyLifeOp hashOf op) := by
  cases op with
  | frame connIdx reg clientAddr dedup data now =>
    exact frame_life hashOf c connIdx reg clientAddr dedup data now
  | housekeep s env i => exact housekeep_life c s env i
  | select calculate before after lastIdx now config =>
    exact .same (sameLife_select c calculate before after lastIdx now config)
  | queueData data seq now => exact .same (sameLife_queueDataPacket c data seq now)
  | queueProbe data seq now => exact .same (sameLife_queueProbePacket c data seq now)
  | flush needsFlush connIo sends tracker =>
    rcases flushIfNeeded_life needsFlush c connIo sends tracker with same | off
    · exact .same same
    · exact .off off
  | srtAck ack now owns => exact .same (sameLife_of_feedback (handleSrtAck_frame c ack now owns))
  | nak seq now => exact .same (sameLife_of_feedback (handleNak_frame c seq now))
  | srtlaAck seq classic now =>
    exact .same (sameLife_of_feedback (handleSrtlaAckSpecific_frame c seq classic now))
  | srtlaAckGlobal => exact .same (sameLife_of_feedback (handleSrtlaAckGlobal_frame c))
  | probe probeId now => exact .same ⟨rfl, Iff.rfl, rfl, rfl, rfl⟩
  | renewGrace deadlineMs => exact .same ⟨rfl, Iff.rfl, rfl, rfl, rfl⟩
  | markForRecovery => exact .off (turnedOff_markForRecovery c)
  | resetForReconnect now => exact .off (turnedOff_resetForReconnect c now)
  | rebuild tracker now opened => exact .off (turnedOff_rebuildOrRecover c tracker now opened)

/-- A liveness stamp reaches a link that is registered or never was. -/
theorem Lifecycle.noteReceived {c : SrtlaConnection} (life : c.Lifecycle) (now : Nat) :
    (c.noteReceived now).Lifecycle := by
  simp only [SrtlaConnection.noteReceived]
  split
  case isTrue counts =>
    refine ⟨life.phase, fun _ => rfl, life.established, fun off once => ?_⟩
    rcases counts with on | never
    · exact absurd (on.symm.trans off) Bool.true_eq_false.mp
    · exact absurd never once
  case isFalse => exact life

theorem acceptReg3_fields (c : SrtlaConnection) (now : Nat) :
    (c.acceptReg3 now).connected = true ∧ (c.acceptReg3 now).phase = .warming 0 now ∧
      (c.acceptReg3 now).lastReceived = some now ∧
      (c.acceptReg3 now).reconnection.connectionEstablishedMs =
        if c.reconnection.connectionEstablishedMs = 0 then now
        else c.reconnection.connectionEstablishedMs := by
  refine ⟨rfl, rfl, rfl, ?_⟩
  simp only [acceptReg3, markReconnectSuccess, ReconnectionState.markSuccess,
    clearPreRegistrationState]
  by_cases retried : c.reconnection.reconnectFailureCount > 0
  · simp only [retried, if_true]
    rfl
  · simp only [retried, if_false]
    rfl

theorem lifecycle_acceptReg3 (c : SrtlaConnection) {now : Nat} (positive : 0 < now) :
    (c.acceptReg3 now).Lifecycle := by
  obtain ⟨on, phase, heard, established⟩ := c.acceptReg3_fields now
  refine ⟨fun _ => by rw [phase]; simp, fun _ => by rw [heard]; rfl, fun _ => ?_, fun off => ?_⟩
  · rw [established]
    split
    · omega
    · assumption
  · exact absurd (on.symm.trans off) Bool.true_eq_false.mp

theorem lifecycle_applyLifeOp {hashOf : Bytes → Nat} {c : SrtlaConnection} {op : LifeOp}
    (timely : op.Timely) (life : c.Lifecycle) : (c.applyLifeOp hashOf op).Lifecycle := by
  cases applyLifeOp_effect hashOf c op with
  | same h => exact life.of_sameLife h
  | off h => exact Lifecycle.of_turnedOff h
  | heard now h => exact (life.noteReceived now).of_sameLife h
  | admitted now accepted positive h =>
    rw [h]
    exact lifecycle_acceptReg3 c (positive timely)
  | expelled h =>
    rw [h]
    exact ⟨fun on => absurd on Bool.false_ne_true, fun on => absurd on Bool.false_ne_true,
      life.established, fun _ _ => rfl⟩

/-! ### Losing a registration -/

/-- The link was registered once, is not now, and has not been heard since. -/
structure Lost (c : SrtlaConnection) : Prop where
  connected : c.connected = false
  established : c.reconnection.connectionEstablishedMs ≠ 0
  lastReceived : c.lastReceived = none

theorem Lost.isTimedOut {c : SrtlaConnection} (lost : c.Lost) (now : Nat) :
    c.isTimedOut now = true := by
  simp [SrtlaConnection.isTimedOut, lost.connected, lost.established, lost.lastReceived]

/-- Nothing but an accepted REG3 brings a lost link back. -/
theorem lost_applyLifeOp {hashOf : Bytes → Nat} {c : SrtlaConnection} {op : LifeOp}
    (unanswered : ¬ op.AcceptsReg3) (lost : c.Lost) : (c.applyLifeOp hashOf op).Lost := by
  cases applyLifeOp_effect hashOf c op with
  | same h =>
    exact ⟨h.connected.trans lost.connected, h.established ▸ lost.established,
      h.lastReceived.trans lost.lastReceived⟩
  | off h => exact ⟨h.connected, h.established ▸ lost.established, h.lastReceived⟩
  | heard now h =>
    -- the stamp is refused, because the link was registered and is off
    have refused : c.noteReceived now = c := by
      simp [SrtlaConnection.noteReceived, lost.connected, lost.established]
    rw [refused] at h
    exact ⟨h.connected.trans lost.connected, h.established ▸ lost.established,
      h.lastReceived.trans lost.lastReceived⟩
  | admitted now accepted => exact absurd accepted unanswered
  | expelled h =>
    rw [h]
    exact ⟨rfl, lost.established, rfl⟩

/-- Half a slow retry interval of slack apart, a lost link is always due again. -/
theorem Lost.shouldAttemptReconnect {c : SrtlaConnection} (lost : c.Lost) {now : Nat}
    (due : c.reconnection.lastReconnectAttemptMs = 0 ∨
      c.reconnection.lastReconnectAttemptMs + 4500 ≤ now) :
    c.shouldAttemptReconnect now = true := by
  have delay : c.reconnection.retryDelay ≤ 5000 := by
    simp only [ReconnectionState.retryDelay, fastRetryDelayMs, slowRetryDelayMs]
    split <;> omega
  simp only [SrtlaConnection.shouldAttemptReconnect, ReconnectionState.shouldAttemptReconnect,
    lost.established, if_false]
  split
  · rfl
  case isFalse attempted =>
    have later := due.resolve_left attempted
    apply decide_eq_true
    unfold tickSlackMs
    omega

/-- Housekeeping rebuilds a lost link whose retry is due and queues its handshake
packet, unless another uplink holds the slot. -/
theorem Lost.housekept {c : SrtlaConnection} (lost : c.Lost) {s : Sender} {i : Nat}
    (at_i : s.conns[i]? = some c) {env : HousekeepingEnv}
    (due : c.reconnection.lastReconnectAttemptMs = 0 ∨
      c.reconnection.lastReconnectAttemptMs + 4500 ≤ env.now) :
    (∃ c', (s.housekeepUplink env i).conns[i]? = some c' ∧
      SameLife (Sender.reconnectUplink s.connIo env c s.tracker).1 c') ∧
    (s.reg.pendingReg2Idx = none → i ∈ (s.housekeepUplink env i).reg.awaitingReg3) ∧
    (s.reg.pendingReg2Idx = some i →
      (s.housekeepUplink env i).reg.pendingTimeoutAtMs = env.now + reg2Timeout * 1000) := by
  have timedOut := lost.isTimedOut env.now
  have attempt := lost.shouldAttemptReconnect due
  have link := housekeepUplink_getElem? at_i env
  simp only [timedOut, attempt, if_true] at link
  have manager : (s.housekeepUplink env i).reg = (Sender.resendRegistration s.reg i env.now).1 := by
    simp only [Sender.housekeepUplink, at_i, timedOut, attempt, if_true]
  refine ⟨⟨_, link, ?_⟩, fun free => ?_, fun own => ?_⟩
  · split
    · exact sameLife_noteSentIf s.connIo env _
    · exact SameLife.refl _
  · -- with the slot free the resent registration is a REG2 with its grant
    rw [manager]
    simp only [Sender.resendRegistration, free, SrtlaRegistrationManager.buildReg2,
      SrtlaRegistrationManager.armReg3Grant]
    split
    · assumption
    · simp
  · -- the holder of the slot starts its timeout anew
    rw [manager]
    simp only [Sender.resendRegistration, own, if_true, SrtlaRegistrationManager.buildReg1For]

end SrtlaConnection

/-- At every point of every run of a link: a connected link has left the
registering phase, was heard, and is established; a link that lost its
registration counts as unheard and stays timed out until a REG3 is accepted; what
is schedulable and not timed out is connected; and housekeeping rebuilds and
re-registers what was lost. -/
theorem link_has_no_limbo (hashOf : Bytes → Nat) (connId : Nat) (label : String) (localIp : IpAddr)
    (start : Nat) (ops : List LifeOp) (clock : ∀ op ∈ ops, op.Timely) :
    let c := run (SrtlaConnection.applyLifeOp hashOf) (.newRegistering connId label localIp start) ops
    (c.connected = true → c.phase ≠ .registering ∧ c.lastReceived.isSome = true ∧
      c.reconnection.connectionEstablishedMs ≠ 0) ∧
    (c.connected = false → c.reconnection.connectionEstablishedMs ≠ 0 →
      c.lastReceived = none ∧
      (∀ later, (∀ op ∈ later, ¬ op.AcceptsReg3) → ∀ now,
        (run (SrtlaConnection.applyLifeOp hashOf) c later).isTimedOut now = true) ∧
      ∀ (s : Sender) env i, s.conns[i]? = some c → c.reconnection.lastReconnectAttemptMs = 0 ∨
          c.reconnection.lastReconnectAttemptMs + 4500 ≤ env.now →
        (∃ c', (s.housekeepUplink env i).conns[i]? = some c' ∧
          SrtlaConnection.SameLife (Sender.reconnectUplink s.connIo env c s.tracker).1 c') ∧
        (s.reg.pendingReg2Idx = none → i ∈ (s.housekeepUplink env i).reg.awaitingReg3) ∧
        (s.reg.pendingReg2Idx = some i →
          (s.housekeepUplink env i).reg.pendingTimeoutAtMs = env.now + reg2Timeout * 1000)) ∧
    (∀ now, c.isSchedulable = true → c.isTimedOut now = false → c.connected = true) := by
  intro c
  -- the invariant at the end of the run, and a lost link stays lost until a REG3
  have life : c.Lifecycle :=
    run_invariant_of SrtlaConnection.Lifecycle LifeOp.Timely
      (fun c op timely life => SrtlaConnection.lifecycle_applyLifeOp timely life)
      (SrtlaConnection.lifecycle_newRegistering connId label localIp start) clock
  refine ⟨fun on => ⟨life.phase on, life.heard on, life.established (life.phase on)⟩,
    fun off once => ?_, fun now => life.connected_of_usable⟩
  have lost : c.Lost := ⟨off, once, life.lost off once⟩
  refine ⟨lost.lastReceived, fun later unanswered now => ?_, fun s env i at_i due =>
    lost.housekept at_i due⟩
  have still : (run (SrtlaConnection.applyLifeOp hashOf) c later).Lost :=
    run_invariant_of SrtlaConnection.Lost (fun op : LifeOp => ¬ op.AcceptsReg3)
      (fun c op unanswered lost => SrtlaConnection.lost_applyLifeOp unanswered lost) lost unanswered
  exact still.isTimedOut now

/-- A link that registers at one second and is put into recovery right after. -/
def registeredThenRecovering : List LifeOp :=
  [.frame 0 { SrtlaRegistrationManager.new (Sample.groupId 1) (Sample.groupId 2) with
      awaitingReg3 := [0] } none .new Sample.reg3 1000,
    .markForRecovery]

/-- An SRT ACK does not rescue it: it is timed out in the same millisecond. -/
theorem link_has_no_limbo_recovering :
    (run (SrtlaConnection.applyLifeOp fun _ => 0)
      (run (SrtlaConnection.applyLifeOp fun _ => 0) (.newRegistering 1 "uplink" (.v4 1) 500)
        registeredThenRecovering)
      [.frame 0 (.new (Sample.groupId 1) (Sample.groupId 2)) none .new (toBe16 srtTypeAck) 1000]).isTimedOut
        1000 = true := by
  have limbo := link_has_no_limbo (fun _ => 0) 1 "uplink" (.v4 1) 500 registeredThenRecovering
    (by simp [registeredThenRecovering, LifeOp.Timely])
  refine (limbo.2.1 (by decide +kernel) (by decide +kernel)).2.1 _ ?_ 1000
  intro op member
  rw [List.mem_singleton.mp member]
  unfold LifeOp.AcceptsReg3
  decide +kernel

end SrtlaSend
