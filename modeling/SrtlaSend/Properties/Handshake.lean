import SrtlaSend.Properties.FeedbackFrame
import SrtlaSend.Properties.RegistrationGate
import SrtlaSend.Properties.Lifecycle

/-!
# The handshake inside the event loop

Two handlers take part in registration: a datagram from the receiver and the
housekeeping pass. This module says once what each of them can do to the links and
to the manager. A pass is cut at its iterations, because a handshake packet is
built in the middle of it.
-/

namespace SrtlaSend

open Runs MachineInt Pointwise SrtlaConnection

/-! ### The links of a bond -/

/-- The same links in the same order, each at the same place in its life. -/
abbrev SameBond (conns conns' : List SrtlaConnection) : Prop := List.Forall₂ SameLife conns conns'

theorem SameBond.refl (conns : List SrtlaConnection) : SameBond conns conns :=
  List.forall₂_same.mpr fun c _ => SameLife.refl c

theorem SameBond.trans {conns conns' conns'' : List SrtlaConnection} (h : SameBond conns conns')
    (h' : SameBond conns' conns'') : SameBond conns conns'' :=
  forall₂_trans (fun _ _ _ first second => first.trans second) h h'

/-- The bond has the same uplinks in the same order. -/
abbrev SameUplinks (conns conns' : List SrtlaConnection) : Prop := List.Forall₂ SameUplink conns conns'

theorem SameUplinks.refl (conns : List SrtlaConnection) : SameUplinks conns conns :=
  List.forall₂_same.mpr fun c _ => SameUplink.refl c

theorem SameUplinks.trans {conns conns' conns'' : List SrtlaConnection}
    (h : SameUplinks conns conns') (h' : SameUplinks conns' conns'') : SameUplinks conns conns'' :=
  forall₂_trans (fun _ _ _ first second => first.trans second) h h'

theorem SameUplinks.connIds {conns conns' : List SrtlaConnection} (h : SameUplinks conns conns') :
    conns'.map (·.connId) = conns.map (·.connId) :=
  map_eq_of_forall₂ (fun _ _ same => same.connId) h

theorem SameBond.uplinks {conns conns' : List SrtlaConnection} (h : SameBond conns conns') :
    SameUplinks conns conns' := h.imp fun _ _ same => same.uplink

theorem SameBond.connected {conns conns' : List SrtlaConnection} (h : SameBond conns conns') :
    conns'.map (·.connected) = conns.map (·.connected) :=
  map_eq_of_forall₂ (fun _ _ same => same.connected) h

/-- Feedback moves windows and logs, never the life of a link. -/
theorem feedback_sameLife : FeedbackRelation SameLife :=
  .of_frame SameLife.refl (fun _ _ _ first second => first.trans second)
    fun _ _ => sameLife_of_feedback

/-! ### One datagram -/

namespace Sender

/-- The registration event an event of the loop amounts to, with its position. -/
def report (s : Sender) : Event → Option (Nat × RegistrationEvent)
  | .uplink connId bytes env =>
    (s.conns.findIdx? (·.connId == connId)).bind fun idx =>
      (s.reg.processRegistrationPacket idx bytes env.now).2.map fun event => (idx, event)
  | _ => none

end Sender

/-- What a datagram can do to its link and to the manager. -/
inductive FrameEffect (i : Nat) (bytes : Bytes) (now : Nat) (c : SrtlaConnection)
    (r : SrtlaRegistrationManager) : SrtlaConnection → SrtlaRegistrationManager → Prop
  | quiet {c' : SrtlaConnection} (counters : OutOfPhaseCounters)
      (silent : (r.processRegistrationPacket i bytes now).2 = none)
      (life : SameLife c c' ∨ SameLife (c.noteReceived now) c') :
      FrameEffect i bytes now c r c' { r with outOfPhase := counters }
  | regNgp (event : (r.processRegistrationPacket i bytes now).2 = some .regNgp) :
      FrameEffect i bytes now c r c ((r.handleRegNgp i now).reg1IfNgpImmediate i now).1
  | reg2 (event : (r.processRegistrationPacket i bytes now).2 = some .reg2) :
      FrameEffect i bytes now c r c (r.handleReg2 i bytes now)
  | reg3 (event : (r.processRegistrationPacket i bytes now).2 = some .reg3)
      (granted : i ∈ r.awaitingReg3) :
      FrameEffect i bytes now c r (c.acceptReg3 now) { r.revokeReg3Grant i with hasConnected := true }
  | regErr (event : (r.processRegistrationPacket i bytes now).2 = some .regErr)
      (inPhase : r.InPhase i) :
      FrameEffect i bytes now c r c.acceptRegErr
        ((if r.pendingReg2Idx = some i then r.abandonSlot now else r).revokeReg3Grant i)

theorem FrameEffect.uplink {j now : Nat} {bytes : Bytes} {c c' : SrtlaConnection}
    {r r' : SrtlaRegistrationManager} (effect : FrameEffect j bytes now c r c' r') : SameUplink c c' := by
  cases effect with
  | quiet counters silent life =>
    rcases life with life | life
    · exact life.uplink
    · refine SameUplink.trans ?_ life.uplink
      simp only [SrtlaConnection.noteReceived]
      split <;> rfl
  | regNgp event => rfl
  | reg2 event => rfl
  | reg3 event granted => rfl
  | regErr event inPhase => rfl

/-- The four frame types, and everything else. -/
theorem processRegistrationPacket_cases (r : SrtlaRegistrationManager) (i : Nat) (bytes : Bytes)
    (now : Nat) :
    r.processRegistrationPacket i bytes now = (r.handleRegNgp i now, some .regNgp) ∨
    r.processRegistrationPacket i bytes now = (r.handleReg2 i bytes now, some .reg2) ∨
    (i ∈ r.awaitingReg3 ∧ r.processRegistrationPacket i bytes now =
      ({ r.revokeReg3Grant i with hasConnected := true }, some .reg3)) ∨
    (r.InPhase i ∧ r.processRegistrationPacket i bytes now =
      ((if r.pendingReg2Idx = some i then r.abandonSlot now else r).revokeReg3Grant i,
        some .regErr)) ∨
    ∃ counters, r.processRegistrationPacket i bytes now =
      ({ r with outOfPhase := counters }, none) := by
  by_cases ngp : getPacketType bytes = some srtlaTypeRegNgp
  · exact Or.inl (by simp [SrtlaRegistrationManager.processRegistrationPacket, ngp])
  by_cases reg2 : getPacketType bytes = some srtlaTypeReg2
  · exact Or.inr (Or.inl (SrtlaRegistrationManager.processRegistrationPacket_reg2 reg2 now))
  by_cases reg3 : getPacketType bytes = some srtlaTypeReg3
  · rw [SrtlaRegistrationManager.processRegistrationPacket_reg3 reg3]
    -- without a grant the packet is out of phase and only counted
    by_cases granted : i ∈ r.awaitingReg3
    · rw [SrtlaRegistrationManager.handleReg3_of_granted granted]
      exact Or.inr (Or.inr (Or.inl ⟨granted, rfl⟩))
    · rw [SrtlaRegistrationManager.handleReg3_of_not_granted granted]
      exact Or.inr (Or.inr (Or.inr (Or.inr ⟨_, rfl⟩)))
  by_cases regErr : getPacketType bytes = some srtlaTypeRegErr
  · rw [SrtlaRegistrationManager.processRegistrationPacket_regErr regErr]
    -- an error counts only in the phase it can be about
    by_cases inPhase : r.InPhase i
    · rw [SrtlaRegistrationManager.handleRegErr_of_inPhase now inPhase]
      exact Or.inr (Or.inr (Or.inr (Or.inl ⟨inPhase, rfl⟩)))
    · rw [SrtlaRegistrationManager.handleRegErr_of_not_inPhase now inPhase]
      exact Or.inr (Or.inr (Or.inr (Or.inr ⟨_, rfl⟩)))
  · exact Or.inr (Or.inr (Or.inr (Or.inr ⟨r.outOfPhase, by
      simp [SrtlaRegistrationManager.processRegistrationPacket, ngp, reg2, reg3, regErr]⟩)))

theorem processRegistrationPacket_event_regNgp {r : SrtlaRegistrationManager} {i : Nat}
    {bytes : Bytes} {now : Nat}
    (event : (r.processRegistrationPacket i bytes now).2 = some .regNgp) :
    getPacketType bytes = some srtlaTypeRegNgp := by
  by_contra other
  simp only [SrtlaRegistrationManager.processRegistrationPacket, other, if_false] at event
  split at event
  · cases event
  · split at event
    · split at event <;> cases event
    · split at event
      · split at event <;> cases event
      · cases event

theorem processRegistrationPacket_event_reg3 {r : SrtlaRegistrationManager} {i : Nat}
    {bytes : Bytes} {now : Nat}
    (event : (r.processRegistrationPacket i bytes now).2 = some .reg3) :
    getPacketType bytes = some srtlaTypeReg3 ∧ i ∈ r.awaitingReg3 := by
  have granted : i ∈ r.awaitingReg3 := by
    rcases processRegistrationPacket_cases r i bytes now with h | h | ⟨granted, -⟩ | ⟨-, h⟩ | ⟨_, h⟩
    · simp [h] at event
    · simp [h] at event
    · exact granted
    · simp [h] at event
    · simp [h] at event
  refine ⟨?_, granted⟩
  -- no other type of packet reports a REG3
  by_contra other
  simp only [SrtlaRegistrationManager.processRegistrationPacket, other, if_false] at event
  split at event
  · cases event
  · split at event
    · cases event
    · split at event
      · split at event <;> cases event
      · cases event

theorem processUplinkData_reg (hashOf : Bytes → Nat) (c : SrtlaConnection)
    (r : SrtlaRegistrationManager) (clientAddr : Option SocketAddr) (dedup : ClientDedup)
    (pt : Nat) (data : Bytes) (now : Nat) :
    (processUplinkData hashOf c r clientAddr dedup pt data now).reg = r := by
  simp only [processUplinkData]
  split
  · split <;> rfl
  · split
    · split <;> rfl
    · split
      · rfl
      · split
        · rfl
        · split <;> rfl

theorem processUplinkPacket_effect (hashOf : Bytes → Nat) (c : SrtlaConnection) (i : Nat)
    (r : SrtlaRegistrationManager) (clientAddr : Option SocketAddr) (dedup : ClientDedup)
    (bytes : Bytes) (now : Nat) :
    FrameEffect i bytes now c r (processUplinkPacket hashOf c i r clientAddr dedup bytes now).conn
      (processUplinkPacket hashOf c i r clientAddr dedup bytes now).reg := by
  simp only [processUplinkPacket]
  cases type : getPacketType bytes with
  -- too short to have a type
  | none =>
    have silent : (r.processRegistrationPacket i bytes now).2 = none := by
      simp [SrtlaRegistrationManager.processRegistrationPacket, type]
    exact .quiet r.outOfPhase silent (Or.inl (SameLife.refl c))
  | some pt =>
    rcases processRegistrationPacket_cases r i bytes now with h | h | ⟨granted, h⟩ | ⟨inPhase, h⟩ |
      ⟨counters, h⟩
    · simp only [h, applyRegistrationEvent]
      exact .regNgp (by rw [h])
    · simp only [h, applyRegistrationEvent]
      exact .reg2 (by rw [h])
    · simp only [h, applyRegistrationEvent]
      exact .reg3 (by rw [h]) granted
    · simp only [h, applyRegistrationEvent]
      exact .regErr (by rw [h]) inPhase
    · -- not a registration packet, or one out of phase
      simp only [h]
      rw [processUplinkData_reg]
      exact .quiet counters (by rw [h]) (Or.inr (processUplinkData_life hashOf c _ clientAddr dedup pt bytes now))

theorem Sender.of_report_uplink {s : Sender} {connId : Nat} {bytes : Bytes} {env : UplinkEnv}
    {i : Nat} {event : RegistrationEvent}
    (reported : s.report (.uplink connId bytes env) = some (i, event)) :
    s.conns.findIdx? (·.connId == connId) = some i ∧
      (s.reg.processRegistrationPacket i bytes env.now).2 = some event := by
  simp only [Sender.report, Option.bind_eq_some_iff, Option.map_eq_some_iff, Prod.mk.injEq] at reported
  obtain ⟨j, found, event', h, rfl, rfl⟩ := reported
  exact ⟨found, h⟩

/-- The REG1 that goes out at once stamps its link and does nothing else to it. -/
theorem Sender.sameBond_receiveUplink (hashOf : Bytes → Nat) (s : Sender) {i : Nat}
    (inside : i < s.conns.length) (c : SrtlaConnection) (bytes : Bytes) (env : UplinkEnv) :
    SameBond
      (s.conns.set i
        (processUplinkPacket hashOf c i s.reg s.lastClientAddr s.dedup bytes env.now).conn)
      (s.receiveUplink hashOf i c bytes env).1.conns := by
  set out := processUplinkPacket hashOf c i s.reg s.lastClientAddr s.dedup bytes env.now with out_eq
  have placed : (s.conns.set i out.conn)[i]? = some out.conn := List.getElem?_set_self inside
  simp only [Sender.receiveUplink, ← out_eq]
  split
  · have stamped := forall₂_set SameLife.refl placed
      (sameLife_noteSent out.conn (env.sends c.connId).now)
    rwa [List.set_set] at stamped
  · exact SameBond.refl _

/-- A datagram from an uplink writes to links and manager, to the memory of forwarded replies and
to the negotiated latency. -/
theorem Sender.handleUplinkPacket_frame (hashOf : Bytes → Nat) (s : Sender) (connId : Nat)
    (bytes : Bytes) (env : UplinkEnv) :
    s.handleUplinkPacket hashOf connId bytes env =
      { s with
        conns := (s.handleUplinkPacket hashOf connId bytes env).conns
        reg := (s.handleUplinkPacket hashOf connId bytes env).reg
        dedup := (s.handleUplinkPacket hashOf connId bytes env).dedup
        negotiatedLatencyMs :=
          (s.handleUplinkPacket hashOf connId bytes env).negotiatedLatencyMs } := by
  simp only [Sender.handleUplinkPacket]
  split
  · rfl
  · split
    · rfl
    · split
      · rfl
      · rfl

/-- A datagram is ignored, or it acts on the link it arrived on and leaves the life
of every other link alone. -/
theorem Sender.handleUplinkPacket_cases (hashOf : Bytes → Nat) (s : Sender) (connId : Nat)
    (bytes : Bytes) (env : UplinkEnv) :
    (s.handleUplinkPacket hashOf connId bytes env = s ∧ s.report (.uplink connId bytes env) = none) ∨
    ∃ i c c', s.conns.findIdx? (·.connId == connId) = some i ∧ s.conns[i]? = some c ∧
      FrameEffect i bytes env.now c s.reg c' (s.handleUplinkPacket hashOf connId bytes env).reg ∧
      SameBond (s.conns.set i c') (s.handleUplinkPacket hashOf connId bytes env).conns ∧
      (s.handleUplinkPacket hashOf connId bytes env).connIo = s.connIo := by
  by_cases empty : bytes.isEmpty = true
  · -- an empty datagram is dropped before anything is looked up
    have untyped : getPacketType bytes = none := by
      rw [List.isEmpty_iff.mp empty]
      rfl
    refine Or.inl ⟨by simp only [Sender.handleUplinkPacket, empty, if_true], ?_⟩
    simp [Sender.report, SrtlaRegistrationManager.processRegistrationPacket, untyped]
  cases found : s.conns.findIdx? (·.connId == connId) with
  -- the uplink has left the bond
  | none =>
    refine Or.inl ⟨?_, by simp [Sender.report, found]⟩
    simp only [Sender.handleUplinkPacket, empty, found, Bool.false_eq_true, if_false]
  | some i =>
    have inside : i < s.conns.length := (List.findIdx?_eq_some_iff_getElem.mp found).1
    have at_i : s.conns[i]? = some s.conns[i] := List.getElem?_eq_getElem inside
    set out := processUplinkPacket hashOf s.conns[i] i s.reg s.lastClientAddr s.dedup bytes env.now
    have effect : FrameEffect i bytes env.now s.conns[i] s.reg out.conn out.reg :=
      processUplinkPacket_effect hashOf s.conns[i] i s.reg s.lastClientAddr s.dedup bytes env.now
    have received : SameBond (s.conns.set i out.conn)
        (s.receiveUplink hashOf i s.conns[i] bytes env).1.conns :=
      s.sameBond_receiveUplink hashOf inside s.conns[i] bytes env
    refine Or.inr ⟨i, s.conns[i], out.conn, rfl, at_i, ?_⟩
    simp only [Sender.handleUplinkPacket, empty, found, at_i, Bool.false_eq_true, if_false]
    exact ⟨effect, received.trans (feedback_sameLife.processConnectionEvents i _ _ _ _ _ _), rfl⟩

/-! ### The manager -/

namespace SrtlaRegistrationManager

variable (r : SrtlaRegistrationManager)

/-- A REG_NGP takes the slot only while no link is counted as registered. -/
theorem ngp_cases (i now : Nat) :
    ((r.handleRegNgp i now).reg1IfNgpImmediate i now).1.srtlaId = r.srtlaId ∧
      ((r.handleRegNgp i now).reg1IfNgpImmediate i now).1.awaitingReg3 = r.awaitingReg3 ∧
      ((r.activeConnections = 0 ∧
          ((r.handleRegNgp i now).reg1IfNgpImmediate i now).1.pendingReg2Idx = some i ∧
          ((r.handleRegNgp i now).reg1IfNgpImmediate i now).2.isSome = true) ∨
        (((r.handleRegNgp i now).reg1IfNgpImmediate i now).1.pendingReg2Idx = r.pendingReg2Idx ∧
          ((r.handleRegNgp i now).reg1IfNgpImmediate i now).2 = none)) := by
  have kept : (r.handleRegNgp i now).srtlaId = r.srtlaId ∧
      (r.handleRegNgp i now).awaitingReg3 = r.awaitingReg3 ∧
      (r.handleRegNgp i now).activeConnections = r.activeConnections ∧
      (r.handleRegNgp i now).pendingReg2Idx = r.pendingReg2Idx := by
    -- a response to a probe may move the target, never the slot
    simp only [handleRegNgp, handleProbeResponse]
    split
    · split <;> exact ⟨rfl, rfl, rfl, rfl⟩
    · split <;> exact ⟨rfl, rfl, rfl, rfl⟩
  obtain ⟨id, grants, active, slot⟩ := kept
  simp only [reg1IfNgpImmediate]
  split
  case isTrue due => exact ⟨id, grants, Or.inl ⟨active.symm.trans due.1, rfl, rfl⟩⟩
  case isFalse => exact ⟨id, grants, Or.inr ⟨slot, rfl⟩⟩

/-- A REG2 is taken from the holder of the slot, and gives the slot up. -/
theorem handleReg2_cases (i : Nat) (bytes : Bytes) (now : Nat) :
    r.handleReg2 i bytes now = r ∨
      ((reg2Id bytes).isSome = true ∧ r.pendingReg2Idx = some i ∧
        (r.handleReg2 i bytes now).pendingReg2Idx = none ∧
        (r.handleReg2 i bytes now).awaitingReg3 = r.awaitingReg3) := by
  cases id : reg2Id bytes with
  | none => exact Or.inl (by simp only [handleReg2, id])
  | some fresh =>
    by_cases own : r.pendingReg2Idx = some i
    · refine Or.inr ⟨rfl, own, ?_⟩
      simp only [handleReg2, id, own, if_true, and_self]
    · exact Or.inl (by simp only [handleReg2, id, own, if_false])

theorem armReg3Grant_eq (i : Nat) : ∃ grants, r.armReg3Grant i = { r with awaitingReg3 := grants } := by
  simp only [armReg3Grant]
  split
  · exact ⟨r.awaitingReg3, rfl⟩
  · exact ⟨_, rfl⟩

theorem armBroadcast_eq (count : Nat) :
    ∃ grants, r.armBroadcast count = { r with awaitingReg3 := grants } := by
  induction count with
  | zero => exact ⟨r.awaitingReg3, rfl⟩
  | succ count ih =>
    obtain ⟨grants, h⟩ := ih
    rw [armBroadcast_succ]
    split
    · exact ⟨grants, h⟩
    · obtain ⟨more, h'⟩ := (r.armBroadcast count).armReg3Grant_eq count
      exact ⟨more, by rw [h', h]⟩

/-- The broadcast half of the driver concerns the grants and its own flag. -/
theorem driveBroadcast_eq (count : Nat) :
    ∃ grants flag, (r.driveBroadcast count).1 =
      { r with awaitingReg3 := grants, broadcastReg2Pending := flag } := by
  obtain ⟨grants, h⟩ := r.armBroadcast_eq count
  simp only [driveBroadcast]
  split
  · exact ⟨grants, false, by rw [h]⟩
  · exact ⟨r.awaitingReg3, r.broadcastReg2Pending, rfl⟩

/-- The driver takes a free slot for its target, if nothing is registered. -/
theorem driveReg1_cases (now : Nat) :
    ((r.driveReg1 now).1 = r ∧ (r.driveReg1 now).2 = none) ∨
    ∃ target, r.reg1TargetIdx = some target ∧ r.activeConnections = 0 ∧ r.pendingReg2Idx = none ∧
      (r.driveReg1 now).1 =
        { r with
          pendingReg2Idx := some target
          pendingTimeoutAtMs := now + reg2Timeout * 1000
          reg1NextSendAtMs := now + reg2Timeout * 1000 } ∧
      (r.driveReg1 now).2 = some (target, createReg1Packet r.srtlaId) := by
  simp only [driveReg1]
  cases target : r.reg1TargetIdx with
  | none => exact Or.inl ⟨rfl, rfl⟩
  | some idx =>
    simp only
    split
    case isTrue due => exact Or.inr ⟨idx, rfl, due.1, due.2.1, rfl, rfl⟩
    case isFalse => exact Or.inl ⟨rfl, rfl⟩

/-- The slot is kept, or it is given up together with the target. -/
theorem clearPendingIfTimedOut_cases (now : Nat) :
    ((r.clearPendingIfTimedOut now).1 = r ∧
      (r.pendingReg2Idx.isSome = true → r.pendingTimeoutAtMs = 0 ∨ now < r.pendingTimeoutAtMs)) ∨
    (r.clearPendingIfTimedOut now).1 =
      { r with
        pendingReg2Idx := none
        pendingTimeoutAtMs := 0
        reg1TargetIdx := none
        reg1NextSendAtMs := now } := by
  simp only [clearPendingIfTimedOut]
  cases slot : r.pendingReg2Idx with
  | none => exact Or.inl ⟨rfl, fun held => absurd held Bool.false_ne_true⟩
  | some idx =>
    simp only
    split
    · -- the timeout has passed: slot and target are given up
      exact Or.inr rfl
    case isFalse early =>
      refine Or.inl ⟨rfl, fun _ => ?_⟩
      by_cases unset : r.pendingTimeoutAtMs = 0
      · exact Or.inl unset
      · exact Or.inr (Nat.lt_of_not_le fun late => early ⟨unset, late⟩)

/-- The end of the probing phase sets a target, nothing else is touched. -/
theorem checkProbingComplete_cases (now : Nat) :
    (r.checkProbingComplete now).1 = r ∨
    (r.probingState = .waitingForProbes ∧ ∃ target,
      (r.checkProbingComplete now).1 =
        { r with
          reg1TargetIdx := some target
          reg1NextSendAtMs := now
          probingState := .complete
          pendingTimeoutAtMs := 0 }) := by
  simp only [checkProbingComplete]
  split
  · exact Or.inl rfl
  case isFalse waiting =>
    rw [ne_eq, not_not] at waiting
    split
    · exact Or.inr ⟨waiting, _, rfl⟩
    · exact Or.inl rfl

end SrtlaRegistrationManager

/-- A resend leaves the slot with its holder; it renews the slot's timeout or arms
the uplink, or it is put off. -/
theorem Sender.resendRegistration_cases (r : SrtlaRegistrationManager) (i now : Nat) :
    (r.pendingReg2Idx = some i ∧
      Sender.resendRegistration r i now =
        ((r.buildReg1For i now).1, some (createReg1Packet r.srtlaId))) ∨
    (r.pendingReg2Idx = none ∧
      Sender.resendRegistration r i now = (r.armReg3Grant i, some (createReg2Packet r.srtlaId))) ∨
    (∃ j, r.pendingReg2Idx = some j ∧ j ≠ i ∧ Sender.resendRegistration r i now = (r, none)) := by
  simp only [Sender.resendRegistration]
  cases slot : r.pendingReg2Idx with
  | none => exact Or.inr (Or.inl ⟨rfl, rfl⟩)
  | some j =>
    -- the holder repeats REG1; the others repeat REG2 only while the slot is free
    by_cases own : j = i
    · subst own
      refine Or.inl ⟨rfl, ?_⟩
      simp only [if_true]
      rfl
    · refine Or.inr (Or.inr ⟨j, rfl, own, ?_⟩)
      simp only [own, if_false]

theorem Sender.resendRegistration_slot (r : SrtlaRegistrationManager) (i now : Nat) :
    (Sender.resendRegistration r i now).1.pendingReg2Idx = r.pendingReg2Idx := by
  rcases Sender.resendRegistration_cases r i now with ⟨own, h⟩ | ⟨free, h⟩ | ⟨j, other, -, h⟩
  · rw [h, own]
    rfl
  · obtain ⟨grants, arm⟩ := r.armReg3Grant_eq i
    rw [h, arm]
  · rw [h]

/-! ### One attempt to move -/

namespace Sender

/-- The call gets as far as asking the resolver. -/
def consults (s : Sender) (now : Nat) : Bool :=
  !s.pinnedRemotes.isEmpty && (s.rehome.claimProbe now).2

/-- Every outcome of an attempt: the gate alone changes, or the resolver was asked and
the bond moves to its first answer. -/
theorem tryRehome_outcome (s : Sender) (env : RehomeEnv) (now : Nat) :
    (∃ gate, s.tryRehome env now = ({ s with rehome := gate }, false)) ∨
    ∃ newRemote others gate, s.consults now = true ∧ env.resolved = some (newRemote :: others) ∧
      receiverMoved s.pinnedRemotes (newRemote :: others) = true ∧
      s.tryRehome env now =
        ({ s.rehomeBond newRemote env now with rehome := gate }, true) := by
  simp only [tryRehome, consults]
  split
  · exact Or.inl ⟨s.rehome, rfl⟩
  case isFalse pinned =>
    rw [Bool.not_eq_true] at pinned
    split
    · exact Or.inl ⟨_, rfl⟩
    -- the slot of the rate limit is taken even if the resolver fails
    case isFalse claimed =>
      simp only [Bool.not_eq_true, Bool.not_eq_false'] at claimed
      cases env.resolved with
      | none => exact Or.inl ⟨_, rfl⟩
      | some answer =>
        cases answer with
        | nil => exact Or.inl ⟨_, rfl⟩
        | cons newRemote others =>
          simp only
          split
          case isTrue moved =>
            refine Or.inr ⟨newRemote, others, _, ?_, rfl, moved, rfl⟩
            rw [pinned, claimed]
            rfl
          case isFalse => exact Or.inl ⟨_, rfl⟩

/-! ### One pass -/

/-- The state in which a pass reaches uplink `i`. -/
def reaching (env : HousekeepingEnv) (s : Sender) (i : Nat) : Sender :=
  (List.range i).foldl (housekeepUplink env) (s.beginHousekeeping env)

/-- The state of a pass whose loop is over. -/
def looped (env : HousekeepingEnv) (s : Sender) : Sender := s.reaching env s.conns.length

/-- The state of a pass before its all-links-failed check. -/
def driven (env : HousekeepingEnv) (s : Sender) : Sender := (s.looped env).driveRegistration env

/-- The iteration finds uplink `i` timed out and due for a retry. -/
def retries (env : HousekeepingEnv) (s : Sender) (i : Nat) : Bool :=
  (s.conns[i]?).any fun c => c.isTimedOut env.now && c.shouldAttemptReconnect env.now

/-- The link a retry leaves behind. -/
def retriedLink (env : HousekeepingEnv) (s : Sender) (i : Nat) (c : SrtlaConnection) :
    SrtlaConnection :=
  let rebuilt := (reconnectUplink s.connIo env c s.tracker).1
  if (resendRegistration s.reg i env.now).2.isSome then noteSentIf s.connIo env rebuilt else rebuilt

/-- The pass ends with a move of the whole bond. -/
def rehomes (env : HousekeepingEnv) (s : Sender) : Bool :=
  let t := s.driven env
  let failedAt := t.allFailedAt.getD env.now
  decide ((t.conns.filter fun c => !c.isTimedOut env.now).length = 0) &&
    decide (env.now - failedAt > globalTimeoutMs) &&
    ({ t with allFailedAt := some failedAt }.tryRehome env.rehome env.now).2

variable (env : HousekeepingEnv) (s : Sender)

theorem length_beginHousekeeping : (s.beginHousekeeping env).conns.length = s.conns.length := by
  simp only [beginHousekeeping]
  split
  · split
    · exact List.length_modify _ _ _
    · rfl
  · rfl

theorem handleHousekeeping_eq : s.handleHousekeeping env = (s.driven env).checkAllFailed env := by
  simp only [handleHousekeeping, driven, looped, reaching, length_beginHousekeeping]

@[simp] theorem reaching_zero : s.reaching env 0 = s.beginHousekeeping env := rfl

theorem reaching_succ (i : Nat) :
    s.reaching env (i + 1) = (s.reaching env i).housekeepUplink env i := by
  simp only [reaching, List.range_succ, List.foldl_append]
  rfl

/-- An invariant of the iterations holds wherever the loop is. -/
theorem reaching_invariant (Inv : Sender → Prop) (init : Inv (s.beginHousekeeping env))
    (turn : ∀ t i, Inv t → Inv (t.housekeepUplink env i)) (i : Nat) : Inv (s.reaching env i) := by
  induction i with
  | zero => exact init
  | succ i ih =>
    rw [reaching_succ]
    exact turn _ i ih

/-- An iteration does nothing, services its link, or retries it. -/
theorem housekeepUplink_cases (i : Nat) :
    (s.housekeepUplink env i = s ∧ s.retries env i = false) ∨
    (∃ c, s.conns[i]? = some c ∧ s.retries env i = false ∧
      s.housekeepUplink env i = { s with conns := s.conns.set i (serviceUplink env c) }) ∨
    (∃ c, s.conns[i]? = some c ∧ s.retries env i = true ∧
      s.housekeepUplink env i =
        { s with
          conns := s.conns.set i (s.retriedLink env i c)
          tracker := (reconnectUplink s.connIo env c s.tracker).2
          reg := (resendRegistration s.reg i env.now).1 }) := by
  simp only [housekeepUplink, retries]
  cases at_i : s.conns[i]? with
  | none => exact Or.inl ⟨rfl, rfl⟩
  | some c =>
    simp only [Option.any_some]
    -- a live link is serviced; a dead one waits until its retry is due
    cases timedOut : c.isTimedOut env.now with
    | false => exact Or.inr (Or.inl ⟨c, rfl, rfl, rfl⟩)
    | true =>
      cases due : c.shouldAttemptReconnect env.now with
      | false => exact Or.inl ⟨rfl, rfl⟩
      | true => exact Or.inr (Or.inr ⟨c, rfl, rfl, rfl⟩)

/-- Links, tracker and manager apart, the state is as before. -/
structure SameSetting (s t : Sender) : Prop where
  connIo : t.connIo = s.connIo
  lastSelectedIdx : t.lastSelectedIdx = s.lastSelectedIdx
  lastClientAddr : t.lastClientAddr = s.lastClientAddr
  dedup : t.dedup = s.dedup
  negotiatedLatencyMs : t.negotiatedLatencyMs = s.negotiatedLatencyMs
  allFailedAt : t.allFailedAt = s.allFailedAt
  rehome : t.rehome = s.rehome

/-- Before its all-links-failed check a pass is about links, tracker and manager alone. -/
theorem sameSetting_reaching (i : Nat) : s.SameSetting (s.reaching env i) := by
  refine reaching_invariant env s s.SameSetting ?_ (fun t i same => ?_) i
  · simp only [beginHousekeeping]
    split
    · exact ⟨rfl, rfl, rfl, rfl, rfl, rfl, rfl⟩
    · exact ⟨rfl, rfl, rfl, rfl, rfl, rfl, rfl⟩
  · obtain ⟨connIo, lastSelectedIdx, lastClientAddr, dedup, latency, allFailedAt, rehome⟩ := same
    rcases housekeepUplink_cases env t i with ⟨h, -⟩ | ⟨c, -, -, h⟩ | ⟨c, -, -, h⟩
    · rw [h]
      exact ⟨connIo, lastSelectedIdx, lastClientAddr, dedup, latency, allFailedAt, rehome⟩
    · rw [h]
      exact ⟨connIo, lastSelectedIdx, lastClientAddr, dedup, latency, allFailedAt, rehome⟩
    · rw [h]
      exact ⟨connIo, lastSelectedIdx, lastClientAddr, dedup, latency, allFailedAt, rehome⟩

theorem sameSetting_driven : s.SameSetting (s.driven env) := by
  obtain ⟨connIo, lastSelectedIdx, lastClientAddr, dedup, latency, allFailedAt, rehome⟩ :=
    sameSetting_reaching env s s.conns.length
  exact ⟨connIo, lastSelectedIdx, lastClientAddr, dedup, latency, allFailedAt, rehome⟩

theorem beginHousekeeping_reg :
    (s.beginHousekeeping env).reg =
      ((s.reg.clearPendingIfTimedOut env.now).1.checkProbingComplete env.probeNow).1 := by
  simp only [beginHousekeeping]
  split
  · rfl
  case isFalse idle =>
    have settled : (s.reg.clearPendingIfTimedOut env.now).1.probingState ≠ .waitingForProbes := by
      intro waiting
      simp [SrtlaRegistrationManager.isProbing, waiting] at idle
    simp only [SrtlaRegistrationManager.checkProbingComplete, settled, ne_eq, not_false_eq_true,
      if_true]

theorem sameBond_beginHousekeeping : SameBond s.conns (s.beginHousekeeping env).conns := by
  simp only [beginHousekeeping]
  split
  · split
    · refine forall₂_modify SameLife.refl (fun c => ?_) _ _
      exact ⟨rfl, Iff.rfl, rfl, rfl, rfl⟩
    · exact SameBond.refl _
  · exact SameBond.refl _

/-- The driver stamps links and does nothing else to them. -/
theorem forall₂_driveRegistration {R : SrtlaConnection → SrtlaConnection → Prop}
    (refl : ∀ c, R c c) (trans : ∀ a b c, R a b → R b c → R a c)
    (stamp : ∀ c, R c (noteSentIf s.connIo env c)) :
    List.Forall₂ R s.conns (s.driveRegistration env).conns := by
  simp only [driveRegistration]
  set sends := ((s.reg.updateActiveConnections s.conns).regDriverPendingSends s.conns.length env.now).2
  -- the link REG1 goes to is stamped, and a broadcast stamps all of them
  have broadcast : ∀ conns, List.Forall₂ R s.conns conns → List.Forall₂ R s.conns
      (if sends.broadcastReg2.isSome then conns.map (noteSentIf s.connIo env) else conns) := by
    intro conns first
    split
    · exact forall₂_trans trans first (forall₂_map stamp _)
    · exact first
  apply broadcast
  cases sends.reg1 with
  | none => exact List.forall₂_same.mpr fun c _ => refl c
  | some target => exact forall₂_modify refl stamp _ _

theorem sameBond_driveRegistration : SameBond s.conns (s.driveRegistration env).conns :=
  forall₂_driveRegistration env s SameLife.refl (fun _ _ _ first second => first.trans second)
    (sameLife_noteSentIf s.connIo env)

theorem driveRegistration_reg :
    (s.driveRegistration env).reg =
      (((s.reg.updateActiveConnections s.conns).driveReg1 env.now).1.driveBroadcast
        s.conns.length).1 := rfl

theorem turnedOff_retriedLink (i : Nat) (c : SrtlaConnection) :
    TurnedOff c (s.retriedLink env i c) := by
  have off := turnedOff_reconnectUplink s.connIo env c s.tracker
  simp only [retriedLink]
  split
  · exact off.thenSame (sameLife_noteSentIf s.connIo env _)
  · exact off

/-- After a re-home there is neither a slot nor a grant. -/
theorem rehomeBond_reg (newRemote : SocketAddr) (renv : RehomeEnv) (now : Nat) :
    (s.rehomeBond newRemote renv now).reg.pendingReg2Idx = none ∧
      (s.rehomeBond newRemote renv now).reg.reg1TargetIdx = none ∧
      (s.rehomeBond newRemote renv now).reg.awaitingReg3 = [] := by
  simp only [rehomeBond, SrtlaRegistrationManager.startProbing]
  split
  · exact ⟨rfl, rfl, rfl⟩
  · split <;> exact ⟨rfl, rfl, rfl⟩

theorem sameUplinks_rebuildAll (connIo : ConnIoMap) (opened : Nat → Bool) (now : Nat)
    (conns : List SrtlaConnection) (tracker : SequenceTracker) :
    SameUplinks conns (rebuildAll connIo opened now conns tracker).1 := by
  induction conns generalizing tracker with
  | nil => exact List.Forall₂.nil
  | cons c rest ih =>
    simp only [rebuildAll]
    exact List.Forall₂.cons (turnedOff_rebuildUplink connIo opened now c tracker).uplink (ih _)

theorem sameUplinks_startProbing (r : SrtlaRegistrationManager) (conns : List SrtlaConnection)
    (now : Nat) : SameUplinks conns (r.startProbing conns now).2.1 := by
  simp only [SrtlaRegistrationManager.startProbing]
  split
  · exact SameUplinks.refl conns
  · rw [List.map_map]
    refine forall₂_map (fun c => ?_) conns
    rfl

theorem sameUplinks_rehomeBond (newRemote : SocketAddr) (renv : RehomeEnv) (now : Nat) :
    SameUplinks s.conns (s.rehomeBond newRemote renv now).conns :=
  (sameUplinks_rebuildAll _ renv.opened now s.conns s.tracker).trans
    (sameUplinks_startProbing (s.reg.resetForRehome renv.freshId renv.probeId) _ now)

/-- How a pass ends: with a live link, with none where the bond stays, or with a move to the
first answer of the resolver. -/
inductive PassEnd (s' : Sender) : Prop
  | alive (live : ∃ c ∈ (s.driven env).conns, c.isTimedOut env.now = false)
      (stays : s.rehomes env = false) (after : s' = { s.driven env with allFailedAt := none })
  | allFailed (dead : ∀ c ∈ (s.driven env).conns, c.isTimedOut env.now = true)
      (stays : s.rehomes env = false) (rehome : RehomeGate)
      (after : s' = { s.driven env with
        allFailedAt := some ((s.driven env).allFailedAt.getD env.now), rehome })
  | moved (dead : ∀ c ∈ (s.driven env).conns, c.isTimedOut env.now = true)
      (moves : s.rehomes env = true) (failedAt : Nat)
      (timer : (s.driven env).allFailedAt = some failedAt)
      (long : globalTimeoutMs < env.now - failedAt) (newRemote : SocketAddr)
      (others : List SocketAddr) (consults : (s.driven env).consults env.now = true)
      (answer : env.rehome.resolved = some (newRemote :: others))
      (away : receiverMoved (s.driven env).pinnedRemotes (newRemote :: others) = true)
      (rehome : RehomeGate)
      (after : s' = { (s.driven env).rehomeBond newRemote env.rehome env.now with
        allFailedAt := some env.now, rehome })

theorem passEnd : s.PassEnd env (s.handleHousekeeping env).1 := by
  rw [handleHousekeeping_eq]
  simp only [checkAllFailed]
  -- the pass counts the links that are not timed out
  by_cases dead : ((s.driven env).conns.filter fun c => !c.isTimedOut env.now).length = 0
  · have all : ∀ c ∈ (s.driven env).conns, c.isTimedOut env.now = true := by
      intro c member
      rw [List.length_eq_zero_iff, List.filter_eq_nil_iff] at dead
      simpa using dead c member
    rw [if_pos dead]
    by_cases long : env.now - (s.driven env).allFailedAt.getD env.now > globalTimeoutMs
    · rw [if_pos long]
      have decided : s.rehomes env = ({ s.driven env with
          allFailedAt := some ((s.driven env).allFailedAt.getD env.now) }.tryRehome env.rehome
            env.now).2 := by
        simp [rehomes, dead, long]
      rcases tryRehome_outcome { s.driven env with
          allFailedAt := some ((s.driven env).allFailedAt.getD env.now) } env.rehome env.now with
        ⟨gate, h⟩ | ⟨newRemote, others, gate, consults, answer, away, h⟩
      · -- the move is refused, and the pass ends with an error or not
        rw [h] at decided ⊢
        simp only [Bool.false_eq_true, if_false]
        split
        · exact .allFailed all decided gate rfl
        · exact .allFailed all decided gate rfl
      · rw [h] at decided ⊢
        -- a timer that starts in this pass is not that old
        cases timer : (s.driven env).allFailedAt with
        | none => simp [timer] at long
        | some failedAt =>
          rw [timer] at long
          exact .moved all decided failedAt timer long newRemote others consults answer away gate rfl
    · rw [if_neg long]
      exact .allFailed all (by simp [rehomes, long]) _ rfl
  · rw [if_neg dead]
    refine .alive ?_ (by simp [rehomes, dead]) rfl
    rw [List.length_eq_zero_iff, List.filter_eq_nil_iff] at dead
    push Not at dead
    obtain ⟨c, member, alive⟩ := dead
    exact ⟨c, member, by simpa using alive⟩

/-- The check at the end of a pass changes neither links nor manager, unless the
bond moves. -/
theorem handleHousekeeping_cases :
    (s.rehomes env = false ∧ (s.handleHousekeeping env).1.conns = (s.driven env).conns ∧
      (s.handleHousekeeping env).1.reg = (s.driven env).reg ∧
      (s.handleHousekeeping env).1.connIo = (s.driven env).connIo) ∨
    (s.rehomes env = true ∧ (s.handleHousekeeping env).1.reg.pendingReg2Idx = none ∧
      (s.handleHousekeeping env).1.reg.reg1TargetIdx = none ∧
      (s.handleHousekeeping env).1.reg.awaitingReg3 = [] ∧
      SameUplinks (s.driven env).conns (s.handleHousekeeping env).1.conns) := by
  cases s.passEnd env with
  | alive _ stays after =>
    rw [after]
    exact Or.inl ⟨stays, rfl, rfl, rfl⟩
  | allFailed _ stays rehome after =>
    rw [after]
    exact Or.inl ⟨stays, rfl, rfl, rfl⟩
  | moved _ moves _ _ _ newRemote _ _ _ _ rehome after =>
    obtain ⟨slot, target, grants⟩ := (s.driven env).rehomeBond_reg newRemote env.rehome env.now
    rw [after]
    exact Or.inr ⟨moves, slot, target, grants, sameUplinks_rehomeBond _ newRemote env.rehome env.now⟩

/-! ### The uplinks of the bond -/

theorem sameUplinks_housekeepUplink (i : Nat) :
    SameUplinks s.conns (s.housekeepUplink env i).conns := by
  rcases housekeepUplink_cases env s i with ⟨h, -⟩ | ⟨c, at_i, -, h⟩ | ⟨c, at_i, -, h⟩
  · rw [h]
    exact SameUplinks.refl _
  · rw [h]
    exact forall₂_set SameUplink.refl at_i (sameLife_serviceUplink env c).uplink
  · rw [h]
    exact forall₂_set SameUplink.refl at_i (turnedOff_retriedLink env s i c).uplink

theorem sameUplinks_reaching (i : Nat) : SameUplinks s.conns (s.reaching env i).conns :=
  reaching_invariant env s (fun t => SameUplinks s.conns t.conns)
    (sameBond_beginHousekeeping env s).uplinks
    (fun t j kept => kept.trans (sameUplinks_housekeepUplink env t j)) i

theorem sameUplinks_driven : SameUplinks s.conns (s.driven env).conns :=
  (sameUplinks_reaching env s s.conns.length).trans
    (sameBond_driveRegistration env (s.looped env)).uplinks

/-- A pass changes no uplink for another, re-home or not. -/
theorem sameUplinks_handleHousekeeping : SameUplinks s.conns (s.handleHousekeeping env).1.conns := by
  rcases handleHousekeeping_cases env s with ⟨-, conns, -⟩ | ⟨-, -, -, -, uplinks⟩
  · rw [conns]
    exact sameUplinks_driven env s
  · exact (sameUplinks_driven env s).trans uplinks

end Sender

end SrtlaSend
