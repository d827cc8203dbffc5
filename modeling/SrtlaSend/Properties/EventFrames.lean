import SrtlaSend.Properties.FeedbackFrame
import SrtlaSend.Properties.Rehome

/-!
# Frames of the longer events

The handling of a client datagram, the feedback of a datagram from the receiver and a pass of
housekeeping are long compositions of writes to links. A relation between links that is
reflexive and transitive and holds across each of these writes holds across the whole of it, for
every link of the bond.
-/

namespace SrtlaSend

open Pointwise SrtlaConnection

/-! ### Data -/

/-- `R` holds across every write that queues a datagram on a link or flushes its batch. -/
structure QueueRelation (R : SrtlaConnection → SrtlaConnection → Prop) : Prop where
  refl : ∀ c, R c c
  trans : ∀ a b c, R a b → R b c → R a c
  queueData : ∀ (c : SrtlaConnection) (data : Bytes) (seq : Option Nat) (now : Nat),
    R c (c.queueDataPacket data seq now).1
  queueProbe : ∀ (c : SrtlaConnection) (data : Bytes) (seq now : Nat),
    R c (c.queueProbePacket data seq now).1
  probeTurn : ∀ c : SrtlaConnection, R c c.stallProbeDue.1
  takeBatch : ∀ (c : SrtlaConnection) (now : Nat), R c (c.takeBatch now).1
  noteSent : ∀ (c : SrtlaConnection) (now : Nat), R c (c.noteSent now)
  recover : ∀ c : SrtlaConnection, R c c.markForRecovery

namespace QueueRelation

variable {R : SrtlaConnection → SrtlaConnection → Prop} (frame : QueueRelation R)

include frame

theorem same (conns : List SrtlaConnection) : List.Forall₂ R conns conns :=
  List.forall₂_same.mpr fun c _ => frame.refl c

theorem flushIfNeeded (needsFlush : Bool) (c : SrtlaConnection) (connIo : ConnIoMap) (sends : Sends)
    (tracker : SequenceTracker) : R c (flushIfNeeded needsFlush c connIo sends tracker).1 := by
  have drained := frame.takeBatch c (sends c.connId).now
  simp only [SrtlaSend.flushIfNeeded]
  split
  · rcases flushConnection_cases c (sends c.connId) tracker with empty | sent | ⟨-, failed⟩
    · rw [empty]
      exact drained
    · rw [sent]
      exact frame.trans _ _ _ drained (frame.noteSent _ _)
    · rw [failed]
      exact frame.trans _ _ _ drained (frame.recover _)
  · exact frame.refl c

theorem flushAllBatches (connIo : ConnIoMap) (sends : Sends) (now : Nat)
    (conns : List SrtlaConnection) (tracker : SequenceTracker) :
    List.Forall₂ R conns (flushAllBatches connIo sends now conns tracker).1 := by
  induction conns generalizing tracker with
  | nil => exact List.Forall₂.nil
  | cons c rest ih =>
    simp only [SrtlaSend.flushAllBatches]
    exact List.Forall₂.cons (frame.flushIfNeeded _ c connIo sends tracker) (ih _)

theorem sendStallProbes (selIdx : Nat) (pkt : Bytes) (probeSeq : Nat) (connIo : ConnIoMap)
    (sends : Sends) (packetTimeMs i : Nat) (conns : List SrtlaConnection)
    (tracker : SequenceTracker) :
    List.Forall₂ R conns
      (DataPath.sendStallProbes selIdx pkt probeSeq connIo sends packetTimeMs i conns tracker).1 := by
  have probed (c : SrtlaConnection) (tracker : SequenceTracker) :
      R c (DataPath.probeLink pkt probeSeq connIo sends packetTimeMs c tracker).1 := by
    have counted := frame.probeTurn c
    simp only [DataPath.probeLink]
    split
    · have queued := frame.queueProbe c.stallProbeDue.1 (setSrtDataRetransmit pkt) probeSeq packetTimeMs
      exact frame.trans _ _ _ counted
        (frame.trans _ _ _ queued (frame.flushIfNeeded _ _ connIo sends tracker))
    · exact counted
  induction conns generalizing i tracker with
  | nil => exact List.Forall₂.nil
  | cons c rest ih =>
    simp only [DataPath.sendStallProbes]
    refine List.Forall₂.cons ?_ (ih _ _)
    split
    · exact probed c tracker
    · exact frame.refl c

theorem forwardViaConnection (s : DataPath) (selIdx : Nat) (pkt : Bytes) (seq : Option Nat)
    (connIo : ConnIoMap) (sends : Sends) (packetTimeMs : Nat) :
    List.Forall₂ R s.conns (s.forwardViaConnection selIdx pkt seq connIo sends packetTimeMs).conns := by
  simp only [DataPath.forwardViaConnection]
  cases at_sel : s.conns[selIdx]? with
  | none => exact frame.same _
  | some c =>
    exact forall₂_set frame.refl at_sel (frame.trans _ _ _ (frame.queueData c pkt seq packetTimeMs)
      (frame.flushIfNeeded _ _ connIo sends _))

theorem deliver (s : DataPath) (selIdx : Nat) (pkt : Bytes) (connIo : ConnIoMap) (sends : Sends)
    (packetTimeMs : Nat) :
    List.Forall₂ R s.conns (s.deliver selIdx pkt connIo sends packetTimeMs).conns := by
  have sent := frame.forwardViaConnection s selIdx pkt (getSrtSequenceNumber pkt) connIo sends
    packetTimeMs
  simp only [DataPath.deliver]
  split
  · exact forall₂_trans frame.trans sent
      (frame.sendStallProbes selIdx pkt _ connIo sends packetTimeMs 0 _ _)
  · exact sent

end QueueRelation

/-- `R` holds across every write that a client datagram or a periodic flush makes to a link. -/
structure TrafficRelation (calculate : SrtlaConnection → Nat → ℚ)
    (R : SrtlaConnection → SrtlaConnection → Prop) : Prop extends QueueRelation R where
  select : ∀ (conns : List SrtlaConnection) (lastIdx : Option Nat) (now : Nat)
    (config : ConfigSnapshot),
    List.Forall₂ R conns (selectConnectionIdx calculate conns lastIdx now config).1

namespace TrafficRelation

variable {calculate : SrtlaConnection → Nat → ℚ} {R : SrtlaConnection → SrtlaConnection → Prop}
  (frame : TrafficRelation calculate R)

include frame

theorem routePacket (s : DataPath) (pkt : Bytes) (packetTimeMs : Nat) (config : ConfigSnapshot)
    (criticalWindow : CriticalWindow) :
    List.Forall₂ R s.conns (s.routePacket calculate pkt packetTimeMs config criticalWindow).1 :=
  frame.select s.conns s.lastSelectedIdx packetTimeMs config

theorem handleSrtPacket (s : DataPath) (pkt : Bytes) (src : SocketAddr) (connIo : ConnIoMap)
    (sends : Sends) (registrationComplete : Bool) (config : ConfigSnapshot)
    (criticalWindow : CriticalWindow) (packetTimeMs : Nat) :
    List.Forall₂ R s.conns (s.handleSrtPacket calculate pkt src connIo sends registrationComplete
      config criticalWindow packetTimeMs).conns := by
  simp only [DataPath.handleSrtPacket]
  split
  · exact frame.same _
  · split
    · split
      · exact frame.forwardViaConnection s _ pkt _ connIo sends packetTimeMs
      · exact frame.same _
    · have routed := frame.routePacket s pkt packetTimeMs config criticalWindow
      split
      · exact forall₂_trans frame.trans routed (frame.deliver
          { s with conns := (s.routePacket calculate pkt packetTimeMs config criticalWindow).1 } _ pkt
          connIo sends packetTimeMs)
      · exact routed

end TrafficRelation

/-! ### Housekeeping -/

/-- `R` holds across every write that the rebuild of a socket or a new grace makes to a link. -/
structure RebuildRelation (now : Nat) (R : SrtlaConnection → SrtlaConnection → Prop) : Prop where
  refl : ∀ c, R c c
  trans : ∀ a b c, R a b → R b c → R a c
  renewGrace : ∀ (c : SrtlaConnection) (deadline : Nat),
    R c { c with reconnection.startupGraceDeadlineMs := deadline }
  recover : ∀ c : SrtlaConnection, R c c.markForRecovery
  reset : ∀ c : SrtlaConnection, R c (c.resetForReconnect now)

namespace RebuildRelation

variable {now : Nat} {R : SrtlaConnection → SrtlaConnection → Prop} (frame : RebuildRelation now R)

include frame

theorem rebuildUplink (connIo : ConnIoMap) (opened : Nat → Bool) (c : SrtlaConnection)
    (tracker : SequenceTracker) :
    R c (Sender.rebuildUplink connIo opened now c tracker).1 := by
  simp only [Sender.rebuildUplink, rebuildOrRecover, rebuildUplinkSocket]
  split
  · cases opened c.connId with
    | true => exact frame.trans _ _ _ (frame.reset c) (frame.renewGrace _ _)
    | false => exact frame.recover c
  · exact frame.recover c

theorem beginHousekeeping (env : HousekeepingEnv) (s : Sender) :
    List.Forall₂ R s.conns (s.beginHousekeeping env).conns := by
  have same := List.forall₂_same.mpr fun c (_ : c ∈ s.conns) => frame.refl c
  simp only [Sender.beginHousekeeping]
  split
  · split
    · exact forall₂_modify frame.refl (fun c => frame.renewGrace c _) _ _
    · exact same
  · exact same

theorem rebuildAll (connIo : ConnIoMap) (opened : Nat → Bool) (conns : List SrtlaConnection)
    (tracker : SequenceTracker) :
    List.Forall₂ R conns (Sender.rebuildAll connIo opened now conns tracker).1 := by
  induction conns generalizing tracker with
  | nil => exact List.Forall₂.nil
  | cons c rest ih =>
    simp only [Sender.rebuildAll]
    exact List.Forall₂.cons (frame.rebuildUplink connIo opened c tracker) (ih _)

theorem startProbing (r : SrtlaRegistrationManager) (conns : List SrtlaConnection) :
    List.Forall₂ R conns (r.startProbing conns now).2.1 := by
  simp only [SrtlaRegistrationManager.startProbing]
  split
  · exact List.forall₂_same.mpr fun c _ => frame.refl c
  · rw [List.map_map]
    exact forall₂_map (fun c => frame.renewGrace c (now + startupGraceMs)) conns

theorem rehomeBond (s : Sender) (newRemote : SocketAddr) (env : RehomeEnv) :
    List.Forall₂ R s.conns (s.rehomeBond newRemote env now).conns :=
  forall₂_trans frame.trans (frame.rebuildAll _ env.opened s.conns s.tracker)
    (frame.startProbing (s.reg.resetForRehome env.freshId env.probeId) _)

omit frame in
/-- The last check of a pass, which may move the bond. -/
theorem checkAllFailed {env : HousekeepingEnv} (frame : RebuildRelation env.now R) (s : Sender) :
    List.Forall₂ R (s.driven env).conns (s.handleHousekeeping env).1.conns := by
  have same := List.forall₂_same.mpr fun c (_ : c ∈ (s.driven env).conns) => frame.refl c
  cases s.passEnd env with
  | alive _ _ after =>
    rw [after]
    exact same
  | allFailed _ _ rehome after =>
    rw [after]
    exact same
  | moved _ _ _ _ _ newRemote _ _ _ _ rehome after =>
    rw [after]
    exact frame.rehomeBond (s.driven env) newRemote env.rehome

end RebuildRelation

/-- `R` holds across every write that a pass makes to a link. -/
structure PassRelation (env : HousekeepingEnv) (R : SrtlaConnection → SrtlaConnection → Prop) : Prop
    extends RebuildRelation env.now R where
  service : ∀ c, R c (Sender.serviceUplink env c)
  noteSent : ∀ c : SrtlaConnection, R c (c.noteSent env.now)
  attempt : ∀ c : SrtlaConnection, R c (c.recordReconnectAttempt env.now)

namespace PassRelation

variable {env : HousekeepingEnv} {R : SrtlaConnection → SrtlaConnection → Prop}
  (frame : PassRelation env R)

include frame

theorem noteSentIf (connIo : ConnIoMap) (c : SrtlaConnection) :
    R c (Sender.noteSentIf connIo env c) := by
  simp only [Sender.noteSentIf]
  split
  · exact frame.noteSent c
  · exact frame.refl c

theorem retriedLink (s : Sender) (i : Nat) (c : SrtlaConnection) : R c (s.retriedLink env i c) := by
  have rebuilt : R c (Sender.reconnectUplink s.connIo env c s.tracker).1 :=
    frame.trans _ _ _ (frame.attempt c) (frame.rebuildUplink s.connIo env.opened _ s.tracker)
  simp only [Sender.retriedLink]
  split
  · exact frame.trans _ _ _ rebuilt (frame.noteSentIf s.connIo _)
  · exact rebuilt

theorem housekeepUplink (s : Sender) (i : Nat) :
    List.Forall₂ R s.conns (s.housekeepUplink env i).conns := by
  rcases s.housekeepUplink_cases env i with ⟨h, -⟩ | ⟨c, at_i, -, h⟩ | ⟨c, at_i, -, h⟩
  · rw [h]
    exact List.forall₂_same.mpr fun c _ => frame.refl c
  · rw [h]
    exact forall₂_set frame.refl at_i (frame.service c)
  · rw [h]
    exact forall₂_set frame.refl at_i (frame.retriedLink s i c)

theorem driven (s : Sender) : List.Forall₂ R s.conns (s.driven env).conns := by
  have looped : List.Forall₂ R s.conns (s.looped env).conns :=
    Sender.reaching_invariant env s (fun t => List.Forall₂ R s.conns t.conns)
      (frame.beginHousekeeping env s)
      (fun t i before => forall₂_trans frame.trans before (frame.housekeepUplink t i)) _
  exact forall₂_trans frame.trans looped
    (Sender.forall₂_driveRegistration env (s.looped env) frame.refl frame.trans
      (frame.noteSentIf (s.looped env).connIo))

theorem handleHousekeeping (s : Sender) :
    List.Forall₂ R s.conns (s.handleHousekeeping env).1.conns :=
  forall₂_trans frame.trans (frame.driven s) (frame.checkAllFailed s)

end PassRelation

/-! ### Datagrams from the receiver -/

/-- A registration that is accepted decides what becomes of the link. Any other datagram leaves it
alone, takes its registration away, or was heard on it. -/
theorem conn_processUplinkPacket (hashOf : Bytes → Nat) (c : SrtlaConnection) (i : Nat)
    (reg : SrtlaRegistrationManager) (clientAddr : Option SocketAddr) (dedup : ClientDedup)
    (data : Bytes) (now : Nat) :
    let c' := (processUplinkPacket hashOf c i reg clientAddr dedup data now).conn
    ((reg.processRegistrationPacket i data now).2 = some .reg3 ∧ c' = c.acceptReg3 now) ∨
      ((reg.processRegistrationPacket i data now).2 ≠ some .reg3 ∧
        (c' = c ∨ c' = c.acceptRegErr ∨ c' = c.noteReceived now ∨
          c' = (c.noteReceived now).handleKeepaliveEcho data now)) := by
  have traffic (reg : SrtlaRegistrationManager) (pt : Nat) :
      (processUplinkData hashOf c reg clientAddr dedup pt data now).conn = c.noteReceived now ∨
        (processUplinkData hashOf c reg clientAddr dedup pt data now).conn =
          (c.noteReceived now).handleKeepaliveEcho data now := by
    simp only [processUplinkData]
    -- only a keepalive echo touches the link again
    split
    · split <;> exact Or.inl rfl
    · split
      · split <;> exact Or.inl rfl
      · split
        · exact Or.inl rfl
        · split
          · exact Or.inl rfl
          · split
            · exact Or.inr rfl
            · exact Or.inl rfl
  simp only [processUplinkPacket]
  cases type : getPacketType data with
  | none =>
    refine Or.inr ⟨?_, Or.inl rfl⟩
    simp only [SrtlaRegistrationManager.processRegistrationPacket, type, reduceCtorEq, if_false,
      ne_eq, not_false_eq_true]
  | some pt =>
    simp only
    rcases reg.processRegistrationPacket i data now with ⟨reg', event⟩
    cases event with
    | none => exact Or.inr ⟨(Option.some_ne_none _).symm, Or.inr (Or.inr (traffic reg' pt))⟩
    | some event =>
      cases event with
      | reg3 => exact Or.inl ⟨rfl, rfl⟩
      | regNgp => exact Or.inr ⟨by simp, Or.inl rfl⟩
      | reg2 => exact Or.inr ⟨by simp, Or.inl rfl⟩
      | regErr => exact Or.inr ⟨by simp, Or.inr (Or.inl rfl)⟩

namespace FeedbackRelation

variable {R : SrtlaConnection → SrtlaConnection → Prop} (frame : FeedbackRelation R)

include frame

/-- A datagram is dropped before it is read, or it acts on its own link and then, by its
feedback, on any. -/
theorem handleUplinkPacket (stamp : ∀ (c : SrtlaConnection) (now : Nat), R c (c.noteSent now))
    (hashOf : Bytes → Nat) (s : Sender) (connId : Nat) (bytes : Bytes) (env : UplinkEnv) :
    ((s.handleUplinkPacket hashOf connId bytes env).conns = s.conns ∧
        s.report (.uplink connId bytes env) = none) ∨
      ∃ (idx : Nat) (c : SrtlaConnection), s.conns[idx]? = some c ∧
        s.report (.uplink connId bytes env) =
          (s.reg.processRegistrationPacket idx bytes env.now).2.map (fun event => (idx, event)) ∧
        List.Forall₂ R
          (s.conns.set idx
            (processUplinkPacket hashOf c idx s.reg s.lastClientAddr s.dedup bytes env.now).conn)
          (s.handleUplinkPacket hashOf connId bytes env).conns := by
  by_cases empty : bytes.isEmpty = true
  · obtain rfl := List.isEmpty_iff.mp empty
    refine Or.inl ⟨rfl, ?_⟩
    simp only [Sender.report]
    cases s.conns.findIdx? (·.connId == connId) with
    | none => rfl
    | some idx => rfl
  cases found : s.conns.findIdx? (·.connId == connId) with
  | none =>
    refine Or.inl ⟨?_, ?_⟩
    · simp only [Sender.handleUplinkPacket, empty, found, Bool.false_eq_true, if_false]
    · simp only [Sender.report, found, Option.bind_none]
  | some idx =>
    have inside : idx < s.conns.length := (List.findIdx?_eq_some_iff_getElem.mp found).1
    have at_idx : s.conns[idx]? = some s.conns[idx] := List.getElem?_eq_getElem inside
    refine Or.inr ⟨idx, s.conns[idx], at_idx, ?_, ?_⟩
    · simp only [Sender.report, found, Option.bind_some]
    · set own := (processUplinkPacket hashOf s.conns[idx] idx s.reg s.lastClientAddr s.dedup bytes
        env.now).conn with own_eq
      have received : List.Forall₂ R (s.conns.set idx own)
          (s.receiveUplink hashOf idx s.conns[idx] bytes env).1.conns := by
        simp only [Sender.receiveUplink, ← own_eq]
        split
        · -- an immediate REG1 stamps the link
          have stamped := forall₂_set frame.refl
            (show (s.conns.set idx own)[idx]? = some own from List.getElem?_set_self inside)
            (stamp own (env.sends s.conns[idx].connId).now)
          rwa [List.set_set] at stamped
        · exact frame.same _
      simp only [Sender.handleUplinkPacket, empty, found, at_idx, Bool.false_eq_true, if_false]
      exact forall₂_trans frame.trans received
        (frame.processConnectionEvents idx _ _ _ env.classic _ env.eventsMs)

end FeedbackRelation

end SrtlaSend
