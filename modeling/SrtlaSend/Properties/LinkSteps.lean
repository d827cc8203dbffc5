import SrtlaSend.Properties.EventFrames
import Mathlib.Logic.Relation

/-!
# Everything that touches a link

`LinkStep` lists the primitive writes the sender makes to a link. Every event of
the loop but a reload takes each link of the bond through a number of them, so
that an invariant of the primitive writes is one of all runs.
-/

namespace SrtlaSend

open MachineInt Runs Pointwise SrtlaConnection

/-- One write to a link. -/
inductive LinkStep : SrtlaConnection → SrtlaConnection → Prop
  | queueData (c data seq now) : LinkStep c (queueDataPacket c data seq now).1
  | queueProbe (c data seq now) : LinkStep c (queueProbePacket c data seq now).1
  | probeTurn (c) : LinkStep c c.stallProbeDue.1
  | takeBatch (c now) : LinkStep c (c.takeBatch now).1
  | noteSent (c now) : LinkStep c (c.noteSent now)
  | recover (c) : LinkStep c c.markForRecovery
  | pass (c config c') (frame : SameUpToPass (c.refreshTimeouts config) c') : LinkStep c c'
  | verdict (c : SrtlaConnection) (v : LinkVerdict) :
      LinkStep c
        { c with
          weak := v.weak
          weakReason := v.weakReason
          ccBackingOff := v.ccBackingOff
          ccTargetBps := v.ccTargetBps
          lossDegraded := v.lossDegraded }
  | noteReceived (c now) : LinkStep c (c.noteReceived now)
  | keepaliveEcho (c data now) : LinkStep c (handleKeepaliveEcho c data now)
  | acceptReg3 (c now) : LinkStep c (c.acceptReg3 now)
  | acceptRegErr (c) : LinkStep c c.acceptRegErr
  | srtAck (c ack now owns) : LinkStep c (handleSrtAck c ack now owns)
  | srtlaAck (c seq classic now) : LinkStep c (handleSrtlaAckSpecific c seq classic now).1
  | srtlaAckGlobal (c) : LinkStep c c.handleSrtlaAckGlobal
  | nak (c seq now) : LinkStep c (handleNak c seq now).1
  | keepalive (c now) : LinkStep c (c.keepalivePacket now).1
  | windowRecovery (c now) : LinkStep c (c.performWindowRecovery now)
  | bitrate (c now) : LinkStep c (c.calculateBitrate now)
  | updatePhase (c now) : LinkStep c (c.updatePhase now)
  | batchRegime (c) : LinkStep c c.recomputeBatchRegime
  | renewGrace (c : SrtlaConnection) (deadline : Nat) :
      LinkStep c { c with reconnection.startupGraceDeadlineMs := deadline }
  | reconnectAttempt (c now) : LinkStep c (c.recordReconnectAttempt now)
  | reset (c now) : LinkStep c (c.resetForReconnect now)

/-- Any number of writes. -/
abbrev LinkSteps : SrtlaConnection → SrtlaConnection → Prop := Relation.ReflTransGen LinkStep

/-- Every link of the bond after any number of writes. -/
abbrev BondSteps (conns conns' : List SrtlaConnection) : Prop := List.Forall₂ LinkSteps conns conns'

theorem LinkSteps.refl (c : SrtlaConnection) : LinkSteps c c := Relation.ReflTransGen.refl

theorem LinkSteps.trans (a b c : SrtlaConnection) (h : LinkSteps a b) (h' : LinkSteps b c) :
    LinkSteps a c := Relation.ReflTransGen.trans h h'

theorem LinkStep.steps {c c' : SrtlaConnection} (h : LinkStep c c') : LinkSteps c c' :=
  Relation.ReflTransGen.single h

theorem BondSteps.refl (conns : List SrtlaConnection) : BondSteps conns conns :=
  List.forall₂_same.mpr fun c _ => LinkSteps.refl c

theorem BondSteps.trans {conns conns' conns'' : List SrtlaConnection} (h : BondSteps conns conns')
    (h' : BondSteps conns' conns'') : BondSteps conns conns'' :=
  forall₂_trans LinkSteps.trans h h'

/-- What every write keeps, any number of them keeps. -/
theorem LinkSteps.invariant {P : SrtlaConnection → Prop}
    (keeps : ∀ c c', LinkStep c c' → P c → P c') {c c' : SrtlaConnection} (steps : LinkSteps c c')
    (init : P c) : P c' := by
  induction steps with
  | refl => exact init
  | tail _ last ih => exact keeps _ _ last ih

/-- A relation that holds across every write holds across any number of them. -/
theorem LinkSteps.related {R : SrtlaConnection → SrtlaConnection → Prop} (refl : ∀ c, R c c)
    (trans : ∀ a b c, R a b → R b c → R a c) (each : ∀ c c', LinkStep c c' → R c c')
    {c c' : SrtlaConnection} (steps : LinkSteps c c') : R c c' := by
  induction steps with
  | refl => exact refl c
  | tail _ last ih => exact trans _ _ _ ih (each _ _ last)

/-! ### The events of the loop -/

theorem feedback_linkSteps : FeedbackRelation LinkSteps where
  refl := LinkSteps.refl
  trans := LinkSteps.trans
  srtAck c ack now owns := (LinkStep.srtAck c ack now owns).steps
  srtlaAck c seq classic now := (LinkStep.srtlaAck c seq classic now).steps
  srtlaAckGlobal c := (LinkStep.srtlaAckGlobal c).steps
  nak c seq now := (LinkStep.nak c seq now).steps

theorem queue_linkSteps : QueueRelation LinkSteps where
  refl := LinkSteps.refl
  trans := LinkSteps.trans
  queueData c data seq now := (LinkStep.queueData c data seq now).steps
  queueProbe c data seq now := (LinkStep.queueProbe c data seq now).steps
  probeTurn c := (LinkStep.probeTurn c).steps
  takeBatch c now := (LinkStep.takeBatch c now).steps
  noteSent c now := (LinkStep.noteSent c now).steps
  recover c := (LinkStep.recover c).steps

theorem traffic_linkSteps (calculate : SrtlaConnection → Nat → ℚ) :
    TrafficRelation calculate LinkSteps where
  toQueueRelation := queue_linkSteps
  select conns lastIdx now config :=
    (selectConnectionIdx_frame calculate conns lastIdx now config).imp
      fun c c' same => (LinkStep.pass c config c' same).steps

theorem rebuild_linkSteps (now : Nat) : RebuildRelation now LinkSteps where
  refl := LinkSteps.refl
  trans := LinkSteps.trans
  renewGrace c deadline := (LinkStep.renewGrace c deadline).steps
  recover c := (LinkStep.recover c).steps
  reset c := (LinkStep.reset c now).steps

theorem pass_linkSteps (env : HousekeepingEnv) : PassRelation env LinkSteps where
  toRebuildRelation := rebuild_linkSteps env.now
  service c :=
    Sender.serviceUplink_invariant env (LinkSteps.refl c)
      (fun d steps => steps.tail (.keepalive d env.now))
      (fun d steps => steps.tail (.windowRecovery d env.now))
      (fun d steps => steps.tail (.bitrate d env.now))
      (fun d steps => steps.tail (.updatePhase d env.now))
      (fun d steps => steps.tail (.batchRegime d))
  noteSent c := (LinkStep.noteSent c env.now).steps
  attempt c := (LinkStep.reconnectAttempt c env.now).steps

namespace Sender

theorem linkSteps_processUplinkPacket (hashOf : Bytes → Nat) (c : SrtlaConnection) (i : Nat)
    (reg : SrtlaRegistrationManager) (clientAddr : Option SocketAddr) (dedup : ClientDedup)
    (data : Bytes) (now : Nat) :
    LinkSteps c (processUplinkPacket hashOf c i reg clientAddr dedup data now).conn := by
  rcases conn_processUplinkPacket hashOf c i reg clientAddr dedup data now with
    ⟨-, h⟩ | ⟨-, h | h | h | h⟩
  · rw [h]
    exact (LinkStep.acceptReg3 c now).steps
  · rw [h]
  · rw [h]
    exact (LinkStep.acceptRegErr c).steps
  · rw [h]
    exact (LinkStep.noteReceived c now).steps
  · rw [h]
    exact (LinkStep.noteReceived c now).steps.tail (.keepaliveEcho _ data now)

theorem bondSteps_receiveUplink (hashOf : Bytes → Nat) (s : Sender) {i : Nat} {c : SrtlaConnection}
    (at_i : s.conns[i]? = some c) (bytes : Bytes) (env : UplinkEnv) :
    BondSteps s.conns (s.receiveUplink hashOf i c bytes env).1.conns := by
  have received := linkSteps_processUplinkPacket hashOf c i s.reg s.lastClientAddr s.dedup bytes env.now
  simp only [receiveUplink]
  split
  · exact forall₂_set LinkSteps.refl at_i (received.tail (.noteSent _ _))
  · exact forall₂_set LinkSteps.refl at_i received

theorem bondSteps_handleUplinkPacket (hashOf : Bytes → Nat) (s : Sender) (connId : Nat)
    (bytes : Bytes) (env : UplinkEnv) :
    BondSteps s.conns (s.handleUplinkPacket hashOf connId bytes env).conns := by
  rcases feedback_linkSteps.handleUplinkPacket (fun c now => (LinkStep.noteSent c now).steps) hashOf s
    connId bytes env with ⟨same, -⟩ | ⟨idx, c, at_idx, -, rest⟩
  · rw [same]
    exact BondSteps.refl _
  · have received := linkSteps_processUplinkPacket hashOf c idx s.reg s.lastClientAddr s.dedup bytes
      env.now
    exact BondSteps.trans (forall₂_set LinkSteps.refl at_idx received) rest

/-- Every event but a reload takes the links through writes of `LinkStep`. -/
theorem bondSteps_step (ext : Externals) (s : Sender) {e : Event} (other : ∀ env, e ≠ .reload env) :
    BondSteps s.conns (s.step ext e).conns := by
  cases e with
  | data pkt src sends config criticalWindow now => exact (traffic_linkSteps _).handleSrtPacket ..
  | uplink connId bytes env => exact bondSteps_handleUplinkPacket ext.hashOf s connId bytes env
  | flush sends now => exact queue_linkSteps.flushAllBatches s.connIo sends now s.conns s.tracker
  | housekeeping env =>
    rw [step_housekeeping]
    exact (pass_linkSteps env).handleHousekeeping s
  | classify verdict =>
    exact forall₂_map (fun c => (LinkStep.verdict c (verdict c.connId)).steps) s.conns
  | reload env => exact absurd rfl (other env)

end Sender

/-! ### The memory of the selector -/

/-- What the selector remembers of a link from one pass to the next is the same. -/
structure SameMemory (c c' : SrtlaConnection) : Prop where
  soleCarrier : c'.soleCarrier = c.soleCarrier
  soleCarrierSinceMs : c'.soleCarrierSinceMs = c.soleCarrierSinceMs
  stallLatchedSinceMs : c'.stallLatchedSinceMs = c.stallLatchedSinceMs
  stallRecoverySinceMs : c'.stallRecoverySinceMs = c.stallRecoverySinceMs
  stallReleasedAtMs : c'.stallReleasedAtMs = c.stallReleasedAtMs
  stallRejoinBackoff : c'.stallRejoinBackoff = c.stallRejoinBackoff
  stallGateEvents : c'.stallGateEvents = c.stallGateEvents

theorem SameMemory.refl (c : SrtlaConnection) : SameMemory c c := ⟨rfl, rfl, rfl, rfl, rfl, rfl, rfl⟩

theorem SameMemory.trans {a b c : SrtlaConnection} (h : SameMemory a b) (h' : SameMemory b c) :
    SameMemory a c :=
  ⟨h'.soleCarrier.trans h.soleCarrier, h'.soleCarrierSinceMs.trans h.soleCarrierSinceMs,
    h'.stallLatchedSinceMs.trans h.stallLatchedSinceMs,
    h'.stallRecoverySinceMs.trans h.stallRecoverySinceMs,
    h'.stallReleasedAtMs.trans h.stallReleasedAtMs, h'.stallRejoinBackoff.trans h.stallRejoinBackoff,
    h'.stallGateEvents.trans h.stallGateEvents⟩

theorem sameMemory_of_feedback {c c' : SrtlaConnection} (same : SameUpToFeedback c c') :
    SameMemory c c' := by
  rw [same]
  exact ⟨rfl, rfl, rfl, rfl, rfl, rfl, rfl⟩

theorem sameMemory_of_phase {c c' : SrtlaConnection} (same : SameUpToPhase c c') :
    SameMemory c c' := by
  rw [same.frame]
  exact ⟨rfl, rfl, rfl, rfl, rfl, rfl, rfl⟩

theorem sameMemory_takeBatch (c : SrtlaConnection) (now : Nat) : SameMemory c (c.takeBatch now).1 := by
  have queue : SameMemory c { c with batchSender := (c.batchSender.drain now).1 } :=
    ⟨rfl, rfl, rfl, rfl, rfl, rfl, rfl⟩
  exact queue.trans (sameMemory_of_feedback (takeBatch_frame c now))

/-- The link is left to recover, or starts again with a new socket. -/
def IsReset (c c' : SrtlaConnection) : Prop :=
  c' = c.markForRecovery ∨ ∃ now, c' = c.resetForReconnect now

/-- The selector's memory of a link is written by a selection pass or a reset. -/
theorem sameMemory_linkStep {c c' : SrtlaConnection} (step : LinkStep c c') :
    (∃ config, SameUpToPass (c.refreshTimeouts config) c') ∨ IsReset c c' ∨ SameMemory c c' := by
  cases step with
  | pass config _ frame => exact Or.inl ⟨config, frame⟩
  | recover => exact Or.inr (Or.inl (Or.inl rfl))
  | reset now => exact Or.inr (Or.inl (Or.inr ⟨now, rfl⟩))
  | takeBatch now => exact Or.inr (Or.inr (sameMemory_takeBatch c now))
  | updatePhase now => exact Or.inr (Or.inr (sameMemory_of_phase (updatePhase_frame c now)))
  | keepaliveEcho data now =>
    exact Or.inr (Or.inr (sameMemory_of_phase (handleKeepaliveEcho_frame c data now)))
  | probeTurn =>
    refine Or.inr (Or.inr ?_)
    simp only [stallProbeDue]
    split <;> exact ⟨rfl, rfl, rfl, rfl, rfl, rfl, rfl⟩
  | noteReceived now =>
    refine Or.inr (Or.inr ?_)
    simp only [noteReceived]
    split <;> exact ⟨rfl, rfl, rfl, rfl, rfl, rfl, rfl⟩
  | srtAck ack now owns =>
    exact Or.inr (Or.inr (sameMemory_of_feedback (handleSrtAck_frame c ack now owns)))
  | srtlaAck seq classic now =>
    exact Or.inr (Or.inr (sameMemory_of_feedback (handleSrtlaAckSpecific_frame c seq classic now)))
  | srtlaAckGlobal =>
    exact Or.inr (Or.inr (sameMemory_of_feedback (handleSrtlaAckGlobal_frame c)))
  | nak seq now => exact Or.inr (Or.inr (sameMemory_of_feedback (handleNak_frame c seq now)))
  | _ => exact Or.inr (Or.inr ⟨rfl, rfl, rfl, rfl, rfl, rfl, rfl⟩)

/-- A write that is neither a selection pass nor a reset. -/
structure QuietStep (c c' : SrtlaConnection) : Prop where
  write : LinkStep c c'
  noPass : ∀ config, ¬ SameUpToPass (c.refreshTimeouts config) c'
  noReset : ¬ IsReset c c'

/-- What the links see between two selection passes, as long as none is reset. -/
abbrev QuietSteps : SrtlaConnection → SrtlaConnection → Prop := Relation.ReflTransGen QuietStep

/-- The selector finds its memory of a link as the last pass left it. -/
theorem sameMemory_of_quiet {c c' : SrtlaConnection} (steps : QuietSteps c c') : SameMemory c c' := by
  induction steps with
  | refl => exact SameMemory.refl c
  | tail _ last ih =>
    rcases sameMemory_linkStep last.write with ⟨config, pass⟩ | reset | same
    · exact absurd pass (last.noPass config)
    · exact absurd reset last.noReset
    · exact ih.trans same

end SrtlaSend
