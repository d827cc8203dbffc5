import SrtlaSend.Properties.EventFrames
import SrtlaSend.Properties.LinkAccounting
import SrtlaSend.Properties.Reload
import SrtlaSend.Properties.Selection

/-!
# Sound links

What is claimed of one link under any order of its operations holds of every link of the bond
in every state of the sender: the place in its life, the accounting of its packets and its
window, and a positive quality. A reload adds new links, which are sound, and keeps the others.
-/

namespace SrtlaSend

open Runs Pointwise MachineInt SrtlaConnection

namespace SrtlaConnection

/-- What every link satisfies at any time. -/
structure LinkSound (c : SrtlaConnection) : Prop where
  lifecycle : c.Lifecycle
  accounting : c.Accounting
  quality : 0 < c.qualityCache.multiplier

theorem LinkSound.sound {c : SrtlaConnection} (sound : c.LinkSound) : c.Sound := by
  refine ⟨fun off => ?_, sound.accounting.window⟩
  by_cases waiting : c.phase = .registering
  · exact Or.inl waiting
  · have once := sound.lifecycle.established waiting
    exact Or.inr ⟨once, sound.lifecycle.lost off once⟩

/-! ### Accounting -/

/-- The write does not touch what the accounting is about. -/
def SameAccount (c c' : SrtlaConnection) : Prop :=
  (c'.inFlightPackets, c'.packetLog, c'.window, c'.probeLog, c'.highestAckedSeq,
      c'.batchSender.queue, c'.batchSender.sequences, c'.batchSender.queueTimes) =
    (c.inFlightPackets, c.packetLog, c.window, c.probeLog, c.highestAckedSeq, c.batchSender.queue,
      c.batchSender.sequences, c.batchSender.queueTimes)

theorem Accounting.of_same {c c' : SrtlaConnection} (h : c.Accounting) (same : SameAccount c c') :
    c'.Accounting := by
  simp only [SameAccount, Prod.mk.injEq] at same
  obtain ⟨inFlight, log, window, probes, acked, queue, sequences, times⟩ := same
  refine ⟨?_, ?_, ?_, ?_, ?_, ?_⟩
  · rw [inFlight, log]
    exact h.inFlight
  · rw [window]
    exact h.window
  · rw [probes]
    exact h.probes
  · rw [acked]
    exact h.acked
  · rw [sequences, queue]
    exact h.sequences
  · rw [times, queue]
    exact h.queueTimes

theorem sameAccount_of_phase {c c' : SrtlaConnection} (same : SameUpToPhase c c') :
    SameAccount c c' := by
  rw [same.frame]
  rfl

/-- Every write keeps the books. -/
theorem accounting_linkStep {c c' : SrtlaConnection} (step : LinkStep c c') (h : c.Accounting) :
    c'.Accounting := by
  cases step with
  | queueData data seq now => exact accounting_applyOp h (.queueDataPacket data seq now)
  | queueProbe data seq now => exact accounting_applyOp h (.queueProbePacket data seq now)
  | takeBatch now => exact accounting_takeBatch h now
  | recover => exact accounting_markForRecovery c
  | reset now => exact accounting_resetForReconnect c now
  | acceptReg3 now => exact accounting_applyOp h (.acceptReg3 now)
  | acceptRegErr => exact accounting_applyOp h .acceptRegErr
  | noteReceived now => exact accounting_noteReceived h now
  | srtAck ack now owns => exact accounting_handleSrtAck h ack now owns
  | srtlaAck seq classic now => exact accounting_handleSrtlaAckSpecific h seq classic now
  | srtlaAckGlobal => exact accounting_handleSrtlaAckGlobal h
  | nak seq now => exact accounting_handleNak h seq now
  | windowRecovery now => exact accounting_applyOp h (.performWindowRecovery now)
  | pass config _ frame =>
    refine h.of_same ?_
    rw [frame]
    simp only [withPass, withGates, withElection, refreshTimeouts]
    rfl
  | probeTurn =>
    refine h.of_same ?_
    simp only [stallProbeDue]
    split <;> rfl
  | keepaliveEcho data now =>
    exact h.of_same (sameAccount_of_phase (handleKeepaliveEcho_frame c data now))
  | updatePhase now => exact h.of_same (sameAccount_of_phase (updatePhase_frame c now))
  | _ => exact h.of_same rfl

/-! ### Life and quality -/

/-- The write keeps a link at a place in its life, and its quality positive. -/
structure KeepsLife (c c' : SrtlaConnection) : Prop where
  lifecycle : c.Lifecycle → c'.Lifecycle
  quality : 0 < c.qualityCache.multiplier → 0 < c'.qualityCache.multiplier

namespace KeepsLife

variable {c c' c'' : SrtlaConnection}

theorem refl (c : SrtlaConnection) : KeepsLife c c := ⟨id, id⟩

theorem trans (h : KeepsLife c c') (h' : KeepsLife c' c'') : KeepsLife c c'' :=
  ⟨h'.lifecycle ∘ h.lifecycle, h'.quality ∘ h.quality⟩

theorem of_same (life : SameLife c c') (quality : c'.qualityCache = c.qualityCache) :
    KeepsLife c c' :=
  ⟨fun sound => sound.of_sameLife life, fun positive => quality ▸ positive⟩

theorem of_off (life : TurnedOff c c') (quality : c'.qualityCache = c.qualityCache) :
    KeepsLife c c' :=
  ⟨fun _ => Lifecycle.of_turnedOff life, fun positive => quality ▸ positive⟩

end KeepsLife

theorem keepsLife_of_feedback {c c' : SrtlaConnection} (same : SameUpToFeedback c c') :
    KeepsLife c c' := by
  refine .of_same (sameLife_of_feedback same) ?_
  rw [same]
  rfl

theorem keepsLife_of_phase {c c' : SrtlaConnection} (same : SameUpToPhase c c') :
    KeepsLife c c' := by
  refine .of_same (sameLife_of_phase same) ?_
  rw [same.frame]
  rfl

/-- A selection pass renews the quality of a link from `calculate` or leaves it alone. -/
theorem keepsLife_select {calculate : SrtlaConnection → Nat → ℚ}
    (positive : ∀ c t, 0 < calculate c t) (conns : List SrtlaConnection) (lastIdx : Option Nat)
    (now : Nat) (config : ConfigSnapshot) :
    List.Forall₂ KeepsLife conns (selectConnectionIdx calculate conns lastIdx now config).1 := by
  have life : List.Forall₂ SameLife conns
      (selectConnectionIdx calculate conns lastIdx now config).1 :=
    (selectConnectionIdx_frame calculate conns lastIdx now config).imp fun _ _ => sameLife_pass
  have gated : List.Forall₂ (fun c c' => c'.qualityCache = c.qualityCache) conns
      (applyStallGate conns now config) :=
    (applyStallGate_frame conns now config).imp fun _ _ same => same.qualityCache
  have quality : List.Forall₂ (fun c c' => 0 < c.qualityCache.multiplier → 0 < c'.qualityCache.multiplier)
      conns (selectConnectionIdx calculate conns lastIdx now config).1 := by
    unfold selectConnectionIdx
    simp only
    split
    · -- classic mode has no use for the cache
      rw [List.forall₂_map_right_iff]
      exact gated.imp fun _ _ same positive => same ▸ positive
    · simp only [Enhanced.selectConnection, Enhanced.rankLinks, List.map_map]
      have prepared : List.Forall₂ (fun c c' => c'.qualityCache = c.qualityCache) conns
          (Enhanced.prepare (applyStallGate conns now config) now) :=
        forall₂_trans (fun _ _ _ same kept => kept.trans same) gated
          ((prepare_frame _ now).imp fun _ _ same => same.toGates.qualityCache)
      have scored (free enableQuality : Bool) (prepared : List SrtlaConnection) :
          List.Forall₂ (fun c c' => 0 < c.qualityCache.multiplier → 0 < c'.qualityCache.multiplier)
            prepared (prepared.map (Prod.fst ∘ Enhanced.scoreLink calculate now free enableQuality)) :=
        forall₂_map (fun c cached =>
          Enhanced.scoreLink_qualityCache_pos positive cached now free enableQuality) prepared
      exact forall₂_trans (fun _ _ _ same kept positive => kept (same ▸ positive)) prepared
        (scored _ _ _)
  exact (forall₂_and life quality).imp fun _ _ both =>
    ⟨fun sound => sound.of_sameLife both.1, both.2⟩

theorem keepsLife_noteReceived (c : SrtlaConnection) (now : Nat) : KeepsLife c (c.noteReceived now) := by
  refine ⟨fun sound => sound.noteReceived now, fun positive => ?_⟩
  simp only [SrtlaConnection.noteReceived]
  split
  · exact positive
  · exact positive

end SrtlaConnection

/-! ### Events -/

theorem keepsLife_traffic {calculate : SrtlaConnection → Nat → ℚ}
    (positive : ∀ c t, 0 < calculate c t) : TrafficRelation calculate KeepsLife where
  refl := KeepsLife.refl
  trans _ _ _ := KeepsLife.trans
  select := keepsLife_select positive
  queueData c data seq now := .of_same (sameLife_queueDataPacket c data seq now) rfl
  queueProbe c data seq now := .of_same (sameLife_queueProbePacket c data seq now) rfl
  probeTurn c := by
    simp only [stallProbeDue]
    split
    · exact .of_same ⟨rfl, Iff.rfl, rfl, rfl, rfl⟩ rfl
    · exact .of_same ⟨rfl, Iff.rfl, rfl, rfl, rfl⟩ rfl
  takeBatch c now := by
    have queue : KeepsLife c { c with batchSender := (c.batchSender.drain now).1 } :=
      .of_same ⟨rfl, Iff.rfl, rfl, rfl, rfl⟩ rfl
    exact queue.trans (keepsLife_of_feedback (takeBatch_frame c now))
  noteSent c now := .of_same (sameLife_noteSent c now) rfl
  recover c := .of_off (turnedOff_markForRecovery c) rfl

theorem keepsLife_feedback : FeedbackRelation KeepsLife :=
  .of_frame KeepsLife.refl (fun _ _ _ => KeepsLife.trans) fun _ _ => keepsLife_of_feedback

theorem keepsLife_pass (env : HousekeepingEnv) : PassRelation env KeepsLife where
  refl := KeepsLife.refl
  trans _ _ _ := KeepsLife.trans
  service c := by
    refine .of_same (sameLife_serviceUplink env c) ?_
    refine Sender.serviceUplink_invariant (P := fun d => d.qualityCache = c.qualityCache) env rfl
      (fun _ same => same) (fun _ same => same) (fun _ same => same) (fun d same => ?_)
      (fun _ same => same)
    rw [(updatePhase_frame d env.now).frame]
    exact same
  noteSent c := .of_same (sameLife_noteSent c env.now) rfl
  renewGrace _ _ := .of_same ⟨rfl, Iff.rfl, rfl, rfl, rfl⟩ rfl
  attempt c := .of_same (sameLife_recordReconnectAttempt c env.now) rfl
  recover c := .of_off (turnedOff_markForRecovery c) rfl
  reset c := .of_off (turnedOff_resetForReconnect c env.now) rfl

/-- The clock of a datagram from the receiver has started. -/
def Event.Timely : Event → Prop
  | .uplink _ _ env => 0 < env.now
  | _ => True

theorem quality_processUplinkPacket (hashOf : Bytes → Nat) (c : SrtlaConnection) (i : Nat)
    (reg : SrtlaRegistrationManager) (clientAddr : Option SocketAddr) (dedup : ClientDedup)
    (data : Bytes) (now : Nat) (positive : 0 < c.qualityCache.multiplier) :
    0 < (processUplinkPacket hashOf c i reg clientAddr dedup data now).conn.qualityCache.multiplier := by
  have heard := (keepsLife_noteReceived c now).quality positive
  rcases conn_processUplinkPacket hashOf c i reg clientAddr dedup data now with ⟨-, h⟩ |
    ⟨-, h | h | h | h⟩
  · -- a registration clears the cache, which then says 1
    rw [h]
    exact one_pos
  · rw [h]
    exact positive
  · rw [h]
    exact positive
  · rw [h]
    exact heard
  · rw [h]
    exact (keepsLife_of_phase (handleKeepaliveEcho_frame _ data now)).quality heard

/-- A datagram takes its link from one place in life to another. -/
theorem FrameEffect.lifecycle {i now : Nat} {bytes : Bytes} {c c' : SrtlaConnection}
    {r r' : SrtlaRegistrationManager} (effect : FrameEffect i bytes now c r c' r')
    (timely : 0 < now) (life : c.Lifecycle) : c'.Lifecycle := by
  cases effect with
  | quiet counters silent same =>
    rcases same with same | same
    · exact life.of_sameLife same
    · exact (life.noteReceived now).of_sameLife same
  | regNgp event => exact life
  | reg2 event => exact life
  | reg3 event granted => exact lifecycle_acceptReg3 c timely
  | regErr event inPhase =>
    -- the link goes down and forgets when it last heard from the receiver
    exact ⟨fun on => absurd on Bool.false_ne_true, fun on => absurd on Bool.false_ne_true,
      life.established, fun _ _ => rfl⟩

namespace Sender

theorem keepsLife_handleUplinkPacket (hashOf : Bytes → Nat) (s : Sender) (connId : Nat)
    (bytes : Bytes) {env : UplinkEnv} (timely : 0 < env.now) :
    List.Forall₂ KeepsLife s.conns (s.handleUplinkPacket hashOf connId bytes env).conns := by
  rcases keepsLife_feedback.handleUplinkPacket (fun c now => .of_same (sameLife_noteSent c now) rfl)
    hashOf s connId bytes env with ⟨same, -⟩ | ⟨idx, c, at_idx, -, fed⟩
  · rw [same]
    exact List.forall₂_same.mpr fun c _ => KeepsLife.refl c
  · -- its own link first, and then the feedback to all of them
    have own : KeepsLife c
        (processUplinkPacket hashOf c idx s.reg s.lastClientAddr s.dedup bytes env.now).conn :=
      ⟨(processUplinkPacket_effect hashOf c idx s.reg s.lastClientAddr s.dedup bytes
          env.now).lifecycle timely,
        quality_processUplinkPacket hashOf c idx s.reg s.lastClientAddr s.dedup bytes env.now⟩
    exact forall₂_trans keepsLife_feedback.trans (forall₂_set KeepsLife.refl at_idx own) fed

variable {ext : Externals} {s : Sender}

/-- Every event but a reload. -/
theorem keepsLife_step (positive : ∀ c t, 0 < ext.calculate c t) {e : Event} (timely : e.Timely)
    (other : ∀ env, e ≠ .reload env) : List.Forall₂ KeepsLife s.conns (s.step ext e).conns := by
  cases e with
  | data pkt src sends config criticalWindow now =>
    exact (keepsLife_traffic positive).handleSrtPacket s.toDataPath pkt src s.connIo sends
      s.reg.hasConnected config criticalWindow now
  | uplink connId bytes env => exact s.keepsLife_handleUplinkPacket ext.hashOf connId bytes timely
  | flush sends now => exact (keepsLife_traffic positive).flushAllBatches s.connIo sends now s.conns s.tracker
  | housekeeping env =>
    rw [step_housekeeping]
    exact (keepsLife_pass env).handleHousekeeping s
  | classify verdict =>
    exact List.forall₂_map_right_iff.mpr (List.forall₂_same.mpr fun c _ =>
      KeepsLife.of_same ⟨rfl, Iff.rfl, rfl, rfl, rfl⟩ rfl)
  | reload env => exact absurd rfl (other env)

/-- Every link is sound, and no two links have the same id. -/
structure BondSound (s : Sender) : Prop where
  links : ∀ c ∈ s.conns, c.LinkSound
  distinct : (s.conns.map (·.connId)).Nodup

theorem linkSound_of_steps {conns conns' : List SrtlaConnection} (sound : ∀ c ∈ conns, c.LinkSound)
    (steps : BondSteps conns conns') (life : List.Forall₂ KeepsLife conns conns') :
    ∀ c ∈ conns', c.LinkSound := by
  intro c' member
  obtain ⟨i, at_i⟩ := List.mem_iff_getElem?.mp member
  obtain ⟨c, found, moved, keeps⟩ := getElem?_of_forall₂_right (forall₂_and steps life) at_i
  have before := sound c (List.mem_of_getElem? found)
  exact ⟨keeps.lifecycle before.lifecycle,
    moved.invariant (fun _ _ => accounting_linkStep) before.accounting, keeps.quality before.quality⟩

theorem linkSound_newRegistering (connId : Nat) (label : String) (localIp : IpAddr) (now weight : Nat) :
    LinkSound { newRegistering connId label localIp now with linkWeight := weight } := by
  have life := lifecycle_newRegistering connId label localIp now
  have accounts := accounting_newRegistering connId label localIp now
  exact ⟨⟨life.phase, life.heard, life.established, life.lost⟩, accounts.of_same rfl, one_pos⟩

theorem BondSound.reload (sound : s.BondSound) {env : ReloadEnv}
    (fresh : s.drawsFreshIds (.reload env) = true) : (s.applyReload ext.showIp env).BondSound := by
  refine ⟨fun c' member => ?_, nodup_applyReload sound.distinct fresh⟩
  rw [conns_applyReload, List.mem_append, List.mem_map, List.mem_map] at member
  rcases member with ⟨c, kept, rfl⟩ | ⟨entry, -, rfl⟩
  -- a kept link changes its weight only
  · obtain ⟨life, accounts, quality⟩ := sound.links c (List.mem_filter.mp kept).1
    exact ⟨⟨life.phase, life.heard, life.established, life.lost⟩, accounts.of_same rfl, quality⟩
  · exact linkSound_newRegistering _ _ _ _ _

theorem BondSound.step (positive : ∀ c t, 0 < ext.calculate c t) (sound : s.BondSound) {e : Event}
    (timely : e.Timely) (fresh : s.drawsFreshIds e = true) : (s.step ext e).BondSound := by
  by_cases reloads : ∃ env, e = .reload env
  · obtain ⟨env, rfl⟩ := reloads
    exact sound.reload fresh
  · have other : ∀ env, e ≠ .reload env := fun env same => reloads ⟨env, same⟩
    have steps := bondSteps_step ext s other
    have ids : (s.step ext e).conns.map (·.connId) = s.conns.map (·.connId) :=
      steps.uplinks.connIds
    exact ⟨linkSound_of_steps sound.links steps (keepsLife_step positive timely other),
      ids ▸ sound.distinct⟩

theorem bondSound_start {conns : List SrtlaConnection} (sound : ∀ c ∈ conns, c.LinkSound)
    (distinct : (conns.map (·.connId)).Nodup) (connIo : ConnIoMap) (groupId probeId : SrtlaId)
    (rehomeEnabled : Bool) (now : Nat) :
    (start conns connIo groupId probeId rehomeEnabled now).BondSound := by
  have steps : BondSteps _ _ := (rebuild_linkSteps now).startProbing (.new groupId probeId) conns
  have life : List.Forall₂ KeepsLife conns
      (start conns connIo groupId probeId rehomeEnabled now).conns := by
    simp only [start, SrtlaRegistrationManager.startProbing]
    split
    · exact List.forall₂_same.mpr fun c _ => KeepsLife.refl c
    · rw [List.map_map]
      exact List.forall₂_map_right_iff.mpr (List.forall₂_same.mpr fun c _ =>
        KeepsLife.of_same ⟨rfl, Iff.rfl, rfl, rfl, rfl⟩ rfl)
  have ids : (start conns connIo groupId probeId rehomeEnabled now).conns.map (·.connId) =
      conns.map (·.connId) :=
    steps.uplinks.connIds
  exact ⟨linkSound_of_steps sound steps life, ids ▸ distinct⟩

theorem bondSound_startup {host : String} {port : Nat} {dial : Nat → IpAddr → Option Dialed}
    {ips : List IpAddr} {weights : List Nat} {groupId probeId : SrtlaId} {rehomeEnabled : Bool}
    {now : Nat}
    (started : startup ext host port dial ips weights groupId probeId rehomeEnabled now = some s)
    (distinct : (s.conns.map (·.connId)).Nodup) : s.BondSound := by
  have uplinks := (conns_startup started).2
  rw [uplinks.connIds] at distinct
  simp only [startup] at started
  split at started
  · cases started
  · obtain rfl := Option.some.inj started
    refine bondSound_start (fun c member => ?_) distinct _ _ _ _ _
    obtain ⟨entry, -, rfl⟩ := List.mem_map.mp member
    exact linkSound_newRegistering _ _ _ _ _

/-- The invariant of the bond, at every event of a run. -/
theorem bondSound_run (positive : ∀ c t, 0 < ext.calculate c t) (sound : s.BondSound)
    {es : List Event} (timely : ∀ e ∈ es, e.Timely)
    (fresh : EachStep (step ext) (fun s e => s.drawsFreshIds e = true) s es) :
    EachStep (step ext) (fun s _ => s.BondSound) s es ∧ (run (step ext) s es).BondSound := by
  have each : EachStep (step ext) (fun s e => s.drawsFreshIds e = true ∧ e.Timely) s es :=
    eachStep_of_history fun x member =>
      ⟨fresh.of_mem_history member, timely x.2 (mem_of_mem_history member)⟩
  have keeps : ∀ s e, BondSound s → s.drawsFreshIds e = true ∧ e.Timely → (s.step ext e).BondSound :=
    fun s e sound ok => sound.step positive ok.2 ok.1
  exact ⟨each.mono_of_invariant BondSound keeps (fun _ _ sound _ => sound) sound,
    each.invariant BondSound keeps sound⟩

end Sender

end SrtlaSend
