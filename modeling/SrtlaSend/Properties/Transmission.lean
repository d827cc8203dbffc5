import SrtlaSend.Lib.ResetQueue
import SrtlaSend.Properties.EventFrames
import SrtlaSend.Properties.LinkQueues
import SrtlaSend.Properties.Reload

/-!
# The way to the receiver

This module follows the datagrams of the client through the queues over whole runs. Each is
queued once as it came in, every other copy is a probe marked as a retransmission, and what
leaves a queue leaves it in order, none twice. A queue is dropped with its link only: when the
receiver registers the link anew, when a pass gives it up and when a reload takes it out.
-/

namespace SrtlaSend

open Runs Pointwise ResetQueue SrtlaConnection

/-! ### Copies of a datagram -/

/-- At most one copy as it came in; the others, each on another link, are marked as
retransmissions. -/
def CopiedOnce (pkt : Bytes) (copies : List QueuedCopy) : Prop :=
  copies = [] ∨ ∃ unique probes, copies = ⟨unique, pkt⟩ :: probes ∧
    (copies.map (·.connId)).Nodup ∧ ∀ probe ∈ probes, probe.bytes = setSrtDataRetransmit pkt

section Copies

variable (pkt : Bytes) (connIo : ConnIoMap) (sends : Sends) (packetTimeMs : Nat)

theorem copies_probeTraffic (probeSeq : Nat) (c : SrtlaConnection) :
    let traffic := DataPath.probeTraffic pkt probeSeq connIo sends packetTimeMs c
    traffic.copies = [] ∨ traffic.copies = [⟨c.connId, setSrtDataRetransmit pkt⟩] := by
  simp only [DataPath.probeTraffic]
  split
  · rw [(sameQueue_stallProbeDue c).connId]
    exact Or.inr rfl
  · exact Or.inl rfl

/-- The probes go to held-out links from position `i` on, one each, and none to the selected one. -/
theorem copies_probesTraffic (selIdx probeSeq i : Nat) (conns : List SrtlaConnection) :
    let probes := (DataPath.probesTraffic selIdx pkt probeSeq connIo sends packetTimeMs i conns).copies
    (∀ probe ∈ probes, probe.bytes = setSrtDataRetransmit pkt ∧
        ∃ j c, i + j ≠ selIdx ∧ conns[j]? = some c ∧ DataPath.isProbed c = true ∧
          c.connId = probe.connId) ∧
      (probes.map (·.connId)).Sublist (conns.map (·.connId)) := by
  induction conns generalizing i with
  | nil => exact ⟨List.forall_mem_nil _, List.Sublist.refl []⟩
  | cons c rest ih =>
    obtain ⟨marked, part⟩ := ih (i + 1)
    -- a position in the rest is one further on in the whole
    have later : ∀ probe ∈ (DataPath.probesTraffic selIdx pkt probeSeq connIo sends packetTimeMs
        (i + 1) rest).copies, probe.bytes = setSrtDataRetransmit pkt ∧
          ∃ j d, i + j ≠ selIdx ∧ (c :: rest)[j]? = some d ∧ DataPath.isProbed d = true ∧
            d.connId = probe.connId := by
      intro probe member
      obtain ⟨bytes, j, d, other, at_j, held, on⟩ := marked probe member
      exact ⟨bytes, j + 1, d, by omega, at_j, held, on⟩
    simp only [DataPath.probesTraffic]
    split
    case isTrue held =>
      rcases copies_probeTraffic pkt connIo sends packetTimeMs probeSeq c with none_due | due
      · rw [Traffic.copies_append, none_due, List.nil_append]
        exact ⟨later, part.cons c.connId⟩
      · rw [Traffic.copies_append, due, List.singleton_append]
        refine ⟨List.forall_mem_cons.mpr ⟨⟨rfl, 0, c, held.1, rfl, held.2, rfl⟩, later⟩, ?_⟩
        exact part.cons_cons c.connId
    case isFalse =>
      rw [Traffic.empty_append]
      exact ⟨later, part.cons c.connId⟩

theorem copiedOnce_forwardTraffic (s : DataPath) (selIdx : Nat) (seq : Option Nat) :
    CopiedOnce pkt (s.forwardTraffic selIdx pkt seq connIo sends packetTimeMs).copies := by
  simp only [DataPath.forwardTraffic]
  cases s.conns[selIdx]? with
  | none => exact Or.inl rfl
  | some c => exact Or.inr ⟨c.connId, [], rfl, List.nodup_singleton _, List.forall_mem_nil _⟩

/-- The unique copy on the selected link, and probes on other links that are held out. -/
theorem copies_deliverTraffic {s : DataPath} (distinct : (s.conns.map (·.connId)).Nodup)
    {selIdx : Nat} {c : SrtlaConnection} (at_sel : s.conns[selIdx]? = some c) :
    ∃ probes, (s.deliverTraffic selIdx pkt connIo sends packetTimeMs).copies = ⟨c.connId, pkt⟩ :: probes ∧
      (probes.map (·.connId)).Sublist (s.conns.map (·.connId)) ∧
      ∀ probe ∈ probes, probe.bytes = setSrtDataRetransmit pkt ∧ probe.connId ≠ c.connId ∧
        ∃ d ∈ s.conns, DataPath.isProbed d = true ∧ d.connId = probe.connId := by
  cases numbered : getSrtSequenceNumber pkt with
  | none =>
    refine ⟨[], ?_, List.nil_sublist _, List.forall_mem_nil _⟩
    simp only [DataPath.deliverTraffic, DataPath.forwardTraffic, numbered, at_sel]
  | some probeSeq =>
    set forwarded := s.forwardViaConnection selIdx pkt (some probeSeq) connIo sends packetTimeMs
    have unique : (s.forwardTraffic selIdx pkt (some probeSeq) connIo sends packetTimeMs).copies =
        [⟨c.connId, pkt⟩] := by
      simp only [DataPath.forwardTraffic, at_sel]
    have uplinks : forwarded.conns.map (·.connId) = s.conns.map (·.connId) :=
      (BondSteps.uplinks (queue_linkSteps.forwardViaConnection s selIdx pkt (some probeSeq) connIo sends
        packetTimeMs)).connIds
    have others {j : Nat} (other : j ≠ selIdx) : forwarded.conns[j]? = s.conns[j]? := by
      simp only [forwarded, DataPath.forwardViaConnection, at_sel]
      exact List.getElem?_set_ne other.symm
    obtain ⟨marked, part⟩ := copies_probesTraffic pkt connIo sends packetTimeMs selIdx probeSeq 0
      forwarded.conns
    refine ⟨_, by simp only [DataPath.deliverTraffic, numbered, Traffic.copies_append, unique]; rfl,
      uplinks ▸ part, fun probe member => ?_⟩
    obtain ⟨bytes, j, d, other, at_j, held, on⟩ := marked probe member
    rw [Nat.zero_add] at other
    rw [others other] at at_j
    refine ⟨bytes, ?_, d, List.mem_of_getElem? at_j, held, on⟩
    -- a probe on the selected link would be a second link of that id
    rw [← on]
    exact DataPath.connId_ne distinct at_sel at_j other

theorem copiedOnce_deliverTraffic {s : DataPath} (distinct : (s.conns.map (·.connId)).Nodup)
    {selIdx : Nat} (inside : selIdx < s.conns.length) :
    CopiedOnce pkt (s.deliverTraffic selIdx pkt connIo sends packetTimeMs).copies := by
  obtain ⟨probes, copies, part, marked⟩ := copies_deliverTraffic pkt connIo sends packetTimeMs distinct
    (List.getElem?_eq_getElem inside)
  rw [copies]
  refine Or.inr ⟨_, probes, rfl, List.nodup_cons.mpr ⟨?_, part.nodup distinct⟩, fun probe member =>
    (marked probe member).1⟩
  intro again
  obtain ⟨probe, member, same⟩ := List.mem_map.mp again
  exact (marked probe member).2.1 same

/-- The scheduler's choice and the override both name a link of the bond. -/
theorem routePacket_inside {calculate : SrtlaConnection → Nat → ℚ} {s : DataPath}
    {config : ConfigSnapshot} {criticalWindow : CriticalWindow} {i : Nat}
    (chosen : (s.routePacket calculate pkt packetTimeMs config criticalWindow).2 = some i) :
    i < (s.routePacket calculate pkt packetTimeMs config criticalWindow).1.length := by
  rcases DataPath.routePacket_cases chosen with scheduled | best
  · obtain ⟨c, at_i, -⟩ := selectConnectionIdx_admitted scheduled
    exact (List.getElem?_eq_some_iff.mp at_i).1
  · obtain ⟨c, at_i, -⟩ := Priority.isEligible_of_selectBestQualityIdx best
    exact (List.getElem?_eq_some_iff.mp at_i).1

theorem copiedOnce_clientTraffic (calculate : SrtlaConnection → Nat → ℚ) {s : DataPath}
    (distinct : (s.conns.map (·.connId)).Nodup) (registrationComplete : Bool)
    (config : ConfigSnapshot) (criticalWindow : CriticalWindow) :
    CopiedOnce pkt (s.clientTraffic calculate pkt connIo sends registrationComplete config
      criticalWindow packetTimeMs).copies := by
  simp only [DataPath.clientTraffic]
  split
  · exact Or.inl rfl
  · split
    · cases selectPreRegistrationConnection s.conns s.lastSelectedIdx packetTimeMs with
      | none => exact Or.inl rfl
      | some selIdx => exact copiedOnce_forwardTraffic pkt connIo sends packetTimeMs s selIdx _
    · have ids := DataPath.routePacket_connIds calculate s pkt packetTimeMs config criticalWindow
      cases chosen : (s.routePacket calculate pkt packetTimeMs config criticalWindow).2 with
      | none => exact Or.inl rfl
      | some selIdx =>
        exact copiedOnce_deliverTraffic pkt connIo sends packetTimeMs
          (s := { s with conns := (s.routePacket calculate pkt packetTimeMs config criticalWindow).1 })
          (ids ▸ distinct) (routePacket_inside pkt packetTimeMs chosen)

end Copies

/-! ### Events -/

namespace Sender

/-- What waits on the uplink `id`. -/
def waitingOn (s : Sender) (id : Nat) : List Bytes :=
  ((s.conns.find? fun c => decide (c.connId = id)).map waiting).getD []

def upOn (s : Sender) (id : Nat) : Bool := s.conns.any fun c => decide (c.connId = id) && c.connected

variable (ext : Externals)

/-- The queue of the uplink may be dropped: the receiver registers it anew, a pass leaves it
down, or a reload takes it out. -/
def mayDrop (s : Sender) (id : Nat) (e : Event) : Bool :=
  match e with
  | .uplink _ _ _ =>
    match s.report e with
    | some (i, .reg3) => decide (s.idAt i = some id)
    | _ => false
  | .housekeeping _ => !(s.step ext e).upOn id
  | .reload _ => !(s.step ext e).conns.any fun c => decide (c.connId = id)
  | _ => false

/-- An event as seen from the queue of the uplink `id`. -/
def queueTurn (id : Nat) (s : Sender) (e : Event) : Turn Bytes :=
  { accepted := (s.traffic ext e).copiesOn id
    given := ((s.traffic ext e).batchesOn id).flatMap (·.datagrams)
    reset := s.mayDrop ext id e }

variable {ext} {s : Sender}

/-- Across `BondMoves` the queue of each uplink loses nothing. -/
theorem moves_of_bondMoves {conns' : List SrtlaConnection} {t : Traffic}
    (moves : BondMoves s.conns t conns') (id : Nat) :
    (t.batchesOn id).flatMap (·.datagrams) ++
        ((conns'.find? fun c => decide (c.connId = id)).map waiting).getD [] =
      s.waitingOn id ++ t.copiesOn id := by
  rw [waitingOn]
  rcases find?_of_forall₂ (p := fun c => decide (c.connId = id))
    (fun c c' link => by rw [link.connId]) moves.links with ⟨missing, missing'⟩ | ⟨c, c', found, found', link⟩
  · -- no link of this id, and no traffic on it
    have elsewhere : id ∉ s.conns.map (·.connId) := by
      intro here
      obtain ⟨c, member, same⟩ := List.mem_map.mp here
      exact absurd (decide_eq_true same) (List.find?_eq_none.mp missing c member)
    obtain ⟨copies, batches⟩ := moves.within.nothingOn elsewhere
    rw [missing, missing', copies, batches]
    rfl
  · obtain rfl : c.connId = id := by simpa using List.find?_some found
    rw [found, found']
    exact link.conserved

theorem waitingOn_of_same {conns' : List SrtlaConnection}
    (same : List.Forall₂ SameQueue s.conns conns') (id : Nat) :
    ((conns'.find? fun c => decide (c.connId = id)).map waiting).getD [] = s.waitingOn id := by
  have moved := moves_of_bondMoves (BondMoves.of_same same) id
  rwa [show ({} : Traffic).copiesOn id = [] from rfl, List.append_nil] at moved

/-- Across `R`, which respects ids, an uplink is in the bond before and after or neither. -/
theorem waitingOn_of_forall₂ {R : SrtlaConnection → SrtlaConnection → Prop}
    (respects : ∀ c c', R c c' → c'.connId = c.connId) (s s' : Sender)
    (related : List.Forall₂ R s.conns s'.conns) (id : Nat) :
    s'.waitingOn id = s.waitingOn id ∨
      ∃ c c', c' ∈ s'.conns ∧ c.connId = id ∧ R c c' ∧
        s.waitingOn id = c.waiting ∧ s'.waitingOn id = c'.waiting := by
  simp only [waitingOn]
  rcases find?_of_forall₂ (p := fun c => decide (c.connId = id))
    (fun c c' link => by rw [respects c c' link]) related with
    ⟨missing, missing'⟩ | ⟨c, c', found, found', link⟩
  · rw [missing, missing']
    exact Or.inl rfl
  · rw [found, found']
    have here : c.connId = id := by simpa using List.find?_some found
    exact Or.inr ⟨c, c', List.mem_of_find?_eq_some found', here, link, rfl, rfl⟩

/-- The queue is as it was, or it was dropped in a step that may drop it. -/
def KeptOrDropped (s : Sender) (id : Nat) (dropping : Bool) (s' : Sender) : Prop :=
  s'.waitingOn id = s.waitingOn id ∨ s'.waitingOn id = [] ∧ dropping = true

theorem KeptOrDropped.moves {ext : Externals} {id : Nat} {e : Event}
    (kept : s.KeptOrDropped id (s.mayDrop ext id e) (s.step ext e)) (idle : s.traffic ext e = {}) :
    Moves (s.waitingOn id) (queueTurn ext id s e) ((s.step ext e).waitingOn id) := by
  have accepted : (queueTurn ext id s e).accepted = [] := by rw [queueTurn, idle]; rfl
  have given : (queueTurn ext id s e).given = [] := by rw [queueTurn, idle]; rfl
  rcases kept with same | ⟨dropped, reset⟩
  · exact .idle accepted given same
  · rw [dropped]
    refine .dropped reset ?_
    rw [given]
    exact List.nil_sublist _

/-- A datagram from the receiver leaves the queue of its link alone, unless it registers it. -/
theorem waiting_processUplinkPacket (hashOf : Bytes → Nat) (c : SrtlaConnection) (i : Nat)
    (reg : SrtlaRegistrationManager) (clientAddr : Option SocketAddr) (dedup : ClientDedup)
    (data : Bytes) (now : Nat) :
    let c' := (processUplinkPacket hashOf c i reg clientAddr dedup data now).conn
    c'.connId = c.connId ∧ (c'.waiting = c.waiting ∨
      (reg.processRegistrationPacket i data now).2 = some .reg3 ∧ c'.waiting = []) := by
  have heard := sameQueue_noteReceived c now
  have echoed := heard.trans (sameQueue_of_phase (handleKeepaliveEcho_frame _ data now))
  intro c'
  rcases conn_processUplinkPacket hashOf c i reg clientAddr dedup data now with ⟨event, h⟩ |
    ⟨-, h | h | h | h⟩
  · rw [show c' = c.acceptReg3 now from h]
    exact ⟨rfl, Or.inr ⟨event, rfl⟩⟩
  · rw [show c' = c from h]
    exact ⟨rfl, Or.inl rfl⟩
  · rw [show c' = c.acceptRegErr from h]
    exact ⟨rfl, Or.inl rfl⟩
  · rw [show c' = c.noteReceived now from h]
    exact ⟨heard.connId, Or.inl heard.queue⟩
  · rw [show c' = (c.noteReceived now).handleKeepaliveEcho data now from h]
    exact ⟨echoed.connId, Or.inl echoed.queue⟩

theorem feedback_sameQueue : FeedbackRelation SameQueue :=
  .of_frame SameQueue.refl (fun _ _ _ => SameQueue.trans) fun _ _ => sameQueue_of_feedback

theorem keptOrDropped_uplink (ext : Externals) (s : Sender) (connId : Nat) (bytes : Bytes)
    (env : UplinkEnv) (id : Nat) :
    s.KeptOrDropped id (s.mayDrop ext id (.uplink connId bytes env))
      (s.step ext (.uplink connId bytes env)) := by
  rw [step_uplink]
  rcases feedback_sameQueue.handleUplinkPacket (fun _ _ => ⟨rfl, rfl, rfl, rfl, rfl⟩) ext.hashOf s
    connId bytes env with ⟨same, -⟩ | ⟨i, d, at_i, reported, fed⟩
  · refine Or.inl ?_
    rw [waitingOn, same]
    rfl
  · -- its own link may be registered, and the feedback drops no queue
    let R (c c' : SrtlaConnection) : Prop := c'.connId = c.connId ∧
      (c'.waiting = c.waiting ∨
        (s.reg.processRegistrationPacket i bytes env.now).2 = some .reg3 ∧ s.idAt i = some c.connId ∧
          c'.waiting = [])
    have own : R d
        (processUplinkPacket ext.hashOf d i s.reg s.lastClientAddr s.dedup bytes env.now).conn := by
      obtain ⟨connId, queue⟩ := waiting_processUplinkPacket ext.hashOf d i s.reg s.lastClientAddr
        s.dedup bytes env.now
      exact ⟨connId, queue.imp_right fun dropped => ⟨dropped.1, by simp [idAt, at_i], dropped.2⟩⟩
    have composed (a b c : SrtlaConnection) (h : R a b) (h' : SameQueue b c) : R a c := by
      refine ⟨h'.connId.trans h.1, h.2.imp ?_ ?_⟩
      · exact fun kept => h'.queue.trans kept
      · exact fun dropped => ⟨dropped.1, dropped.2.1, h'.queue.trans dropped.2.2⟩
    have handled : List.Forall₂ R s.conns (s.handleUplinkPacket ext.hashOf connId bytes env).conns :=
      forall₂_trans composed (forall₂_set (fun _ => ⟨rfl, Or.inl rfl⟩) at_i own) fed
    rcases waitingOn_of_forall₂ (fun _ _ related => related.1) s _ handled id with
      kept | ⟨c, c', -, here, related, before, after⟩
    · exact Or.inl kept
    · rw [KeptOrDropped, before, after]
      refine related.2.imp_right fun registered => ?_
      obtain ⟨event, at_id, dropped⟩ := registered
      refine ⟨dropped, ?_⟩
      rw [event, Option.map_some] at reported
      rw [mayDrop, reported]
      exact decide_eq_true (here ▸ at_id)

/-- The queue as it was, on a link not newly up, or an empty one on a link that is down. -/
def KeptOrDown (c c' : SrtlaConnection) : Prop :=
  c'.connId = c.connId ∧ (c'.waiting = c.waiting ∧ c'.connected = c.connected ∨
    c'.waiting = [] ∧ c'.connected = false)

theorem keptOrDown_of_same {c c' : SrtlaConnection} (same : SameQueue c c') : KeptOrDown c c' :=
  ⟨same.connId, Or.inl ⟨same.queue, same.connected⟩⟩

theorem pass_keptOrDown (env : HousekeepingEnv) : PassRelation env KeptOrDown where
  refl c := keptOrDown_of_same (SameQueue.refl c)
  trans a b c := by
    rintro ⟨id, first⟩ ⟨id', second⟩
    refine ⟨id'.trans id, ?_⟩
    rcases second with ⟨kept, up⟩ | down
    · rw [kept, up]
      exact first
    · exact Or.inr down
  service c := keptOrDown_of_same (sameQueue_serviceUplink env c)
  noteSent _ := keptOrDown_of_same ⟨rfl, rfl, rfl, rfl, rfl⟩
  renewGrace _ _ := keptOrDown_of_same ⟨rfl, rfl, rfl, rfl, rfl⟩
  attempt _ := keptOrDown_of_same ⟨rfl, rfl, rfl, rfl, rfl⟩
  recover _ := ⟨rfl, Or.inr ⟨rfl, rfl⟩⟩
  reset _ := ⟨rfl, Or.inr ⟨rfl, rfl⟩⟩

theorem keptOrDropped_housekeeping (ext : Externals) {s : Sender}
    (distinct : (s.conns.map (·.connId)).Nodup) (env : HousekeepingEnv) (id : Nat) :
    s.KeptOrDropped id (s.mayDrop ext id (.housekeeping env)) (s.step ext (.housekeeping env)) := by
  rw [step_housekeeping]
  have passed := (pass_keptOrDown env).handleHousekeeping s
  have ids : (s.handleHousekeeping env).1.conns.map (·.connId) = s.conns.map (·.connId) :=
    map_eq_of_forall₂ (fun _ _ related => related.1) passed
  have distinct' : ((s.handleHousekeeping env).1.conns.map (·.connId)).Nodup := by
    rw [ids]
    exact distinct
  rcases waitingOn_of_forall₂ (fun _ _ related => related.1) s (s.handleHousekeeping env).1 passed id with
    kept | ⟨c, c', member, here, ⟨same, kept | ⟨dropped, down⟩⟩, before, after⟩
  · exact Or.inl kept
  · rw [KeptOrDropped, before, after]
    exact Or.inl kept.1
  · refine Or.inr ⟨after.trans dropped, ?_⟩
    rw [mayDrop, step_housekeeping, upOn, Bool.not_eq_true', List.any_eq_false]
    intro d member' up
    rw [Bool.and_eq_true, decide_eq_true_eq] at up
    -- no other link has the id
    obtain rfl : d = c' :=
      List.inj_on_of_nodup_map distinct' member' member (up.1.trans (here.symm.trans same.symm))
    exact absurd (down.symm.trans up.2) Bool.noConfusion

theorem waitingOn_of_mem (distinct : (s.conns.map (·.connId)).Nodup) {c : SrtlaConnection}
    (member : c ∈ s.conns) : s.waitingOn c.connId = c.waiting := by
  rw [waitingOn, find?_key distinct member]
  rfl

theorem waitingOn_of_absent {id : Nat} (absent : ∀ c ∈ s.conns, c.connId ≠ id) :
    s.waitingOn id = [] := by
  have missing : s.conns.find? (fun c => decide (c.connId = id)) = none :=
    List.find?_eq_none.mpr fun c member => by simpa using absent c member
  rw [waitingOn, missing]
  rfl

theorem keptOrDropped_reload (ext : Externals) {s : Sender}
    (distinct : (s.conns.map (·.connId)).Nodup) {env : ReloadEnv}
    (fresh : s.drawsFreshIds (.reload env) = true) (id : Nat) :
    s.KeptOrDropped id (s.mayDrop ext id (.reload env)) (s.step ext (.reload env)) := by
  change s.KeptOrDropped id _ (s.applyReload ext.showIp env)
  have distinct' : ((s.applyReload ext.showIp env).conns.map (·.connId)).Nodup :=
    nodup_applyReload distinct fresh
  by_cases present : ∃ c' ∈ (s.applyReload ext.showIp env).conns, c'.connId = id
  · obtain ⟨c', member, rfl⟩ := present
    refine Or.inl ?_
    -- the uplink was kept as it is, or dialed by this reload
    rw [waitingOn_of_mem distinct' member]
    rw [conns_applyReload, List.mem_append, List.mem_map, List.mem_map] at member
    rcases member with ⟨c, kept, rfl⟩ | ⟨⟨ip, d⟩, dialed, rfl⟩
    · exact (waitingOn_of_mem distinct (List.mem_filter.mp kept).1).symm
    · -- a new uplink has nothing to send yet, and its id belonged to no uplink before
      obtain ⟨missing, dialed⟩ := mem_dialedBy.mp dialed
      have listed : ip ∈ env.newIps := List.mem_eraseDups.mp (List.mem_filter.mp missing).1
      exact (waitingOn_of_absent (connId_ne_of_dialed fresh listed dialed)).symm
  · have absent : ∀ c' ∈ (s.applyReload ext.showIp env).conns, c'.connId ≠ id :=
      fun c' member same => present ⟨c', member, same⟩
    refine Or.inr ⟨waitingOn_of_absent absent, ?_⟩
    rw [mayDrop, Bool.not_eq_true', List.any_eq_false]
    intro c' member
    simpa using absent c' member

/-- Distinct ids, and a time and a number with each datagram that waits. -/
structure QueuesSound (s : Sender) : Prop where
  distinct : (s.conns.map (·.connId)).Nodup
  aligned : AllAligned s.conns

theorem queuesSound_start {conns : List SrtlaConnection} (distinct : (conns.map (·.connId)).Nodup)
    (aligned : AllAligned conns) (connIo : ConnIoMap) (groupId probeId : SrtlaId)
    (rehomeEnabled : Bool) (now : Nat) :
    (start conns connIo groupId probeId rehomeEnabled now).QueuesSound := by
  have steps : BondSteps _ _ := (rebuild_linkSteps now).startProbing (.new groupId probeId) conns
  have ids : (start conns connIo groupId probeId rehomeEnabled now).conns.map (·.connId) =
      conns.map (·.connId) :=
    steps.uplinks.connIds
  exact ⟨ids ▸ distinct, aligned.steps steps⟩

theorem QueuesSound.step (sound : s.QueuesSound) {e : Event} (fresh : s.drawsFreshIds e = true) :
    (s.step ext e).QueuesSound := by
  by_cases reloads : ∃ env, e = .reload env
  · obtain ⟨env, rfl⟩ := reloads
    refine ⟨nodup_applyReload sound.distinct fresh, fun c' member => ?_⟩
    rw [Sender.step, conns_applyReload, List.mem_append, List.mem_map, List.mem_map] at member
    rcases member with ⟨c, kept, rfl⟩ | ⟨entry, -, rfl⟩
    · exact sound.aligned c (List.mem_filter.mp kept).1
    · exact ⟨rfl, rfl⟩
  · have steps := bondSteps_step ext s (e := e) fun env same => reloads ⟨env, same⟩
    have ids : (s.step ext e).conns.map (·.connId) = s.conns.map (·.connId) :=
      steps.uplinks.connIds
    exact ⟨ids ▸ sound.distinct, sound.aligned.steps steps⟩

/-- Client datagrams and the periodic flush move the queues. -/
theorem bondMoves_step (sound : s.QueuesSound) {e : Event}
    (moving : (∃ pkt src sends config criticalWindow now,
      e = .data pkt src sends config criticalWindow now) ∨ ∃ sends now, e = .flush sends now) :
    BondMoves s.conns (s.traffic ext e) (s.step ext e).conns := by
  rcases moving with ⟨pkt, src, sends, config, criticalWindow, now, rfl⟩ | ⟨sends, now, rfl⟩
  · exact DataPath.bondMoves_handleSrtPacket ext.calculate sound.distinct sound.aligned pkt src s.connIo
      sends s.reg.hasConnected config criticalWindow now
  · exact bondMoves_flushAllBatches s.connIo sends now sound.distinct sound.aligned s.tracker

/-- What one event does to the queue of one uplink. -/
theorem moves_step (sound : s.QueuesSound) {e : Event} (fresh : s.drawsFreshIds e = true) (id : Nat) :
    Moves (s.waitingOn id) (queueTurn ext id s e) ((s.step ext e).waitingOn id) := by
  cases e with
  | data pkt src sends config criticalWindow now =>
    exact .of_eq (moves_of_bondMoves (bondMoves_step sound (Or.inl ⟨_, _, _, _, _, _, rfl⟩)) id)
  | flush sends now =>
    exact .of_eq (moves_of_bondMoves (bondMoves_step sound (Or.inr ⟨_, _, rfl⟩)) id)
  | uplink connId bytes env => exact (keptOrDropped_uplink ext s connId bytes env id).moves rfl
  | housekeeping env => exact (keptOrDropped_housekeeping ext sound.distinct env id).moves rfl
  | classify verdict =>
    have same : List.Forall₂ SameQueue s.conns (s.stampVerdicts verdict).conns :=
      forall₂_map (fun c => ⟨rfl, rfl, rfl, rfl, rfl⟩) s.conns
    exact .idle rfl rfl (waitingOn_of_same same id)
  | reload env => exact (keptOrDropped_reload ext sound.distinct fresh id).moves rfl

/-- A link that is up after its batches was not refused any of them. -/
theorem taken_of_bondMoves {e : Event} (moves : BondMoves s.conns (s.traffic ext e) (s.step ext e).conns) :
    ∀ batch ∈ (s.traffic ext e).batches, (s.step ext e).upOn batch.connId = true →
      batch.sent = true := by
  intro batch member up
  obtain ⟨c', member', up⟩ := List.any_eq_true.mp up
  rw [Bool.and_eq_true, decide_eq_true_eq] at up
  obtain ⟨i, at_i⟩ := List.mem_iff_getElem?.mp member'
  obtain ⟨c, -, link⟩ := getElem?_of_forall₂_right moves.links at_i
  refine (link.taken up.2).2 batch (List.mem_filter.mpr ⟨member, decide_eq_true ?_⟩)
  exact up.1.symm.trans link.connId

theorem taken_step (sound : s.QueuesSound) (e : Event) :
    ∀ batch ∈ (s.traffic ext e).batches, (s.step ext e).upOn batch.connId = true →
      batch.sent = true := by
  cases e with
  | data pkt src sends config criticalWindow now =>
    exact taken_of_bondMoves (bondMoves_step sound (Or.inl ⟨_, _, _, _, _, _, rfl⟩))
  | flush sends now => exact taken_of_bondMoves (bondMoves_step sound (Or.inr ⟨_, _, rfl⟩))
  | _ => exact List.forall_mem_nil _

/-- The copies that an event queues are those of its datagram, if it brings one. -/
def CopiesOwn (e : Event) (copies : List QueuedCopy) : Prop :=
  match e with
  | .data pkt _ _ _ _ _ => CopiedOnce pkt copies
  | _ => copies = []

theorem copies_flushTraffic (connIo : ConnIoMap) (sends : Sends) (now : Nat)
    (conns : List SrtlaConnection) : (flushTraffic connIo sends now conns).copies = [] := by
  induction conns with
  | nil => rfl
  | cons c rest ih => exact ih

theorem copiesOwn_step (distinct : (s.conns.map (·.connId)).Nodup) (e : Event) :
    CopiesOwn e (s.traffic ext e).copies := by
  cases e with
  | data pkt src sends config criticalWindow now =>
    exact copiedOnce_clientTraffic pkt s.connIo sends now ext.calculate (s := s.toDataPath) distinct
      s.reg.hasConnected config criticalWindow
  | flush sends now => exact copies_flushTraffic s.connIo sends now s.conns
  | _ => rfl

/-! ### Runs -/

/-- The copies queued on the uplink `id` over a run, in order. -/
def queuedIn (ext : Externals) (id : Nat) (s : Sender) (es : List Event) : List Bytes :=
  acceptedIn (step ext) (queueTurn ext id) s es

/-- The datagrams handed to the socket of the uplink `id` over a run, in order. -/
def handedIn (ext : Externals) (id : Nat) (s : Sender) (es : List Event) : List Bytes :=
  givenIn (step ext) (queueTurn ext id) s es

/-- Over every run the datagrams handed to the socket of an uplink, followed by what waits for
it, are a subsequence of what was queued there, and all of it unless the queue was dropped.
Each event queues its own datagram only, once as it came in and at most once per link, and a
batch that the socket refuses takes its link down. -/
theorem upstream_conservation (ext : Externals) {s : Sender} {es : List Event}
    (sound : s.QueuesSound)
    (fresh : EachStep (step ext) (fun s e => s.drawsFreshIds e = true) s es) :
    (∀ id, (s.handedIn ext id es ++ (run (step ext) s es).waitingOn id).Sublist
        (s.waitingOn id ++ s.queuedIn ext id es)) ∧
      (∀ id, (∀ x ∈ history (step ext) s es, x.1.mayDrop ext id x.2 = false) →
        s.handedIn ext id es ++ (run (step ext) s es).waitingOn id =
          s.waitingOn id ++ s.queuedIn ext id es) ∧
      EachStep (step ext) (fun s e => CopiesOwn e (s.traffic ext e).copies ∧
        ∀ batch ∈ (s.traffic ext e).batches, batch.sent = false →
          (s.step ext e).upOn batch.connId = false) s es := by
  have keeps : ∀ s e, QueuesSound s → s.drawsFreshIds e = true → (s.step ext e).QueuesSound :=
    fun s e sound => sound.step
  have each (id : Nat) : EachStep (step ext) (fun s e => Moves (s.waitingOn id) (queueTurn ext id s e)
      ((s.step ext e).waitingOn id)) s es :=
    EachStep.mono_of_invariant QueuesSound keeps (fun s e sound fresh => moves_step sound fresh id)
      sound fresh
  refine ⟨fun id => ?_, fun id quiet => ?_, ?_⟩
  · exact ordered_run (fun t : Sender => t.waitingOn id) (each id)
  · exact complete_run (fun t : Sender => t.waitingOn id) (each id) quiet
  · refine EachStep.mono_of_invariant QueuesSound keeps (fun s e sound _ => ?_) sound fresh
    refine ⟨copiesOwn_step sound.distinct e, fun batch member refused => ?_⟩
    rw [← Bool.not_eq_true]
    exact fun up => absurd ((taken_step sound e batch member up).symm.trans refused) Bool.noConfusion

/-- Three datagrams after the handshake, two of them on the second uplink, and a flush. -/
theorem upstream_conservation_sample :
    let s := run (step Sample.externals) (Sample.sender [1, 2]) Sample.handshake
    let pkt (n : UInt8) : Event :=
      .data [0, 0, 0, n] Sample.client (Sample.sends 2200) {} {} 2200
    let es := [pkt 7, pkt 8, pkt 9, .flush (Sample.sends 2215) 2215]
    s.handedIn Sample.externals 2 es ++ (run (step Sample.externals) s es).waitingOn 2 =
        s.waitingOn 2 ++ s.queuedIn Sample.externals 2 es ∧
      s.handedIn Sample.externals 2 es = [[0, 0, 0, 8], [0, 0, 0, 9]] := by
  intro s pkt es
  have begun : (Sample.sender [1, 2]).QueuesSound :=
    queuesSound_start (by decide) (List.forall_mem_cons.mpr ⟨⟨rfl, rfl⟩,
      List.forall_mem_singleton.mpr ⟨rfl, rfl⟩⟩) _ _ _ _ _
  have sound : s.QueuesSound :=
    EachStep.invariant (P := fun s e => s.drawsFreshIds e = true) QueuesSound
      (fun s e sound => sound.step) begun (by decide +kernel)
  have quiet : ∀ x ∈ history (step Sample.externals) s es,
      x.1.mayDrop Sample.externals 2 x.2 = false := by decide +kernel
  have fresh : EachStep (step Sample.externals) (fun s e => s.drawsFreshIds e = true) s es := by
    decide +kernel
  have conserved := upstream_conservation Sample.externals sound fresh
  exact ⟨conserved.2.1 2 quiet, by decide +kernel⟩

end Sender

end SrtlaSend
