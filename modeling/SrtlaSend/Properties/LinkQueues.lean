import SrtlaSend.Properties.LinkSteps
import SrtlaSend.Properties.Routing
import SrtlaSend.Sender.Outputs

/-!
# The queues of the uplinks

Every uplink has a queue of its own, filled by the routing of client datagrams and emptied by
flushes. Most of what happens to a link leaves its queue alone. A forward, a probe and a flush
move it: what is handed to the socket and what still waits is what waited and what was queued,
in order, on each link of the bond.
-/

namespace SrtlaSend

open Pointwise SrtlaConnection

/-! ### The queue of one link -/

namespace SrtlaConnection

/-- What waits on the link. -/
def waiting (c : SrtlaConnection) : List Bytes := c.batchSender.queue

/-- The write leaves the queue alone, and does not register or drop the link. -/
structure SameQueue (c c' : SrtlaConnection) : Prop where
  connId : c'.connId = c.connId
  connected : c'.connected = c.connected
  queue : c'.batchSender.queue = c.batchSender.queue
  sequences : c'.batchSender.sequences = c.batchSender.sequences
  queueTimes : c'.batchSender.queueTimes = c.batchSender.queueTimes

namespace SameQueue

variable {c c' c'' : SrtlaConnection}

theorem refl (c : SrtlaConnection) : SameQueue c c := ⟨rfl, rfl, rfl, rfl, rfl⟩

theorem trans (h : SameQueue c c') (h' : SameQueue c' c'') : SameQueue c c'' :=
  ⟨h'.connId.trans h.connId, h'.connected.trans h.connected, h'.queue.trans h.queue,
    h'.sequences.trans h.sequences, h'.queueTimes.trans h.queueTimes⟩

theorem aligned (h : SameQueue c c') (held : c.batchSender.Aligned) : c'.batchSender.Aligned := by
  unfold BatchSender.Aligned
  rw [h.queue, h.sequences, h.queueTimes]
  exact held

end SameQueue

theorem sameQueue_of_feedback {c c' : SrtlaConnection} (same : SameUpToFeedback c c') :
    SameQueue c c' := by
  rw [same]
  exact ⟨rfl, rfl, rfl, rfl, rfl⟩

theorem sameQueue_of_phase {c c' : SrtlaConnection} (same : SameUpToPhase c c') :
    SameQueue c c' := by
  rw [same.frame]
  exact ⟨rfl, rfl, rfl, rfl, rfl⟩

theorem sameQueue_noteReceived (c : SrtlaConnection) (now : Nat) : SameQueue c (c.noteReceived now) := by
  simp only [noteReceived]
  split <;> exact ⟨rfl, rfl, rfl, rfl, rfl⟩

theorem sameQueue_stallProbeDue (c : SrtlaConnection) : SameQueue c c.stallProbeDue.1 := by
  simp only [stallProbeDue]
  split <;> exact ⟨rfl, rfl, rfl, rfl, rfl⟩

theorem sameQueue_pass {c c' : SrtlaConnection} {config : ConfigSnapshot}
    (frame : SameUpToPass (c.refreshTimeouts config) c') : SameQueue c c' := by
  rw [frame]
  simp only [withPass, withGates, withElection, refreshTimeouts]
  exact ⟨rfl, rfl, rfl, rfl, rfl⟩

theorem sameQueue_serviceUplink (env : HousekeepingEnv) (c : SrtlaConnection) :
    SameQueue c (Sender.serviceUplink env c) :=
  Sender.serviceUplink_invariant env (SameQueue.refl c)
    (fun _ same => same.trans ⟨rfl, rfl, rfl, rfl, rfl⟩)
    (fun _ same => same.trans ⟨rfl, rfl, rfl, rfl, rfl⟩)
    (fun _ same => same.trans ⟨rfl, rfl, rfl, rfl, rfl⟩)
    (fun d same => same.trans (sameQueue_of_phase (updatePhase_frame d env.now)))
    (fun _ same => same.trans ⟨rfl, rfl, rfl, rfl, rfl⟩)

theorem connected_takeBatch (c : SrtlaConnection) (now : Nat) :
    (c.takeBatch now).1.connected = c.connected :=
  (sameQueue_of_feedback (takeBatch_frame c now)).connected

theorem batchSender_takeBatch (c : SrtlaConnection) (now : Nat) :
    (c.takeBatch now).1.batchSender = (c.batchSender.drain now).1 :=
  (takeBatch_frame c now).batchSender

theorem waiting_takeBatch (c : SrtlaConnection) (now : Nat) : (c.takeBatch now).1.waiting = [] := by
  rw [waiting, batchSender_takeBatch, BatchSender.drain]
  simp only
  split
  case isTrue empty => exact List.isEmpty_iff.mp empty
  case isFalse => rfl

/-- The batch is the queue. -/
theorem datagrams_takeBatch {c : SrtlaConnection} (aligned : c.batchSender.Aligned) (now : Nat) :
    (c.takeBatch now).2.map (·.1) = c.waiting := by
  obtain ⟨sequences, times⟩ := aligned
  change ((c.batchSender.drain now).2.map (·.1)) = c.batchSender.queue
  rw [BatchSender.drain_snd, List.map_fst_zip]
  rw [List.length_zip, sequences, times, Nat.min_self]

/-- The three vectors of a queue stay equally long. -/
theorem aligned_linkStep {c c' : SrtlaConnection} (step : LinkStep c c')
    (aligned : c.batchSender.Aligned) : c'.batchSender.Aligned := by
  cases step with
  | queueData data seq now => exact BatchSender.queuePacket_aligned aligned data seq now
  | queueProbe data seq now => exact BatchSender.queuePacket_aligned aligned data none now
  | takeBatch now =>
    rw [batchSender_takeBatch, BatchSender.drain]
    simp only
    split
    · exact aligned
    · exact ⟨rfl, rfl⟩
  -- the queues are emptied together
  | recover => exact ⟨rfl, rfl⟩
  | reset now => exact ⟨rfl, rfl⟩
  | acceptReg3 now => exact ⟨rfl, rfl⟩
  | pass config _ frame => exact (sameQueue_pass frame).aligned aligned
  | probeTurn => exact (sameQueue_stallProbeDue c).aligned aligned
  | noteReceived now => exact (sameQueue_noteReceived c now).aligned aligned
  | keepaliveEcho data now =>
    exact (sameQueue_of_phase (handleKeepaliveEcho_frame c data now)).aligned aligned
  | srtAck ack now owns =>
    exact (sameQueue_of_feedback (handleSrtAck_frame c ack now owns)).aligned aligned
  | srtlaAck seq classic now =>
    exact (sameQueue_of_feedback (handleSrtlaAckSpecific_frame c seq classic now)).aligned aligned
  | srtlaAckGlobal =>
    exact (sameQueue_of_feedback (handleSrtlaAckGlobal_frame c)).aligned aligned
  | nak seq now => exact (sameQueue_of_feedback (handleNak_frame c seq now)).aligned aligned
  | updatePhase now => exact (sameQueue_of_phase (updatePhase_frame c now)).aligned aligned
  | _ => exact aligned

/-- Every link of the bond has an aligned queue. -/
def AllAligned (conns : List SrtlaConnection) : Prop := ∀ c ∈ conns, c.batchSender.Aligned

theorem AllAligned.steps {conns conns' : List SrtlaConnection} (aligned : AllAligned conns)
    (steps : BondSteps conns conns') : AllAligned conns' := by
  intro c' member
  obtain ⟨i, at_i⟩ := List.mem_iff_getElem?.mp member
  obtain ⟨c, found, moved⟩ := getElem?_of_forall₂_right steps at_i
  exact moved.invariant (fun _ _ => aligned_linkStep) (aligned c (List.mem_of_getElem? found))

end SrtlaConnection

/-! ### Traffic of one link -/

namespace Traffic

def copiesOn (t : Traffic) (id : Nat) : List Bytes :=
  (t.copies.filter fun copy => decide (copy.connId = id)).map (·.bytes)

def batchesOn (t : Traffic) (id : Nat) : List Transmission :=
  t.batches.filter fun batch => decide (batch.connId = id)

@[simp] theorem copies_append (t u : Traffic) : (t ++ u).copies = t.copies ++ u.copies := rfl

@[simp] theorem batches_append (t u : Traffic) : (t ++ u).batches = t.batches ++ u.batches := rfl

@[simp] theorem append_empty (t : Traffic) : t ++ ({} : Traffic) = t := by
  rcases t with ⟨copies, batches⟩
  change (⟨copies ++ [], batches ++ []⟩ : Traffic) = _
  rw [List.append_nil, List.append_nil]

@[simp] theorem empty_append (t : Traffic) : ({} : Traffic) ++ t = t := rfl

theorem copiesOn_append (t u : Traffic) (id : Nat) :
    (t ++ u).copiesOn id = t.copiesOn id ++ u.copiesOn id := by
  simp [copiesOn]

theorem batchesOn_append (t u : Traffic) (id : Nat) :
    (t ++ u).batchesOn id = t.batchesOn id ++ u.batchesOn id := by
  simp [batchesOn]

/-- Everything is on one of the links `ids`. -/
structure Within (t : Traffic) (ids : List Nat) : Prop where
  copies : ∀ copy ∈ t.copies, copy.connId ∈ ids
  batches : ∀ batch ∈ t.batches, batch.connId ∈ ids

theorem Within.append {t u : Traffic} {ids : List Nat} (first : t.Within ids) (second : u.Within ids) :
    (t ++ u).Within ids :=
  ⟨List.forall_mem_append.mpr ⟨first.copies, second.copies⟩,
    List.forall_mem_append.mpr ⟨first.batches, second.batches⟩⟩

theorem Within.nothingOn {t : Traffic} {ids : List Nat} (within : t.Within ids) {id : Nat}
    (elsewhere : id ∉ ids) : t.copiesOn id = [] ∧ t.batchesOn id = [] := by
  refine ⟨?_, ?_⟩
  · rw [copiesOn, List.map_eq_nil_iff, List.filter_eq_nil_iff]
    intro copy member here
    exact elsewhere (of_decide_eq_true here ▸ within.copies copy member)
  · rw [batchesOn, List.filter_eq_nil_iff]
    intro batch member here
    exact elsewhere (of_decide_eq_true here ▸ within.batches batch member)

theorem Within.allOn {t : Traffic} {id : Nat} (within : t.Within [id]) :
    t.copiesOn id = t.copies.map (·.bytes) ∧ t.batchesOn id = t.batches := by
  refine ⟨?_, ?_⟩
  · rw [copiesOn, List.filter_eq_self.mpr]
    intro copy member
    exact decide_eq_true (List.mem_singleton.mp (within.copies copy member))
  · rw [batchesOn, List.filter_eq_self.mpr]
    intro batch member
    exact decide_eq_true (List.mem_singleton.mp (within.batches batch member))

end Traffic

/-- One link across a step with traffic `copies` and `batches` on it: the queue takes in and
gives out in order, and a link that is still registered had its batches taken. -/
structure LinkMoves (c : SrtlaConnection) (copies : List Bytes) (batches : List Transmission)
    (c' : SrtlaConnection) : Prop where
  connId : c'.connId = c.connId
  conserved : batches.flatMap (·.datagrams) ++ c'.waiting = c.waiting ++ copies
  taken : c'.connected = true → c.connected = true ∧ ∀ batch ∈ batches, batch.sent = true

namespace LinkMoves

variable {c c' c'' : SrtlaConnection} {copies copies' : List Bytes}
  {batches batches' : List Transmission}

theorem of_same (same : SameQueue c c') : LinkMoves c [] [] c' := by
  have waits : c'.waiting = c.waiting := same.queue
  refine ⟨same.connId, ?_, fun up => ⟨same.connected ▸ up, List.forall_mem_nil _⟩⟩
  rw [List.flatMap_nil, List.nil_append, List.append_nil, waits]

theorem trans (first : LinkMoves c copies batches c') (second : LinkMoves c' copies' batches' c'') :
    LinkMoves c (copies ++ copies') (batches ++ batches') c'' := by
  refine ⟨second.connId.trans first.connId, ?_, fun up => ?_⟩
  · rw [List.flatMap_append, List.append_assoc, second.conserved, ← List.append_assoc,
      first.conserved, List.append_assoc]
  · obtain ⟨up', sent'⟩ := second.taken up
    obtain ⟨up, sent⟩ := first.taken up'
    exact ⟨up, List.forall_mem_append.mpr ⟨sent, sent'⟩⟩

/-- A flush that is not made, one that the socket takes, and one that it refuses. -/
theorem flushIfNeeded (aligned : c.batchSender.Aligned) (needsFlush : Bool) (connIo : ConnIoMap)
    (sends : Sends) (tracker : SequenceTracker) :
    LinkMoves c [] (flushedIfNeeded needsFlush c connIo sends)
      (flushIfNeeded needsFlush c connIo sends tracker).1 := by
  simp only [flushedIfNeeded, SrtlaSend.flushIfNeeded]
  split
  case isFalse => exact of_same (SameQueue.refl c)
  case isTrue =>
    set outcome := sends c.connId
    have handed := datagrams_takeBatch aligned outcome.now
    have drained := c.waiting_takeBatch outcome.now
    have up := c.connected_takeBatch outcome.now
    simp only [flushedBatch, flushConnection, sendConnectionBatch]
    by_cases empty : (c.takeBatch outcome.now).2.isEmpty = true
    · -- nothing waits, and the socket is not asked
      rw [List.isEmpty_iff.mp empty] at handed
      simp only [empty, if_true, Option.toList_none]
      refine ⟨c.takeBatch_connId _, ?_, fun still => ⟨up ▸ still, List.forall_mem_nil _⟩⟩
      simp [drained, ← handed]
    · simp only [empty, Bool.false_eq_true, if_false, Option.toList_some]
      cases taken : outcome.sent with
      | true =>
        have sent : ((c.takeBatch outcome.now).1.noteSent outcome.now).waiting = [] := drained
        refine ⟨c.takeBatch_connId _, ?_, fun still => ⟨up ▸ still, ?_⟩⟩
        · simp [sent, handed]
        · exact List.forall_mem_singleton.mpr rfl
      | false =>
        -- the link is given up together with what the socket has not taken
        have nothing : (recoverConnection (c.takeBatch outcome.now).1 tracker).1.waiting = [] := rfl
        refine ⟨c.takeBatch_connId _, ?_, fun still => absurd still Bool.noConfusion⟩
        simp [nothing, handed]

/-- A packet is queued, and may fill up the batch. -/
theorem queuePacket {queued : SrtlaConnection} {data : Bytes} (aligned : queued.batchSender.Aligned)
    (connId : queued.connId = c.connId) (connected : queued.connected = c.connected)
    (waits : queued.waiting = c.waiting ++ [data]) (needsFlush : Bool) (connIo : ConnIoMap)
    (sends : Sends) (tracker : SequenceTracker) :
    LinkMoves c [data] (flushedIfNeeded needsFlush queued connIo sends)
      (SrtlaSend.flushIfNeeded needsFlush queued connIo sends tracker).1 := by
  have accepted : LinkMoves c [data] [] queued :=
    ⟨connId, waits, fun up => ⟨connected ▸ up, List.forall_mem_nil _⟩⟩
  exact accepted.trans (flushIfNeeded aligned needsFlush connIo sends tracker)

end LinkMoves

theorem within_flushedIfNeeded (needsFlush : Bool) (c : SrtlaConnection) (connIo : ConnIoMap)
    (sends : Sends) : ∀ batch ∈ flushedIfNeeded needsFlush c connIo sends, batch.connId = c.connId := by
  simp only [flushedIfNeeded, flushedBatch]
  split
  · split
    · exact List.forall_mem_nil _
    · exact List.forall_mem_singleton.mpr rfl
  · exact List.forall_mem_nil _

/-- Every link of the bond moves with what `traffic` has on it. -/
structure BondMoves (conns : List SrtlaConnection) (traffic : Traffic)
    (conns' : List SrtlaConnection) : Prop where
  links : List.Forall₂
    (fun c c' => LinkMoves c (traffic.copiesOn c.connId) (traffic.batchesOn c.connId) c') conns conns'
  within : traffic.Within (conns.map (·.connId))

namespace BondMoves

variable {conns conns' conns'' : List SrtlaConnection} {t u : Traffic}

theorem of_same (same : List.Forall₂ SameQueue conns conns') : BondMoves conns {} conns' :=
  ⟨same.imp fun _ _ => LinkMoves.of_same, ⟨List.forall_mem_nil _, List.forall_mem_nil _⟩⟩

theorem connIds (moves : BondMoves conns t conns') :
    conns'.map (·.connId) = conns.map (·.connId) :=
  map_eq_of_forall₂ (fun _ _ link => link.connId) moves.links

theorem trans (first : BondMoves conns t conns') (second : BondMoves conns' u conns'') :
    BondMoves conns (t ++ u) conns'' := by
  refine ⟨?_, first.within.append (first.connIds ▸ second.within)⟩
  refine forall₂_trans (fun c d e one two => ?_) first.links second.links
  rw [Traffic.copiesOn_append, Traffic.batchesOn_append]
  rw [one.connId] at two
  exact one.trans two

/-- A link more, with its own traffic. -/
theorem cons {c c' : SrtlaConnection} {own : Traffic} (distinct : c.connId ∉ conns.map (·.connId))
    (within : own.Within [c.connId]) (link : LinkMoves c (own.copies.map (·.bytes)) own.batches c')
    (rest : BondMoves conns t conns') : BondMoves (c :: conns) (own ++ t) (c' :: conns') := by
  obtain ⟨ownCopies, ownBatches⟩ := within.allOn
  obtain ⟨noCopies, noBatches⟩ := rest.within.nothingOn distinct
  refine ⟨List.Forall₂.cons ?_ ?_, ?_⟩
  · rw [Traffic.copiesOn_append, Traffic.batchesOn_append, ownCopies, ownBatches, noCopies, noBatches,
      List.append_nil, List.append_nil]
    exact link
  · -- the others have another id
    have others : ∀ d ∈ conns, d.connId ∉ [c.connId] := fun d member here =>
      distinct (List.mem_singleton.mp here ▸ List.mem_map_of_mem member)
    refine ((List.forall₂_and_left _ _).mpr ⟨others, rest.links⟩).imp fun d d' moves => ?_
    obtain ⟨copies, batches⟩ := within.nothingOn moves.1
    rw [Traffic.copiesOn_append, Traffic.batchesOn_append, copies, batches]
    exact moves.2
  · refine Traffic.Within.append ⟨fun copy member => ?_, fun batch member => ?_⟩
      ⟨fun copy member => ?_, fun batch member => ?_⟩
    · exact List.mem_cons.mpr (Or.inl (List.mem_singleton.mp (within.copies copy member)))
    · exact List.mem_cons.mpr (Or.inl (List.mem_singleton.mp (within.batches batch member)))
    · exact List.mem_cons_of_mem _ (rest.within.copies copy member)
    · exact List.mem_cons_of_mem _ (rest.within.batches batch member)

/-- One link moves, the others stay. -/
theorem set {c c' : SrtlaConnection} {i : Nat} (distinct : (conns.map (·.connId)).Nodup)
    (at_i : conns[i]? = some c) (within : t.Within [c.connId])
    (link : LinkMoves c (t.copies.map (·.bytes)) t.batches c') :
    BondMoves conns t (conns.set i c') := by
  induction conns generalizing i with
  | nil => cases at_i
  | cons d rest ih =>
    rw [List.map_cons, List.nodup_cons] at distinct
    have stays (conns : List SrtlaConnection) : List.Forall₂ SameQueue conns conns :=
      List.forall₂_same.mpr fun d _ => SameQueue.refl d
    cases i with
    | zero =>
      obtain rfl := Option.some.inj at_i
      rw [← t.append_empty]
      exact cons distinct.1 within link (of_same (stays rest))
    | succ i =>
      rw [← t.empty_append]
      exact cons distinct.1 ⟨List.forall_mem_nil _, List.forall_mem_nil _⟩
        (LinkMoves.of_same (SameQueue.refl d)) (ih distinct.2 at_i)

end BondMoves

/-! ### Flushes, forwards and probes -/

theorem bondMoves_flushAllBatches (connIo : ConnIoMap) (sends : Sends) (now : Nat)
    {conns : List SrtlaConnection} (distinct : (conns.map (·.connId)).Nodup)
    (aligned : AllAligned conns) (tracker : SequenceTracker) :
    BondMoves conns (flushTraffic connIo sends now conns)
      (flushAllBatches connIo sends now conns tracker).1 := by
  induction conns generalizing tracker with
  | nil => exact BondMoves.of_same List.Forall₂.nil
  | cons c rest ih =>
    rw [List.map_cons, List.nodup_cons] at distinct
    have first := aligned c List.mem_cons_self
    have others : AllAligned rest := fun d member => aligned d (List.mem_cons_of_mem c member)
    simp only [flushTraffic, flushAllBatches]
    refine BondMoves.cons distinct.1 ⟨List.forall_mem_nil _, fun batch member => ?_⟩
      (LinkMoves.flushIfNeeded first _ connIo sends tracker) (ih distinct.2 others _)
    exact List.mem_singleton.mpr (within_flushedIfNeeded _ c connIo sends batch member)

namespace DataPath

theorem bondMoves_forwardViaConnection {s : DataPath} (distinct : (s.conns.map (·.connId)).Nodup)
    (aligned : AllAligned s.conns) (selIdx : Nat) (pkt : Bytes) (seq : Option Nat)
    (connIo : ConnIoMap) (sends : Sends) (packetTimeMs : Nat) :
    BondMoves s.conns (s.forwardTraffic selIdx pkt seq connIo sends packetTimeMs)
      (s.forwardViaConnection selIdx pkt seq connIo sends packetTimeMs).conns := by
  cases at_sel : s.conns[selIdx]? with
  | none =>
    simp only [forwardTraffic, forwardViaConnection, at_sel]
    exact BondMoves.of_same (List.forall₂_same.mpr fun c _ => SameQueue.refl c)
  | some c =>
    have queued := aligned_linkStep (.queueData c pkt seq packetTimeMs)
      (aligned c (List.mem_of_getElem? at_sel))
    have waits : (c.queueDataPacket pkt seq packetTimeMs).1.waiting = c.waiting ++ [pkt] := rfl
    simp only [forwardTraffic, forwardViaConnection, at_sel]
    refine BondMoves.set distinct at_sel
      ⟨List.forall_mem_singleton.mpr (List.mem_singleton.mpr rfl), fun batch member => ?_⟩
      (LinkMoves.queuePacket (c := c) queued rfl rfl waits _ connIo sends _)
    exact List.mem_singleton.mpr (within_flushedIfNeeded _ (c.queueDataPacket pkt seq packetTimeMs).1
      connIo sends batch member)

theorem linkMoves_probeLink {c : SrtlaConnection} (aligned : c.batchSender.Aligned) (pkt : Bytes)
    (probeSeq : Nat) (connIo : ConnIoMap) (sends : Sends) (packetTimeMs : Nat)
    (tracker : SequenceTracker) :
    let traffic := probeTraffic pkt probeSeq connIo sends packetTimeMs c
    traffic.Within [c.connId] ∧
      LinkMoves c (traffic.copies.map (·.bytes)) traffic.batches
        (probeLink pkt probeSeq connIo sends packetTimeMs c tracker).1 := by
  have counted := sameQueue_stallProbeDue c
  simp only [probeTraffic, probeLink]
  split
  case isTrue =>
    have queued := aligned_linkStep
      (.queueProbe c.stallProbeDue.1 (setSrtDataRetransmit pkt) probeSeq packetTimeMs)
      (counted.aligned aligned)
    refine ⟨⟨List.forall_mem_singleton.mpr (List.mem_singleton.mpr counted.connId),
      fun batch member => ?_⟩, LinkMoves.queuePacket queued counted.connId counted.connected ?_ _ connIo
        sends tracker⟩
    · have on := within_flushedIfNeeded _ _ connIo sends batch member
      exact List.mem_singleton.mpr (on.trans counted.connId)
    · exact congrArg (· ++ [setSrtDataRetransmit pkt]) counted.queue
  case isFalse =>
    exact ⟨⟨List.forall_mem_nil _, List.forall_mem_nil _⟩, LinkMoves.of_same counted⟩

theorem bondMoves_sendStallProbes (selIdx : Nat) (pkt : Bytes) (probeSeq : Nat)
    (connIo : ConnIoMap) (sends : Sends) (packetTimeMs i : Nat) {conns : List SrtlaConnection}
    (distinct : (conns.map (·.connId)).Nodup) (aligned : AllAligned conns)
    (tracker : SequenceTracker) :
    BondMoves conns (probesTraffic selIdx pkt probeSeq connIo sends packetTimeMs i conns)
      (sendStallProbes selIdx pkt probeSeq connIo sends packetTimeMs i conns tracker).1 := by
  induction conns generalizing i tracker with
  | nil => exact BondMoves.of_same List.Forall₂.nil
  | cons c rest ih =>
    rw [List.map_cons, List.nodup_cons] at distinct
    have first := aligned c List.mem_cons_self
    have others : AllAligned rest := fun d member => aligned d (List.mem_cons_of_mem c member)
    simp only [probesTraffic, sendStallProbes]
    by_cases held : i ≠ selIdx ∧ isProbed c = true
    · obtain ⟨within, link⟩ := linkMoves_probeLink first pkt probeSeq connIo sends packetTimeMs tracker
      simp only [if_pos held]
      exact BondMoves.cons distinct.1 within link (ih _ distinct.2 others _)
    · simp only [if_neg held]
      exact BondMoves.cons distinct.1 ⟨List.forall_mem_nil _, List.forall_mem_nil _⟩
        (LinkMoves.of_same (SameQueue.refl c)) (ih _ distinct.2 others _)

theorem bondMoves_deliver {s : DataPath} (distinct : (s.conns.map (·.connId)).Nodup)
    (aligned : AllAligned s.conns) (selIdx : Nat) (pkt : Bytes) (connIo : ConnIoMap) (sends : Sends)
    (packetTimeMs : Nat) :
    BondMoves s.conns (s.deliverTraffic selIdx pkt connIo sends packetTimeMs)
      (s.deliver selIdx pkt connIo sends packetTimeMs).conns := by
  have forwarded (seq : Option Nat) :=
    bondMoves_forwardViaConnection distinct aligned selIdx pkt seq connIo sends packetTimeMs
  cases numbered : getSrtSequenceNumber pkt with
  | none =>
    simp only [deliverTraffic, deliver, numbered]
    exact forwarded none
  | some probeSeq =>
    have steps := queue_linkSteps.forwardViaConnection s selIdx pkt (some probeSeq) connIo sends
      packetTimeMs
    simp only [deliverTraffic, deliver, numbered]
    exact (forwarded _).trans (bondMoves_sendStallProbes selIdx pkt probeSeq connIo sends packetTimeMs
      0 ((forwarded _).connIds ▸ distinct) (aligned.steps steps) _)

theorem bondMoves_handleSrtPacket (calculate : SrtlaConnection → Nat → ℚ) {s : DataPath}
    (distinct : (s.conns.map (·.connId)).Nodup) (aligned : AllAligned s.conns) (pkt : Bytes)
    (src : SocketAddr) (connIo : ConnIoMap) (sends : Sends) (registrationComplete : Bool)
    (config : ConfigSnapshot) (criticalWindow : CriticalWindow) (packetTimeMs : Nat) :
    BondMoves s.conns
      (s.clientTraffic calculate pkt connIo sends registrationComplete config criticalWindow
        packetTimeMs)
      (s.handleSrtPacket calculate pkt src connIo sends registrationComplete config criticalWindow
        packetTimeMs).conns := by
  have stays (conns : List SrtlaConnection) : BondMoves conns {} conns :=
    BondMoves.of_same (List.forall₂_same.mpr fun c _ => SameQueue.refl c)
  simp only [clientTraffic, handleSrtPacket]
  split
  · exact stays _
  · split
    · -- before the first REG3
      cases selectPreRegistrationConnection s.conns s.lastSelectedIdx packetTimeMs with
      | none => exact stays _
      | some selIdx =>
        exact bondMoves_forwardViaConnection distinct aligned selIdx pkt _ connIo sends packetTimeMs
    · have routed : BondMoves s.conns {}
          (s.routePacket calculate pkt packetTimeMs config criticalWindow).1 :=
        BondMoves.of_same ((selectConnectionIdx_frame calculate s.conns s.lastSelectedIdx packetTimeMs
          config).imp fun _ _ => sameQueue_pass)
      have passed := aligned.steps
        ((traffic_linkSteps calculate).routePacket s pkt packetTimeMs config criticalWindow)
      cases selected : (s.routePacket calculate pkt packetTimeMs config criticalWindow).2 with
      | none => exact routed
      | some selIdx =>
        exact routed.trans (bondMoves_deliver
          (s := { s with conns := (s.routePacket calculate pkt packetTimeMs config criticalWindow).1 })
          (routed.connIds ▸ distinct) passed selIdx pkt connIo sends packetTimeMs)

end DataPath

end SrtlaSend
