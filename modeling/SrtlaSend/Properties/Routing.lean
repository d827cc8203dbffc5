import SrtlaSend.Properties.LinkFrames
import SrtlaSend.Properties.Selection
import SrtlaSend.Sender.PacketHandler

/-!
# Routing of a data packet

Scheduler, best-path override, forwarding, probing and the recovery after a
refused flush all act on the same links within one packet. This module follows
one packet through them: the link that gets the unique copy, the links that get
duplicates, and the tracker entry that remembers the carrier.
-/

namespace SrtlaSend

open MachineInt Pointwise

/-! ### Draining a queue that holds probes -/

namespace BatchSender

/-- The three vectors are equally long. -/
def Aligned (b : BatchSender) : Prop :=
  b.sequences.length = b.queue.length ∧ b.queueTimes.length = b.queue.length

/-- An empty queue drains to the empty zip as well. -/
theorem drain_snd (b : BatchSender) (now : Nat) :
    (b.drain now).2 = b.queue.zip (b.sequences.zip b.queueTimes) := by
  unfold drain
  cases queue : b.queue with
  | nil => simp
  | cons data rest => simp

theorem queuePacket_aligned {b : BatchSender} (h : b.Aligned) (data : Bytes) (seq : Option Nat)
    (t : Nat) : (b.queuePacket data seq t).1.Aligned := by
  obtain ⟨sequences, times⟩ := h
  simp [queuePacket, Aligned, sequences, times]

theorem drain_queuePacket {b : BatchSender} (h : b.Aligned) (data : Bytes) (seq : Option Nat)
    (t now : Nat) :
    ((b.queuePacket data seq t).1.drain now).2 = (b.drain now).2 ++ [(data, seq, t)] := by
  obtain ⟨sequences, times⟩ := h
  rw [drain_snd, drain_snd]
  change (b.queue ++ [data]).zip ((b.sequences ++ [seq]).zip (b.queueTimes ++ [t])) = _
  rw [List.zip_append (by omega), List.zip_append (by simp; omega)]
  rfl

end BatchSender

namespace SrtlaConnection

/-- What the link logs and counts once its queue is drained. -/
def drained (c : SrtlaConnection) : FiniteMap Int Nat × Int :=
  ((c.takeBatch 0).1.packetLog, (c.takeBatch 0).1.inFlightPackets)

/-- The effect of registering a batch on log and count alone. -/
def logBatch (ledger : FiniteMap Int Nat × Int) (batch : List DrainedPacket) :
    FiniteMap Int Nat × Int :=
  batch.foldl
    (fun ledger packet =>
      match packet.2.1 with
      | some s =>
        let log : FiniteMap Int Nat := ledger.1.insert (asI32 s) packet.2.2
        (log, asI32 log.len)
      | none => ledger)
    ledger

theorem registerBatch_ledger (c : SrtlaConnection) (batch : List DrainedPacket) :
    ((c.registerBatch batch).packetLog, (c.registerBatch batch).inFlightPackets) =
      logBatch (c.packetLog, c.inFlightPackets) batch := by
  unfold registerBatch logBatch
  induction batch generalizing c with
  | nil => rfl
  | cons packet batch ih =>
    rw [List.foldl_cons, List.foldl_cons]
    cases packet.2.1 with
    | none => exact ih c
    | some s => exact ih (c.registerPacket (asI32 s) packet.2.2)

theorem takeBatch_ledger (c : SrtlaConnection) (now : Nat) :
    ((c.takeBatch now).1.packetLog, (c.takeBatch now).1.inFlightPackets) =
      logBatch (c.packetLog, c.inFlightPackets)
        (c.batchSender.queue.zip (c.batchSender.sequences.zip c.batchSender.queueTimes)) := by
  unfold takeBatch
  simp only [registerBatch_ledger, BatchSender.drain_snd]

/-- The time a batch is drained at does not matter to the log. -/
theorem takeBatch_eq_drained (c : SrtlaConnection) (now : Nat) :
    ((c.takeBatch now).1.packetLog, (c.takeBatch now).1.inFlightPackets) = c.drained := by
  rw [drained, takeBatch_ledger, takeBatch_ledger]

/-- Log and in-flight count. -/
def ledger (c : SrtlaConnection) : FiniteMap Int Nat × Int := (c.packetLog, c.inFlightPackets)

/-- What is queued last is registered last. -/
theorem drained_of_queued {c c' : SrtlaConnection} (h : c.batchSender.Aligned) (data : Bytes)
    (seq : Option Nat) (t : Nat) (same : c'.ledger = c.ledger)
    (queued : c'.batchSender = (c.batchSender.queuePacket data seq t).1) :
    c'.drained = logBatch c.drained [(data, seq, t)] := by
  have zipped := BatchSender.drain_queuePacket h data seq t 0
  rw [BatchSender.drain_snd, BatchSender.drain_snd] at zipped
  rw [drained, drained, takeBatch_ledger, takeBatch_ledger, queued, zipped]
  change logBatch c'.ledger _ = _
  rw [same]
  exact List.foldl_append

theorem drained_queueDataPacket {c : SrtlaConnection} (h : c.batchSender.Aligned) (data : Bytes)
    (seq : Option Nat) (t : Nat) :
    (c.queueDataPacket data seq t).1.drained = logBatch c.drained [(data, seq, t)] :=
  drained_of_queued h data seq t rfl rfl

/-- A probe is drained without being registered. -/
theorem drained_queueProbePacket {c : SrtlaConnection} (h : c.batchSender.Aligned) (data : Bytes)
    (seq t : Nat) : (c.queueProbePacket data seq t).1.drained = c.drained :=
  drained_of_queued h data none t rfl rfl

/-- Queue packets one after the other. -/
def queueAll (c : SrtlaConnection) (packets : List DrainedPacket) : SrtlaConnection :=
  packets.foldl (fun c packet => (c.queueDataPacket packet.1 packet.2.1 packet.2.2).1) c

/-- Links that would log the same now would log the same after more packets. -/
theorem drained_queueAll_congr {c d : SrtlaConnection} (hc : c.batchSender.Aligned)
    (hd : d.batchSender.Aligned) (same : c.drained = d.drained) (packets : List DrainedPacket) :
    (c.queueAll packets).drained = (d.queueAll packets).drained := by
  unfold queueAll
  induction packets generalizing c d with
  | nil => exact same
  | cons packet packets ih =>
    rw [List.foldl_cons, List.foldl_cons]
    apply ih
    · exact BatchSender.queuePacket_aligned hc packet.1 packet.2.1 packet.2.2
    · exact BatchSender.queuePacket_aligned hd packet.1 packet.2.1 packet.2.2
    · rw [drained_queueDataPacket hc, drained_queueDataPacket hd, same]

theorem takeBatch_connId (c : SrtlaConnection) (now : Nat) :
    (c.takeBatch now).1.connId = c.connId :=
  (takeBatch_frame c now).connId

end SrtlaConnection

/-! ### Flushing -/

section Flush

variable (conn : SrtlaConnection) (connIo : ConnIoMap) (sends : Sends)

/-- The link is flushed and its socket refuses the batch. -/
def FlushRefused (needsFlush : Bool) : Prop :=
  needsFlush = true ∧ conn.connId ∈ connIo ∧ (sends conn.connId).sent = false

/-- A flush does nothing, drains the queue, or ends in recovery; the tracker
loses the link in the last case only. -/
theorem flushIfNeeded_cases (needsFlush : Bool) (tracker : SequenceTracker) :
    flushIfNeeded needsFlush conn connIo sends tracker = (conn, tracker) ∨
      (∃ c, flushIfNeeded needsFlush conn connIo sends tracker = (c, tracker) ∧
        c.connId = conn.connId ∧ c.ledger = conn.drained) ∨
      ∃ c, flushIfNeeded needsFlush conn connIo sends tracker =
        (c, tracker.removeConnection conn.connId) ∧ c.connId = conn.connId ∧ c.ledger = (∅, 0) ∧
        FlushRefused conn connIo sends needsFlush := by
  unfold flushIfNeeded
  split
  case isFalse => exact Or.inl rfl
  case isTrue due =>
    have id := conn.takeBatch_connId (sends conn.connId).now
    have ledger := conn.takeBatch_eq_drained (sends conn.connId).now
    rcases flushConnection_cases conn (sends conn.connId) tracker with empty | sent | ⟨refused, failed⟩
    · exact Or.inr (Or.inl ⟨_, empty, id, ledger⟩)
    · exact Or.inr (Or.inl ⟨_, sent, id, ledger⟩)
    · refine Or.inr (Or.inr
        ⟨(conn.takeBatch (sends conn.connId).now).1.markForRecovery, ?_, id, rfl, due.1, due.2, refused⟩)
      rw [failed, recoverConnection, id]

end Flush

/-! ### The tracker -/

theorem SequenceTracker.get_removeConnection_of_none {t : SequenceTracker} {seq now : Nat}
    (missing : t.get seq now = none) (connId : Nat) : (t.removeConnection connId).get seq now = none := by
  simp only [get] at missing ⊢
  simp only [removeConnection]
  split
  · simp [SequenceTrackingEntry.isValid]
  · exact missing

/-- A flush of another link than its carrier leaves the owner of a packet alone. -/
theorem get_flushIfNeeded {conn : SrtlaConnection} {tracker : SequenceTracker} {seq now : Nat}
    (other : tracker.get seq now ≠ some conn.connId) (connIo : ConnIoMap) (sends : Sends)
    (needsFlush : Bool) :
    (flushIfNeeded needsFlush conn connIo sends tracker).2.get seq now = tracker.get seq now := by
  rcases flushIfNeeded_cases conn connIo sends needsFlush tracker with
    same | ⟨c, drained, -⟩ | ⟨c, recovered, -⟩
  · rw [same]
  · rw [drained]
  · rw [recovered]
    cases found : tracker.get seq now with
    | none => exact SequenceTracker.get_removeConnection_of_none found conn.connId
    | some owner =>
      apply SequenceTracker.get_removeConnection found
      rintro rfl
      exact other found

/-! ### Probing -/

namespace DataPath

section Probe

variable (selIdx : Nat) (pkt : Bytes) (seq : Nat) (connIo : ConnIoMap) (sends : Sends) (now : Nat)

/-- What probing makes of a held-out link: its counter moves, and when its turn
comes one copy is queued and the batch possibly flushed. -/
def IsProbeOutcome (d d' : SrtlaConnection) : Prop :=
  let queued := d.stallProbeDue.1.queueProbePacket (setSrtDataRetransmit pkt) seq now
  (d.stallProbeDue.2 = false ∧ d' = d.stallProbeDue.1) ∨
    (d.stallProbeDue.2 = true ∧
      ∃ tracker, d' = (flushIfNeeded queued.2 queued.1 connIo sends tracker).1)

theorem probeLink_outcome (d : SrtlaConnection) (tracker : SequenceTracker) :
    IsProbeOutcome pkt seq connIo sends now d (probeLink pkt seq connIo sends now d tracker).1 := by
  unfold probeLink
  simp only
  split
  case isTrue due => exact Or.inr ⟨due, _, rfl⟩
  case isFalse idle => exact Or.inl ⟨Bool.eq_false_iff.mpr idle, rfl⟩

theorem stallProbeDue_connId (d : SrtlaConnection) : d.stallProbeDue.1.connId = d.connId := by
  unfold SrtlaConnection.stallProbeDue
  split
  · rfl
  · rfl

/-- Probing a link other than the carrier leaves the owner of a packet alone. -/
theorem get_probeLink {d : SrtlaConnection} {tracker : SequenceTracker} {s t : Nat}
    (other : tracker.get s t ≠ some d.connId) :
    (probeLink pkt seq connIo sends now d tracker).2.get s t = tracker.get s t := by
  unfold probeLink
  simp only
  split
  · apply get_flushIfNeeded
    rw [← stallProbeDue_connId d] at other
    exact other
  · rfl

/-- The loop touches held-out links other than the chosen one, each once. -/
theorem sendStallProbes_getElem? (conns : List SrtlaConnection) (offset : Nat)
    (tracker : SequenceTracker) {j : Nat} {d : SrtlaConnection} (at_j : conns[j]? = some d) :
    ∃ d', (sendStallProbes selIdx pkt seq connIo sends now offset conns tracker).1[j]? = some d' ∧
      (d' = d ∨ (offset + j ≠ selIdx ∧ isProbed d = true ∧
        IsProbeOutcome pkt seq connIo sends now d d')) := by
  induction conns generalizing offset tracker j with
  | nil => cases at_j
  | cons c rest ih =>
    rw [sendStallProbes]
    simp only
    cases j with
    | zero =>
      obtain rfl := Option.some.inj at_j
      refine ⟨_, rfl, ?_⟩
      -- the position itself: probed, or passed over
      split
      case isTrue probed => exact Or.inr ⟨probed.1, probed.2, probeLink_outcome pkt seq connIo sends now c _⟩
      case isFalse => exact Or.inl rfl
    | succ j =>
      obtain ⟨d', at_j', outcome⟩ := ih (offset + 1) _ at_j
      refine ⟨d', at_j', outcome.imp_right ?_⟩
      rintro ⟨other, probed⟩
      exact ⟨by omega, probed⟩

/-- The chosen link is not touched. -/
theorem sendStallProbes_selected (conns : List SrtlaConnection) (offset : Nat)
    (tracker : SequenceTracker) {j : Nat} {d : SrtlaConnection} (at_j : conns[j]? = some d)
    (chosen : offset + j = selIdx) :
    (sendStallProbes selIdx pkt seq connIo sends now offset conns tracker).1[j]? = some d := by
  obtain ⟨d', at_j', rfl | ⟨other, -⟩⟩ :=
    sendStallProbes_getElem? selIdx pkt seq connIo sends now conns offset tracker at_j
  · exact at_j'
  · exact absurd chosen other

/-- Probing leaves the owner of a packet alone when no other link has its id. -/
theorem get_sendStallProbes (conns : List SrtlaConnection) (offset : Nat)
    (tracker : SequenceTracker) {s t : Nat}
    (others : ∀ j d, conns[j]? = some d → offset + j ≠ selIdx → tracker.get s t ≠ some d.connId) :
    (sendStallProbes selIdx pkt seq connIo sends now offset conns tracker).2.get s t =
      tracker.get s t := by
  induction conns generalizing offset tracker with
  | nil => rfl
  | cons c rest ih =>
    rw [sendStallProbes]
    simp only
    have head : (if offset ≠ selIdx ∧ isProbed c = true then
          probeLink pkt seq connIo sends now c tracker
        else (c, tracker)).2.get s t = tracker.get s t := by
      split
      case isTrue probed =>
        exact get_probeLink pkt seq connIo sends now (others 0 c rfl probed.1)
      case isFalse => rfl
    rw [ih, head]
    intro j d at_j other
    rw [head]
    exact others (j + 1) d at_j (by omega)

end Probe

/-! ### One packet -/

/-- Log and count of `d'` owe nothing to a copy queued on `d`: the copy still
waits and no drain after any further packets will log it, or the batch went out
and logged what `d` had queued, or the link was reset. -/
def CopyUnlogged (d d' : SrtlaConnection) : Prop :=
  (d'.ledger = d.ledger ∧ ∀ later, (d'.queueAll later).drained = (d.queueAll later).drained) ∨
    d'.ledger = d.drained ∨ d'.ledger = (∅, 0)

theorem copyUnlogged_stallProbeDue {d : SrtlaConnection} (h : d.batchSender.Aligned) :
    d.stallProbeDue.1.batchSender.Aligned ∧ CopyUnlogged d d.stallProbeDue.1 ∧
      d.stallProbeDue.1.drained = d.drained := by
  have counter : ∀ n, { d with stallProbeCounter := n }.drained = d.drained := by
    intro n
    rw [SrtlaConnection.drained, SrtlaConnection.takeBatch_ledger, SrtlaConnection.drained,
      SrtlaConnection.takeBatch_ledger]
  unfold SrtlaConnection.stallProbeDue
  split
  · exact ⟨h, Or.inl ⟨rfl, SrtlaConnection.drained_queueAll_congr h h (counter 0)⟩, counter 0⟩
  · exact ⟨h, Or.inl ⟨rfl, SrtlaConnection.drained_queueAll_congr h h (counter _)⟩, counter _⟩

theorem copyUnlogged_of_isProbeOutcome {pkt : Bytes} {seq now : Nat} {connIo : ConnIoMap}
    {sends : Sends} {d d' : SrtlaConnection} (h : d.batchSender.Aligned)
    (outcome : IsProbeOutcome pkt seq connIo sends now d d') : CopyUnlogged d d' := by
  obtain ⟨aligned, due, drained⟩ := copyUnlogged_stallProbeDue h
  -- not due, or the copy is queued and may be flushed
  rcases outcome with ⟨-, rfl⟩ | ⟨-, tracker, rfl⟩
  · exact due
  · have probe := SrtlaConnection.drained_queueProbePacket aligned (setSrtDataRetransmit pkt) seq now
    have ledger : (d.stallProbeDue.1.queueProbePacket (setSrtDataRetransmit pkt) seq now).1.ledger =
        d.ledger := by
      unfold SrtlaConnection.stallProbeDue
      split
      · rfl
      · rfl
    rcases flushIfNeeded_cases (d.stallProbeDue.1.queueProbePacket (setSrtDataRetransmit pkt) seq now).1
      connIo sends (d.stallProbeDue.1.queueProbePacket (setSrtDataRetransmit pkt) seq now).2 tracker with
      same | ⟨c, sent, -, log⟩ | ⟨c, recovered, -, log, -⟩
    · rw [same]
      have queue := BatchSender.queuePacket_aligned aligned (setSrtDataRetransmit pkt) none now
      exact Or.inl ⟨ledger, SrtlaConnection.drained_queueAll_congr queue h (probe.trans drained)⟩
    · rw [sent]
      exact Or.inr (Or.inl (log.trans (probe.trans drained)))
    · rw [recovered]
      exact Or.inr (Or.inr log)

/-- The packet went to link `i`, which the pass left as `c` among `conns`, and
`s'` is what became of the data path. -/
structure RoutedTo (conns : List SrtlaConnection) (tracker : SequenceTracker) (pkt : Bytes)
    (seq : Nat) (connIo : ConnIoMap) (sends : Sends) (now : Nat) (s' : DataPath) (i : Nat)
    (c : SrtlaConnection) : Prop where
  found : conns[i]? = some c
  connected : c.connected = true
  schedulable : c.isSchedulable = true
  alive : c.isTimedOut now = false
  notGated : c.stallGated = false
  notExcluded : c.qualityExcluded = false
  /-- The unique copy is queued there, and flushed if the batch is full. -/
  queued : s'.conns[i]? = some (flushIfNeeded (c.queueDataPacket pkt (some seq) now).2
    (c.queueDataPacket pkt (some seq) now).1 connIo sends (tracker.insert seq c.connId now)).1
  /-- Any other link is as the pass left it, or was held out, connected, and
  offered one copy. -/
  others : ∀ j d, j ≠ i → conns[j]? = some d → ∃ d', s'.conns[j]? = some d' ∧
    (d' = d ∨ (d.connected = true ∧ (d.stallGated = true ∨ d.qualityExcluded = true) ∧
      IsProbeOutcome pkt seq connIo sends now d d' ∧
      (d.batchSender.Aligned → CopyUnlogged d d')))
  /-- Probing does not change the owner of the packet. -/
  ownerKept : s'.tracker.get seq now = (flushIfNeeded (c.queueDataPacket pkt (some seq) now).2
    (c.queueDataPacket pkt (some seq) now).1 connIo sends (tracker.insert seq c.connId now)).2.get
      seq now
  /-- The owner is the chosen link, unless its own flush was refused. -/
  owner : ¬ FlushRefused (c.queueDataPacket pkt (some seq) now).1 connIo sends
    (c.queueDataPacket pkt (some seq) now).2 → s'.tracker.get seq now = some c.connId

/-- A packet goes where the scheduler sends it, or to the link of best quality. -/
theorem routePacket_cases {calculate : SrtlaConnection → Nat → ℚ} {s : DataPath} {pkt : Bytes}
    {now : Nat} {config : ConfigSnapshot} {criticalWindow : CriticalWindow} {i : Nat}
    (chosen : (s.routePacket calculate pkt now config criticalWindow).2 = some i) :
    (selectConnectionIdx calculate s.conns s.lastSelectedIdx now config).2 = some i ∨
      Priority.selectBestQualityIdx
        (selectConnectionIdx calculate s.conns s.lastSelectedIdx now config).1 now = some i := by
  simp only [routePacket, overrideSelection] at chosen
  split at chosen
  · unfold Priority.selectBestPathOverrideIdx at chosen
    split at chosen
    · exact Or.inl chosen
    · cases best : Priority.selectBestQualityIdx
        (selectConnectionIdx calculate s.conns s.lastSelectedIdx now config).1 now with
      | none =>
        -- the override found nothing and leaves the scheduler's choice
        rw [best] at chosen
        exact Or.inl chosen
      | some j =>
        rw [best] at chosen
        exact Or.inr chosen
  · exact Or.inl chosen

/-- The scheduler's choice and the override both pick an admitted, connected link. -/
theorem routePacket_admitted {calculate : SrtlaConnection → Nat → ℚ} {s : DataPath} {pkt : Bytes}
    {now : Nat} {config : ConfigSnapshot} {criticalWindow : CriticalWindow}
    (lifecycle : ∀ c ∈ s.conns, c.NoLimbo) {i : Nat}
    (chosen : (s.routePacket calculate pkt now config criticalWindow).2 = some i) :
    ∃ c, (s.routePacket calculate pkt now config criticalWindow).1[i]? = some c ∧
      Priority.isEligible now c = true := by
  rcases routePacket_cases chosen with scheduled | best
  · obtain ⟨c, at_i, candidate, kept⟩ := selectConnectionIdx_admitted scheduled
    have frame := selectConnectionIdx_frame calculate s.conns s.lastSelectedIdx now config
    obtain ⟨c₀, at_i₀, same⟩ := getElem?_of_forall₂_right frame at_i
    -- a candidate is usable, and without limbo a usable link is connected
    have noLimbo : c.NoLimbo := (lifecycle c₀ (List.mem_of_getElem? at_i₀)).of_sameUpToPass same
    rw [SrtlaConnection.isCandidate, Bool.and_eq_true, Bool.not_eq_true'] at candidate
    have on := connected_of_isUsable noLimbo candidate.1
    have usable := candidate.1
    rw [SrtlaConnection.isUsable, Bool.and_eq_true] at usable
    exact ⟨c, at_i, by simp [Priority.isEligible, on, usable.1, usable.2, candidate.2, kept]⟩
  · exact Priority.isEligible_of_selectBestQualityIdx best

/-- A pass keeps connection ids. -/
theorem routePacket_connIds (calculate : SrtlaConnection → Nat → ℚ) (s : DataPath) (pkt : Bytes)
    (now : Nat) (config : ConfigSnapshot) (criticalWindow : CriticalWindow) :
    (s.routePacket calculate pkt now config criticalWindow).1.map (·.connId) =
      s.conns.map (·.connId) := by
  have frame := selectConnectionIdx_frame calculate s.conns s.lastSelectedIdx now config
  change (selectConnectionIdx calculate s.conns s.lastSelectedIdx now config).1.map (·.connId) = _
  exact map_eq_of_forall₂ (fun c c' same => same.connId) frame

/-- Ids that differ pairwise tell positions apart. -/
theorem connId_ne {conns : List SrtlaConnection} (distinct : (conns.map (·.connId)).Nodup)
    {i j : Nat} {c d : SrtlaConnection} (at_i : conns[i]? = some c) (at_j : conns[j]? = some d)
    (differ : j ≠ i) : d.connId ≠ c.connId := by
  intro same
  have ids : (conns.map (·.connId))[j]? = (conns.map (·.connId))[i]? := by
    rw [List.getElem?_map, List.getElem?_map, at_i, at_j, Option.map_some, Option.map_some, same]
  have inside : j < (conns.map (·.connId)).length := by
    rw [List.length_map]
    exact (List.getElem?_eq_some_iff.mp at_j).1
  exact differ ((List.getElem?_inj inside distinct).mp ids)

/-- Forwarding and probing on links with distinct, non-zero ids. -/
theorem deliver_routedTo {s : DataPath} {pkt : Bytes} {seq now i : Nat} {c : SrtlaConnection}
    (data : getSrtSequenceNumber pkt = some seq) (distinct : (s.conns.map (·.connId)).Nodup)
    (nonzero : c.connId ≠ 0) (at_i : s.conns[i]? = some c)
    (eligible : Priority.isEligible now c = true) (connIo : ConnIoMap) (sends : Sends) :
    RoutedTo s.conns s.tracker pkt seq connIo sends now (s.deliver i pkt connIo sends now) i c := by
  have inside : i < s.conns.length := (List.getElem?_eq_some_iff.mp at_i).1
  simp only [Priority.isEligible, Bool.and_eq_true, Bool.not_eq_true'] at eligible
  obtain ⟨⟨⟨⟨connected, schedulable⟩, alive⟩, notGated⟩, notExcluded⟩ := eligible
  set queued := c.queueDataPacket pkt (some seq) now with queued_def
  set flushed := flushIfNeeded queued.2 queued.1 connIo sends (s.tracker.insert seq c.connId now)
    with flushed_def
  have delivered : s.deliver i pkt connIo sends now =
      { s with
        conns := (sendStallProbes i pkt seq connIo sends now 0 (s.conns.set i flushed.1) flushed.2).1
        tracker := (sendStallProbes i pkt seq connIo sends now 0 (s.conns.set i flushed.1) flushed.2).2
        lastSelectedIdx := some i } := by
    simp only [deliver, forwardViaConnection, data, at_i]
    rfl
  -- whoever owns the packet after forwarding is the chosen link, or nobody
  have inserted : (s.tracker.insert seq c.connId now).get seq now = some c.connId :=
    s.tracker.get_insert seq now nonzero
  have forwarded : (flushed.2.get seq now = some c.connId ∨ flushed.2.get seq now = none) ∧
      (¬ FlushRefused queued.1 connIo sends queued.2 → flushed.2.get seq now = some c.connId) := by
    rcases flushIfNeeded_cases queued.1 connIo sends queued.2 (s.tracker.insert seq c.connId now) with
      same | ⟨d, sent, -⟩ | ⟨d, recovered, -, -, refused⟩
    · rw [flushed_def, same]
      exact ⟨Or.inl inserted, fun _ => inserted⟩
    · rw [flushed_def, sent]
      exact ⟨Or.inl inserted, fun _ => inserted⟩
    · refine ⟨Or.inr ?_, fun unrefused => absurd refused unrefused⟩
      rw [flushed_def, recovered]
      simp [SequenceTracker.get, SequenceTracker.removeConnection, SequenceTracker.insert,
        SequenceTrackingEntry.isValid, queued_def, SrtlaConnection.queueDataPacket]
  have ownerKept : (s.deliver i pkt connIo sends now).tracker.get seq now = flushed.2.get seq now := by
    rw [delivered]
    apply get_sendStallProbes
    intro j d at_j other
    have differ : j ≠ i := by omega
    rw [List.getElem?_set_ne (Ne.symm differ)] at at_j
    rcases forwarded.1 with found | missing
    · rw [found]
      intro same
      exact connId_ne distinct at_i at_j differ (Option.some.inj same).symm
    · rw [missing]
      exact Option.some_ne_none _ |> Ne.symm
  refine ⟨at_i, connected, schedulable, alive, notGated, notExcluded, ?_, ?_, ownerKept, ?_⟩
  · rw [delivered]
    apply sendStallProbes_selected
    · rw [List.getElem?_set_self inside]
    · omega
  · intro j d differ at_j
    rw [delivered]
    have kept : (s.conns.set i flushed.1)[j]? = some d := by
      rw [List.getElem?_set_ne (Ne.symm differ), at_j]
    obtain ⟨d', at_j', rfl | ⟨-, probed, outcome⟩⟩ :=
      sendStallProbes_getElem? i pkt seq connIo sends now (s.conns.set i flushed.1) 0 flushed.2 kept
    · exact ⟨d', at_j', Or.inl rfl⟩
    · rw [isProbed, Bool.and_eq_true, Bool.or_eq_true] at probed
      exact ⟨d', at_j', Or.inr ⟨probed.2, probed.1, outcome,
        fun aligned => copyUnlogged_of_isProbeOutcome aligned outcome⟩⟩
  · intro unrefused
    rw [ownerKept]
    exact forwarded.2 unrefused

/-- One data packet after registration: if the pass finds a link, the packet is
routed to it; otherwise nothing is queued anywhere. -/
theorem handleSrtPacket_routes (calculate : SrtlaConnection → Nat → ℚ) {s : DataPath} {pkt : Bytes}
    {seq : Nat} (data : getSrtSequenceNumber pkt = some seq)
    (lifecycle : ∀ c ∈ s.conns, c.NoLimbo) (distinct : (s.conns.map (·.connId)).Nodup)
    (nonzero : ∀ c ∈ s.conns, c.connId ≠ 0) (src : SocketAddr) (connIo : ConnIoMap) (sends : Sends)
    (config : ConfigSnapshot) (criticalWindow : CriticalWindow) (now : Nat) :
    let routed := s.routePacket calculate pkt now config criticalWindow
    let s' := s.handleSrtPacket calculate pkt src connIo sends true config criticalWindow now
    (∀ i, routed.2 = some i →
      ∃ c, RoutedTo routed.1 s.tracker pkt seq connIo sends now s' i c) ∧
    (routed.2 = none → s'.conns = routed.1 ∧ s'.tracker = s.tracker) := by
  intro routed s'
  have nonempty : pkt.isEmpty = false := by
    cases pkt with
    | nil => cases data
    | cons byte rest => rfl
  constructor
  · intro i chosen
    obtain ⟨c, at_i, eligible⟩ := routePacket_admitted lifecycle chosen
    -- the pass keeps the ids, which name one link each and none of the empty entries
    have ids := routePacket_connIds calculate s pkt now config criticalWindow
    have distinct' : (routed.1.map (·.connId)).Nodup := by
      rw [ids]
      exact distinct
    have nonzero' : c.connId ≠ 0 := by
      have member : c.connId ∈ s.conns.map (·.connId) := by
        rw [← ids]
        exact List.mem_map_of_mem (List.mem_of_getElem? at_i)
      obtain ⟨c₀, member₀, same⟩ := List.mem_map.mp member
      rw [← same]
      exact nonzero c₀ member₀
    obtain ⟨found, connected, schedulable, alive, notGated, notExcluded, queued, others, kept, owner⟩ :=
      deliver_routedTo (s := { s with conns := routed.1 }) data distinct' nonzero' at_i eligible connIo
        sends
    have delivered : s' = { ({ s with conns := routed.1 } : DataPath).deliver i pkt connIo sends now
        with lastClientAddr := some src } := by
      simp only [s', handleSrtPacket, nonempty, Bool.not_true, Bool.false_eq_true, if_false]
      rw [show (s.routePacket calculate pkt now config criticalWindow).2 = some i from chosen]
    rw [delivered]
    exact ⟨c, found, connected, schedulable, alive, notGated, notExcluded, queued, others, kept, owner⟩
  · intro nowhere
    have dropped : s' = { s with conns := routed.1, lastClientAddr := some src } := by
      simp only [s', handleSrtPacket, nonempty, Bool.not_true, Bool.false_eq_true, if_false]
      rw [show (s.routePacket calculate pkt now config criticalWindow).2 = none from nowhere]
    rw [dropped]
    exact ⟨rfl, rfl⟩

/-- Three packets wait, and the next one fills the batch. -/
def waitingBatch : BatchSender :=
  { queue := [[0, 0, 0, 4], [0, 0, 0, 5], [0, 0, 0, 6]]
    sequences := [some 4, some 5, some 6]
    queueTimes := [1190, 1191, 1192]
    regime := .lowActivity }

/-- The first link is latched and its probe is due. -/
def probedPath : DataPath :=
  ⟨[{ liveLink 1 1000 with
        stallLatchedSinceMs := 900, stallProbeCounter := 99, batchSender := waitingBatch },
      { liveLink 2 1000 with batchSender := waitingBatch }], none, .new, none⟩

/-- The socket of the first link refuses everything. -/
def refusing : Sends := fun connId => ⟨1200, decide (connId ≠ 1)⟩

/-- The packet goes to the second link and fills its batch, which is sent; the probe fills that
of the first, which is refused and brings the link down. The second link owns the packet. -/
theorem handleSrtPacket_routes_probed :
    let connIo : ConnIoMap :=
      ((∅ : ConnIoMap).insert 1 ⟨.v4 1, 5000⟩).insert 2 ⟨.v4 1, 5000⟩
    let routed := probedPath.routePacket (fun _ _ => 1) [0, 0, 0, 7] 1200 {} {}
    let s' := probedPath.handleSrtPacket (fun _ _ => 1) [0, 0, 0, 7] ⟨.v4 1, 1⟩ connIo refusing true {} {}
      1200
    (∃ c, RoutedTo routed.1 .new [0, 0, 0, 7] 7 connIo refusing 1200 s' 1 c) ∧
      s'.conns.map (fun c => (c.connected, c.inFlightPackets)) = [(false, 0), (true, 4)] ∧
      s'.tracker.get 7 1200 = some 2 := by
  intro connIo routed s'
  have up : ∀ c ∈ probedPath.conns, c.connected = true := by decide
  have chosen : routed.2 = some 1 := by decide +kernel
  have routes := handleSrtPacket_routes (fun _ _ => 1) (s := probedPath)
    (show getSrtSequenceNumber [0, 0, 0, 7] = some 7 by decide)
    (fun c member down => absurd (down.symm.trans (up c member)) Bool.noConfusion) (by decide)
    (by decide) ⟨.v4 1, 1⟩ connIo refusing {} {} 1200
  exact ⟨routes.1 1 chosen, by decide +kernel, by decide +kernel⟩

end DataPath

end SrtlaSend
