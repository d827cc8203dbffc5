import SrtlaSend.Properties.LinkAccounting
import Mathlib.Data.Int.Interval

/-!
# Cumulative acknowledgements

An ACK clears the log either by walking the sequences from the previous highest
ACK or by sweeping everything at or before the new one. The two agree unless an
entry at or before the previous highest ACK is still logged, which happens when
a packet is registered after the ACK that covers it. This module says exactly
when the walk leaves such an entry behind.
-/

namespace SrtlaSend

open MachineInt Runs

namespace LinkOp

/-- Every sequence number the operation logs lies in the sequence space. -/
def Sequenced : LinkOp → Prop
  | queueDataPacket _ (some s) _ => s < 2 ^ 31
  | registerPacket seq _ => IsSeq seq
  | _ => True

end LinkOp

namespace SrtlaConnection

/-- The link holds sequence numbers only, in its log and in its queue. -/
structure Sequenced (c : SrtlaConnection) : Prop where
  log : ∀ k ∈ c.packetLog, IsSeq k
  queued : ∀ s, some s ∈ c.batchSender.sequences → s < 2 ^ 31

/-- The ACK is discarded: it does not advance the highest one. -/
def isStaleAck (c : SrtlaConnection) (ack : Int) : Bool :=
  decide (c.highestAckedSeq ≠ noAckYet) && !seqAfter ack c.highestAckedSeq

/-- What a cumulative ACK is for: the log keeps exactly the entries after `ack`,
and the in-flight count is their number. -/
def ClearedUpTo (c : SrtlaConnection) (ack : Int) (c' : SrtlaConnection) : Prop :=
  c'.packetLog = c.packetLog.retain (fun seq _ => seqAfter seq ack) ∧
    c'.inFlightPackets = (c.packetLog.retain fun seq _ => seqAfter seq ack).len

/-- The ACK sweeps the log, or nothing the walk passes over is logged. -/
def WalkCovers (c : SrtlaConnection) (ack : Int) : Prop :=
  c.highestAckedSeq = noAckYet ∨ seqDiff ack c.highestAckedSeq > targetedRemovalLimit ∨
    ∀ k ∈ c.packetLog, seqAfter k c.highestAckedSeq = true ∨ seqAfter k ack = true

/-! ### Logged sequence numbers -/

theorem isSeq_asI32 {s : Nat} (h : s < 2 ^ 31) : IsSeq (asI32 s) := by
  have exact_cast : asI32 (s : Int) = s := asI32_natCast h
  rw [exact_cast]
  exact ⟨by omega, by omega⟩

theorem sequenced_registerPacket {c : SrtlaConnection} (h : c.Sequenced) {seq : Int}
    (isSeq : IsSeq seq) (t : Nat) : (c.registerPacket seq t).Sequenced := by
  unfold registerPacket
  refine ⟨fun k member => ?_, h.queued⟩
  rcases (AList.mem_insert c.packetLog).mp member with rfl | old
  · exact isSeq
  · exact h.log k old

theorem sequenced_registerBatch {c : SrtlaConnection} (h : c.Sequenced) {batch : List DrainedPacket}
    (tracked : ∀ packet ∈ batch, ∀ s, packet.2.1 = some s → s < 2 ^ 31) :
    (c.registerBatch batch).Sequenced := by
  unfold registerBatch
  induction batch generalizing c with
  | nil => exact h
  | cons packet batch ih =>
    have rest : ∀ p ∈ batch, ∀ s, p.2.1 = some s → s < 2 ^ 31 :=
      fun p member => tracked p (List.mem_cons_of_mem packet member)
    have first := tracked packet List.mem_cons_self
    rw [List.foldl_cons]
    cases untracked : packet.2.1 with
    | none => exact ih h rest
    | some s => exact ih (sequenced_registerPacket h (isSeq_asI32 (first s untracked)) packet.2.2) rest

/-- The sequence of a drained packet was queued. -/
theorem seq_of_mem_drain {b : BatchSender} {now : Nat} {packet : DrainedPacket}
    (h : packet ∈ (b.drain now).2) : packet.2.1 ∈ b.sequences := by
  unfold BatchSender.drain at h
  by_cases empty : b.queue.isEmpty = true
  · simp [empty] at h
  · simp only [empty, Bool.false_eq_true, if_false] at h
    obtain ⟨-, inner⟩ := List.of_mem_zip h
    exact (List.of_mem_zip inner).1

theorem sequenced_takeBatch {c : SrtlaConnection} (h : c.Sequenced) (now : Nat) :
    (c.takeBatch now).1.Sequenced := by
  have queue : Sequenced { c with batchSender := (c.batchSender.drain now).1 } := by
    refine ⟨h.log, fun s member => ?_⟩
    unfold BatchSender.drain at member
    simp only at member
    split at member
    · exact h.queued s member
    · cases member
  refine sequenced_registerBatch queue fun packet member s tracked => ?_
  exact h.queued s (tracked ▸ seq_of_mem_drain member)

/-- Removing entries keeps the log in the sequence space. -/
theorem Sequenced.of_subset {c c' : SrtlaConnection} (h : c.Sequenced)
    (log : ∀ k ∈ c'.packetLog, k ∈ c.packetLog) (queue : c'.batchSender = c.batchSender) :
    c'.Sequenced :=
  ⟨fun k member => h.log k (log k member), by rw [queue]; exact h.queued⟩

theorem sequenced_of_empty {c : SrtlaConnection} (log : c.packetLog = ∅)
    (queue : c.batchSender.sequences = []) : c.Sequenced :=
  ⟨by simp [log], by simp [queue]⟩

/-- How far the ACK moves the mark; the first ACK has no mark to start from. -/
def ackAdvance (oldHighest ack : Int) : Int :=
  if oldHighest = noAckYet then 2 ^ 31 - 1 else seqDiff ack oldHighest

/-- Either way of clearing is a sweep over the log. -/
theorem clearAcked_eq_retain (log : FiniteMap Int Nat) (oldHighest ack : Int) :
    clearAcked log oldHighest ack = log.retain fun seq _ =>
      if ackAdvance oldHighest ack ≤ targetedRemovalLimit then
        decide (seq ∉ seqsAfter oldHighest (ackAdvance oldHighest ack).toNat)
      else seqAfter seq ack := by
  change (if ackAdvance oldHighest ack ≤ targetedRemovalLimit then _ else _) = _
  by_cases walk : ackAdvance oldHighest ack ≤ targetedRemovalLimit
  · simp only [if_pos walk]
    exact FiniteMap.foldl_erase_eq_retain _ _
  · simp only [if_neg walk]

theorem mem_of_mem_clearAcked {log : FiniteMap Int Nat} {oldHighest ack k : Int}
    (h : k ∈ clearAcked log oldHighest ack) : k ∈ log := by
  rw [clearAcked_eq_retain] at h
  exact FiniteMap.mem_of_mem_retain h

/-- What an ACK that is not discarded does to log, count and mark. -/
theorem handleSrtAck_spec {c : SrtlaConnection} {ack : Int} (isSeq : IsSeq ack)
    (fresh : c.isStaleAck ack = false) (nowMs : Nat) (owns : Bool) :
    (c.handleSrtAck ack nowMs owns).packetLog = clearAcked c.packetLog c.highestAckedSeq ack ∧
      (c.handleSrtAck ack nowMs owns).inFlightPackets =
        asI32 (clearAcked c.packetLog c.highestAckedSeq ack).len := by
  have guard : ¬(c.highestAckedSeq ≠ noAckYet ∧ (!seqAfter ack c.highestAckedSeq) = true) := by
    rintro ⟨marked, behind⟩
    simp [isStaleAck, marked, behind] at fresh
  unfold handleSrtAck
  simp only [seqNormalize_of_isSeq isSeq, if_neg guard]
  split
  · split
    · exact ⟨rfl, by simp only⟩
    · exact ⟨rfl, by simp only⟩
  · exact ⟨rfl, by simp only⟩

theorem sequenced_handleSrtAck {c : SrtlaConnection} (h : c.Sequenced) (ack : Int) (nowMs : Nat)
    (owns : Bool) : (c.handleSrtAck ack nowMs owns).Sequenced := by
  unfold handleSrtAck
  simp only
  split
  · exact h
  · split
    · split
      · exact h.of_subset (fun k member => mem_of_mem_clearAcked member) rfl
      · exact h.of_subset (fun k member => mem_of_mem_clearAcked member) rfl
    · exact h.of_subset (fun k member => mem_of_mem_clearAcked member) rfl

private theorem mem_of_mem_erase {log : FiniteMap Int Nat} {seq k : Int}
    (h : k ∈ log.erase seq) : k ∈ log := ((AList.mem_erase).mp h).2

theorem sequenced_handleNak {c : SrtlaConnection} (h : c.Sequenced) (seq : Int) (nowMs : Nat) :
    (c.handleNak seq nowMs).1.Sequenced := by
  unfold handleNak
  split
  · exact h.of_subset (fun k member => mem_of_mem_erase member) rfl
  · exact h

theorem sequenced_handleSrtlaAckSpecific {c : SrtlaConnection} (h : c.Sequenced) (seq : Int)
    (classicMode : Bool) (nowMs : Nat) :
    (c.handleSrtlaAckSpecific seq classicMode nowMs).1.Sequenced := by
  unfold handleSrtlaAckSpecific
  split
  · exact h.of_subset (fun k member => member) rfl
  · split
    · exact h.of_subset (fun k member => mem_of_mem_erase member) rfl
    · exact h

theorem sequenced_applyOp {c : SrtlaConnection} (h : c.Sequenced) {op : LinkOp}
    (ok : op.Sequenced) : (c.applyOp op).Sequenced := by
  cases op with
  | queueDataPacket data seq t =>
    refine ⟨h.log, fun s member => ?_⟩
    change some s ∈ c.batchSender.sequences ++ [seq] at member
    rcases List.mem_append.mp member with old | new
    · exact h.queued s old
    · obtain rfl := List.mem_singleton.mp new
      exact ok
  -- a probe is queued without a sequence number
  | queueProbePacket data seq t =>
    refine ⟨h.log, fun s member => ?_⟩
    change some s ∈ c.batchSender.sequences ++ [none] at member
    rcases List.mem_append.mp member with old | new
    · exact h.queued s old
    · cases List.mem_singleton.mp new
  | takeBatch now => exact sequenced_takeBatch h now
  | registerPacket seq t => exact sequenced_registerPacket h ok t
  | handleSrtAck ack nowMs owns => exact sequenced_handleSrtAck h ack nowMs owns
  | handleNak seq nowMs => exact sequenced_handleNak h seq nowMs
  | handleSrtlaAckSpecific seq classicMode nowMs =>
    exact sequenced_handleSrtlaAckSpecific h seq classicMode nowMs
  | handleSrtlaAckGlobal =>
    unfold applyOp handleSrtlaAckGlobal
    simp only
    split
    · exact ⟨h.log, h.queued⟩
    · exact h
  | performWindowRecovery nowMs => exact ⟨h.log, h.queued⟩
  | clearPreRegistrationState nowMs => exact sequenced_of_empty rfl rfl
  | markForRecovery => exact sequenced_of_empty rfl rfl
  | resetForReconnect now => exact sequenced_of_empty rfl rfl
  | acceptReg3 now => exact sequenced_of_empty rfl rfl
  | acceptRegErr => exact ⟨h.log, h.queued⟩
  | noteReceived now =>
    unfold applyOp noteReceived
    simp only
    split
    · exact ⟨h.log, h.queued⟩
    · exact h
  | setRtt rtt => exact ⟨h.log, h.queued⟩
  | setRegime regime => exact ⟨h.log, h.queued⟩

/-! ### Walk against sweep -/

/-- On a short advance, the walk keeps what the sweep keeps except for a
sequence at or before the mark. -/
theorem walk_agrees_iff {highest ack k : Int} (isSeq : IsSeq k)
    (ahead : 0 < seqDiff ack highest) (short : seqDiff ack highest ≤ 64) :
    decide (k ∉ seqsAfter highest (seqDiff ack highest).toNat) = seqAfter k ack ↔
      seqAfter k highest = true ∨ seqAfter k ack = true := by
  have length : (seqDiff ack highest).toNat < 2 ^ 31 := by omega
  have walked := mem_seqsAfter highest k (seqDiff ack highest).toNat length isSeq
  rw [Bool.eq_iff_iff, decide_eq_true_eq, walked, seqAfter_iff, seqAfter_iff]
  rw [seqDiff_eq] at ahead short ⊢
  omega

/-- The sweep leaves less than a full sequence space, so the count is exact. -/
theorem len_swept_lt {log : FiniteMap Int Nat} (isSeq : ∀ k ∈ log, IsSeq k) {ack : Int}
    (ackSeq : IsSeq ack) : (log.retain fun seq _ => seqAfter seq ack).len < 2 ^ 31 := by
  set kept := log.retain fun seq _ => seqAfter seq ack with kept_def
  have subset : kept.keys.toFinset ⊆ (Finset.Ico (0 : Int) (2 ^ 31)).erase ack := by
    intro k member
    obtain ⟨logged, after⟩ := FiniteMap.mem_retain_key.mp (List.mem_toFinset.mp member)
    obtain ⟨low, high⟩ := isSeq k logged
    rw [Finset.mem_erase, Finset.mem_Ico]
    refine ⟨?_, low, high⟩
    rintro rfl
    rw [seqAfter_iff] at after
    omega
  have ackIn : ack ∈ Finset.Ico (0 : Int) (2 ^ 31) := Finset.mem_Ico.mpr ackSeq
  have card := Finset.card_le_card subset
  have size : kept.keys.toFinset.card = kept.len := by
    rw [List.toFinset_card_of_nodup (AList.keys_nodup kept)]
    exact List.length_map _
  have span : (Finset.Ico (0 : Int) (2 ^ 31)).card = (2 ^ 31 - 0 : Int).toNat := Int.card_Ico 0 (2 ^ 31)
  rw [size, Finset.card_erase_of_mem ackIn, span] at card
  omega

theorem clearedUpTo_iff {c : SrtlaConnection} (seqs : c.Sequenced) {ack : Int} (isSeq : IsSeq ack)
    (fresh : c.isStaleAck ack = false) (nowMs : Nat) (owns : Bool) :
    c.ClearedUpTo ack (c.handleSrtAck ack nowMs owns) ↔ c.WalkCovers ack := by
  obtain ⟨log, count⟩ := handleSrtAck_spec isSeq fresh nowMs owns
  -- the count follows the log, so only the two logs have to be compared
  have onlyLog : c.ClearedUpTo ack (c.handleSrtAck ack nowMs owns) ↔
      clearAcked c.packetLog c.highestAckedSeq ack =
        c.packetLog.retain (fun seq _ => seqAfter seq ack) := by
    unfold ClearedUpTo
    rw [log, count]
    constructor
    · exact fun cleared => cleared.1
    · intro same
      refine ⟨same, ?_⟩
      rw [same]
      exact asI32_natCast (len_swept_lt seqs.log isSeq)
  rw [onlyLog, clearAcked_eq_retain]
  unfold WalkCovers ackAdvance
  by_cases first : c.highestAckedSeq = noAckYet
  · simp [first, targetedRemovalLimit]
  by_cases far : seqDiff ack c.highestAckedSeq > targetedRemovalLimit
  · simp [first, not_le.mpr far, far]
  -- only a short advance walks
  rw [not_lt] at far
  have ahead : 0 < seqDiff ack c.highestAckedSeq := by
    simpa [isStaleAck, first, seqAfter] using fresh
  simp only [first, if_false, far, if_true, false_or, not_lt.mpr far]
  constructor
  · intro same k logged
    exact (walk_agrees_iff (seqs.log k logged) ahead far).mp (FiniteMap.retain_key_inj same k logged)
  · intro covers
    apply FiniteMap.retain_congr_key
    intro k logged
    exact (walk_agrees_iff (seqs.log k logged) ahead far).mpr (covers k logged)

end SrtlaConnection

/-- At every point of every run, an ACK that is not discarded leaves exactly the
entries after it, and their number in flight, if and only if it sweeps the log
or finds no entry at or before the previous mark. -/
theorem handleSrtAck_clears_iff (connId : Nat) (label : String) (localIp : IpAddr) (start : Nat)
    (ops : List LinkOp) (sequenced : ∀ op ∈ ops, op.Sequenced) (ack : Int) (isSeq : IsSeq ack)
    (nowMs : Nat) (owns : Bool) :
    let c := run SrtlaConnection.applyOp (.newRegistering connId label localIp start) ops
    c.isStaleAck ack = false →
      (c.ClearedUpTo ack (c.handleSrtAck ack nowMs owns) ↔ c.WalkCovers ack) := by
  intro c fresh
  have seqs : c.Sequenced :=
    run_invariant_of SrtlaConnection.Sequenced LinkOp.Sequenced
      (fun c op ok h => SrtlaConnection.sequenced_applyOp h ok)
      (SrtlaConnection.sequenced_of_empty rfl rfl) sequenced
  exact SrtlaConnection.clearedUpTo_iff seqs isSeq fresh nowMs owns

/-- A link that acknowledged up to 100 and then logs the late packet 50. -/
def lateRegistration : List LinkOp := [.handleSrtAck 100 1000 false, .registerPacket 50 1010]

/-- Five packets about the wrap; the first ACK sweeps away the first of them. -/
def inOrder : List LinkOp :=
  [.registerPacket (2 ^ 31 - 2) 1000, .registerPacket (2 ^ 31 - 1) 1001, .registerPacket 0 1002,
    .registerPacket 1 1003, .registerPacket 2 1004, .handleSrtAck (2 ^ 31 - 2) 1010 false]

/-- With everything logged in order the walk from there to 0 leaves the last two packets. -/
theorem handleSrtAck_clears_walked :
    let c := run SrtlaConnection.applyOp (.newRegistering 1 "uplink" (.v4 1) 500) inOrder
    c.ClearedUpTo 0 (c.handleSrtAck 0 1020 false) ∧ (c.handleSrtAck 0 1020 false).inFlightPackets = 2 := by
  intro c
  have sequenced : ∀ op ∈ inOrder, op.Sequenced := by simp [inOrder, LinkOp.Sequenced, IsSeq]
  have covers : c.WalkCovers 0 := by
    refine Or.inr (Or.inr fun k logged => Or.inl ?_)
    have log : ∀ k ∈ c.packetLog.keys, seqAfter k c.highestAckedSeq = true := by decide +kernel
    exact log k logged
  exact ⟨(handleSrtAck_clears_iff 1 "uplink" (.v4 1) 500 inOrder sequenced 0 (by decide) 1020 false
    (by decide)).mpr covers, by decide +kernel⟩

/-- The walk from 100 to 101 leaves packet 50 in the log. -/
theorem handleSrtAck_leaves_late_packet :
    let c := run SrtlaConnection.applyOp (.newRegistering 1 "uplink" (.v4 1) 500) lateRegistration
    c.isStaleAck 101 = false ∧ ¬ c.ClearedUpTo 101 (c.handleSrtAck 101 1020 false) := by
  refine ⟨by decide, fun cleared => ?_⟩
  have kept : (50 : Int) ∈ (SrtlaConnection.handleSrtAck
      (run SrtlaConnection.applyOp (.newRegistering 1 "uplink" (.v4 1) 500) lateRegistration)
      101 1020 false).packetLog := by
    decide +kernel
  rw [cleared.1, FiniteMap.mem_retain_key] at kept
  exact absurd kept.2 (by decide)

end SrtlaSend
