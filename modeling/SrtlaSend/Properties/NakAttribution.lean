import SrtlaSend.Properties.BatchFlush
import SrtlaSend.Properties.CumulativeAck
import Mathlib.Data.List.Perm.Subperm

/-!
# Charging a loss report

The tracker is a lossy ring that says who carried a packet, the logs of the links say who
still has it in flight. A NAK is charged to one link at most, and a link is charged at most
once for each time the packet was registered on it.
-/

namespace SrtlaSend

open MachineInt Runs Pointwise

/-! ### The tracker -/

inductive TrackerOp
  | insert (seq connId timestampMs : Nat)
  | removeConnection (connId : Nat)
deriving DecidableEq

namespace TrackerOp

/-- The operation says that `connId` carries `seq`, recently enough for a lookup at `now`. -/
def Names (seq connId now : Nat) (op : TrackerOp) : Prop :=
  ∃ timestampMs, op = insert seq connId timestampMs ∧ now - timestampMs ≤ 5000

/-- The operation removes the connection or writes the slot of the sequence. -/
def Overrides (seq connId : Nat) (op : TrackerOp) : Prop :=
  op = removeConnection connId ∨
    ∃ seq' connId' timestampMs, op = insert seq' connId' timestampMs ∧
      seq' % 16384 = seq % 16384

end TrackerOp

namespace SequenceTracker

def apply (t : SequenceTracker) : TrackerOp → SequenceTracker
  | .insert seq connId timestampMs => t.insert seq connId timestampMs
  | .removeConnection connId => t.removeConnection connId

theorem slot_eq_mod (seq : Nat) : slot seq = seq % 16384 := Nat.and_two_pow_sub_one_eq_mod seq 14

/-- A lookup finds what the entry of its slot holds. -/
theorem get_eq_some_iff {t : SequenceTracker} {seq now connId : Nat} :
    t.get seq now = some connId ↔
      connId ≠ 0 ∧ ∃ timestampMs, t.entries (slot seq) = ⟨connId, timestampMs, seq⟩ ∧
        now - timestampMs ≤ 5000 := by
  rcases entry : t.entries (slot seq) with ⟨owner, stamp, seq'⟩
  simp only [get, entry, SequenceTrackingEntry.isValid, SequenceTrackingEntry.isExpired,
    sequenceTrackingMaxAgeMs, SequenceTrackingEntry.mk.injEq]
  constructor
  · intro found
    split at found
    case isTrue valid =>
      obtain rfl := Option.some.inj found
      simp only [Bool.and_eq_true, bne_iff_ne, beq_iff_eq, Bool.not_eq_true', decide_eq_false_iff_not,
        not_lt] at valid
      exact ⟨valid.1.1, stamp, ⟨rfl, rfl, valid.1.2⟩, valid.2⟩
    case isFalse => cases found
  · rintro ⟨nonzero, stamp', ⟨rfl, rfl, rfl⟩, recent⟩
    simp [nonzero, recent]

theorem get_apply_iff (t : SequenceTracker) (op : TrackerOp) (seq now connId : Nat) :
    (t.apply op).get seq now = some connId ↔
      (connId ≠ 0 ∧ op.Names seq connId now) ∨
        (t.get seq now = some connId ∧ ¬ op.Overrides seq connId) := by
  cases op with
  | insert seq' connId' stamp =>
    by_cases same : seq' % 16384 = seq % 16384
    · -- the slot is written: the lookup sees the new entry only
      have written : (t.insert seq' connId' stamp).entries (slot seq) = ⟨connId', stamp, seq'⟩ := by
        simp [insert, slot_eq_mod, same]
      have overrides : (TrackerOp.insert seq' connId' stamp).Overrides seq connId :=
        Or.inr ⟨seq', connId', stamp, rfl, same⟩
      rw [apply, get_eq_some_iff, written]
      simp only [overrides, not_true, and_false, or_false, TrackerOp.Names,
        SequenceTrackingEntry.mk.injEq, TrackerOp.insert.injEq]
      constructor
      · rintro ⟨nonzero, stamp', ⟨rfl, rfl, rfl⟩, recent⟩
        exact ⟨nonzero, _, ⟨rfl, rfl, rfl⟩, recent⟩
      · rintro ⟨nonzero, stamp', ⟨rfl, rfl, rfl⟩, recent⟩
        exact ⟨nonzero, _, ⟨rfl, rfl, rfl⟩, recent⟩
    · -- another slot: neither a new carrier nor an override
      have kept : (t.insert seq' connId' stamp).entries (slot seq) = t.entries (slot seq) := by
        simp [insert, slot_eq_mod, Ne.symm same]
      have silent : ¬ (TrackerOp.insert seq' connId' stamp).Names seq connId now := by
        rintro ⟨stamp', names, -⟩
        obtain ⟨rfl, -, -⟩ := TrackerOp.insert.inj names
        exact same rfl
      have leaves : ¬ (TrackerOp.insert seq' connId' stamp).Overrides seq connId := by
        rintro (removes | ⟨seq'', connId'', stamp', writes, slots⟩)
        · cases removes
        · obtain ⟨rfl, -, -⟩ := TrackerOp.insert.inj writes
          exact same slots
      rw [apply, get_eq_some_iff, kept, ← get_eq_some_iff]
      simp [silent, leaves]
  | removeConnection connId' =>
    have silent : ¬ (TrackerOp.removeConnection connId').Names seq connId now := by
      rintro ⟨stamp', names, -⟩
      cases names
    have overrides : (TrackerOp.removeConnection connId').Overrides seq connId ↔ connId' = connId := by
      constructor
      · rintro (removes | ⟨seq'', connId'', stamp', writes, -⟩)
        · exact TrackerOp.removeConnection.inj removes
        · cases writes
      · rintro rfl
        exact Or.inl rfl
    simp only [silent, and_false, false_or, overrides, apply]
    constructor
    · -- the default entry belongs to nobody
      intro found
      obtain ⟨nonzero, stamp, entry, recent⟩ := get_eq_some_iff.mp found
      simp only [removeConnection] at entry
      split at entry
      case isTrue => exact absurd (congrArg SequenceTrackingEntry.connId entry).symm nonzero
      case isFalse other =>
        rw [entry] at other
        exact ⟨get_eq_some_iff.mpr ⟨nonzero, stamp, entry, recent⟩, Ne.symm other⟩
    · rintro ⟨found, other⟩
      exact get_removeConnection found (Ne.symm other)

/-- The tracker names a carrier exactly if the last write of the slot said so, recently,
and the carrier was not removed since. -/
theorem get_run_iff (ops : List TrackerOp) (seq now connId : Nat) :
    (run apply new ops).get seq now = some connId ↔
      connId ≠ 0 ∧
        Since (TrackerOp.Names seq connId now) (TrackerOp.Overrides seq connId) ops := by
  -- on the operations from the end, as `Since` is read
  induction ops using List.reverseRecOn with
  | nil =>
    have empty : new.get seq now = none := by simp [new, get, SequenceTrackingEntry.isValid]
    simp [empty, not_since_nil]
  | append_singleton ops op ih =>
    rw [run_append, run_cons, run_nil, get_apply_iff, ih, since_concat]
    tauto

end SequenceTracker

/-! ### Attribution -/

namespace SrtlaConnection

/-- A counted NAK takes its own entry out of the log and no other. -/
theorem handleNak_of_mem {c : SrtlaConnection} {seq : Int} (member : seq ∈ c.packetLog) (nowMs : Nat) :
    (c.handleNak seq nowMs).2 = true ∧ (c.handleNak seq nowMs).1.packetLog = c.packetLog.erase seq := by
  unfold handleNak
  rw [if_pos member]
  exact ⟨rfl, rfl⟩

theorem handleNak_of_not_mem {c : SrtlaConnection} {seq : Int} (absent : seq ∉ c.packetLog)
    (nowMs : Nat) : c.handleNak seq nowMs = (c, false) := by
  rw [handleNak, if_neg absent]

end SrtlaConnection

/-- The link a NAK is charged to: the owner the tracker names, if the bond has it, and
otherwise the first link that logged the sequence. Either way the link must have it in
flight. -/
def ChargedTo (tracker : SequenceTracker) (nowMs : Nat) (conns : List SrtlaConnection) (nak p : Nat) :
    Prop :=
  ∃ c, conns[p]? = some c ∧ asI32 nak ∈ c.packetLog ∧
    (tracker.get nak nowMs = some c.connId ∨
      (∀ d ∈ conns, tracker.get nak nowMs ≠ some d.connId) ∧
        ∀ q < p, ∀ d, conns[q]? = some d → asI32 nak ∉ d.packetLog)

/-- The scan stops at the first link that logged the sequence. -/
theorem scanNak_eq (seq : Int) (nowMs i : Nat) (conns : List SrtlaConnection) :
    scanNak seq nowMs i conns =
      match conns.findIdx? fun c => decide (seq ∈ c.packetLog) with
      | some k => (conns.modify k fun c => (c.handleNak seq nowMs).1, some (i + k))
      | none => (conns, none) := by
  induction conns generalizing i with
  | nil => rfl
  | cons c rest ih =>
    rw [scanNak, List.findIdx?_cons]
    by_cases member : seq ∈ c.packetLog
    · -- the scan stops here
      have counted := (SrtlaConnection.handleNak_of_mem member nowMs).1
      rcases outcome : c.handleNak seq nowMs with ⟨c', flag⟩
      rw [outcome] at counted
      obtain rfl : flag = true := counted
      simp [member, outcome]
    · rw [SrtlaConnection.handleNak_of_not_mem member, ih]
      simp only [member, decide_false, Bool.false_eq_true, if_false]
      cases rest.findIdx? fun c => decide (seq ∈ c.packetLog) with
      | none => rfl
      | some k => simp [Nat.add_assoc, Nat.add_comm 1 k]

/-- The position at which the sequence is looked for first. -/
theorem nakOwner_eq_some_iff {conns : List SrtlaConnection}
    (distinct : (conns.map (·.connId)).Nodup) {tracker : SequenceTracker} {nak nowMs p : Nat} :
    nakOwner conns tracker nak nowMs = some p ↔
      ∃ c, conns[p]? = some c ∧ tracker.get nak nowMs = some c.connId := by
  simp only [nakOwner, Option.bind_eq_some_iff, List.findIdx?_eq_some_iff_getElem]
  constructor
  · rintro ⟨owner, found, bound, same, -⟩
    refine ⟨conns[p], List.getElem?_eq_getElem bound, ?_⟩
    rw [found, beq_iff_eq.mp same]
  · rintro ⟨c, at_p, found⟩
    obtain ⟨bound, rfl⟩ := List.getElem?_eq_some_iff.mp at_p
    refine ⟨conns[p].connId, found, bound, beq_self_eq_true _, fun j earlier => ?_⟩
    rw [beq_iff_eq]
    intro same
    exact DataPath.connId_ne distinct at_p (List.getElem?_eq_getElem (earlier.trans bound)) earlier.ne same

theorem nakOwner_eq_none_iff {conns : List SrtlaConnection} {tracker : SequenceTracker}
    {nak nowMs : Nat} :
    nakOwner conns tracker nak nowMs = none ↔
      ∀ c ∈ conns, tracker.get nak nowMs ≠ some c.connId := by
  simp only [nakOwner, Option.bind_eq_none_iff, List.findIdx?_eq_none_iff]
  constructor
  · intro unowned c member found
    have other := unowned _ found c member
    simp at other
  · intro unowned owner found c member
    rw [beq_eq_false_iff_ne]
    rintro rfl
    exact unowned c member found

/-- What the attribution of a NAK does: it names the link it is charged to, and that link
handles the NAK. -/
theorem attributeNak_spec {conns : List SrtlaConnection} (distinct : (conns.map (·.connId)).Nodup)
    (tracker : SequenceTracker) (nowMs nak : Nat) :
    (∀ p, (attributeNak tracker nowMs conns nak).2 = some p ↔
      ChargedTo tracker nowMs conns nak p) ∧
    (attributeNak tracker nowMs conns nak).1 =
      match (attributeNak tracker nowMs conns nak).2 with
      | some p => conns.modify p fun c => (c.handleNak (asI32 nak) nowMs).1
      | none => conns := by
  -- with no owner in the bond the logs are scanned; a named owner is the only one asked
  cases owner : nakOwner conns tracker nak nowMs with
  | none =>
    have unowned := nakOwner_eq_none_iff.mp owner
    simp only [attributeNak, owner, scanNak_eq]
    cases first : conns.findIdx? fun c => decide (asI32 nak ∈ c.packetLog) with
    | none =>
      refine ⟨fun p => ⟨nofun, ?_⟩, rfl⟩
      rintro ⟨c, at_p, member, -⟩
      have absent := List.findIdx?_eq_none_iff.mp first c (List.mem_of_getElem? at_p)
      exact absurd member (of_decide_eq_false absent)
    | some k =>
      obtain ⟨bound, member, earlier⟩ := List.findIdx?_eq_some_iff_getElem.mp first
      have member' : asI32 nak ∈ conns[k].packetLog := of_decide_eq_true member
      refine ⟨fun p => ⟨?_, ?_⟩, by simp only [Nat.zero_add]⟩
      · intro charged
        obtain rfl : k = p := by simpa using charged
        refine ⟨conns[k], List.getElem?_eq_getElem bound, member', Or.inr ⟨unowned, ?_⟩⟩
        intro q before d at_q
        obtain ⟨bound', rfl⟩ := List.getElem?_eq_some_iff.mp at_q
        exact of_decide_eq_false (Bool.eq_false_iff.mpr (earlier q before))
      · rintro ⟨c, at_p, logged, named | ⟨-, none_before⟩⟩
        · exact absurd named (unowned c (List.mem_of_getElem? at_p))
        · obtain ⟨bound', rfl⟩ := List.getElem?_eq_some_iff.mp at_p
          -- two first positions
          rcases lt_trichotomy k p with less | rfl | more
          · exact absurd member' (none_before k less _ (List.getElem?_eq_getElem bound))
          · exact congrArg some (Nat.zero_add k)
          · exact absurd (decide_eq_true logged) (earlier p more)
  | some pos =>
    obtain ⟨c, at_pos, named⟩ := (nakOwner_eq_some_iff distinct).mp owner
    have only : ∀ p, ChargedTo tracker nowMs conns nak p → p = pos ∧ asI32 nak ∈ c.packetLog := by
      -- connection ids are distinct, so the named owner has one position
      rintro p ⟨d, at_p, logged, named' | ⟨unowned, -⟩⟩
      · have same : d.connId = c.connId := Option.some.inj (named'.symm.trans named)
        have here : p = pos := by
          by_contra differ
          exact DataPath.connId_ne distinct at_pos at_p differ same
        obtain rfl := here
        obtain rfl := Option.some.inj (at_p.symm.trans at_pos)
        exact ⟨rfl, logged⟩
      · exact absurd named (unowned c (List.mem_of_getElem? at_pos))
    simp only [attributeNak, owner, at_pos]
    by_cases member : asI32 nak ∈ c.packetLog
    · have counted := (SrtlaConnection.handleNak_of_mem member nowMs).1
      simp only [counted, if_true]
      refine ⟨fun p => ⟨?_, fun charged => by rw [(only p charged).1]⟩, ?_⟩
      · rintro ⟨⟩
        exact ⟨c, at_pos, member, Or.inl named⟩
      · rw [List.modify_eq_set_getElem?, at_pos]
        rfl
    · -- the owner has forgotten the packet: nobody is charged
      rw [SrtlaConnection.handleNak_of_not_mem member]
      refine ⟨fun p => ⟨nofun, fun charged => absurd (only p charged).2 member⟩, ?_⟩
      obtain ⟨bound, rfl⟩ := List.getElem?_eq_some_iff.mp at_pos
      exact List.set_getElem_self bound

/-! ### The ledger of a link -/

namespace SrtlaConnection

/-- The sequences the operation registers as in flight. -/
def registers (c : SrtlaConnection) : LinkOp → List Int
  | .registerPacket seq _ => [seq]
  | .takeBatch now => (tracked (c.takeBatch now).2).map Prod.fst
  | _ => []

/-- The sequences for which the operation counts a NAK. -/
def charges (c : SrtlaConnection) : LinkOp → List Int
  | .handleNak seq nowMs => if (c.handleNak seq nowMs).2 then [seq] else []
  | _ => []

/-- Only a registration adds to the log. -/
theorem mem_packetLog_applyOp {c : SrtlaConnection} {op : LinkOp} {seq : Int}
    (member : seq ∈ (c.applyOp op).packetLog) : seq ∈ c.packetLog ∨ seq ∈ c.registers op := by
  cases op with
  | takeBatch now =>
    rw [applyOp, takeBatch_packetLog, mem_insertTracked] at member
    exact member
  | registerPacket seq' t =>
    rw [applyOp, registerPacket_packetLog, AList.mem_insert] at member
    exact member.symm.imp_right fun same => List.mem_singleton.mpr same
  -- a cumulative ACK only clears entries
  | handleSrtAck ack nowMs owns =>
    refine Or.inl ?_
    simp only [applyOp] at member
    unfold handleSrtAck at member
    simp only at member
    split at member
    · exact member
    · split at member
      · split at member <;> exact mem_of_mem_clearAcked member
      · exact mem_of_mem_clearAcked member
  | handleNak seq' nowMs =>
    refine Or.inl ?_
    by_cases logged : seq' ∈ c.packetLog
    · rw [applyOp, (handleNak_of_mem logged nowMs).2] at member
      exact (AList.mem_erase.mp member).2
    · rw [applyOp, handleNak_of_not_mem logged] at member
      exact member
  | handleSrtlaAckSpecific seq' classic nowMs =>
    refine Or.inl ?_
    simp only [applyOp] at member
    unfold handleSrtlaAckSpecific at member
    split at member
    · exact member
    · split at member
      · exact (AList.mem_erase.mp member).2
      · exact member
  | handleSrtlaAckGlobal =>
    simp only [applyOp] at member
    unfold handleSrtlaAckGlobal at member
    split at member <;> exact Or.inl member
  | noteReceived now =>
    simp only [applyOp] at member
    unfold noteReceived at member
    split at member <;> exact Or.inl member
  -- the resets empty the log
  | clearPreRegistrationState nowMs => cases member
  | markForRecovery => cases member
  | resetForReconnect now => cases member
  | acceptReg3 now => cases member
  | _ => exact Or.inl member

/-- A counted NAK had its sequence in the log, and takes it out. -/
theorem of_mem_charges {c : SrtlaConnection} {op : LinkOp} {seq : Int} (charged : seq ∈ c.charges op) :
    c.charges op = [seq] ∧ seq ∈ c.packetLog ∧ seq ∉ (c.applyOp op).packetLog := by
  cases op with
  | handleNak seq' nowMs =>
    by_cases logged : seq' ∈ c.packetLog
    · obtain ⟨counted, log⟩ := handleNak_of_mem logged nowMs
      simp only [charges, counted, if_true, List.mem_singleton] at charged ⊢
      obtain rfl := charged
      refine ⟨rfl, logged, ?_⟩
      rw [applyOp, log, AList.mem_erase]
      exact fun both => both.1 rfl
    · simp [charges, handleNak_of_not_mem logged] at charged
  | _ => cases charged

/-- One operation: a NAK counted for a sequence, and the sequence in the log afterwards,
are paid for by a registration or by the sequence in the log before. -/
theorem charges_add_logged_le (c : SrtlaConnection) (op : LinkOp) (seq : Int) :
    (c.charges op).count seq + (decide (seq ∈ (c.applyOp op).packetLog)).toNat ≤
      (c.registers op).count seq + (decide (seq ∈ c.packetLog)).toNat := by
  -- the log holds a sequence once, so a charge spends what was in it
  by_cases charged : seq ∈ c.charges op
  · obtain ⟨only, logged, cleared⟩ := of_mem_charges charged
    simp [only, logged, cleared]
  · rw [List.count_eq_zero_of_not_mem charged, Nat.zero_add]
    by_cases after : seq ∈ (c.applyOp op).packetLog
    · rcases mem_packetLog_applyOp after with before | registered
      · simp [before, after]
      · have positive := List.count_pos_iff.mpr registered
        simp only [after, decide_true, Bool.toNat_true]
        omega
    · simp [after]

end SrtlaConnection

/-! ### The ledger of a bond -/

/-- The uplinks, which differ in their connection ids, with the tracker. -/
structure Bond where
  conns : List SrtlaConnection
  tracker : SequenceTracker
  distinct : (conns.map (·.connId)).Nodup

/-- Whatever happens to a bond. Its links and its tracker are written in any order. -/
inductive BondOp
  | link (connId : Nat) (op : LinkOp)
  | nak (nak nowMs : Nat)
  | tracker (op : TrackerOp)
  | join (connId : Nat) (label : String) (localIp : IpAddr) (now : Nat)
  | leave (connId : Nat)

theorem SrtlaConnection.applyOp_connId (c : SrtlaConnection) (op : LinkOp) :
    (c.applyOp op).connId = c.connId := by
  cases op with
  | queueDataPacket data seq t => rfl
  | takeBatch now => exact (sameLife_takeBatch c now).connId
  | registerPacket seq t =>
    rw [applyOp, registerPacket]
  | handleSrtAck ack nowMs owns => exact (sameLife_of_feedback (handleSrtAck_frame c ack nowMs owns)).connId
  | handleNak seq nowMs => exact (sameLife_of_feedback (handleNak_frame c seq nowMs)).connId
  | handleSrtlaAckSpecific seq classic nowMs =>
    exact (sameLife_of_feedback (handleSrtlaAckSpecific_frame c seq classic nowMs)).connId
  | handleSrtlaAckGlobal => exact (sameLife_of_feedback (handleSrtlaAckGlobal_frame c)).connId
  | noteReceived now =>
    rw [applyOp, noteReceived]
    split <;> rfl
  | _ => rfl

theorem connId_updated (connId : Nat) (op : LinkOp) (c : SrtlaConnection) :
    (if c.connId = connId then c.applyOp op else c).connId = c.connId := by
  split
  · exact c.applyOp_connId op
  · rfl

theorem connIds_updated (connId : Nat) (op : LinkOp) (conns : List SrtlaConnection) :
    (conns.map fun c => if c.connId = connId then c.applyOp op else c).map (·.connId) =
      conns.map (·.connId) := by
  rw [List.map_map]
  exact List.map_congr_left fun c _ => connId_updated connId op c

namespace Bond

def apply (b : Bond) : BondOp → Bond
  | .link connId op =>
    { b with
      conns := b.conns.map fun c => if c.connId = connId then c.applyOp op else c
      distinct := by rw [connIds_updated]; exact b.distinct }
  | .nak nak nowMs =>
    { b with
      conns := (attributeNak b.tracker nowMs b.conns nak).1
      distinct := by
        rw [SameBond.uplinks (feedback_sameLife.attributeNak b.tracker nowMs b.conns nak) |>.connIds]
        exact b.distinct }
  | .tracker op => { b with tracker := b.tracker.apply op }
  | .join connId label localIp now =>
    -- an id that is in use is refused, as the bond keeps its ids distinct
    if taken : connId ∈ b.conns.map (·.connId) then b
    else
      { b with
        conns := b.conns ++ [.newRegistering connId label localIp now]
        distinct := by
          rw [List.map_append, List.nodup_append]
          refine ⟨b.distinct, List.nodup_singleton _, fun id member id' new => ?_⟩
          rw [List.map_singleton, List.mem_singleton] at new
          rintro rfl
          rw [new] at member
          exact taken member }
  | .leave connId =>
    { b with
      conns := b.conns.filter fun c => decide (c.connId ≠ connId)
      distinct := b.distinct.sublist (List.filter_sublist.map _) }

/-- The link with a connection id. -/
def link? (b : Bond) (connId : Nat) : Option SrtlaConnection :=
  b.conns.find? fun c => decide (c.connId = connId)

/-- The packets the operation registers, by link. -/
def registered (b : Bond) : BondOp → List (Nat × Int)
  | .link connId op => (b.link? connId).toList.flatMap fun c => (c.registers op).map (connId, ·)
  | _ => []

/-- The NAKs that are counted in the operation, by link. -/
def charged (b : Bond) : BondOp → List (Nat × Int)
  | .link connId op => (b.link? connId).toList.flatMap fun c => (c.charges op).map (connId, ·)
  | .nak nak nowMs =>
    ((attributeNak b.tracker nowMs b.conns nak).2.bind fun p => b.conns[p]?).toList.map
      fun c => (c.connId, asI32 nak)
  | _ => []

def registeredIn (b : Bond) (ops : List BondOp) : List (Nat × Int) :=
  (history apply b ops).flatMap fun x => x.1.registered x.2

def chargedIn (b : Bond) (ops : List BondOp) : List (Nat × Int) :=
  (history apply b ops).flatMap fun x => x.1.charged x.2

/-- The link has the sequence in flight. -/
def holds (b : Bond) (connId : Nat) (seq : Int) : Bool :=
  (b.link? connId).any fun c => decide (seq ∈ c.packetLog)

theorem connId_of_find? {conns : List SrtlaConnection} {connId : Nat} {c : SrtlaConnection}
    (found : conns.find? (fun c => decide (c.connId = connId)) = some c) : c.connId = connId := by
  simpa using List.find?_some found

theorem link?_link (b : Bond) (connId : Nat) (op : LinkOp) (connId' : Nat) :
    (b.apply (.link connId op)).link? connId' =
      if connId' = connId then (b.link? connId).map (·.applyOp op) else b.link? connId' := by
  simp only [link?, apply, List.find?_map, Function.comp_def, connId_updated]
  by_cases here : connId' = connId
  · subst here
    rw [if_pos rfl]
    cases found : b.conns.find? fun c => decide (c.connId = connId') with
    | none => rfl
    | some c =>
      simp [connId_of_find? found]
  · rw [if_neg here]
    cases found : b.conns.find? fun c => decide (c.connId = connId') with
    | none => rfl
    | some c =>
      simp [connId_of_find? found, here]

/-- To the links, a NAK is an operation on the one it is charged to. -/
theorem apply_nak (b : Bond) (nak nowMs : Nat) :
    (b.apply (.nak nak nowMs) = b ∧ b.charged (.nak nak nowMs) = []) ∨
      ∃ connId,
        b.apply (.nak nak nowMs) = b.apply (.link connId (.handleNak (asI32 nak) nowMs)) ∧
        b.charged (.nak nak nowMs) = b.charged (.link connId (.handleNak (asI32 nak) nowMs)) := by
  obtain ⟨charges, changes⟩ := attributeNak_spec b.distinct b.tracker nowMs nak
  cases target : (attributeNak b.tracker nowMs b.conns nak).2 with
  | none =>
    rw [target] at changes
    refine Or.inl ⟨?_, by simp [charged, target]⟩
    simp only [apply, changes]
  | some p =>
    rw [target] at changes
    obtain ⟨c, at_p, logged, -⟩ := (charges p).mp target
    have counted := (SrtlaConnection.handleNak_of_mem logged nowMs).1
    have found : b.link? c.connId = some c := find?_key b.distinct (List.mem_of_getElem? at_p)
    refine Or.inr ⟨c.connId, ?_, ?_⟩
    · -- the ids pick out the position the NAK is charged to
      have same : b.conns.modify p (fun c => (c.handleNak (asI32 nak) nowMs).1) =
          b.conns.map fun d => if d.connId = c.connId then d.applyOp (.handleNak (asI32 nak) nowMs)
            else d := by
        refine List.ext_getElem? fun j => ?_
        rw [List.getElem?_modify, List.getElem?_map]
        cases at_j : b.conns[j]? with
        | none => rfl
        | some d =>
          by_cases here : p = j
          · obtain rfl := here
            obtain rfl := Option.some.inj (at_p.symm.trans at_j)
            simp [SrtlaConnection.applyOp]
          · have other := DataPath.connId_ne b.distinct at_p at_j (Ne.symm here)
            simp [here, other]
      simp only [apply, changes, same]
    · simp [charged, target, at_p, found, SrtlaConnection.charges, counted]

/-- A link joins with nothing in flight. -/
theorem holds_join (b : Bond) (connId' : Nat) (label : String) (localIp : IpAddr) (now connId : Nat)
    (seq : Int) :
    (b.apply (.join connId' label localIp now)).holds connId seq ≤ b.holds connId seq := by
  simp only [apply]
  split
  · -- the id is in use, and the bond stays
    exact le_rfl
  · -- the new link comes last, and its log is empty
    intro after
    simp only [holds, link?, List.find?_append] at after ⊢
    cases found : b.conns.find? fun c => decide (c.connId = connId) with
    | some c => simpa [found] using after
    | none =>
      rw [found, Option.none_or] at after
      obtain ⟨c, new, logged⟩ := (Option.any_eq_true _ _).mp after
      obtain rfl := List.mem_singleton.mp (List.mem_of_find?_eq_some new)
      cases of_decide_eq_true logged

/-- A link that leaves takes its log with it. -/
theorem holds_leave (b : Bond) (connId' connId : Nat) (seq : Int) :
    (b.apply (.leave connId')).holds connId seq ≤ b.holds connId seq := by
  by_cases here : connId = connId'
  · have gone : (b.apply (.leave connId')).link? connId = none := by
      refine List.find?_eq_none.mpr fun c member => ?_
      have other := (List.mem_filter.mp member).2
      simpa [here] using other
    simp [holds, gone]
  · have kept : (b.apply (.leave connId')).link? connId = b.link? connId := by
      simp only [link?, apply, List.find?_filter]
      congr 1
      funext c
      by_cases named : c.connId = connId
      · simp [named, here]
      · simp [named]
    rw [holds, kept]
    exact le_rfl

/-- One operation on the bond: what it charges to a link is paid for by what it registers
there or by what the link had in flight. -/
theorem charged_add_holds_le (b : Bond) (op : BondOp) (connId : Nat) (seq : Int) :
    (b.charged op).count (connId, seq) + ((b.apply op).holds connId seq).toNat ≤
      (b.registered op).count (connId, seq) + (b.holds connId seq).toNat := by
  -- an operation on one link: the counts of the others are zero on both sides
  have onLink : ∀ connId' op,
      (b.charged (.link connId' op)).count (connId, seq) +
          ((b.apply (.link connId' op)).holds connId seq).toNat ≤
        (b.registered (.link connId' op)).count (connId, seq) + (b.holds connId seq).toNat := by
    intro connId' op
    simp only [charged, registered, holds, link?_link]
    by_cases here : connId = connId'
    · subst here
      rw [if_pos rfl]
      cases b.link? connId with
      | none => simp
      | some c =>
        have inj : Function.Injective fun seq : Int => (connId, seq) :=
          fun _ _ same => (Prod.mk.inj same).2
        have step := c.charges_add_logged_le op seq
        simpa [List.count_map_of_injective _ _ inj] using step
    · have foreign : ∀ seqs : List Int, (connId, seq) ∉ seqs.map (connId', ·) := by
        intro seqs member
        obtain ⟨seq', -, same⟩ := List.mem_map.mp member
        exact here (Prod.mk.inj same).1.symm
      rw [if_neg here]
      cases b.link? connId' with
      | none => simp
      | some c => simp [List.count_eq_zero_of_not_mem (foreign _)]
  cases op with
  | link connId' op => exact onLink connId' op
  | nak nak nowMs =>
    rcases b.apply_nak nak nowMs with ⟨same, none⟩ | ⟨connId', same, charges⟩
    · simp [same, none, registered]
    · have silent : b.registered (.link connId' (.handleNak (asI32 nak) nowMs)) =
          b.registered (.nak nak nowMs) := by simp [registered, SrtlaConnection.registers]
      rw [same, charges, ← silent]
      exact onLink connId' _
  | tracker op => exact le_rfl
  | join connId' label localIp now =>
    simp only [charged, registered, List.count_nil, Nat.zero_add]
    exact Bool.toNat_le_toNat (b.holds_join connId' label localIp now connId seq)
  | leave connId' =>
    simp only [charged, registered, List.count_nil, Nat.zero_add]
    exact Bool.toNat_le_toNat (b.holds_leave connId' connId seq)

/-- The same over a run: every counted NAK was paid for by a registration of its own. -/
theorem chargedIn_add_holds_le (b : Bond) (ops : List BondOp) (connId : Nat) (seq : Int) :
    (b.chargedIn ops).count (connId, seq) + ((run apply b ops).holds connId seq).toNat ≤
      (b.registeredIn ops).count (connId, seq) + (b.holds connId seq).toNat := by
  induction ops generalizing b with
  | nil => simp [chargedIn, registeredIn, history]
  | cons op ops ih =>
    -- a step may leave the sequence in flight, which pays for a later charge
    have step := b.charged_add_holds_le op connId seq
    have rest := ih (b.apply op)
    simp only [chargedIn, registeredIn, history, List.flatMap_cons, List.count_append,
      run_cons] at rest ⊢
    omega

theorem holds_eq_false_of_empty {b : Bond} (empty : ∀ c ∈ b.conns, c.packetLog = ∅) (connId : Nat)
    (seq : Int) : b.holds connId seq = false := by
  rw [holds]
  cases found : b.link? connId with
  | none => rfl
  | some c => simp [empty c (List.mem_of_find?_eq_some found)]

/-- An operation that counts a NAK registers nothing. -/
theorem registered_of_charged {b : Bond} {op : BondOp} {entry : Nat × Int}
    (charged : entry ∈ b.charged op) : b.registered op = [] := by
  cases op with
  | link connId op =>
    cases op with
    | handleNak seq nowMs => simp [registered, SrtlaConnection.registers]
    | _ => simp [Bond.charged, SrtlaConnection.charges] at charged
  | _ => rfl

/-- A sequence that was counted and is counted again was registered in between. -/
theorem registered_between {b : Bond} {first second : BondOp} {mid : List BondOp} {connId : Nat}
    {seq : Int} (once : (connId, seq) ∈ b.charged first)
    (again : (connId, seq) ∈ (run apply (b.apply first) mid).charged second) :
    (connId, seq) ∈ (b.apply first).registeredIn mid := by
  have counted := List.count_pos_iff.mpr once
  have countedAgain := List.count_pos_iff.mpr again
  have at_first := b.charged_add_holds_le first connId seq
  have at_second := (run apply (b.apply first) mid).charged_add_holds_le second connId seq
  have between := (b.apply first).chargedIn_add_holds_le mid connId seq
  -- one entry in the log pays for one charge, the second needs a registration
  have held := Bool.toNat_le (b.holds connId seq)
  rw [registered_of_charged once, List.count_nil] at at_first
  rw [registered_of_charged again, List.count_nil] at at_second
  refine List.count_pos_iff.mp ?_
  omega

end Bond

/-- Who pays for a NAK. The tracker names the carrier that the last write of the slot named,
if that is recent and the carrier was not removed; the NAK is charged to at most one link,
which loses exactly the entry of the sequence; and over any run a link is charged for a
sequence only as often as the sequence was registered on it. -/
theorem nak_attribution :
    (∀ (ops : List TrackerOp) (seq now connId : Nat),
      (run SequenceTracker.apply .new ops).get seq now = some connId ↔
        connId ≠ 0 ∧
          Since (TrackerOp.Names seq connId now) (TrackerOp.Overrides seq connId) ops) ∧
    (∀ (b : Bond) (nak nowMs : Nat),
      let out := attributeNak b.tracker nowMs b.conns nak
      (∀ p, out.2 = some p ↔ ChargedTo b.tracker nowMs b.conns nak p) ∧
      (out.1 = match out.2 with
        | some p => b.conns.modify p fun c => (c.handleNak (asI32 nak) nowMs).1
        | none => b.conns) ∧
      ∀ p c, out.2 = some p → b.conns[p]? = some c →
        asI32 nak ∈ c.packetLog ∧
          (c.handleNak (asI32 nak) nowMs).1.packetLog = c.packetLog.erase (asI32 nak)) ∧
    ∀ (b : Bond) (ops : List BondOp), (∀ c ∈ b.conns, c.packetLog = ∅) →
      (∀ before first mid second after connId seq,
        ops = before ++ first :: (mid ++ second :: after) →
        (connId, seq) ∈ (run Bond.apply b before).charged first →
        (connId, seq) ∈ (run Bond.apply b (before ++ first :: mid)).charged second →
        (connId, seq) ∈ (run Bond.apply b (before ++ [first])).registeredIn mid) ∧
      ∀ connId, (b.chargedIn ops).countP (·.1 == connId) ≤
        (b.registeredIn ops).countP (·.1 == connId) := by
  refine ⟨SequenceTracker.get_run_iff, ?_, ?_⟩
  · intro b nak nowMs out
    obtain ⟨charges, changes⟩ := attributeNak_spec b.distinct b.tracker nowMs nak
    refine ⟨charges, changes, fun p c target at_p => ?_⟩
    obtain ⟨d, at_p', logged, -⟩ := (charges p).mp target
    obtain rfl := Option.some.inj (at_p.symm.trans at_p')
    exact ⟨logged, (SrtlaConnection.handleNak_of_mem logged nowMs).2⟩
  · intro b ops empty
    constructor
    · intro before first mid second after connId seq _ once again
      rw [run_append, run_cons] at again
      rw [run_append, run_cons, run_nil]
      exact Bond.registered_between once again
    · intro connId
      have matched : (b.chargedIn ops).Subperm (b.registeredIn ops) := by
        refine List.subperm_ext_iff.mpr fun entry _ => ?_
        -- every charge of a sequence was paid for by a registration, entry by entry
        have paid := b.chargedIn_add_holds_le ops entry.1 entry.2
        rw [Bond.holds_eq_false_of_empty empty] at paid
        exact (Nat.le_add_right _ _).trans paid
      exact matched.countP_le _

/-- Two links that have the same sequence in flight. -/
def sharedSequence : Bond where
  conns := [Sample.link 1, Sample.link 2]
  tracker := .new
  distinct := by decide

/-- A NAK and its duplicate are charged once, to the carrier the tracker names. -/
theorem nak_attribution_duplicate :
    let ops : List BondOp :=
      [.link 1 (.registerPacket 100 1000), .link 2 (.registerPacket 100 1000),
        .tracker (.insert 100 2 1000), .nak 100 1100, .nak 100 1101]
    sharedSequence.chargedIn ops = [(2, 100)] ∧
      (sharedSequence.chargedIn ops).countP (·.1 == 2) ≤
        (sharedSequence.registeredIn ops).countP (·.1 == 2) := by
  intro ops
  have empty : ∀ c ∈ sharedSequence.conns, c.packetLog = ∅ := by
    intro c member
    rcases List.mem_pair.mp member with rfl | rfl <;> rfl
  exact ⟨by decide +kernel, (nak_attribution.2.2 sharedSequence ops empty).2 2⟩

end SrtlaSend
