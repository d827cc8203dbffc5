import SrtlaSend.Sender.EventLoop

/-!
# Who is credited for an SRTLA ACK

With duplicate probing one sequence can sit in the packet log of one link and in
the probe log of another. The arrival link is asked first; a scan over the other
links follows when it does not know the sequence. This module says what the scan
does, and exactly when it credits a probe of a link the ACK did not arrive on.
-/

namespace SrtlaSend

open MachineInt Runs

namespace SrtlaConnection

/-- The link has the sequence outstanding, as a probe or as data. -/
def Holds (c : SrtlaConnection) (seq : Int) : Prop := seq ∈ c.probeLog ∨ seq ∈ c.packetLog

instance (c : SrtlaConnection) (seq : Int) : Decidable (c.Holds seq) :=
  inferInstanceAs (Decidable (_ ∨ _))

/-! ### One link -/

section Specific

variable {c : SrtlaConnection} {seq : Int} (classic : Bool) (nowMs : Nat)

theorem handleSrtlaAckSpecific_of_not_holds (h : ¬ c.Holds seq) :
    c.handleSrtlaAckSpecific seq classic nowMs = (c, false) := by
  unfold Holds at h
  rw [not_or] at h
  have noProbe : c.probeLog.lookup seq = none := AList.lookup_eq_none.mpr h.1
  have noPacket : c.packetLog.lookup seq = none := AList.lookup_eq_none.mpr h.2
  simp only [handleSrtlaAckSpecific, noProbe, noPacket]

theorem handleSrtlaAckSpecific_found (h : c.Holds seq) :
    (c.handleSrtlaAckSpecific seq classic nowMs).2 = true := by
  unfold handleSrtlaAckSpecific
  split
  · rfl
  · split
    · rfl
    case h_2 noProbe _ noPacket =>
      rcases h with probe | packet
      · exact absurd probe (AList.lookup_eq_none.mp noProbe)
      · exact absurd packet (AList.lookup_eq_none.mp noPacket)

/-- A probe entry is consumed before the packet log is looked at. -/
theorem handleSrtlaAckSpecific_probeLog (h : seq ∈ c.probeLog) :
    (c.handleSrtlaAckSpecific seq classic nowMs).1.probeLog = c.probeLog.erase seq := by
  obtain ⟨sent, found⟩ := Option.isSome_iff_exists.mp (AList.lookup_isSome.mpr h)
  simp only [handleSrtlaAckSpecific, found]

/-- Without a probe entry the packet log pays, and the probe log stays. -/
theorem handleSrtlaAckSpecific_packetLog (probe : seq ∉ c.probeLog) (packet : seq ∈ c.packetLog) :
    (c.handleSrtlaAckSpecific seq classic nowMs).1.probeLog = c.probeLog ∧
      (c.handleSrtlaAckSpecific seq classic nowMs).1.packetLog = c.packetLog.erase seq := by
  have noProbe : c.probeLog.lookup seq = none := AList.lookup_eq_none.mpr probe
  obtain ⟨sent, found⟩ := Option.isSome_iff_exists.mp (AList.lookup_isSome.mpr packet)
  unfold handleSrtlaAckSpecific
  simp only [noProbe, found]
  exact ⟨trivial, trivial⟩

end Specific

theorem handleSrtlaAckGlobal_logs (c : SrtlaConnection) :
    c.handleSrtlaAckGlobal.probeLog = c.probeLog ∧ c.handleSrtlaAckGlobal.packetLog = c.packetLog ∧
      c.handleSrtlaAckGlobal.lastAckOrRttSampleMs = c.lastAckOrRttSampleMs ∧
      c.handleSrtlaAckGlobal.rtt = c.rtt := by
  unfold handleSrtlaAckGlobal
  split
  · exact ⟨rfl, rfl, rfl, rfl⟩
  · exact ⟨rfl, rfl, rfl, rfl⟩

end SrtlaConnection

/-! ### The scan -/

section Scan

variable {conns : List SrtlaConnection} {idx : Nat} {seq : Int} (classic : Bool) (nowMs : Nat)

/-- `j` is the first position other than `idx` whose link holds the sequence.
Positions count from `offset`. -/
structure IsFirstHolder (conns : List SrtlaConnection) (offset idx : Nat) (seq : Int) (j : Nat)
    (c : SrtlaConnection) : Prop where
  found : conns[j]? = some c
  other : offset + j ≠ idx
  holds : c.Holds seq
  first : ∀ i d, i < j → offset + i ≠ idx → conns[i]? = some d → ¬ d.Holds seq

theorem IsFirstHolder.unique {offset j j' : Nat} {c c' : SrtlaConnection}
    (h : IsFirstHolder conns offset idx seq j c) (h' : IsFirstHolder conns offset idx seq j' c') :
    j = j' ∧ c = c' := by
  have same : j = j' := by
    by_contra differ
    rcases Nat.lt_or_gt_of_ne differ with before | after
    · exact h'.first j c before h.other h.found h.holds
    · exact h.first j' c' after h'.other h'.found h'.holds
  subst same
  exact ⟨rfl, Option.some.inj (h.found.symm.trans h'.found)⟩

/-- The scan credits the first holder and nothing else. -/
theorem fallbackSrtlaAck_spec (idx : Nat) (seq : Int) (conns : List SrtlaConnection) (offset : Nat) :
    (fallbackSrtlaAck idx seq classic nowMs offset conns = conns ∧
        ∀ j d, offset + j ≠ idx → conns[j]? = some d → ¬ d.Holds seq) ∨
      ∃ j c, IsFirstHolder conns offset idx seq j c ∧
        fallbackSrtlaAck idx seq classic nowMs offset conns =
          conns.set j (c.handleSrtlaAckSpecific seq classic nowMs).1 := by
  induction conns generalizing offset with
  | nil => exact Or.inl ⟨rfl, by simp⟩
  | cons c rest ih =>
    -- what a scan that passes over `c` does, given what it does on the rest
    have pass (skip : offset = idx ∨ ¬ c.Holds seq)
        (tail : fallbackSrtlaAck idx seq classic nowMs offset (c :: rest) =
          c :: fallbackSrtlaAck idx seq classic nowMs (offset + 1) rest) :
        (fallbackSrtlaAck idx seq classic nowMs offset (c :: rest) = c :: rest ∧
            ∀ j d, offset + j ≠ idx → (c :: rest)[j]? = some d → ¬ d.Holds seq) ∨
          ∃ j d, IsFirstHolder (c :: rest) offset idx seq j d ∧
            fallbackSrtlaAck idx seq classic nowMs offset (c :: rest) =
              (c :: rest).set j (d.handleSrtlaAckSpecific seq classic nowMs).1 := by
      have head : ∀ d, offset + 0 ≠ idx → (c :: rest)[0]? = some d → ¬ d.Holds seq := by
        intro d other at_zero
        obtain rfl := Option.some.inj at_zero
        exact skip.resolve_left other
      rcases ih (offset + 1) with ⟨same, none⟩ | ⟨j, d, first, set⟩
      · refine Or.inl ⟨by rw [tail, same], fun j d other at_j => ?_⟩
        cases j with
        | zero => exact head d other at_j
        | succ j => exact none j d (by omega) at_j
      · refine Or.inr ⟨j + 1, d, ⟨first.found, ?_, first.holds, ?_⟩, by rw [tail, set]; rfl⟩
        · have other := first.other
          omega
        · intro i e before other at_i
          cases i with
          | zero => exact head e other at_i
          | succ i => exact first.first i e (by omega) (by omega) at_i
    by_cases here : offset = idx
    · exact pass (Or.inl here) (by rw [fallbackSrtlaAck, if_pos here])
    · by_cases holds : c.Holds seq
      · refine Or.inr ⟨0, c, ⟨rfl, by omega, holds, fun i d before => absurd before (by omega)⟩, ?_⟩
        have found := SrtlaConnection.handleSrtlaAckSpecific_found classic nowMs holds
        simp only [fallbackSrtlaAck, if_neg here, found, if_true, List.set_cons_zero]
      · refine pass (Or.inr holds) ?_
        have missed := SrtlaConnection.handleSrtlaAckSpecific_of_not_holds classic nowMs holds
        simp only [fallbackSrtlaAck, if_neg here, missed, Bool.false_eq_true, if_false]

/-- Who an SRTLA ACK is credited to: the arrival link, the first other holder, or
nobody. -/
theorem creditSrtlaAck_spec {arrival : SrtlaConnection} (at_idx : conns[idx]? = some arrival)
    (ack : Nat) :
    (arrival.Holds (asI32 ack) ∧ creditSrtlaAck idx classic nowMs conns ack =
        conns.set idx (arrival.handleSrtlaAckSpecific (asI32 ack) classic nowMs).1) ∨
      (¬ arrival.Holds (asI32 ack) ∧ creditSrtlaAck idx classic nowMs conns ack = conns ∧
        ∀ j d, j ≠ idx → conns[j]? = some d → ¬ d.Holds (asI32 ack)) ∨
      (¬ arrival.Holds (asI32 ack) ∧ ∃ j c, IsFirstHolder conns 0 idx (asI32 ack) j c ∧
        creditSrtlaAck idx classic nowMs conns ack =
          conns.set j (c.handleSrtlaAckSpecific (asI32 ack) classic nowMs).1) := by
  unfold creditSrtlaAck
  simp only [at_idx]
  by_cases holds : arrival.Holds (asI32 ack)
  · have found := SrtlaConnection.handleSrtlaAckSpecific_found classic nowMs holds
    exact Or.inl ⟨holds, by simp only [found, if_true]⟩
  · have missed := SrtlaConnection.handleSrtlaAckSpecific_of_not_holds classic nowMs holds
    have same : conns.set idx arrival = conns := by
      obtain ⟨inside, rfl⟩ := List.getElem?_eq_some_iff.mp at_idx
      exact List.set_getElem_self inside
    simp only [missed, Bool.false_eq_true, if_false, same]
    rcases fallbackSrtlaAck_spec classic nowMs idx (asI32 ack) conns 0 with ⟨unchanged, nobody⟩ | ⟨j, c, first, set⟩
    · exact Or.inr (Or.inl ⟨holds, unchanged, fun j d other => nobody j d (by omega)⟩)
    · exact Or.inr (Or.inr ⟨holds, j, c, first, set⟩)

/-! ### Probes of other links -/

/-- No probe of another link is consumed, and another link's delivery stamp and
round-trip estimate move only if the ACK took an entry off its packet log. -/
def ProbesUntouched (idx : Nat) (seq : Int) (before after : List SrtlaConnection) : Prop :=
  ∀ j c, j ≠ idx → before[j]? = some c → ∃ c', after[j]? = some c' ∧
    c'.probeLog = c.probeLog ∧
    (c'.lastAckOrRttSampleMs ≠ c.lastAckOrRttSampleMs ∨ c'.rtt ≠ c.rtt →
      seq ∈ c.packetLog ∧ seq ∉ c'.packetLog)

/-- The arrival link holds the sequence, or the first other link that does holds
it as data only. -/
def CreditsNoForeignProbe (idx : Nat) (seq : Int) (conns : List SrtlaConnection) : Prop :=
  (∃ arrival, conns[idx]? = some arrival ∧ arrival.Holds seq) ∨
    ∀ j c, IsFirstHolder conns 0 idx seq j c → seq ∉ c.probeLog

/-- The growth every link gets does not touch what `ProbesUntouched` reads. -/
private theorem probesUntouched_map_global {after : List SrtlaConnection} {before : List SrtlaConnection} :
    ProbesUntouched idx seq before (after.map (·.handleSrtlaAckGlobal)) ↔
      ProbesUntouched idx seq before after := by
  unfold ProbesUntouched
  refine forall_congr' fun j => forall_congr' fun c => imp_congr_right fun _ => imp_congr_right fun _ => ?_
  rw [List.getElem?_map]
  cases after[j]? with
  | none => simp
  | some d =>
    obtain ⟨probe, packet, stamp, rtt⟩ := d.handleSrtlaAckGlobal_logs
    simp [probe, packet, stamp, rtt]

/-- A link that is not replaced is untouched. -/
private theorem untouched_of_set_ne {i j : Nat} {c d : SrtlaConnection} (other : i ≠ j)
    (at_j : conns[j]? = some c) :
    ∃ c', (conns.set i d)[j]? = some c' ∧ c'.probeLog = c.probeLog ∧
      (c'.lastAckOrRttSampleMs ≠ c.lastAckOrRttSampleMs ∨ c'.rtt ≠ c.rtt →
        seq ∈ c.packetLog ∧ seq ∉ c'.packetLog) := by
  refine ⟨c, by rw [List.getElem?_set_ne other, at_j], rfl, ?_⟩
  rintro (stamp | rtt)
  · exact absurd rfl stamp
  · exact absurd rfl rtt

/-- Crediting the first holder is fine exactly when it holds no probe. -/
private theorem probesUntouched_set_holder {j : Nat} {c : SrtlaConnection}
    (holder : IsFirstHolder conns 0 idx seq j c) :
    ProbesUntouched idx seq conns (conns.set j (c.handleSrtlaAckSpecific seq classic nowMs).1) ↔
      seq ∉ c.probeLog := by
  have other : j ≠ idx := by
    have other := holder.other
    omega
  have inside : j < conns.length := (List.getElem?_eq_some_iff.mp holder.found).1
  constructor
  · intro untouched probe
    obtain ⟨c', at_j, log, -⟩ := untouched j c other holder.found
    rw [List.getElem?_set_self inside] at at_j
    obtain rfl := Option.some.inj at_j
    rw [SrtlaConnection.handleSrtlaAckSpecific_probeLog classic nowMs probe] at log
    have gone : seq ∉ c.probeLog.erase seq := by simp [AList.mem_erase]
    rw [log] at gone
    exact gone probe
  · intro probe i d otherI at_i
    by_cases same : j = i
    · subst same
      obtain rfl := Option.some.inj (holder.found.symm.trans at_i)
      have packet := holder.holds.resolve_left probe
      obtain ⟨probes, packets⟩ :=
        SrtlaConnection.handleSrtlaAckSpecific_packetLog classic nowMs probe packet
      refine ⟨_, List.getElem?_set_self inside, probes, fun _ => ⟨packet, ?_⟩⟩
      rw [packets]
      simp [AList.mem_erase]
    · exact untouched_of_set_ne same at_i

/-- One SRTLA ACK leaves the probes of the other links alone if and only if the
arrival link holds the sequence or no other holder is reached as a prober. -/
theorem probesUntouched_applySrtlaAck_iff (inside : idx < conns.length) (ack : Nat) :
    ProbesUntouched idx (asI32 ack) conns (applySrtlaAck idx classic nowMs conns ack) ↔
      CreditsNoForeignProbe idx (asI32 ack) conns := by
  obtain ⟨arrival, at_idx⟩ : ∃ arrival, conns[idx]? = some arrival :=
    ⟨conns[idx], List.getElem?_eq_getElem inside⟩
  unfold applySrtlaAck
  rw [probesUntouched_map_global]
  have arrivalOnly (missed : ¬ arrival.Holds (asI32 ack)) :
      CreditsNoForeignProbe idx (asI32 ack) conns ↔
        ∀ j c, IsFirstHolder conns 0 idx (asI32 ack) j c → asI32 ack ∉ c.probeLog := by
    refine or_iff_right ?_
    rintro ⟨d, at_idx', holds⟩
    obtain rfl := Option.some.inj (at_idx.symm.trans at_idx')
    exact missed holds
  -- the arrival link takes the ACK, or nobody, or the first other link that holds it
  rcases creditSrtlaAck_spec classic nowMs at_idx ack with
    ⟨holds, set⟩ | ⟨missed, same, nobody⟩ | ⟨missed, j, c, holder, set⟩
  · rw [set]
    refine iff_of_true (fun j c other at_j => untouched_of_set_ne (Ne.symm other) at_j) ?_
    exact Or.inl ⟨arrival, at_idx, holds⟩
  · rw [same, arrivalOnly missed]
    refine iff_of_true (fun j c other at_j => ⟨c, at_j, rfl, by simp⟩) fun j c holder => ?_
    have other := holder.other
    exact absurd holder.holds (nobody j c (by omega) holder.found)
  · rw [set, arrivalOnly missed, probesUntouched_set_holder classic nowMs holder]
    constructor
    · intro probe j' c' holder'
      obtain ⟨rfl, rfl⟩ := holder.unique holder'
      exact probe
    · exact fun all => all j c holder

end Scan

/-! ### Every run -/

/-- Handling `e`, the sender processes the SRTLA ACK number `ack` that arrived on
link `idx`; the links are `conns` by then, after the cumulative ACKs and the
earlier numbers of the same datagram. -/
def Sender.ProcessesSrtlaAck (hashOf : Bytes → Nat) (s : Sender) (e : Event) (idx : Nat)
    (classic : Bool) (nowMs : Nat) (conns : List SrtlaConnection) (ack : Nat) : Prop :=
  ∃ connId bytes env conn done rest, e = .uplink connId bytes env ∧
    s.conns.findIdx? (·.connId == connId) = some idx ∧ s.conns[idx]? = some conn ∧
    classic = env.classic ∧ nowMs = env.eventsMs ∧
    (s.receiveUplink hashOf idx conn bytes env).2.srtlaAckNumbers = done ++ ack :: rest ∧
    conns = done.foldl (applySrtlaAck idx classic nowMs)
      ((s.receiveUplink hashOf idx conn bytes env).2.ackNumbers.foldl
        (applySrtAck (s.receiveUplink hashOf idx conn bytes env).1.tracker nowMs)
        (s.receiveUplink hashOf idx conn bytes env).1.conns)

theorem length_foldl_applySrtAck (tracker : SequenceTracker) (nowMs : Nat) (acks : List Nat)
    (conns : List SrtlaConnection) :
    (acks.foldl (applySrtAck tracker nowMs) conns).length = conns.length := by
  induction acks generalizing conns with
  | nil => rfl
  | cons ack acks ih => rw [List.foldl_cons, ih, applySrtAck, List.length_map]

theorem length_applySrtlaAck {idx : Nat} {conns : List SrtlaConnection}
    (inside : idx < conns.length) (classic : Bool) (nowMs ack : Nat) :
    (applySrtlaAck idx classic nowMs conns ack).length = conns.length := by
  have at_idx : conns[idx]? = some conns[idx] := List.getElem?_eq_getElem inside
  rw [applySrtlaAck, List.length_map]
  rcases creditSrtlaAck_spec classic nowMs at_idx ack with ⟨-, set⟩ | ⟨-, same, -⟩ | ⟨-, j, c, -, set⟩
  · rw [set, List.length_set]
  · rw [same]
  · rw [set, List.length_set]

theorem length_foldl_applySrtlaAck {idx : Nat} {conns : List SrtlaConnection}
    (inside : idx < conns.length) (classic : Bool) (nowMs : Nat) (acks : List Nat) :
    (acks.foldl (applySrtlaAck idx classic nowMs) conns).length = conns.length := by
  induction acks generalizing conns with
  | nil => rfl
  | cons ack acks ih =>
    have same := length_applySrtlaAck inside classic nowMs ack
    rw [List.foldl_cons, ih (by omega), same]

theorem Sender.ProcessesSrtlaAck.inside {hashOf : Bytes → Nat} {s : Sender} {e : Event} {idx : Nat}
    {classic : Bool} {nowMs : Nat} {conns : List SrtlaConnection} {ack : Nat}
    (h : s.ProcessesSrtlaAck hashOf e idx classic nowMs conns ack) : idx < conns.length := by
  obtain ⟨connId, bytes, env, conn, done, rest, -, -, at_idx, rfl, rfl, -, rfl⟩ := h
  have inside : idx < s.conns.length := (List.getElem?_eq_some_iff.mp at_idx).1
  have received : (s.receiveUplink hashOf idx conn bytes env).1.conns.length = s.conns.length :=
    List.length_set
  have acked := length_foldl_applySrtAck (s.receiveUplink hashOf idx conn bytes env).1.tracker
    env.eventsMs (s.receiveUplink hashOf idx conn bytes env).2.ackNumbers
    (s.receiveUplink hashOf idx conn bytes env).1.conns
  rw [length_foldl_applySrtlaAck (by omega)]
  omega

/-- At every SRTLA ACK number of every run, the probes of the links it did not
arrive on stay untouched if and only if the arrival link holds the sequence or
the first other holder holds it as data only. -/
theorem srtlaAck_credits_no_foreign_probe_iff (ext : Externals) (start : Sender)
    (events : List Event) :
    EachStep (Sender.step ext)
      (fun s e => ∀ idx classic nowMs conns ack,
        s.ProcessesSrtlaAck ext.hashOf e idx classic nowMs conns ack →
        (ProbesUntouched idx (asI32 ack) conns (applySrtlaAck idx classic nowMs conns ack) ↔
          CreditsNoForeignProbe idx (asI32 ack) conns))
      start events := by
  rw [eachStep_iff]
  intro before e after cut idx classic nowMs conns ack processed
  exact probesUntouched_applySrtlaAck_iff classic nowMs processed.inside ack

/-! ### A probe credited to the wrong link -/

namespace Sample

def dataPacket (seq now : Nat) : Event :=
  .data (toBe32 seq ++ List.replicate 12 0) client (sends now) { mode := .classic } {} now

def srtAck (seq : Nat) : Bytes :=
  toBe16 srtTypeAck ++ List.replicate 14 0 ++ toBe32 seq ++ List.replicate 20 0

def srtlaAck (seq : Nat) : Bytes := toBe16 srtlaTypeAck ++ [0, 0] ++ toBe32 seq

/-- Link 2 falls silent with 35 packets in flight and is pulled; the hundredth
packet that link 1 carries is also probed on link 2, and a cumulative ACK then
clears link 1's log. -/
def probeThenAck : List Event :=
  handshake ++ (List.range 70).map (fun i => dataPacket (100 + i) 2110) ++
    [.flush (sends 2130) 2130, receive 1 [0, 0] 2340] ++
    (List.range 100).map (fun i => dataPacket (200 + i) 2370) ++
    [.flush (sends 2390) 2390, receive 1 (srtAck 300) 2400]

end Sample

/-- The SRTLA ACK of packet 299 comes back on link 1, which carried it, and
consumes the probe of link 2. -/
theorem srtlaAck_consumes_foreign_probe :
    let s := run (Sender.step Sample.externals) (Sample.sender [1, 2]) Sample.probeThenAck
    let s' := s.step Sample.externals (Sample.receive 1 (Sample.srtlaAck 299) 2410)
    (s.conns.map fun c => decide ((299 : Int) ∈ c.probeLog),
      s'.conns.map fun c => (c.connId, decide ((299 : Int) ∈ c.probeLog), c.lastAckOrRttSampleMs)) =
      ([false, true], [(1, false, 0), (2, false, 2410)]) := by
  decide +kernel

end SrtlaSend
