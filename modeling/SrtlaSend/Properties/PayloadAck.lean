import SrtlaSend.Properties.LinkAccounting
import SrtlaSend.Properties.ProbeCredit
import SrtlaSend.Properties.SoundLinks

/-!
# Acknowledged payload

A link can owe one sequence twice: as a duplicate probe from the time it was held
out, and as payload that was routed to it afterwards. The SRTLA ACK then pays the
probe and leaves the payload in flight. In every other state the payload is
released.
-/

namespace SrtlaSend

open MachineInt Runs Pointwise SrtlaConnection

/-! ### Accounting of the whole bond -/

theorem BondSteps.accounting {conns conns' : List SrtlaConnection} (steps : BondSteps conns conns')
    (h : ∀ c ∈ conns, c.Accounting) : ∀ c ∈ conns', c.Accounting := by
  intro c' member
  obtain ⟨i, at_i⟩ := List.mem_iff_getElem?.mp member
  obtain ⟨c, found, writes⟩ := getElem?_of_forall₂_right steps at_i
  exact writes.invariant (fun _ _ => accounting_linkStep) (h c (List.mem_of_getElem? found))

/-- In every run every link of the bond is accounted for. -/
theorem accounting_run (ext : Externals) {start : Sender} (h : ∀ c ∈ start.conns, c.Accounting)
    (events : List Event) : ∀ c ∈ (run (Sender.step ext) start events).conns, c.Accounting := by
  refine run_invariant (fun s : Sender => ∀ c ∈ s.conns, c.Accounting) (fun s e h => ?_) h events
  by_cases reload : ∃ env, e = .reload env
  · obtain ⟨env, rfl⟩ := reload
    intro c member
    simp only [Sender.step] at member
    rw [conns_applyReload, List.mem_append] at member
    rcases member with kept | added
    · obtain ⟨c₀, member₀, rfl⟩ := List.mem_map.mp kept
      have old := h c₀ (List.mem_filter.mp member₀).1
      exact ⟨old.inFlight, old.window, old.probes, old.acked, old.sequences, old.queueTimes⟩
    · obtain ⟨⟨ip, d⟩, -, rfl⟩ := List.mem_map.mp added
      have new := accounting_newRegistering d.connId
        (uplinkLabel ext.showIp env.receiverHost env.receiverPort ip) ip d.now
      exact ⟨new.inFlight, new.window, new.probes, new.acked, new.sequences, new.queueTimes⟩
  · exact (Sender.bondSteps_step ext s fun env same => reload ⟨env, same⟩).accounting h

/-! ### One SRTLA ACK -/

/-- The window the mode's rule gives for an acknowledged payload packet. -/
def ackedWindow (classic : Bool) (c : SrtlaConnection) (inFlight : Int) : Int :=
  if classic then (c.congestion.handleSrtlaAckSpecificClassic c.window inFlight).2
  else (c.congestion.handleSrtlaAckEnhanced c.window inFlight).2

/-- At most one entry, in one log of one link, is gone. -/
def AtMostOneRemoved (seq : Int) (before after : List SrtlaConnection) : Prop :=
  ∃ i : Nat, ∀ (j : Nat) (c : SrtlaConnection), before[j]? = some c → ∃ c', after[j]? = some c' ∧
    ((c'.packetLog = c.packetLog ∧ c'.probeLog = c.probeLog) ∨
      j = i ∧
        ((c'.packetLog = c.packetLog.erase seq ∧ c'.probeLog = c.probeLog) ∨
          (c'.packetLog = c.packetLog ∧ c'.probeLog = c.probeLog.erase seq)))

/-- The ACK of payload is not swallowed. The in-flight count is an `i32`. -/
structure ReleasesPayload (idx : Nat) (seq : Int) (classic : Bool) (nowMs : Nat)
    (before after : List SrtlaConnection) : Prop where
  released : ∀ c' : SrtlaConnection, after[idx]? = some c' → seq ∉ c'.packetLog
  credited : ∀ c : SrtlaConnection, before[idx]? = some c → seq ∈ c.packetLog →
    ∃ c', after[idx]? = some c' ∧
    c'.inFlightPackets = asI32 (c.inFlightPackets - 1) ∧ c'.lastAckOrRttSampleMs = nowMs ∧
    c'.window =
      { c with window := ackedWindow classic c c'.inFlightPackets }.handleSrtlaAckGlobal.window ∧
    ∀ (j : Nat) (d : SrtlaConnection), j ≠ idx → before[j]? = some d →
      after[j]? = some d.handleSrtlaAckGlobal
  once : AtMostOneRemoved seq before after

section Ack

variable {c : SrtlaConnection} {seq : Int} (classic : Bool) (nowMs : Nat)

/-- A probe entry is paid first, and the packet log is not looked at. -/
theorem handleSrtlaAckSpecific_of_probe (h : seq ∈ c.probeLog) :
    (c.handleSrtlaAckSpecific seq classic nowMs).1.packetLog = c.packetLog ∧
      (c.handleSrtlaAckSpecific seq classic nowMs).1.probeLog = c.probeLog.erase seq := by
  obtain ⟨sent, found⟩ := Option.isSome_iff_exists.mp (AList.lookup_isSome.mpr h)
  simp only [handleSrtlaAckSpecific, found, and_self]

/-- Payload without a probe of the same sequence. -/
theorem handleSrtlaAckSpecific_of_payload (probe : seq ∉ c.probeLog) (packet : seq ∈ c.packetLog) :
    (c.handleSrtlaAckSpecific seq classic nowMs).1.inFlightPackets = asI32 (FiniteMap.len (c.packetLog.erase seq)) ∧
      (c.handleSrtlaAckSpecific seq classic nowMs).1.lastAckOrRttSampleMs = nowMs ∧
      (c.handleSrtlaAckSpecific seq classic nowMs).1.window =
        ackedWindow classic c (asI32 (FiniteMap.len (c.packetLog.erase seq))) ∧
      (c.handleSrtlaAckSpecific seq classic nowMs).1.connected = c.connected ∧
      (c.handleSrtlaAckSpecific seq classic nowMs).1.lastReceived = c.lastReceived := by
  have noProbe : c.probeLog.lookup seq = none := AList.lookup_eq_none.mpr probe
  obtain ⟨sent, found⟩ := Option.isSome_iff_exists.mp (AList.lookup_isSome.mpr packet)
  cases classic with
  | true => simp [handleSrtlaAckSpecific, noProbe, found, ackedWindow]
  | false => simp [handleSrtlaAckSpecific, noProbe, found, ackedWindow]

/-- The logs of a link after an ACK: one entry less at most. -/
theorem handleSrtlaAckSpecific_logs (c : SrtlaConnection) (seq : Int) :
    let c' := (c.handleSrtlaAckSpecific seq classic nowMs).1
    (c'.packetLog = c.packetLog ∧ c'.probeLog = c.probeLog) ∨
      (c'.packetLog = c.packetLog.erase seq ∧ c'.probeLog = c.probeLog) ∨
      (c'.packetLog = c.packetLog ∧ c'.probeLog = c.probeLog.erase seq) := by
  intro c'
  by_cases probe : seq ∈ c.probeLog
  · exact Or.inr (Or.inr (handleSrtlaAckSpecific_of_probe classic nowMs probe))
  · by_cases packet : seq ∈ c.packetLog
    · exact Or.inr (Or.inl (handleSrtlaAckSpecific_packetLog classic nowMs probe packet).symm)
    · have missed := handleSrtlaAckSpecific_of_not_holds classic nowMs (not_or.mpr ⟨probe, packet⟩)
      simp only [c', missed]
      exact Or.inl ⟨trivial, trivial⟩

end Ack

/-- One link is credited, every link grows, and nothing else happens to a log. -/
theorem atMostOneRemoved_set {conns : List SrtlaConnection} {i : Nat} {c : SrtlaConnection}
    (at_i : conns[i]? = some c) (seq : Int) (classic : Bool) (nowMs : Nat) :
    AtMostOneRemoved seq conns
      ((conns.set i (c.handleSrtlaAckSpecific seq classic nowMs).1).map (·.handleSrtlaAckGlobal)) := by
  have inside : i < conns.length := (List.getElem?_eq_some_iff.mp at_i).1
  refine ⟨i, fun j d at_j => ?_⟩
  by_cases same : i = j
  · subst same
    obtain rfl := Option.some.inj (at_i.symm.trans at_j)
    obtain ⟨probes, packets, -⟩ :=
      (c.handleSrtlaAckSpecific seq classic nowMs).1.handleSrtlaAckGlobal_logs
    refine ⟨_, by rw [List.getElem?_map, List.getElem?_set_self inside, Option.map_some], ?_⟩
    rw [probes, packets]
    exact (handleSrtlaAckSpecific_logs classic nowMs c seq).imp_right fun one => ⟨rfl, one⟩
  · obtain ⟨probes, packets, -⟩ := d.handleSrtlaAckGlobal_logs
    exact ⟨d.handleSrtlaAckGlobal, by rw [List.getElem?_map, List.getElem?_set_ne same, at_j, Option.map_some],
      Or.inl ⟨packets, probes⟩⟩

theorem atMostOneRemoved_global (conns : List SrtlaConnection) (seq : Int) :
    AtMostOneRemoved seq conns (conns.map (·.handleSrtlaAckGlobal)) := by
  refine ⟨0, fun j d at_j => ?_⟩
  obtain ⟨probes, packets, -⟩ := d.handleSrtlaAckGlobal_logs
  exact ⟨d.handleSrtlaAckGlobal, by rw [List.getElem?_map, at_j, Option.map_some], Or.inl ⟨packets, probes⟩⟩

/-- One entry less is one packet less in flight. -/
theorem asI32_len_erase {m : FiniteMap Int Nat} {seq : Int} (member : seq ∈ m) :
    asI32 (FiniteMap.len (m.erase seq)) = asI32 (asI32 m.len - 1) := by
  have size : FiniteMap.len (m.erase seq) + 1 = m.len := FiniteMap.len_erase_add_one member
  have cast : ((FiniteMap.len (m.erase seq) : Nat) : Int) = m.len - 1 := by omega
  rw [cast]
  simp only [asI32]
  omega

/-- The growth of the window reads the link's state of life and its window only. -/
theorem window_handleSrtlaAckGlobal_congr {c d : SrtlaConnection} (connected : c.connected = d.connected)
    (received : c.lastReceived = d.lastReceived) (window : c.window = d.window) :
    c.handleSrtlaAckGlobal.window = d.handleSrtlaAckGlobal.window := by
  simp only [handleSrtlaAckGlobal, connected, received]
  split
  · simp only [window]
  · exact window

theorem inFlightPackets_handleSrtlaAckGlobal (c : SrtlaConnection) :
    c.handleSrtlaAckGlobal.inFlightPackets = c.inFlightPackets := by
  simp only [handleSrtlaAckGlobal]
  split <;> rfl

/-- Payload of the arrival link that is not probed there is credited in full. -/
theorem credited_of_payload {conns : List SrtlaConnection} {idx : Nat} {arrival : SrtlaConnection}
    {classic : Bool} {nowMs ack : Nat} (at_idx : conns[idx]? = some arrival)
    (accounted : arrival.Accounting) (probe : asI32 ack ∉ arrival.probeLog)
    (packet : asI32 ack ∈ arrival.packetLog)
    (set : creditSrtlaAck idx classic nowMs conns ack =
      conns.set idx (arrival.handleSrtlaAckSpecific (asI32 ack) classic nowMs).1) :
    ∃ c', (applySrtlaAck idx classic nowMs conns ack)[idx]? = some c' ∧
      c'.inFlightPackets = asI32 (arrival.inFlightPackets - 1) ∧ c'.lastAckOrRttSampleMs = nowMs ∧
      c'.window =
        { arrival with
          window := ackedWindow classic arrival c'.inFlightPackets }.handleSrtlaAckGlobal.window ∧
      ∀ (j : Nat) (d : SrtlaConnection), j ≠ idx → conns[j]? = some d →
        (applySrtlaAck idx classic nowMs conns ack)[j]? = some d.handleSrtlaAckGlobal := by
  have inside : idx < conns.length := (List.getElem?_eq_some_iff.mp at_idx).1
  obtain ⟨inFlight, stamp, window, connected, received⟩ :=
    handleSrtlaAckSpecific_of_payload classic nowMs probe packet
  obtain ⟨-, -, stamp', -⟩ :=
    (arrival.handleSrtlaAckSpecific (asI32 ack) classic nowMs).1.handleSrtlaAckGlobal_logs
  -- the global step after it counts nothing
  have flight : (arrival.handleSrtlaAckSpecific (asI32 ack) classic nowMs).1.handleSrtlaAckGlobal.inFlightPackets =
      asI32 (FiniteMap.len (arrival.packetLog.erase (asI32 ack))) :=
    (inFlightPackets_handleSrtlaAckGlobal _).trans inFlight
  refine ⟨_, by rw [applySrtlaAck, set, List.getElem?_map, List.getElem?_set_self inside, Option.map_some],
    ?_, stamp'.trans stamp, ?_, ?_⟩
  · rw [flight, asI32_len_erase packet, accounted.inFlight]
  · refine window_handleSrtlaAckGlobal_congr connected received ?_
    rw [flight]
    exact window
  · intro j d other at_j
    rw [applySrtlaAck, set, List.getElem?_map, List.getElem?_set_ne (Ne.symm other), at_j, Option.map_some]

/-- An SRTLA ACK releases the payload it is for if and only if the arrival link does not
owe the sequence as a probe as well. -/
theorem releasesPayload_applySrtlaAck_iff {conns : List SrtlaConnection} {idx : Nat}
    {arrival : SrtlaConnection} (at_idx : conns[idx]? = some arrival) (accounted : arrival.Accounting)
    (classic : Bool) (nowMs ack : Nat) :
    ReleasesPayload idx (asI32 ack) classic nowMs conns (applySrtlaAck idx classic nowMs conns ack) ↔
      ¬ (asI32 ack ∈ arrival.probeLog ∧ asI32 ack ∈ arrival.packetLog) := by
  have inside : idx < conns.length := (List.getElem?_eq_some_iff.mp at_idx).1
  constructor
  · rintro ⟨released, -, -⟩ ⟨probe, packet⟩
    obtain ⟨-, set⟩ | ⟨none, -⟩ | ⟨none, -⟩ := creditSrtlaAck_spec classic nowMs at_idx ack
    · obtain ⟨-, packets, -⟩ :=
        (arrival.handleSrtlaAckSpecific (asI32 ack) classic nowMs).1.handleSrtlaAckGlobal_logs
      refine released _ (by
        rw [applySrtlaAck, set, List.getElem?_map, List.getElem?_set_self inside, Option.map_some]) ?_
      rw [packets, (handleSrtlaAckSpecific_of_probe classic nowMs probe).1]
      exact packet
    · exact none (Or.inl probe)
    · exact none (Or.inl probe)
  · intro single
    obtain ⟨holds, set⟩ | ⟨none, same, -⟩ | ⟨none, j, c, first, set⟩ :=
      creditSrtlaAck_spec classic nowMs at_idx ack
    · -- the arrival link pays from its packet log, or it holds a probe only
      refine ⟨?_, ?_, ?_⟩
      · intro c' after
        rw [applySrtlaAck, set, List.getElem?_map, List.getElem?_set_self inside, Option.map_some] at after
        obtain rfl := Option.some.inj after
        obtain ⟨-, packets, -⟩ :=
          (arrival.handleSrtlaAckSpecific (asI32 ack) classic nowMs).1.handleSrtlaAckGlobal_logs
        rw [packets]
        by_cases probe : asI32 ack ∈ arrival.probeLog
        · rw [(handleSrtlaAckSpecific_of_probe classic nowMs probe).1]
          exact fun packet => single ⟨probe, packet⟩
        · rw [(handleSrtlaAckSpecific_packetLog classic nowMs probe (holds.resolve_left probe)).2]
          simp [AList.mem_erase]
      · intro c at_c packet
        obtain rfl := Option.some.inj (at_idx.symm.trans at_c)
        exact credited_of_payload at_idx accounted (fun probe => single ⟨probe, packet⟩) packet set
      · rw [applySrtlaAck, set]
        exact atMostOneRemoved_set at_idx (asI32 ack) classic nowMs
    · -- nobody holds it
      refine ⟨?_, ?_, ?_⟩
      · intro c' after
        rw [applySrtlaAck, same, List.getElem?_map, at_idx, Option.map_some] at after
        obtain rfl := Option.some.inj after
        rw [arrival.handleSrtlaAckGlobal_logs.2.1]
        exact fun packet => none (Or.inr packet)
      · intro c at_c packet
        obtain rfl := Option.some.inj (at_idx.symm.trans at_c)
        exact absurd (Or.inr packet) none
      · rw [applySrtlaAck, same]
        exact atMostOneRemoved_global conns (asI32 ack)
    · -- the first other holder pays
      have other : j ≠ idx := by
        have other := first.other
        omega
      refine ⟨?_, ?_, ?_⟩
      · intro c' after
        rw [applySrtlaAck, set, List.getElem?_map, List.getElem?_set_ne other, at_idx, Option.map_some] at after
        obtain rfl := Option.some.inj after
        rw [arrival.handleSrtlaAckGlobal_logs.2.1]
        exact fun packet => none (Or.inr packet)
      · intro c at_c packet
        obtain rfl := Option.some.inj (at_idx.symm.trans at_c)
        exact absurd (Or.inr packet) none
      · rw [applySrtlaAck, set]
        exact atMostOneRemoved_set first.found (asI32 ack) classic nowMs

/-! ### Every run -/

/-- The links dialled at startup owe nothing. -/
theorem accounting_startup {ext : Externals} {host : String} {port : Nat}
    {dial : Nat → IpAddr → Option Dialed} {ips : List IpAddr} {weights : List Nat}
    {id probeId : SrtlaId} {enabled : Bool} {now : Nat} {start : Sender}
    (started : Sender.startup ext host port dial ips weights id probeId enabled now = some start) :
    ∀ c ∈ start.conns, c.Accounting := by
  simp only [Sender.startup] at started
  split at started
  · cases started
  · obtain rfl := Option.some.inj started
    refine BondSteps.accounting ((rebuild_linkSteps now).startProbing (.new id probeId) _)
      fun c member => ?_
    obtain ⟨⟨ip, d⟩, -, rfl⟩ := List.mem_map.mp member
    have new := accounting_newRegistering d.connId (uplinkLabel ext.showIp host port ip) ip d.now
    exact ⟨new.inFlight, new.window, new.probes, new.acked, new.sequences, new.queueTimes⟩

/-- The links an SRTLA ACK number finds are accounted for. -/
theorem Sender.ProcessesSrtlaAck.accounting {hashOf : Bytes → Nat} {s : Sender} {e : Event}
    {idx : Nat} {classic : Bool} {nowMs : Nat} {conns : List SrtlaConnection} {ack : Nat}
    (h : s.ProcessesSrtlaAck hashOf e idx classic nowMs conns ack)
    (accounted : ∀ c ∈ s.conns, c.Accounting) : ∀ c ∈ conns, c.Accounting := by
  obtain ⟨connId, bytes, env, conn, done, rest, -, -, at_idx, rfl, rfl, -, rfl⟩ := h
  have received := Sender.bondSteps_receiveUplink hashOf s at_idx bytes env
  have acked : BondSteps _ _ := forall₂_foldl LinkSteps.refl LinkSteps.trans
    (feedback_linkSteps.applySrtAck (s.receiveUplink hashOf idx conn bytes env).1.tracker env.eventsMs)
    (s.receiveUplink hashOf idx conn bytes env).2.ackNumbers
    (s.receiveUplink hashOf idx conn bytes env).1.conns
  have credited : BondSteps _ _ := forall₂_foldl LinkSteps.refl LinkSteps.trans
    (feedback_linkSteps.applySrtlaAck idx env.classic env.eventsMs) done
    ((s.receiveUplink hashOf idx conn bytes env).2.ackNumbers.foldl
      (applySrtAck (s.receiveUplink hashOf idx conn bytes env).1.tracker env.eventsMs)
      (s.receiveUplink hashOf idx conn bytes env).1.conns)
  exact ((received.trans acked).trans credited).accounting accounted

/-- From startup on, every SRTLA ACK number releases the payload it is for if and only if
the link it arrives on does not owe the sequence as a probe and as payload at once. -/
theorem srtlaAck_releases_payload_iff (ext : Externals) (host : String) (port : Nat)
    (dial : Nat → IpAddr → Option Dialed) (ips : List IpAddr) (weights : List Nat)
    (id probeId : SrtlaId) (enabled : Bool) (now : Nat) (start : Sender) (events : List Event)
    (started : Sender.startup ext host port dial ips weights id probeId enabled now = some start) :
    EachStep (Sender.step ext)
      (fun s e => ∀ idx classic nowMs conns ack (arrival : SrtlaConnection),
        s.ProcessesSrtlaAck ext.hashOf e idx classic nowMs conns ack → conns[idx]? = some arrival →
        (ReleasesPayload idx (asI32 ack) classic nowMs conns
            (applySrtlaAck idx classic nowMs conns ack) ↔
          ¬ (asI32 ack ∈ arrival.probeLog ∧ asI32 ack ∈ arrival.packetLog)))
      start events := by
  rw [eachStep_iff]
  intro before e after cut idx classic nowMs conns ack arrival processed at_idx
  have accounted := accounting_run ext (accounting_startup started) before
  exact releasesPayload_applySrtlaAck_iff at_idx
    (processed.accounting accounted arrival (List.mem_of_getElem? at_idx)) classic nowMs ack

namespace Sample

/-- The bond of `sender [1, 2]`, from its list of addresses. -/
def started : Sender :=
  (Sender.startup externals "receiver" 5000 (fun i _ => some ⟨i + 1, receiver, 500⟩)
    [.v4 1, .v4 2] [] (groupId 1) (groupId 2) false 500).get (by decide +kernel)

/-- Link 1 carries packet 100. -/
def carries : List Event := handshake ++ [dataPacket 100 2110, .flush (sends 2130) 2130]

def carrier : SrtlaConnection :=
  (run (Sender.step externals) started carries).conns.get ⟨0, by decide +kernel⟩

/-- The links as the number 100 of the ACK on link 1 finds them. -/
def carrying : List SrtlaConnection :=
  ((run (Sender.step externals) started carries).receiveUplink externals.hashOf 0 carrier
    (srtlaAck 100) { now := 2200, eventsMs := 2200, sends := sends 2200, classic := true }).1.conns

/-- Link 2 is pulled with 35 packets in flight and probed with the packet 299; it is heard
again, the encoder sends 299 once more, and link 2 carries the retransmission. -/
def probeThenRetransmit : List Event :=
  handshake ++ (List.range 70).map (fun i => dataPacket (100 + i) 2110) ++
    [.flush (sends 2130) 2130, receive 1 [0, 0] 2340] ++
    (List.range 100).map (fun i => dataPacket (200 + i) 2370) ++
    [.flush (sends 2390) 2390, receive 2 [0, 0] 2400,
      .data (setSrtDataRetransmit (toBe32 299 ++ List.replicate 12 0)) client (sends 2410)
        { mode := .classic } {} 2410,
      .flush (sends 2430) 2430]

end Sample

/-- The SRTLA ACK of the packet 100 releases it. -/
theorem srtlaAck_releases_payload_carried :
    (run (Sender.step Sample.externals) Sample.started Sample.carries).ProcessesSrtlaAck
        Sample.externals.hashOf (Sample.receive 1 (Sample.srtlaAck 100) 2200) 0 true 2200
        Sample.carrying 100 ∧
      Sample.carrying.map (fun c => decide ((100 : Int) ∈ c.packetLog)) = [true, false] ∧
      ReleasesPayload 0 100 true 2200 Sample.carrying
        (applySrtlaAck 0 true 2200 Sample.carrying 100) := by
  have processed : (run (Sender.step Sample.externals) Sample.started Sample.carries).ProcessesSrtlaAck
      Sample.externals.hashOf (Sample.receive 1 (Sample.srtlaAck 100) 2200) 0 true 2200
      Sample.carrying 100 :=
    ⟨1, Sample.srtlaAck 100, _, Sample.carrier, [], [], rfl, by decide +kernel,
      List.getElem?_eq_getElem _, rfl, rfl, by decide +kernel, rfl⟩
  have each := srtlaAck_releases_payload_iff Sample.externals "receiver" 5000
    (fun i _ => some ⟨i + 1, Sample.receiver, 500⟩) [.v4 1, .v4 2] [] (Sample.groupId 1)
    (Sample.groupId 2) false 500 Sample.started
    (Sample.carries ++ [Sample.receive 1 (Sample.srtlaAck 100) 2200]) (Option.some_get _).symm
  have here := (eachStep_iff _ _ _ _).mp each Sample.carries _ [] rfl
  refine ⟨processed, by decide +kernel,
    (here _ _ _ _ _ (Sample.carrying.get ⟨0, by decide +kernel⟩) processed
      (List.getElem?_eq_getElem _)).mpr ?_⟩
  decide +kernel

/-- Link 2 owes 299 as a probe and as payload. The ACK that comes back on it is spent on
the probe, and the payload stays in flight. -/
theorem srtlaAck_leaves_payload :
    let s := run (Sender.step Sample.externals) Sample.started Sample.probeThenRetransmit
    let s' := s.step Sample.externals (Sample.receive 2 (Sample.srtlaAck 299) 2440)
    (s.conns.map fun c =>
        (decide ((299 : Int) ∈ c.probeLog), decide ((299 : Int) ∈ c.packetLog), c.inFlightPackets),
      s'.conns.map fun c =>
        (decide ((299 : Int) ∈ c.probeLog), decide ((299 : Int) ∈ c.packetLog), c.inFlightPackets)) =
      ([(false, true, 135), (true, true, 36)], [(false, true, 135), (false, true, 36)]) := by
  decide +kernel

end SrtlaSend
