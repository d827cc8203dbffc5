import SrtlaSend.Properties.Handshake

/-!
# Moving the bond

A re-home changes links, I/O map, tracker and handshake together or not at all,
and asks the resolver at most once a minute.
-/

namespace SrtlaSend

open MachineInt

/-! ### What a move leaves behind -/

/-- Nothing is left on the link of its time at another receiver. -/
structure CleanSlate (c : SrtlaConnection) : Prop where
  connected : c.connected = false
  packetLog : c.packetLog = ∅
  probeLog : c.probeLog = ∅
  queue : c.batchSender.queue = []

/-- No entry of the tracker names the uplink. The id zero is that of empty entries. -/
def SequenceTracker.Forgets (t : SequenceTracker) (connId : Nat) : Prop :=
  ∀ slot, (t.entries slot).connId = connId → t.entries slot = {}

theorem SequenceTracker.forgets_removeConnection (t : SequenceTracker) (connId : Nat) :
    (t.removeConnection connId).Forgets connId := by
  intro slot named
  simp only [removeConnection] at named ⊢
  split
  · rfl
  case isFalse other => rw [if_neg other] at named; exact absurd named other

theorem SequenceTracker.Forgets.removeConnection {t : SequenceTracker} {connId : Nat}
    (h : t.Forgets connId) (other : Nat) : (t.removeConnection other).Forgets connId := by
  intro slot named
  simp only [SequenceTracker.removeConnection] at named ⊢
  split
  · rfl
  case isFalse apart =>
    rw [if_neg apart] at named
    exact h slot named

namespace Sender

theorem cleanSlate_rebuildUplink (connIo : ConnIoMap) (opened : Nat → Bool) (now : Nat)
    (c : SrtlaConnection) (tracker : SequenceTracker) :
    CleanSlate (rebuildUplink connIo opened now c tracker).1 := by
  simp only [rebuildUplink, rebuildOrRecover, rebuildUplinkSocket]
  split
  · cases opened c.connId with
    | true => exact ⟨rfl, rfl, rfl, rfl⟩
    | false => exact ⟨rfl, rfl, rfl, rfl⟩
  · exact ⟨rfl, rfl, rfl, rfl⟩

/-- Rebuilt or recovered, the uplink gives up its sequences. -/
theorem rebuildUplink_tracker (connIo : ConnIoMap) (opened : Nat → Bool) (now : Nat)
    (c : SrtlaConnection) (tracker : SequenceTracker) :
    (rebuildUplink connIo opened now c tracker).2 = tracker.removeConnection c.connId := by
  simp only [rebuildUplink, rebuildOrRecover, rebuildUplinkSocket]
  split
  · cases opened c.connId with
    | true => rfl
    | false => rfl
  · rfl

theorem cleanSlate_rebuildAll (connIo : ConnIoMap) (opened : Nat → Bool) (now : Nat)
    (conns : List SrtlaConnection) (tracker : SequenceTracker) :
    ∀ c ∈ (rebuildAll connIo opened now conns tracker).1, CleanSlate c := by
  induction conns generalizing tracker with
  | nil => exact fun c member => absurd member List.not_mem_nil
  | cons c rest ih =>
    intro c' member
    simp only [rebuildAll, List.mem_cons] at member
    rcases member with rfl | later
    · exact cleanSlate_rebuildUplink connIo opened now c tracker
    · exact ih _ c' later

/-- An entry that is forgotten stays so. -/
theorem forgets_rebuildAll_of_forgets {connId : Nat} (connIo : ConnIoMap) (opened : Nat → Bool)
    (now : Nat) (conns : List SrtlaConnection) {tracker : SequenceTracker}
    (h : tracker.Forgets connId) : (rebuildAll connIo opened now conns tracker).2.Forgets connId := by
  induction conns generalizing tracker with
  | nil => exact h
  | cons c rest ih =>
    simp only [rebuildAll]
    refine ih ?_
    rw [rebuildUplink_tracker]
    exact h.removeConnection c.connId

theorem forgets_rebuildAll (connIo : ConnIoMap) (opened : Nat → Bool) (now : Nat)
    (conns : List SrtlaConnection) (tracker : SequenceTracker) :
    ∀ c ∈ conns, (rebuildAll connIo opened now conns tracker).2.Forgets c.connId := by
  induction conns generalizing tracker with
  | nil => exact fun c member => absurd member List.not_mem_nil
  | cons c rest ih =>
    intro c' member
    simp only [rebuildAll]
    rcases List.mem_cons.mp member with rfl | later
    · refine forgets_rebuildAll_of_forgets connIo opened now rest ?_
      rw [rebuildUplink_tracker]
      exact tracker.forgets_removeConnection c'.connId
    · exact ih _ c' later

/-- The I/O map with every entry of `conns` at `newRemote`. -/
def repoint (newRemote : SocketAddr) (conns : List SrtlaConnection) (io : ConnIoMap) : ConnIoMap :=
  conns.foldl (fun io conn => if conn.connId ∈ io then io.insert conn.connId newRemote else io) io

/-- Repointing changes the remote of the bond's entries and nothing else. -/
theorem lookup_repoint (newRemote : SocketAddr) (conns : List SrtlaConnection) (io : ConnIoMap)
    (id : Nat) :
    (repoint newRemote conns io).lookup id =
      if id ∈ conns.map (·.connId) ∧ id ∈ io then some newRemote else io.lookup id := by
  simp only [repoint]
  induction conns generalizing io with
  | nil => simp
  | cons c rest ih =>
    rw [List.foldl_cons, ih]
    by_cases known : c.connId ∈ io
    · rw [if_pos known]
      by_cases same : id = c.connId
      · subst same
        simp [known]
      · have apart : AList.lookup id (io.insert c.connId newRemote) = io.lookup id :=
          AList.lookup_insert_ne same
        simp [AList.mem_insert, same, apart]
    · rw [if_neg known]
      by_cases same : id = c.connId
      · subst same
        simp [known]
      · simp [same]

theorem cleanSlate_startProbing {conns : List SrtlaConnection} (r : SrtlaRegistrationManager)
    (now : Nat) (clean : ∀ c ∈ conns, CleanSlate c) :
    ∀ c ∈ (r.startProbing conns now).2.1, CleanSlate c := by
  simp only [SrtlaRegistrationManager.startProbing]
  split
  · exact clean
  · intro c member
    rw [List.map_map] at member
    obtain ⟨c', member', rfl⟩ := List.mem_map.mp member
    have before := clean c' member'
    exact ⟨before.connected, before.packetLog, before.probeLog, before.queue⟩

theorem rehomeBond_connIo (s : Sender) (newRemote : SocketAddr) (env : RehomeEnv) (now : Nat) :
    (s.rehomeBond newRemote env now).connIo = repoint newRemote s.conns s.connIo := rfl

theorem rehomeBond_conns (s : Sender) (newRemote : SocketAddr) (env : RehomeEnv) (now : Nat) :
    (s.rehomeBond newRemote env now).conns =
      ((s.reg.resetForRehome env.freshId env.probeId).startProbing
        (rebuildAll (repoint newRemote s.conns s.connIo) env.opened now s.conns s.tracker).1
        now).2.1 := rfl

theorem cleanSlate_rehomeBond (s : Sender) (newRemote : SocketAddr) (env : RehomeEnv) (now : Nat) :
    ∀ c ∈ (s.rehomeBond newRemote env now).conns, CleanSlate c := by
  rw [rehomeBond_conns]
  apply cleanSlate_startProbing
  exact cleanSlate_rebuildAll _ env.opened now s.conns s.tracker

theorem forgets_rehomeBond (s : Sender) (newRemote : SocketAddr) (env : RehomeEnv) (now : Nat) :
    ∀ c ∈ s.conns, (s.rehomeBond newRemote env now).tracker.Forgets c.connId := by
  simp only [rehomeBond]
  exact forgets_rebuildAll _ env.opened now s.conns s.tracker

/-- After the move the bond has no slot, no grant and no broadcast, and our half of its id. -/
theorem rehomeBond_handshake (s : Sender) (newRemote : SocketAddr) (env : RehomeEnv) (now : Nat) :
    (s.rehomeBond newRemote env now).reg.broadcastReg2Pending = false ∧
      (s.rehomeBond newRemote env now).reg.srtlaId.val.take (srtlaIdLen / 2) =
        s.reg.srtlaId.val.take (srtlaIdLen / 2) := by
  have half : (SrtlaRegistrationManager.keepSenderHalf s.reg.srtlaId env.freshId).val.take
      (srtlaIdLen / 2) = s.reg.srtlaId.val.take (srtlaIdLen / 2) := by
    have size : (s.reg.srtlaId.val.take (srtlaIdLen / 2)).length = srtlaIdLen / 2 := by
      rw [List.length_take, s.reg.srtlaId.property]
      rfl
    simp only [SrtlaRegistrationManager.keepSenderHalf]
    exact List.take_left' size
  simp only [rehomeBond, SrtlaRegistrationManager.startProbing]
  split
  · exact ⟨rfl, half⟩
  · split
    · exact ⟨rfl, half⟩
    · exact ⟨rfl, half⟩

theorem receiverMoved_iff (current fresh : List SocketAddr) :
    receiverMoved current fresh = true ↔
      current ≠ [] ∧ ∀ remote ∈ current, fresh ≠ [] ∧ remote ∉ fresh := by
  simp [receiverMoved, dnsDriftDetected, List.all_eq_true]

theorem mem_pinnedRemotes {s : Sender} {remote : SocketAddr} :
    remote ∈ s.pinnedRemotes ↔ ∃ c ∈ s.conns, s.connIo.lookup c.connId = some remote := by
  simp only [pinnedRemotes, List.mem_eraseDups, List.mem_filterMap]

/-! ### The decision -/

/-- A slot is granted a minute or more after the last one. -/
theorem claimProbe_granted {gate : RehomeGate} {now last : Nat}
    (granted : (gate.claimProbe now).2 = true) (stamped : gate.lastProbeMs = some last) :
    last + rehomeMinIntervalMs ≤ now := by
  simp only [RehomeGate.claimProbe] at granted
  split at granted
  · exact absurd granted Bool.false_ne_true
  · split at granted
    · exact absurd granted Bool.false_ne_true
    case isFalse free =>
      rw [stamped, Option.any_some, decide_eq_true_eq] at free
      rw [rehomeMinIntervalMs] at free ⊢
      omega

theorem claimProbe_gate (gate : RehomeGate) (now : Nat) :
    ((gate.claimProbe now).2 = true ∧ (gate.claimProbe now).1.lastProbeMs = some now) ∨
      ((gate.claimProbe now).2 = false ∧ (gate.claimProbe now).1 = gate) := by
  simp only [RehomeGate.claimProbe]
  split
  · exact Or.inr ⟨rfl, rfl⟩
  · split
    · exact Or.inr ⟨rfl, rfl⟩
    · exact Or.inl ⟨rfl, rfl⟩

/-- An attempt stamps the gate exactly when it asks the resolver. -/
theorem tryRehome_gate (s : Sender) (env : RehomeEnv) (now : Nat) :
    (s.consults now = true ∧ (s.tryRehome env now).1.rehome.lastProbeMs = some now) ∨
      (s.consults now = false ∧ (s.tryRehome env now).1.rehome = s.rehome) := by
  simp only [tryRehome, consults]
  split
  case isTrue none => exact Or.inr ⟨by rw [none]; rfl, rfl⟩
  case isFalse pinned =>
    rw [Bool.not_eq_true] at pinned
    rw [pinned]
    -- whatever the resolver says, the slot stays taken
    rcases claimProbe_gate s.rehome now with ⟨granted, stamp⟩ | ⟨refused, same⟩
    · left
      refine ⟨by rw [granted]; rfl, ?_⟩
      simp only [granted, Bool.not_true, Bool.false_eq_true, if_false]
      cases env.resolved with
      | none => exact stamp
      | some answer =>
        cases answer with
        | nil => exact stamp
        | cons newRemote others =>
          simp only
          split
          · exact stamp
          · exact stamp
    · right
      refine ⟨by rw [refused]; rfl, ?_⟩
      simp only [refused, Bool.not_false, if_true]
      exact same

end Sender

/-! ### Runs of attempts -/

/-- A call, with the bond as it is then; only the gate is carried from call to call. -/
structure RehomeCall where
  bond : Sender
  env : RehomeEnv
  now : Nat

def RehomeGate.attempt (gate : RehomeGate) (call : RehomeCall) : RehomeGate :=
  ({ call.bond with rehome := gate }.tryRehome call.env call.now).1.rehome

def RehomeCall.consults (call : RehomeCall) (gate : RehomeGate) : Bool :=
  { call.bond with rehome := gate }.consults call.now

theorem RehomeGate.attempt_cases (gate : RehomeGate) (call : RehomeCall) :
    (call.consults gate = true ∧ (gate.attempt call).lastProbeMs = some call.now) ∨
      (call.consults gate = false ∧ gate.attempt call = gate) :=
  Sender.tryRehome_gate { call.bond with rehome := gate } call.env call.now

theorem RehomeCall.consults_spaced {call : RehomeCall} {gate : RehomeGate} {last : Nat}
    (asks : call.consults gate = true) (stamped : gate.lastProbeMs = some last) :
    last + rehomeMinIntervalMs ≤ call.now :=
  Sender.claimProbe_granted (Bool.and_eq_true_iff.mp asks).2 stamped

/-- Behind a stamp every call that asks is a minute or more later. -/
theorem spaced_of_stamped {gate : RehomeGate} {last : Nat} {calls : List RehomeCall}
    (stamped : gate.lastProbeMs = some last)
    (clock : (last :: calls.map (·.now)).Pairwise (· ≤ ·)) :
    ∀ entry ∈ Runs.history RehomeGate.attempt gate calls,
      entry.2.consults entry.1 = true → last + rehomeMinIntervalMs ≤ entry.2.now := by
  induction calls generalizing gate last with
  | nil => exact fun entry member => absurd member List.not_mem_nil
  | cons call calls ih =>
    rw [List.map_cons, List.pairwise_cons, List.pairwise_cons] at clock
    obtain ⟨later, after, rest⟩ := clock
    have now_le : last ≤ call.now := later call.now List.mem_cons_self
    intro entry member asks
    rw [Runs.history, List.mem_cons] at member
    rcases member with rfl | member
    · exact RehomeCall.consults_spaced asks stamped
    · rcases gate.attempt_cases call with ⟨-, stamp⟩ | ⟨-, same⟩
      · have gap := ih stamp (List.pairwise_cons.mpr ⟨after, rest⟩) entry member asks
        omega
      · rw [same] at member
        refine ih stamped (List.pairwise_cons.mpr ⟨fun t inside => ?_, rest⟩) entry member asks
        exact later t (List.mem_cons_of_mem _ inside)

/-- With a clock that does not run back, the calls that ask are a minute or more apart. -/
theorem spaced_consultations (gate : RehomeGate) {calls : List RehomeCall}
    (clock : (calls.map (·.now)).Pairwise (· ≤ ·)) :
    (Runs.history RehomeGate.attempt gate calls).Pairwise fun first second =>
      first.2.consults first.1 = true → second.2.consults second.1 = true →
        first.2.now + rehomeMinIntervalMs ≤ second.2.now := by
  induction calls generalizing gate with
  | nil => exact List.Pairwise.nil
  | cons call calls ih =>
    rw [Runs.history, List.pairwise_cons]
    refine ⟨fun second member asks asks' => ?_, ih (gate.attempt call) (List.pairwise_cons.mp clock).2⟩
    rcases gate.attempt_cases call with ⟨-, stamp⟩ | ⟨quiet, -⟩
    · exact spaced_of_stamped stamp clock second member asks'
    · exact absurd (asks.symm.trans quiet) Bool.true_eq_false.mp

/-! ### All or nothing -/

/-- The bond as a move leaves it, in terms of the bond before it. -/
structure Rehomed (s s' : Sender) (answer : List SocketAddr) : Prop where
  left : ∀ c ∈ s.conns, ∀ remote, s.connIo.lookup c.connId = some remote → remote ∉ answer
  arrived : ∀ c ∈ s'.conns, ∀ remote, s'.connIo.lookup c.connId = some remote →
    answer.head? = some remote
  clean : ∀ c ∈ s'.conns, CleanSlate c
  forgotten : ∀ c ∈ s'.conns, s'.tracker.Forgets c.connId
  grants : s'.reg.awaitingReg3 = []
  slot : s'.reg.pendingReg2Idx = none ∧ s'.reg.reg1TargetIdx = none
  broadcast : s'.reg.broadcastReg2Pending = false
  senderHalf : s'.reg.srtlaId.val.take (srtlaIdLen / 2) = s.reg.srtlaId.val.take (srtlaIdLen / 2)

theorem rehomed_rehomeBond {s : Sender} {newRemote : SocketAddr} {others : List SocketAddr}
    (moved : receiverMoved s.pinnedRemotes (newRemote :: others) = true) (env : RehomeEnv)
    (now : Nat) : Rehomed s (s.rehomeBond newRemote env now) (newRemote :: others) := by
  have ids := (s.sameUplinks_rehomeBond newRemote env now).connIds
  -- a move keeps the ids, so every link after it was there before
  have back : ∀ c ∈ (s.rehomeBond newRemote env now).conns, ∃ c₀ ∈ s.conns, c₀.connId = c.connId := by
    intro c member
    have named : c.connId ∈ (s.rehomeBond newRemote env now).conns.map (·.connId) :=
      List.mem_map.mpr ⟨c, member, rfl⟩
    rw [ids] at named
    obtain ⟨c₀, member₀, same⟩ := List.mem_map.mp named
    exact ⟨c₀, member₀, same⟩
  obtain ⟨slot, target, grants⟩ := s.rehomeBond_reg newRemote env now
  obtain ⟨broadcast, half⟩ := s.rehomeBond_handshake newRemote env now
  refine ⟨fun c member remote entry => ?_, fun c member remote entry => ?_, ?_,
    fun c member => ?_, grants, ⟨slot, target⟩, broadcast, half⟩
  · exact (((Sender.receiverMoved_iff _ _).mp moved).2 remote
      (Sender.mem_pinnedRemotes.mpr ⟨c, member, entry⟩)).2
  · obtain ⟨c₀, member₀, same⟩ := back c member
    have listed : c.connId ∈ s.conns.map (·.connId) := List.mem_map.mpr ⟨c₀, member₀, same⟩
    rw [Sender.rehomeBond_connIo, Sender.lookup_repoint] at entry
    split at entry
    · exact entry
    case isFalse unknown =>
      have outside : c.connId ∉ s.connIo := fun known => unknown ⟨listed, known⟩
      rw [AList.lookup_eq_none.mpr outside] at entry
      cases entry
  · exact s.cleanSlate_rehomeBond newRemote env now
  · obtain ⟨c₀, member₀, same⟩ := back c member
    have forgot := s.forgets_rehomeBond newRemote env now c₀ member₀
    rw [same] at forgot
    exact forgot

/-- A refused attempt changes the gate alone, a granted one moves everything, and the
resolver is asked at most once a minute. -/
theorem rehome_all_or_nothing (s : Sender) (env : RehomeEnv) (now : Nat) (gate : RehomeGate)
    (calls : List RehomeCall) :
    ((s.tryRehome env now).2 = false →
      (s.tryRehome env now).1.conns = s.conns ∧ (s.tryRehome env now).1.connIo = s.connIo ∧
        (s.tryRehome env now).1.reg = s.reg ∧ (s.tryRehome env now).1.tracker = s.tracker) ∧
    ((s.tryRehome env now).2 = true →
      ∃ answer, env.resolved = some answer ∧ Rehomed s (s.tryRehome env now).1 answer) ∧
    ((calls.map (·.now)).Pairwise (· ≤ ·) →
      (Runs.history RehomeGate.attempt gate calls).Pairwise fun first second =>
        first.2.consults first.1 = true → second.2.consults second.1 = true →
          first.2.now + 60000 ≤ second.2.now) := by
  refine ⟨fun stayed => ?_, fun moved => ?_, fun clock => spaced_consultations gate clock⟩
  · rcases s.tryRehome_outcome env now with ⟨gate', h⟩ | ⟨newRemote, others, gate', -, -, -, h⟩
    · rw [h]
      exact ⟨rfl, rfl, rfl, rfl⟩
    · rw [h] at stayed
      exact absurd stayed.symm Bool.false_ne_true
  · rcases s.tryRehome_outcome env now with ⟨gate', h⟩ | ⟨newRemote, others, gate', -, answer, drift, h⟩
    · rw [h] at moved
      exact absurd moved Bool.false_ne_true
    · obtain ⟨left, arrived, clean, forgotten, grants, slot, broadcast, half⟩ :=
        rehomed_rehomeBond drift env now
      rw [h]
      exact ⟨newRemote :: others, answer,
        ⟨left, arrived, clean, forgotten, grants, slot, broadcast, half⟩⟩

namespace Sample

/-- Another address of the receiver. -/
def elsewhere : SocketAddr := ⟨.v4 0xcb007102, 5000⟩

/-- The receiver's name resolves to `elsewhere` alone, and the second socket does not open. -/
def movedAway : RehomeEnv :=
  { resolved := some [elsewhere]
    opened := fun connId => decide (connId ≠ 2)
    freshId := groupId 3
    probeId := groupId 4 }

/-- A bond of two uplinks that may be moved. -/
def movable : Sender := { sender [1, 2] with rehome := { enabled := true } }

end Sample

/-- The bond moves, although one socket fails, and a second call asks a minute later. -/
theorem rehome_all_or_nothing_moves :
    (∃ answer, Sample.movedAway.resolved = some answer ∧
      Rehomed Sample.movable (Sample.movable.tryRehome Sample.movedAway 70000).1 answer) ∧
    (Runs.history RehomeGate.attempt { enabled := true }
      [⟨Sample.movable, Sample.movedAway, 70000⟩, ⟨Sample.movable, Sample.movedAway, 90000⟩,
        ⟨Sample.movable, Sample.movedAway, 130000⟩]).Pairwise fun first second =>
      first.2.consults first.1 = true → second.2.consults second.1 = true →
        first.2.now + 60000 ≤ second.2.now := by
  obtain ⟨-, moved, spaced⟩ := rehome_all_or_nothing Sample.movable Sample.movedAway 70000
    { enabled := true }
    [⟨Sample.movable, Sample.movedAway, 70000⟩, ⟨Sample.movable, Sample.movedAway, 90000⟩,
      ⟨Sample.movable, Sample.movedAway, 130000⟩]
  exact ⟨moved (by decide +kernel), spaced (by decide)⟩

end SrtlaSend
