import SrtlaSend.Properties.Rehome
import SrtlaSend.Properties.Routing
import SrtlaSend.Sender.Datagrams

/-!
# Flushing a batch

What is queued leaves the queue once and in order, whatever the socket accepts of it, and a
flush that fails leaves nothing of it on the link or in the tracker.
-/

namespace SrtlaSend

open MachineInt Runs

/-! ### The queue -/

inductive BatchOp
  | queuePacket (data : Bytes) (seq : Option Nat) (nowMs : Nat)
  | setRegime (regime : BatchRegime)
  | drain (nowMs : Nat)
  | reset
deriving DecidableEq

namespace BatchOp

/-- The packet the operation queues. -/
def queued : BatchOp → List DrainedPacket
  | queuePacket data seq nowMs => [(data, seq, nowMs)]
  | _ => []

end BatchOp

namespace BatchSender

def apply (b : BatchSender) : BatchOp → BatchSender
  | .queuePacket data seq nowMs => (b.queuePacket data seq nowMs).1
  | .setRegime regime => b.setRegime regime
  | .drain nowMs => (b.drain nowMs).1
  | .reset => b.reset

/-- What the operation returns of the queue. -/
def drainedBy (b : BatchSender) : BatchOp → List DrainedPacket
  | .drain nowMs => (b.drain nowMs).2
  | _ => []

/-- All that the drains of a run return, in order. -/
def drains (b : BatchSender) (ops : List BatchOp) : List DrainedPacket :=
  (history apply b ops).flatMap fun x => x.1.drainedBy x.2

/-- The packets that wait. -/
def pending (b : BatchSender) : List DrainedPacket := b.queue.zip (b.sequences.zip b.queueTimes)

theorem aligned_apply {b : BatchSender} (h : b.Aligned) (op : BatchOp) : (b.apply op).Aligned := by
  obtain ⟨sequences, times⟩ := h
  cases op with
  | queuePacket data seq nowMs => exact queuePacket_aligned ⟨sequences, times⟩ data seq nowMs
  | setRegime regime => exact ⟨sequences, times⟩
  | drain nowMs =>
    simp only [apply, drain]
    split
    · exact ⟨sequences, times⟩
    · exact ⟨rfl, rfl⟩
  | reset => exact ⟨rfl, rfl⟩

theorem aligned_run (ops : List BatchOp) : (run apply ({} : BatchSender) ops).Aligned :=
  run_invariant Aligned (fun _ op h => aligned_apply h op) ⟨rfl, rfl⟩ ops

/-- One operation moves packets from the queue to its result and adds its own. -/
theorem drainedBy_append_pending {b : BatchSender} (h : b.Aligned) {op : BatchOp}
    (kept : op ≠ .reset) : b.drainedBy op ++ (b.apply op).pending = b.pending ++ op.queued := by
  cases op with
  | queuePacket data seq nowMs =>
    have last := drain_queuePacket h data seq nowMs 0
    rw [drain_snd, drain_snd] at last
    exact last
  | setRegime regime => exact (List.append_nil _).symm
  | drain nowMs =>
    have emptied : (b.drain nowMs).1.pending = [] := by
      simp only [drain]
      split
      -- an empty queue is left as it is
      case isTrue empty =>
        rw [pending, List.isEmpty_iff.mp empty]
        rfl
      case isFalse => rfl
    change (b.drain nowMs).2 ++ (b.drain nowMs).1.pending = b.pending ++ []
    rw [emptied, drain_snd]
    rfl
  | reset => exact absurd rfl kept

theorem drains_append_pending {b : BatchSender} (h : b.Aligned) {ops : List BatchOp}
    (kept : .reset ∉ ops) :
    b.drains ops ++ (run apply b ops).pending = b.pending ++ ops.flatMap BatchOp.queued := by
  induction ops generalizing b with
  | nil => simp [drains, history]
  | cons op ops ih =>
    obtain ⟨first, rest⟩ := not_or.mp (List.mem_cons.not.mp kept)
    have step := drainedBy_append_pending h (Ne.symm first)
    have later := ih (aligned_apply h op) rest
    calc b.drains (op :: ops) ++ (run apply b (op :: ops)).pending
        = b.drainedBy op ++ ((b.apply op).drains ops ++ (run apply (b.apply op) ops).pending) := by
          simp [drains, history]
      _ = b.drainedBy op ++ (b.apply op).pending ++ ops.flatMap BatchOp.queued := by
          rw [later, List.append_assoc]
      _ = b.pending ++ (op :: ops).flatMap BatchOp.queued := by
          rw [step, List.append_assoc, List.flatMap_cons]

/-- Nothing waits in a new queue and after a reset. -/
theorem pending_of_reset {before : List BatchOp} (start : before = [] ∨ before.getLast? = some .reset) :
    (run apply ({} : BatchSender) before).pending = [] := by
  rcases start with rfl | last
  · rfl
  · obtain ⟨front, rfl⟩ := List.getLast?_eq_some_iff.mp last
    rw [run_append]
    rfl

end BatchSender

/-! ### The socket -/

namespace BatchUdpSocket

variable {σ : Type} (socket : BatchUdpSocket σ)

/-- How a flush that starts with `sent` datagrams away ends with `n` of them away. -/
structure Away (bufs : List Bytes) (s : σ) (sent n : Nat)
    (out : σ × Except BatchSendError Unit) : Prop where
  least : sent ≤ n
  most : n ≤ bufs.length
  wire : socket.wire out.1 = socket.wire s ++ (bufs.drop sent).take (n - sent)
  ok : out.2 = .ok () ↔ n = bufs.length
  error : ∀ e, out.2 = .error e → e.sent = n ∧ e.total = bufs.length

/-- The loop gives up with the datagrams that are away so far. -/
theorem away_of_error {bufs : List Bytes} {s s' : σ} {sent : Nat} (more : sent < bufs.length)
    (same : socket.wire s' = socket.wire s) (source : IoError) :
    socket.Away bufs s sent sent (s', .error ⟨sent, bufs.length, source⟩) where
  least := le_rfl
  most := more.le
  wire := by simpa using same
  ok := by simpa using more.ne
  error := by
    rintro e ⟨⟩
    exact ⟨rfl, rfl⟩

/-- The loop hands over the next datagrams in order and knows how many they are. -/
theorem sendFrom_away (bufs : List Bytes) (s : σ) {sent : Nat} (some_left : sent ≤ bufs.length) :
    ∃ n, socket.Away bufs s sent n (socket.sendFrom bufs s sent) := by
  -- what is left of the batch decreases with every call that makes progress
  induction left : bufs.length - sent using Nat.strong_induction_on generalizing s sent with
  | _ left' ih =>
    subst left
    rw [sendFrom]
    -- the loop goes on while something is left
    by_cases more : sent < bufs.length
    · simp only [more, if_true]
      set chunk := (bufs.drop sent).take (min (bufs.length - sent) batchSendSize) with chunk_eq
      have size : chunk.length ≤ batchSendSize := by
        rw [chunk_eq, List.length_take]
        omega
      have within : chunk.length ≤ bufs.length - sent := by
        rw [chunk_eq, List.length_take, List.length_drop]
        omega
      rcases call : socket.sendBatch s chunk with ⟨s', outcome⟩
      cases outcome with
      | error e =>
        have wire := socket.wire_of_error s chunk e size (by rw [call])
        rw [call] at wire
        exact ⟨sent, socket.away_of_error more wire _⟩
      | ok n =>
        obtain ⟨few, wire⟩ := socket.wire_of_ok s chunk n size (by rw [call])
        rw [call] at wire
        cases n with
        | zero =>
          -- no progress is an error of its own
          exact ⟨sent, socket.away_of_error more (by simpa using wire) _⟩
        | succ n =>
          have still : sent + (n + 1) ≤ bufs.length := by omega
          obtain ⟨final, rest⟩ := ih (bufs.length - (sent + (n + 1))) (by omega) s' still rfl
          have least := rest.least
          -- the accepted datagrams are the next ones of the batch
          have accepted : chunk.take (n + 1) = (bufs.drop sent).take (n + 1) := by
            rw [chunk_eq, List.take_take, min_eq_left]
            rw [chunk_eq, List.length_take] at few
            exact few.trans (min_le_left _ _)
          refine ⟨final, by omega, rest.most, ?_, rest.ok, rest.error⟩
          have split : final - sent = (n + 1) + (final - (sent + (n + 1))) := by omega
          rw [rest.wire, wire, accepted, List.append_assoc, split, List.take_add (i := n + 1),
            List.drop_drop]
    · -- nothing is left: the batch is away
      have all : sent = bufs.length := by omega
      simp only [more, if_false]
      exact ⟨sent, le_rfl, some_left, by simp, by simp [all], by simp⟩

theorem sendAllDatagrams_away (s : σ) (bufs : List Bytes) :
    ∃ n, socket.Away bufs s 0 n (socket.sendAllDatagrams s bufs) :=
  socket.sendFrom_away bufs s (Nat.zero_le _)

end BatchUdpSocket

/-! ### The link -/

/-- The sequences a batch asks to track, with their queue times. -/
def tracked (batch : List DrainedPacket) : List (Int × Nat) :=
  batch.filterMap fun packet => packet.2.1.map fun seq => (asI32 seq, packet.2.2)

/-- A log with the tracked sequences of a batch inserted. -/
def insertTracked (log : FiniteMap Int Nat) (batch : List DrainedPacket) : FiniteMap Int Nat :=
  (tracked batch).foldl (fun log entry => log.insert entry.1 entry.2) log

theorem insertTracked_untracked (data : Bytes) (sendTimeMs : Nat) (log : FiniteMap Int Nat)
    (rest : List DrainedPacket) :
    insertTracked log ((data, none, sendTimeMs) :: rest) = insertTracked log rest := by
  simp [insertTracked, tracked]

theorem insertTracked_some (data : Bytes) (seq sendTimeMs : Nat) (log : FiniteMap Int Nat)
    (rest : List DrainedPacket) :
    insertTracked log ((data, some seq, sendTimeMs) :: rest) =
      insertTracked (log.insert (asI32 seq) sendTimeMs) rest := by
  simp [insertTracked, tracked]

theorem mem_insertTracked {log : FiniteMap Int Nat} {batch : List DrainedPacket} {seq : Int} :
    seq ∈ insertTracked log batch ↔ seq ∈ log ∨ seq ∈ (tracked batch).map Prod.fst := by
  rw [insertTracked]
  induction tracked batch generalizing log with
  | nil => simp
  | cons entry rest ih =>
    rw [List.foldl_cons, ih, AList.mem_insert, List.map_cons, List.mem_cons]
    tauto

namespace SrtlaConnection

theorem registerPacket_packetLog (c : SrtlaConnection) (seq : Int) (sendTimeMs : Nat) :
    (c.registerPacket seq sendTimeMs).packetLog = c.packetLog.insert seq sendTimeMs := by
  unfold registerPacket
  rfl

theorem registerBatch_packetLog (c : SrtlaConnection) (batch : List DrainedPacket) :
    (c.registerBatch batch).packetLog = insertTracked c.packetLog batch := by
  induction batch generalizing c with
  | nil => rfl
  | cons packet rest ih =>
    obtain ⟨data, seq, sendTimeMs⟩ := packet
    cases seq with
    | none =>
      rw [insertTracked_untracked]
      exact ih c
    | some s =>
      have registered := ih (c.registerPacket (asI32 s) sendTimeMs)
      rw [registerPacket_packetLog, ← insertTracked_some data] at registered
      rw [← registered, registerBatch, List.foldl_cons, registerBatch]

theorem takeBatch_packetLog (c : SrtlaConnection) (now : Nat) :
    (c.takeBatch now).1.packetLog = insertTracked c.packetLog (c.takeBatch now).2 :=
  registerBatch_packetLog _ _

/-- A link that a failed flush put into recovery. -/
structure Recovering (c : SrtlaConnection) : Prop where
  connected : c.connected = false
  phase : c.phase = .registering
  packetLog : c.packetLog = ∅
  probeLog : c.probeLog = ∅
  inFlightPackets : c.inFlightPackets = 0
  queue : c.batchSender.queue = []

theorem recovering_markForRecovery (c : SrtlaConnection) : c.markForRecovery.Recovering :=
  ⟨rfl, rfl, rfl, rfl, rfl, rfl⟩

end SrtlaConnection

namespace BatchUdpSocket

variable {σ : Type} (socket : BatchUdpSocket σ) {s : σ} {conn : SrtlaConnection}
  {tracker : SequenceTracker} {now : Nat}

/-- The whole batch got away: it is in flight, and the tracker keeps what it knows. -/
theorem flushConnection_ok (ok : (socket.sendConnectionBatch s conn now).2.2 = .ok ()) :
    (socket.flushConnection s conn tracker now).2.1.packetLog =
        insertTracked conn.packetLog (conn.takeBatch now).2 ∧
      (socket.flushConnection s conn tracker now).2.2 = tracker := by
  have taken : socket.takes s conn now = true := by rw [takes, ok]; rfl
  rw [flushConnection_refines, taken, SrtlaSend.flushConnection, SrtlaSend.sendConnectionBatch,
    ← conn.takeBatch_packetLog now]
  -- an empty batch does not reach the socket
  by_cases empty : (conn.takeBatch now).2.isEmpty = true
  · simp only [empty, if_true, and_self]
  · simp only [empty, Bool.false_eq_true, if_false, if_true, and_true]
    rfl

/-- The socket refused part of the batch: the optimistic registration is undone with all
else the link remembers. -/
theorem flushConnection_error {e : BatchSendError}
    (error : (socket.sendConnectionBatch s conn now).2.2 = .error e) :
    (socket.flushConnection s conn tracker now).2.1.Recovering ∧
      (socket.flushConnection s conn tracker now).2.2.Forgets conn.connId := by
  -- the entries the tracker drops are those of this link
  have same : (socket.sendConnectionBatch s conn now).2.1.connId = conn.connId := by
    have drained := (SrtlaConnection.sameLife_takeBatch conn now).connId
    simp only [sendConnectionBatch]
    split
    · exact drained
    · split <;> exact drained
  rcases sent : socket.sendConnectionBatch s conn now with ⟨s', conn', outcome⟩
  rw [sent] at error same
  obtain rfl : outcome = .error e := error
  simp only [flushConnection, sent, recoverConnection]
  rw [← same]
  exact ⟨conn'.recovering_markForRecovery, tracker.forgets_removeConnection conn'.connId⟩

end BatchUdpSocket

/-- A batch from the queue to the wire. The queue returns what was put into it since it was
last reset, once and in order; a socket that accepts any prefix of what it is offered gets
each datagram at most once and in order, and the flush knows how many; and a link either
has exactly the tracked packets of its batch in flight, or is back where it registers with
nothing left of the batch. -/
theorem batch_flush_exact :
    (∀ before after : List BatchOp, before = [] ∨ before.getLast? = some .reset → .reset ∉ after →
      let b := run BatchSender.apply {} before
      let b' := run BatchSender.apply b after
      b.drains after ++ b'.pending = after.flatMap BatchOp.queued ∧
        b'.pending.map Prod.fst = b'.queue) ∧
    (∀ (σ : Type) (socket : BatchUdpSocket σ) (s : σ) (bufs : List Bytes),
      let out := socket.sendAllDatagrams s bufs
      ∃ n ≤ bufs.length, socket.wire out.1 = socket.wire s ++ bufs.take n ∧
        (out.2 = .ok () ↔ n = bufs.length) ∧
        ∀ e, out.2 = .error e → e.sent = n ∧ e.total = bufs.length) ∧
    ∀ (σ : Type) (socket : BatchUdpSocket σ) (s : σ) (conn : SrtlaConnection)
      (tracker : SequenceTracker) (now : Nat),
      let out := socket.flushConnection s conn tracker now
      ((socket.sendConnectionBatch s conn now).2.2 = .ok () →
        out.2.1.packetLog = insertTracked conn.packetLog (conn.takeBatch now).2 ∧
          out.2.2 = tracker) ∧
      ∀ e, (socket.sendConnectionBatch s conn now).2.2 = .error e →
        out.2.1.Recovering ∧ out.2.2.Forgets conn.connId := by
  refine ⟨?_, ?_, ?_⟩
  · intro before after start kept b b'
    -- after a reset nothing from before it is pending
    have moved := BatchSender.drains_append_pending (BatchSender.aligned_run before) kept
    rw [BatchSender.pending_of_reset start, List.nil_append] at moved
    have aligned : b'.Aligned := by
      have whole := BatchSender.aligned_run (before ++ after)
      rwa [run_append] at whole
    refine ⟨moved, List.map_fst_zip ?_⟩
    rw [List.length_zip, aligned.1, aligned.2, min_self]
  · intro σ socket s bufs out
    obtain ⟨n, away⟩ := socket.sendAllDatagrams_away s bufs
    exact ⟨n, away.most, away.wire, away.ok, away.error⟩
  · intro σ socket s conn tracker now out
    exact ⟨socket.flushConnection_ok, fun e => socket.flushConnection_error⟩

/-- A socket that takes three datagrams of each of its first two calls and then fails. -/
def failing : BatchUdpSocket (Nat × List Bytes) where
  sendBatch s bufs :=
    if s.1 < 2 then ((s.1 + 1, s.2 ++ bufs.take 3), .ok (min 3 bufs.length))
    else (s, .error ⟨.other 101, "network is unreachable"⟩)
  wire s := s.2
  wire_of_ok s bufs n _ ok := by
    split at ok
    case isTrue first =>
      obtain rfl := Except.ok.inj ok
      refine ⟨min_le_right _ _, ?_⟩
      rw [if_pos first]
      -- at most three, and no more than there are
      rcases le_total 3 bufs.length with long | short
      · rw [min_eq_left long]
      · rw [min_eq_right short, List.take_of_length_le short, List.take_length]
    case isFalse => cases ok
  wire_of_error s bufs e _ error := by
    split at error
    case isTrue => cases error
    case isFalse later => rw [if_neg later]

/-- Eight packets to the failing socket: six get away, and the link recovers. -/
theorem batch_flush_exact_failing :
    let conn := (List.range 8).foldl (fun c i => (c.queueDataPacket [1, 2] (some i) 1000).1)
      (Sample.link 1)
    (failing.sendConnectionBatch (0, []) conn 1015).2.2 =
        .error ⟨6, 8, ⟨.other 101, "network is unreachable"⟩⟩ ∧
      (failing.flushConnection (0, []) conn .new 1015).2.1.Recovering := by
  intro conn
  have error : (failing.sendConnectionBatch (0, []) conn 1015).2.2 =
      .error ⟨6, 8, ⟨.other 101, "network is unreachable"⟩⟩ := by decide +kernel
  exact ⟨error, ((batch_flush_exact.2.2 _ failing (0, []) conn .new 1015).2 _ error).1⟩

end SrtlaSend
