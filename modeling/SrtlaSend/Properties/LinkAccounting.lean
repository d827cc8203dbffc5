import SrtlaSend.Lib.Run
import SrtlaSend.Core.AckNak
import SrtlaSend.Sender.UplinkRecv
import Mathlib.Tactic.NormNum
import Mathlib.Tactic.Linarith

/-!
# Link accounting

Window, in-flight count and logs of a link are written by many operations, some
of which clamp from above and some from below. `Accounting` is what they keep
together, whatever the order. It holds of a new link and after every operation,
so it holds after every run.
-/

namespace SrtlaSend

open MachineInt Runs

/-- The operations on one link. The last group is what the rest of the sender
does to it in between. -/
inductive LinkOp
  | queueDataPacket (data : Bytes) (seq : Option Nat) (sendTimeMs : Nat)
  | queueProbePacket (data : Bytes) (seq sendTimeMs : Nat)
  | takeBatch (now : Nat)
  | registerPacket (seq : Int) (sendTimeMs : Nat)
  | handleSrtAck (ack : Int) (nowMs : Nat) (ownsAckedSeq : Bool)
  | handleNak (seq : Int) (nowMs : Nat)
  | handleSrtlaAckSpecific (seq : Int) (classicMode : Bool) (nowMs : Nat)
  | handleSrtlaAckGlobal
  | performWindowRecovery (nowMs : Nat)
  | clearPreRegistrationState (nowMs : Nat)
  | markForRecovery
  | resetForReconnect (now : Nat)
  | acceptReg3 (now : Nat)
  | acceptRegErr
  | noteReceived (now : Nat)
  | setRtt (rtt : RttTracker)
  | setRegime (regime : BatchRegime)

namespace SrtlaConnection

def applyOp (c : SrtlaConnection) : LinkOp → SrtlaConnection
  | .queueDataPacket data seq sendTimeMs => (c.queueDataPacket data seq sendTimeMs).1
  | .queueProbePacket data seq sendTimeMs => (c.queueProbePacket data seq sendTimeMs).1
  | .takeBatch now => (c.takeBatch now).1
  | .registerPacket seq sendTimeMs => c.registerPacket seq sendTimeMs
  | .handleSrtAck ack nowMs ownsAckedSeq => c.handleSrtAck ack nowMs ownsAckedSeq
  | .handleNak seq nowMs => (c.handleNak seq nowMs).1
  | .handleSrtlaAckSpecific seq classicMode nowMs => (c.handleSrtlaAckSpecific seq classicMode nowMs).1
  | .handleSrtlaAckGlobal => c.handleSrtlaAckGlobal
  | .performWindowRecovery nowMs => c.performWindowRecovery nowMs
  | .clearPreRegistrationState nowMs => c.clearPreRegistrationState nowMs
  | .markForRecovery => c.markForRecovery
  | .resetForReconnect now => c.resetForReconnect now
  | .acceptReg3 now => c.acceptReg3 now
  | .acceptRegErr => c.acceptRegErr
  | .noteReceived now => c.noteReceived now
  | .setRtt rtt => { c with rtt }
  | .setRegime regime => { c with batchSender := c.batchSender.setRegime regime }

/-- The values the operation computes from the window before it clamps. -/
def windowSums (c : SrtlaConnection) : LinkOp → List Int
  | .handleNak _ _ => [c.window - windowDecr]
  | .handleSrtlaAckSpecific _ _ _ => [c.window + windowIncr, c.window + windowIncr - 1]
  | .handleSrtlaAckGlobal => [c.window + 1]
  | .performWindowRecovery nowMs =>
    let age := CongestionControl.recoveryAge c.congestion.lastNakTimeMs nowMs
    let fast := c.congestion.fastRecoveryMode
    [CongestionControl.recoveryBaseIncr age fast,
      c.window + CongestionControl.recoveryIncr age fast c.getRttVelocity]
  | _ => []

/-- The range of the congestion window. -/
def InWindowRange (window : Int) : Prop := 1000 ≤ window ∧ window ≤ 60000

structure Accounting (c : SrtlaConnection) : Prop where
  inFlight : c.inFlightPackets = asI32 c.packetLog.len
  window : InWindowRange c.window
  probes : c.probeLog.len ≤ 128
  acked : c.highestAckedSeq = noAckYet ∨ IsSeq c.highestAckedSeq
  sequences : c.batchSender.sequences.length = c.batchSender.queue.length
  queueTimes : c.batchSender.queueTimes.length = c.batchSender.queue.length

/-! ### The congestion window -/

theorem recoveryBaseIncr_bounds (age : Nat) (fast : Bool) :
    0 ≤ CongestionControl.recoveryBaseIncr age fast ∧
      CongestionControl.recoveryBaseIncr age fast ≤ 120 := by
  unfold CongestionControl.recoveryBaseIncr windowIncr
  cases fast <;> simp only [Bool.false_eq_true, if_true, if_false] <;> split_ifs <;> omega

/-- The velocity gate halves the increment at most, so it stays within its bounds. -/
theorem recoveryIncr_bounds (age : Nat) (fast : Bool) (velocity : ℚ) :
    0 ≤ CongestionControl.recoveryIncr age fast velocity ∧
      CongestionControl.recoveryIncr age fast velocity ≤ 120 := by
  obtain ⟨low, high⟩ := recoveryBaseIncr_bounds age fast
  have low' : (0 : ℚ) ≤ CongestionControl.recoveryBaseIncr age fast := by exact_mod_cast low
  have high' : (CongestionControl.recoveryBaseIncr age fast : ℚ) ≤ 120 := by exact_mod_cast high
  unfold CongestionControl.recoveryIncr
  simp only
  generalize scaled : (CongestionControl.recoveryBaseIncr age fast : ℚ) *
    (if velocity > CongestionControl.rttVelocityGateThreshold then 1 / 2 else 1) = q
  have nonneg : 0 ≤ q := by
    rw [← scaled]
    split <;> linarith
  have bound : q ≤ ((120 : Int) : ℚ) := by
    rw [← scaled]
    push_cast
    split <;> linarith
  have upper := trunc_le_of_le nonneg bound
  have lower := trunc_nonneg nonneg
  unfold satI32
  omega

theorem growOnAck_range {window : Int} (h : InWindowRange window) (inFlight : Int) :
    InWindowRange (CongestionControl.growOnAck window inFlight) := by
  unfold CongestionControl.growOnAck windowIncr windowMax windowMult
  unfold InWindowRange at *
  split <;> omega

theorem handleNak_window_range {window : Int} (h : InWindowRange window)
    (cc : CongestionControl) (nowMs : Nat) : InWindowRange (cc.handleNak window nowMs).2 := by
  have result : (cc.handleNak window nowMs).2 = max (window - windowDecr) (windowMin * windowMult) := by
    unfold CongestionControl.handleNak
    rfl
  rw [result]
  unfold InWindowRange windowDecr windowMin windowMult at *
  omega

/-- A recovery step leaves the window alone or adds one increment to it. -/
theorem performWindowRecovery_window (cc : CongestionControl) (window : Int) (connected : Bool)
    (velocity : ℚ) (nowMs : Nat) :
    (cc.performWindowRecovery window connected velocity nowMs).2 = window ∨
      (cc.performWindowRecovery window connected velocity nowMs).2 =
        min (window + CongestionControl.recoveryIncr
            (CongestionControl.recoveryAge cc.lastNakTimeMs nowMs) cc.fastRecoveryMode velocity)
          (windowMax * windowMult) := by
  unfold CongestionControl.performWindowRecovery
  simp only
  split
  · exact Or.inl rfl
  · cases cc.fastRecoveryMode with
    | true =>
      simp only [if_true]
      split
      · exact Or.inr rfl
      · exact Or.inl rfl
    | false =>
      simp only [Bool.false_eq_true, if_false]
      split
      · exact Or.inr rfl
      · exact Or.inl rfl

theorem performWindowRecovery_window_range {window : Int} (h : InWindowRange window)
    (cc : CongestionControl) (connected : Bool) (velocity : ℚ) (nowMs : Nat) :
    InWindowRange (cc.performWindowRecovery window connected velocity nowMs).2 := by
  have incr := recoveryIncr_bounds
    (CongestionControl.recoveryAge cc.lastNakTimeMs nowMs) cc.fastRecoveryMode velocity
  rcases performWindowRecovery_window cc window connected velocity nowMs with same | added
  · rw [same]
    exact h
  · rw [added]
    unfold InWindowRange windowMax windowMult at *
    omega

/-! ### Queue and logs -/

theorem Accounting.queuePacket {c : SrtlaConnection} (h : c.Accounting) (data : Bytes)
    (seq : Option Nat) (t : Nat) :
    (c.batchSender.queuePacket data seq t).1.sequences.length =
        (c.batchSender.queuePacket data seq t).1.queue.length ∧
      (c.batchSender.queuePacket data seq t).1.queueTimes.length =
        (c.batchSender.queuePacket data seq t).1.queue.length := by
  simp [BatchSender.queuePacket, h.sequences, h.queueTimes]

theorem recordProbe_probeLog_len {c : SrtlaConnection} (h : c.probeLog.len ≤ 128) (seq : Int)
    (t : Nat) : (c.recordProbe seq t).probeLog.len ≤ 128 := by
  unfold recordProbe
  simp only
  have room : FiniteMap.len
      (if c.probeLog.len ≥ probeLogSoftCap then
        if (c.probeLog.retain fun _ sent => decide (sent ≥ t - probeLogMaxAgeMs)).len ≥
            probeLogSoftCap then ∅
        else c.probeLog.retain fun _ sent => decide (sent ≥ t - probeLogMaxAgeMs)
      else c.probeLog) < 128 := by
    unfold probeLogSoftCap
    split
    · split
      · rw [FiniteMap.len_empty]
        omega
      · omega
    · omega
  exact (FiniteMap.len_insert_le _ _ _).trans room

/-- Registering packets keeps the accounting and touches only the packet log. -/
theorem accounting_registerPacket {c : SrtlaConnection} (h : c.Accounting) (seq : Int) (t : Nat) :
    (c.registerPacket seq t).Accounting := by
  unfold registerPacket
  exact ⟨by simp only, h.window, h.probes, h.acked, h.sequences, h.queueTimes⟩

theorem accounting_registerBatch {c : SrtlaConnection} (h : c.Accounting)
    (batch : List DrainedPacket) : (c.registerBatch batch).Accounting := by
  unfold registerBatch
  induction batch generalizing c with
  | nil => exact h
  | cons packet batch ih =>
    rw [List.foldl_cons]
    cases packet.2.1 with
    | none => exact ih h
    | some s => exact ih (accounting_registerPacket h (asI32 s) packet.2.2)

/-! ### Every operation keeps the accounting -/

private theorem asI32_len_empty : (0 : Int) = asI32 ((∅ : FiniteMap Int Nat).len : Nat) := by
  rw [FiniteMap.len_empty]
  decide

private theorem windowDef_range : InWindowRange (windowDef * windowMult) := by
  unfold InWindowRange windowDef windowMult
  omega

private theorem len_empty_le : (∅ : FiniteMap Int Nat).len ≤ 128 := by
  rw [FiniteMap.len_empty]
  omega

theorem accounting_newRegistering (connId : Nat) (label : String) (localIp : IpAddr) (now : Nat) :
    (newRegistering connId label localIp now).Accounting := by
  unfold newRegistering
  exact ⟨asI32_len_empty, windowDef_range, len_empty_le, Or.inl rfl, rfl, rfl⟩

private theorem accounting_drained {c : SrtlaConnection} (h : c.Accounting) (now : Nat) :
    Accounting { c with batchSender := (c.batchSender.drain now).1 } := by
  unfold BatchSender.drain
  simp only
  split
  · exact ⟨h.inFlight, h.window, h.probes, h.acked, h.sequences, h.queueTimes⟩
  · exact ⟨h.inFlight, h.window, h.probes, h.acked, rfl, rfl⟩

theorem accounting_takeBatch {c : SrtlaConnection} (h : c.Accounting) (now : Nat) :
    (c.takeBatch now).1.Accounting := by
  unfold takeBatch
  exact accounting_registerBatch (accounting_drained h now) _

theorem accounting_handleSrtAck {c : SrtlaConnection} (h : c.Accounting) (ack : Int)
    (nowMs : Nat) (owns : Bool) : (c.handleSrtAck ack nowMs owns).Accounting := by
  have seq := isSeq_seqNormalize ack
  unfold handleSrtAck
  simp only
  split
  · exact h
  · split
    · split
      · exact ⟨by simp only, h.window, h.probes, Or.inr seq, h.sequences, h.queueTimes⟩
      · exact ⟨by simp only, h.window, h.probes, Or.inr seq, h.sequences, h.queueTimes⟩
    · exact ⟨by simp only, h.window, h.probes, Or.inr seq, h.sequences, h.queueTimes⟩

theorem accounting_handleNak {c : SrtlaConnection} (h : c.Accounting) (seq : Int)
    (nowMs : Nat) : (c.handleNak seq nowMs).1.Accounting := by
  have window := handleNak_window_range h.window c.congestion nowMs
  unfold handleNak
  split
  · exact ⟨by simp only, window, h.probes, h.acked, h.sequences, h.queueTimes⟩
  · exact h

theorem accounting_handleSrtlaAckSpecific {c : SrtlaConnection} (h : c.Accounting)
    (seq : Int) (classicMode : Bool) (nowMs : Nat) :
    (c.handleSrtlaAckSpecific seq classicMode nowMs).1.Accounting := by
  unfold handleSrtlaAckSpecific
  split
  · have erased := (FiniteMap.len_erase_le seq c.probeLog).trans h.probes
    exact ⟨h.inFlight, h.window, erased, h.acked, h.sequences, h.queueTimes⟩
  · split
    · refine ⟨by simp only, ?_, h.probes, h.acked, h.sequences, h.queueTimes⟩
      cases classicMode with
      | false =>
        simp only [Bool.false_eq_true, if_false, CongestionControl.handleSrtlaAckEnhanced]
        exact growOnAck_range h.window _
      | true =>
        simp only [if_true, CongestionControl.handleSrtlaAckSpecificClassic]
        exact growOnAck_range h.window _
    · exact h

theorem accounting_handleSrtlaAckGlobal {c : SrtlaConnection} (h : c.Accounting) :
    c.handleSrtlaAckGlobal.Accounting := by
  unfold handleSrtlaAckGlobal
  split
  · have window : InWindowRange (min (c.window + 1) (windowMax * windowMult)) := by
      have range := h.window
      unfold InWindowRange windowMax windowMult at *
      omega
    exact ⟨h.inFlight, window, h.probes, h.acked, h.sequences, h.queueTimes⟩
  · exact h

/-- The resets start from nothing, so they restore the accounting from any state. -/
theorem accounting_resetCoreState (c : SrtlaConnection) : c.resetCoreState.Accounting := by
  unfold resetCoreState
  exact ⟨asI32_len_empty, windowDef_range, len_empty_le, Or.inl rfl, rfl, rfl⟩

theorem accounting_clearPreRegistrationState {c : SrtlaConnection} (h : c.Accounting)
    (nowMs : Nat) : (c.clearPreRegistrationState nowMs).Accounting := by
  unfold clearPreRegistrationState
  exact ⟨asI32_len_empty, h.window, len_empty_le, Or.inl rfl, rfl, rfl⟩

theorem accounting_markForRecovery (c : SrtlaConnection) : c.markForRecovery.Accounting := by
  unfold markForRecovery
  obtain ⟨inFlight, window, probes, acked, sequences, times⟩ := accounting_resetCoreState
    { c with
      lastReceived := none
      lastKeepaliveSent := none
      rtt.lastKeepaliveSentMs := 0
      rtt.waitingForKeepaliveResponse := false }
  exact ⟨inFlight, window, probes, acked, sequences, times⟩

theorem accounting_resetForReconnect (c : SrtlaConnection) (now : Nat) :
    (c.resetForReconnect now).Accounting := by
  unfold resetForReconnect
  obtain ⟨inFlight, window, probes, acked, sequences, times⟩ :=
    accounting_resetCoreState { c with lastReceived := none }
  exact ⟨inFlight, window, probes, acked, sequences, times⟩

theorem accounting_noteReceived {c : SrtlaConnection} (h : c.Accounting) (now : Nat) :
    (c.noteReceived now).Accounting := by
  unfold noteReceived
  split
  · exact ⟨h.inFlight, h.window, h.probes, h.acked, h.sequences, h.queueTimes⟩
  · exact h

theorem accounting_applyOp {c : SrtlaConnection} (h : c.Accounting) (op : LinkOp) :
    (c.applyOp op).Accounting := by
  cases op with
  | queueDataPacket data seq t =>
    obtain ⟨sequences, times⟩ := h.queuePacket data seq t
    exact ⟨h.inFlight, h.window, h.probes, h.acked, sequences, times⟩
  | queueProbePacket data seq t =>
    obtain ⟨sequences, times⟩ := h.queuePacket data none t
    have probes := recordProbe_probeLog_len h.probes (asI32 seq) t
    exact ⟨h.inFlight, h.window, probes, h.acked, sequences, times⟩
  | takeBatch now => exact accounting_takeBatch h now
  | registerPacket seq t => exact accounting_registerPacket h seq t
  | handleSrtAck ack nowMs owns => exact accounting_handleSrtAck h ack nowMs owns
  | handleNak seq nowMs => exact accounting_handleNak h seq nowMs
  | handleSrtlaAckSpecific seq classicMode nowMs =>
    exact accounting_handleSrtlaAckSpecific h seq classicMode nowMs
  | handleSrtlaAckGlobal => exact accounting_handleSrtlaAckGlobal h
  | performWindowRecovery nowMs =>
    have window := performWindowRecovery_window_range h.window c.congestion c.connected
      c.getRttVelocity nowMs
    exact ⟨h.inFlight, window, h.probes, h.acked, h.sequences, h.queueTimes⟩
  | clearPreRegistrationState nowMs => exact accounting_clearPreRegistrationState h nowMs
  | markForRecovery => exact accounting_markForRecovery c
  | resetForReconnect now => exact accounting_resetForReconnect c now
  -- a new REG3 clears the books before it sets the phase
  | acceptReg3 now =>
    obtain ⟨inFlight, window, probes, acked, sequences, times⟩ :=
      accounting_clearPreRegistrationState h now
    exact ⟨inFlight, window, probes, acked, sequences, times⟩
  | acceptRegErr => exact ⟨h.inFlight, h.window, h.probes, h.acked, h.sequences, h.queueTimes⟩
  | noteReceived now => exact accounting_noteReceived h now
  | setRtt rtt => exact ⟨h.inFlight, h.window, h.probes, h.acked, h.sequences, h.queueTimes⟩
  | setRegime regime => exact ⟨h.inFlight, h.window, h.probes, h.acked, h.sequences, h.queueTimes⟩

/-- Within its range, the window is far from both ends of an `i32`. -/
theorem windowSums_inI32 {c : SrtlaConnection} (range : InWindowRange c.window) (op : LinkOp) :
    ∀ x ∈ c.windowSums op, InI32 x := by
  obtain ⟨low, high⟩ := range
  unfold windowSums
  split
  · intro x member
    rw [List.mem_singleton] at member
    unfold InI32 windowDecr at *
    omega
  · intro x member
    rw [List.mem_pair] at member
    unfold InI32 windowIncr at *
    omega
  · intro x member
    rw [List.mem_singleton] at member
    unfold InI32
    omega
  -- recovery adds at most 120
  · rename_i nowMs
    intro x member
    have base := recoveryBaseIncr_bounds
      (CongestionControl.recoveryAge c.congestion.lastNakTimeMs nowMs) c.congestion.fastRecoveryMode
    have incr := recoveryIncr_bounds
      (CongestionControl.recoveryAge c.congestion.lastNakTimeMs nowMs) c.congestion.fastRecoveryMode
      c.getRttVelocity
    rw [List.mem_pair] at member
    unfold InI32
    omega
  · intro x member
    exact absurd member List.not_mem_nil

end SrtlaConnection

/-- What holds of a link after any sequence of its operations: the in-flight
count is the number of logged packets, window and logs stay in their bounds, no
operation that comes next overflows, and the score of a registered link is a
non-negative quotient. -/
theorem link_accounting (connId : Nat) (label : String) (localIp : IpAddr) (start : Nat)
    (ops : List LinkOp) :
    let c := run SrtlaConnection.applyOp (.newRegistering connId label localIp start) ops
    (c.packetLog.len < 2 ^ 31 → c.inFlightPackets = c.packetLog.len) ∧
      1000 ≤ c.window ∧ c.window ≤ 60000 ∧
      c.probeLog.len ≤ 128 ∧
      (c.highestAckedSeq = noAckYet ∨ IsSeq c.highestAckedSeq) ∧
      c.batchSender.sequences.length = c.batchSender.queue.length ∧
      c.batchSender.queueTimes.length = c.batchSender.queue.length ∧
      (∀ op, ∀ x ∈ c.windowSums op, InI32 x) ∧
      (c.connected = true → 0 ≤ c.getScore) ∧ c.scoreDenom ≠ 0 := by
  intro c
  have acc : c.Accounting :=
    run_invariant SrtlaConnection.Accounting
      (fun c op h => SrtlaConnection.accounting_applyOp h op)
      (SrtlaConnection.accounting_newRegistering connId label localIp start) ops
  have inFlight (few : c.packetLog.len < 2 ^ 31) : c.inFlightPackets = c.packetLog.len := by
    rw [acc.inFlight, asI32_natCast few]
  have score (on : c.connected = true) : 0 ≤ c.getScore :=
    SrtlaConnection.getScore_nonneg on (by have low := acc.window.1; omega)
  have denom : c.scoreDenom ≠ 0 := by
    have positive := c.one_le_scoreDenom
    omega
  exact ⟨inFlight, acc.window.1, acc.window.2, acc.probes, acc.acked, acc.sequences, acc.queueTimes,
    SrtlaConnection.windowSums_inI32 acc.window, score, denom⟩

end SrtlaSend
