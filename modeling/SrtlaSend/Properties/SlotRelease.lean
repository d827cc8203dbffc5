import SrtlaSend.Properties.Handshake

/-!
# The handshake slot is released

One uplink at a time waits for a REG2, and every REG1 it sends pushes the timeout
of the wait four seconds out. What bounds the wait is the pacing of the retries: a
link that never registered is left alone for its startup grace, which is longer
than the timeout, and a link that did has four fast retries before the slow ones,
which are longer too. `Budget` is the bound these leave at each pass. The one way
around them is a rebuild that fails before the link has ever registered: it takes
the grace away.
-/

namespace SrtlaSend

open Runs Pointwise SrtlaConnection

/-- When the event happened; a verdict or a reload carries no clock. -/
def Event.time : Event → Nat
  | .data _ _ _ _ _ now => now
  | .uplink _ _ env => env.now
  | .flush _ now => now
  | .housekeeping env => env.now
  | .classify _ => 0
  | .reload _ => 0

/-- Two passes of the housekeeping timer, about a second apart. -/
def Spaced (env env' : HousekeepingEnv) : Prop :=
  env.now + 900 ≤ env'.now ∧ env'.now ≤ env.now + 1100

instance (env env' : HousekeepingEnv) : Decidable (Spaced env env') :=
  inferInstanceAs (Decidable (_ ∧ _))

namespace Sender

/-- The slot has not timed out yet, and its holder never registered and is due for a
retry: then its socket can be rebuilt. -/
def holderRebuilds (s : Sender) : Event → Bool
  | .housekeeping env =>
    match s.reg.pendingReg2Idx with
    | none => true
    | some i =>
      (s.conns[i]?).all fun c =>
        decide (env.now < s.reg.pendingTimeoutAtMs ∧ c.reconnection.connectionEstablishedMs = 0 ∧
            c.isTimedOut env.now = true ∧ c.shouldAttemptReconnect env.now = true →
          c.connId ∈ s.connIo ∧ env.opened c.connId = true)
  | _ => true

end Sender

/-! ### The timeout of the slot -/

/-- A held slot has a timeout at most four seconds away, and nothing is held or
targeted while the probes are out. -/
structure SlotTimed (now : Nat) (r : SrtlaRegistrationManager) : Prop where
  timed : ∀ i, r.pendingReg2Idx = some i →
    r.pendingTimeoutAtMs ≠ 0 ∧ r.pendingTimeoutAtMs ≤ now + 4000
  probing : r.probingState = .waitingForProbes → r.pendingReg2Idx = none ∧ r.reg1TargetIdx = none

section Timed

variable {r r' : SrtlaRegistrationManager} {now t : Nat}

/-- Whatever does not touch the slot keeps its timeout. -/
theorem SlotTimed.of_sameSlot (h : SlotTimed now r)
    (same : SameSlot r r') (probing : r'.probingState = r.probingState) :
    SlotTimed now r' := by
  obtain ⟨slot, timeout, target, -⟩ := same
  refine ⟨fun i held => ?_, fun waiting => ?_⟩
  · rw [timeout]
    exact h.timed i (slot ▸ held)
  · rw [slot, target]
    exact h.probing (probing ▸ waiting)

theorem SlotTimed.free (empty : r.pendingReg2Idx = none)
    (probing : r.probingState = .waitingForProbes → r.reg1TargetIdx = none) : SlotTimed now r := by
  refine ⟨fun i held => ?_, fun waiting => ⟨empty, probing waiting⟩⟩
  rw [empty] at held
  cases held

/-- Taking the slot sets its timeout. -/
theorem slotTimed_buildReg1For (settled : r.probingState ≠ .waitingForProbes) (i : Nat)
    (le : t ≤ now) : SlotTimed now (r.buildReg1For i t).1 := by
  have timeout : (r.buildReg1For i t).1.pendingTimeoutAtMs = t + 4000 := rfl
  refine ⟨fun j held => ?_, fun waiting => absurd waiting settled⟩
  rw [timeout]
  omega

theorem SlotTimed.regNgp (h : SlotTimed now r) (i : Nat) (le : t ≤ now) :
    SlotTimed now ((r.handleRegNgp i t).reg1IfNgpImmediate i t).1 := by
  by_cases waiting : r.probingState = .waitingForProbes
  · -- the answer to a probe: there is no target, so no REG1 is due
    obtain ⟨slot, target⟩ := h.probing waiting
    have kept : (r.handleRegNgp i t).reg1TargetIdx = none := by
      simp only [SrtlaRegistrationManager.handleRegNgp, SrtlaRegistrationManager.handleProbeResponse,
        waiting, if_true, ne_eq, not_true_eq_false, if_false]
      exact target
    have same : ((r.handleRegNgp i t).reg1IfNgpImmediate i t).1 = r.handleRegNgp i t := by
      simp [SrtlaRegistrationManager.reg1IfNgpImmediate, kept]
    rw [same]
    simp only [SrtlaRegistrationManager.handleRegNgp, SrtlaRegistrationManager.handleProbeResponse,
      waiting, if_true, ne_eq, not_true_eq_false, if_false]
    exact SlotTimed.free slot fun _ => target
  · -- later answers may set the target, and REG1 takes the slot with its timeout
    have targeted : (r.handleRegNgp i t).probingState = r.probingState ∧
        SlotTimed now (r.handleRegNgp i t) := by
      simp only [SrtlaRegistrationManager.handleRegNgp, waiting, if_false]
      split
      · exact ⟨rfl, h.timed, fun now_waiting => absurd now_waiting waiting⟩
      · exact ⟨rfl, h⟩
    simp only [SrtlaRegistrationManager.reg1IfNgpImmediate]
    split
    · exact slotTimed_buildReg1For (targeted.1 ▸ waiting) i le
    · exact targeted.2

theorem FrameEffect.slotTimed {i : Nat} {bytes : Bytes} {c c' : SrtlaConnection}
    (effect : FrameEffect i bytes t c r c' r') (h : SlotTimed now r) (le : t ≤ now) :
    SlotTimed now r' := by
  cases effect with
  | quiet counters silent life => exact h.of_sameSlot ⟨rfl, rfl, rfl, rfl⟩ rfl
  | regNgp event => exact h.regNgp i le
  | reg2 event =>
    -- an accepted REG2 ends the wait, and nobody waits while probing
    rcases r.handleReg2_cases i bytes t with same | ⟨-, held, gone, -⟩
    · rw [same]
      exact h
    · refine SlotTimed.free gone fun waiting => ?_
      have state : (r.handleReg2 i bytes t).probingState = r.probingState := by
        simp only [SrtlaRegistrationManager.handleReg2]
        split
        · rfl
        · split <;> rfl
      have free := (h.probing (state ▸ waiting)).1
      rw [held] at free
      cases free
  | reg3 event granted => exact h.of_sameSlot ⟨rfl, rfl, rfl, rfl⟩ rfl
  | regErr event inPhase =>
    -- an error to the holder frees the slot
    split
    · exact SlotTimed.free rfl fun _ => rfl
    · exact h.of_sameSlot ⟨rfl, rfl, rfl, rfl⟩ rfl

theorem SlotTimed.beginPass (h : SlotTimed now r) (clock probeClock : Nat) :
    SlotTimed now ((r.clearPendingIfTimedOut clock).1.checkProbingComplete probeClock).1 := by
  have cleared : SlotTimed now (r.clearPendingIfTimedOut clock).1 := by
    rcases r.clearPendingIfTimedOut_cases clock with ⟨same, -⟩ | gone
    · rw [same]
      exact h
    · rw [gone]
      exact SlotTimed.free rfl fun _ => rfl
  rcases (r.clearPendingIfTimedOut clock).1.checkProbingComplete_cases probeClock with
    same | ⟨waiting, target, done⟩
  · rw [same]
    exact cleared
  · have slot := (cleared.probing waiting).1
    rw [done]
    exact SlotTimed.free slot fun now_waiting => nomatch now_waiting

theorem SlotTimed.resend (h : SlotTimed now r) (i : Nat) (le : t ≤ now) :
    SlotTimed now (Sender.resendRegistration r i t).1 := by
  rcases Sender.resendRegistration_cases r i t with ⟨held, sent⟩ | ⟨-, sent⟩ | ⟨j, -, -, sent⟩
  · rw [sent]
    refine slotTimed_buildReg1For (fun waiting => ?_) i le
    rw [(h.probing waiting).1] at held
    cases held
  · obtain ⟨grants, arm⟩ := r.armReg3Grant_eq i
    rw [sent, arm]
    exact h.of_sameSlot ⟨rfl, rfl, rfl, rfl⟩ rfl
  · rw [sent]
    exact h

theorem SlotTimed.drive (h : SlotTimed now r) (connections : List SrtlaConnection) (count : Nat)
    (le : t ≤ now) :
    SlotTimed now (((r.updateActiveConnections connections).driveReg1 t).1.driveBroadcast count).1 := by
  have counted : SlotTimed now (r.updateActiveConnections connections) :=
    h.of_sameSlot ⟨rfl, rfl, rfl, rfl⟩ rfl
  have driven : SlotTimed now ((r.updateActiveConnections connections).driveReg1 t).1 := by
    -- REG1 takes a free slot with a timeout of its own
    rcases (r.updateActiveConnections connections).driveReg1_cases t with ⟨same, -⟩ |
      ⟨target, aimed, -, -, taken, -⟩
    · rw [same]
      exact counted
    · rw [taken]
      refine ⟨fun j held => ?_, fun waiting => ?_⟩
      · have timeout : t + reg2Timeout * 1000 = t + 4000 := rfl
        simp only [timeout]
        omega
      · have free := (counted.probing waiting).2
        rw [aimed] at free
        cases free
  obtain ⟨grants, flag, broadcast⟩ :=
    ((r.updateActiveConnections connections).driveReg1 t).1.driveBroadcast_eq count
  rw [broadcast]
  exact driven.of_sameSlot ⟨rfl, rfl, rfl, rfl⟩ rfl

end Timed

/-- Every event keeps the timeout within four seconds of any later time. -/
theorem slotTimed_step (ext : Externals) {s : Sender} {e : Event} {now : Nat} (le : e.time ≤ now)
    (h : SlotTimed now s.reg) : SlotTimed now (s.step ext e).reg := by
  cases e with
  | data pkt src sends config criticalWindow clock => exact h
  | flush sends clock => exact h
  | classify verdict => exact h
  | reload env => exact h
  | uplink connId bytes env =>
    rcases s.handleUplinkPacket_cases ext.hashOf connId bytes env with ⟨same, -⟩ |
      ⟨i, c, c', -, -, effect, -, -⟩
    · rw [Sender.step_uplink, same]
      exact h
    · exact effect.slotTimed h le
  -- the pass over the links, then the driver, unless the whole bond moves
  | housekeeping env =>
    have looped : SlotTimed now (s.looped env).reg := by
      refine Sender.reaching_invariant env s (fun t => SlotTimed now t.reg) ?_ ?_
        s.conns.length
      · rw [Sender.beginHousekeeping_reg]
        exact h.beginPass env.now env.probeNow
      · intro t i timed
        rcases Sender.housekeepUplink_cases env t i with ⟨turn, -⟩ | ⟨c, -, -, turn⟩ |
          ⟨c, -, -, turn⟩
        · rw [turn]
          exact timed
        · rw [turn]
          exact timed
        · rw [turn]
          exact timed.resend i le
    rw [Sender.step_housekeeping]
    rcases Sender.handleHousekeeping_cases env s with ⟨-, -, reg, -⟩ | ⟨-, slot, target, -, -⟩
    · rw [reg, Sender.driven, Sender.driveRegistration_reg]
      exact looped.drive _ _ le
    · exact SlotTimed.free slot fun _ => target

/-! ### What is left to the holder -/

/-- How the wait of the slot's holder can go on after the pass at `now`, if the slot
times out at `timeout`: in every case it is over by `limit`. -/
inductive Budget (limit now timeout : Nat) (c : SrtlaConnection) : Prop
  /-- Never registered, and the grace outlasts the timeout. -/
  | graced (never : c.reconnection.connectionEstablishedMs = 0)
      (grace : timeout ≤ c.reconnection.startupGraceDeadlineMs) (bound : timeout ≤ limit)
  /-- Never registered, and one more rebuild may come. -/
  | waiting (never : c.reconnection.connectionEstablishedMs = 0) (bound : timeout + 4000 ≤ limit)
  /-- Registered before, with the fast retries used up. -/
  | slow (once : c.reconnection.connectionEstablishedMs ≠ 0)
      (attempted : c.reconnection.lastReconnectAttemptMs ≠ 0)
      (recent : timeout ≤ c.reconnection.lastReconnectAttemptMs + 4000)
      (spent : 4 ≤ c.reconnection.reconnectFailureCount) (bound : timeout ≤ limit)
  /-- Registered before and retried in this pass; a retry at each of the next passes is left. -/
  | fast (lost : c.Lost) (attempted : c.reconnection.lastReconnectAttemptMs = now)
      (fresh : timeout = now + 4000) (left : c.reconnection.reconnectFailureCount < 4)
      (bound : timeout + (4 - c.reconnection.reconnectFailureCount) * 1100 ≤ limit)
  /-- Registered before and not retried yet. -/
  | untried (once : c.reconnection.connectionEstablishedMs ≠ 0) (bound : timeout + 7300 ≤ limit)

section Budget

variable {limit now timeout later : Nat} {c c' : SrtlaConnection}

theorem Budget.timeout_le (budget : Budget limit now timeout c) : timeout ≤ limit := by
  cases budget with
  | graced never grace bound => exact bound
  | waiting never bound => omega
  | slow once attempted recent spent bound => exact bound
  | fast lost attempted fresh left bound => omega
  | untried once bound => omega

/-- The budget depends on the life and the retries of the link only. -/
theorem Budget.congr (budget : Budget limit now timeout c) (life : SameLife c c')
    (retries : c'.reconnection = c.reconnection) : Budget limit now timeout c' := by
  cases budget with
  | graced never grace bound => exact .graced (retries ▸ never) (retries ▸ grace) bound
  | waiting never bound => exact .waiting (retries ▸ never) bound
  | slow once attempted recent spent bound =>
    exact .slow (retries ▸ once) (retries ▸ attempted) (retries ▸ recent) (retries ▸ spent) bound
  | fast lost attempted fresh left bound =>
    have lost' : c'.Lost := ⟨life.connected.trans lost.connected, retries ▸ lost.established,
      life.lastReceived.trans lost.lastReceived⟩
    exact .fast lost' (retries ▸ attempted) fresh (retries ▸ left) (retries ▸ bound)
  | untried once bound => exact .untried (retries ▸ once) bound

/-- A link with fast retries left is due at the next pass. -/
theorem due_of_fast (lost : c.Lost) (attempted : c.reconnection.lastReconnectAttemptMs = now)
    (left : c.reconnection.reconnectFailureCount < 4) (spaced : now + 900 ≤ later) :
    c.isTimedOut later = true ∧ c.shouldAttemptReconnect later = true := by
  refine ⟨lost.isTimedOut later, ?_⟩
  have delay : c.reconnection.retryDelay = 1000 := by
    simp only [ReconnectionState.retryDelay, fastRetryAttempts, left, if_true, fastRetryDelayMs]
  simp only [SrtlaConnection.shouldAttemptReconnect, ReconnectionState.shouldAttemptReconnect,
    lost.established, if_false]
  split
  · rfl
  · simp only [elapsedReaches, tickSlackMs, delay, attempted, decide_eq_true_eq]
    omega

/-- A pass that does not retry the holder leaves its budget alone. -/
theorem Budget.idle (budget : Budget limit now timeout c) (spaced : now + 900 ≤ later)
    (quiet : (c.isTimedOut later && c.shouldAttemptReconnect later) = false) :
    Budget limit later timeout c := by
  cases budget with
  | graced never grace bound => exact .graced never grace bound
  | waiting never bound => exact .waiting never bound
  | slow once attempted recent spent bound => exact .slow once attempted recent spent bound
  | fast lost attempted fresh left bound =>
    obtain ⟨timedOut, due⟩ := due_of_fast lost attempted left spaced
    simp [timedOut, due] at quiet
  | untried once bound => exact .untried once bound

/-- What a retry at `later` leaves on the link: its stamp, its count, and after a
successful rebuild a new grace. -/
structure Retried (later : Nat) (c c' : SrtlaConnection) : Prop where
  off : TurnedOff c c'
  last : c'.reconnection.lastReconnectAttemptMs = later
  count : c.reconnection.connectionEstablishedMs ≠ 0 →
    c'.reconnection.reconnectFailureCount = min (c.reconnection.reconnectFailureCount + 1) (2 ^ 32 - 1)
  grace : c.reconnection.connectionEstablishedMs = 0 →
    c'.reconnection.startupGraceDeadlineMs = later + 5000

/-- A retry before the timeout renews the slot, and is paid for. -/
theorem Budget.retry (budget : Budget limit now timeout c) (late : now + 900 ≤ later)
    (soon : later ≤ now + 1100) (early : later < timeout)
    (due : c.shouldAttemptReconnect later = true) (retried : Retried later c c') :
    Budget limit later (later + 4000) c' := by
  have established := retried.off.established
  -- what a retry of a link that was registered leaves, however many it had before
  have registered (once : c.reconnection.connectionEstablishedMs ≠ 0)
      (bound : 4 ≤ c'.reconnection.reconnectFailureCount ∧ later + 4000 ≤ limit ∨
        later + 4000 + (4 - c'.reconnection.reconnectFailureCount) * 1100 ≤ limit) :
      Budget limit later (later + 4000) c' := by
    have once' : c'.reconnection.connectionEstablishedMs ≠ 0 := established ▸ once
    by_cases left : c'.reconnection.reconnectFailureCount < 4
    · exact .fast ⟨retried.off.connected, once', retried.off.lastReceived⟩ retried.last rfl left
        (by omega)
    · have attempted := retried.last
      exact .slow once' (by omega) (by omega) (by omega) (by omega)
  cases budget with
  | graced never grace bound =>
    -- a retry inside the grace is not due
    have after : c.reconnection.startupGraceDeadlineMs < later := by
      simp only [SrtlaConnection.shouldAttemptReconnect, ReconnectionState.shouldAttemptReconnect,
        never, if_true] at due
      split at due
      · cases due
      · omega
    omega
  -- the first retry of a link that never registered starts its grace
  | waiting never bound =>
    have grace := retried.grace never
    exact .graced (established.trans never) (by omega) (by omega)
  | slow once attempted recent spent bound =>
    -- slow retries are further apart than what is left of the timeout
    have slow : c.reconnection.retryDelay = 5000 := by
      have notFast : ¬ c.reconnection.reconnectFailureCount < fastRetryAttempts := by
        unfold fastRetryAttempts
        omega
      simp only [ReconnectionState.retryDelay, notFast, if_false, slowRetryDelayMs]
    simp only [SrtlaConnection.shouldAttemptReconnect, ReconnectionState.shouldAttemptReconnect,
      once, attempted, if_false, elapsedReaches, slow, tickSlackMs, decide_eq_true_eq] at due
    omega
  | fast lost attempted fresh left bound =>
    have count : c'.reconnection.reconnectFailureCount = c.reconnection.reconnectFailureCount + 1 := by
      rw [retried.count lost.established]
      exact min_eq_left (le_trans left (by decide))
    exact registered lost.established (by omega)
  | untried once bound =>
    have count : 1 ≤ c'.reconnection.reconnectFailureCount := by
      rw [retried.count once]
      exact le_min (Nat.le_add_left 1 _) (by decide)
    exact registered once (by omega)

end Budget

/-! ### One pass -/

namespace Sender

section Pass

variable {env : HousekeepingEnv} {s t : Sender} {i : Nat}

theorem serviceUplink_reconnection (c : SrtlaConnection) :
    (serviceUplink env c).reconnection = c.reconnection := by
  have phase (d : SrtlaConnection) : (d.updatePhase env.now).reconnection = d.reconnection := by
    simp only [SrtlaConnection.updatePhase]
    split
    · split <;> rfl
    · split <;> rfl
    · split <;> rfl
    · rfl
  exact serviceUplink_invariant (P := fun d => d.reconnection = c.reconnection) env rfl
    (fun _ same => same) (fun _ same => same) (fun _ same => same)
    (fun d same => (phase d).trans same) (fun _ same => same)

theorem noteSentIf_reconnection (connIo : ConnIoMap) (c : SrtlaConnection) :
    (noteSentIf connIo env c).reconnection = c.reconnection := by
  simp only [noteSentIf]
  split <;> rfl

/-- A retry stamps and counts, and gives a new grace if the socket opens. -/
theorem retried_retriedLink (c : SrtlaConnection)
    (opens : c.reconnection.connectionEstablishedMs = 0 →
      c.connId ∈ s.connIo ∧ env.opened c.connId = true) :
    Retried env.now c (s.retriedLink env i c) := by
  have link : (s.retriedLink env i c).reconnection =
      (reconnectUplink s.connIo env c s.tracker).1.reconnection := by
    simp only [retriedLink]
    -- a stamp of the send time does not touch the retries
    split
    · exact noteSentIf_reconnection _ _
    · rfl
  have attempt : (c.recordReconnectAttempt env.now).reconnection.lastReconnectAttemptMs = env.now ∧
      (c.reconnection.connectionEstablishedMs ≠ 0 →
        (c.recordReconnectAttempt env.now).reconnection.reconnectFailureCount =
          min (c.reconnection.reconnectFailureCount + 1) (2 ^ 32 - 1)) := by
    simp only [SrtlaConnection.recordReconnectAttempt, ReconnectionState.recordAttempt]
    split
    case isTrue never => exact ⟨rfl, fun once => absurd never once⟩
    case isFalse => exact ⟨rfl, fun _ => rfl⟩
  refine ⟨turnedOff_retriedLink env s i c, ?_, fun once => ?_, fun never => ?_⟩
  · -- a rebuilt socket and a failed rebuild leave the same attempt behind
    rw [link]
    simp only [reconnectUplink, rebuildUplink, rebuildOrRecover, rebuildUplinkSocket]
    split
    · cases env.opened (c.recordReconnectAttempt env.now).connId with
      | true => rfl
      | false => exact attempt.1
    · exact attempt.1
  · rw [link]
    simp only [reconnectUplink, rebuildUplink, rebuildOrRecover, rebuildUplinkSocket]
    split
    · cases env.opened (c.recordReconnectAttempt env.now).connId with
      | true => exact attempt.2 once
      | false => exact attempt.2 once
    · exact attempt.2 once
  · obtain ⟨socket, opened⟩ := opens never
    have socket' : (c.recordReconnectAttempt env.now).connId ∈ s.connIo := socket
    have opened' : env.opened (c.recordReconnectAttempt env.now).connId = true := opened
    rw [link]
    simp only [reconnectUplink, rebuildUplink, rebuildOrRecover, rebuildUplinkSocket, socket', opened',
      if_true]
    rfl

/-- A slot that is free and has no target stays free for the rest of the pass. -/
theorem free_driven (begun : (s.beginHousekeeping env).reg.pendingReg2Idx = none ∧
      (s.beginHousekeeping env).reg.reg1TargetIdx = none) :
    (s.driven env).reg.pendingReg2Idx = none := by
  have looped : (s.looped env).reg.pendingReg2Idx = none ∧ (s.looped env).reg.reg1TargetIdx = none := by
    refine reaching_invariant env s
      (fun t => t.reg.pendingReg2Idx = none ∧ t.reg.reg1TargetIdx = none) begun ?_ s.conns.length
    rintro t j ⟨slot, target⟩
    -- a pass over the links finds the slot free and leaves it free
    rcases housekeepUplink_cases env t j with ⟨turn, -⟩ | ⟨c, -, -, turn⟩ | ⟨c, -, -, turn⟩
    · rw [turn]
      exact ⟨slot, target⟩
    · rw [turn]
      exact ⟨slot, target⟩
    · rw [turn]
      rcases resendRegistration_cases t.reg j env.now with ⟨held, -⟩ | ⟨-, sent⟩ | ⟨k, held, -, -⟩
      · rw [slot] at held
        cases held
      · obtain ⟨grants, arm⟩ := t.reg.armReg3Grant_eq j
        rw [sent, arm]
        exact ⟨slot, target⟩
      · rw [slot] at held
        cases held
  obtain ⟨grants, flag, broadcast⟩ := (((s.looped env).reg.updateActiveConnections
    (s.looped env).conns).driveReg1 env.now).1.driveBroadcast_eq (s.looped env).conns.length
  rw [driven, driveRegistration_reg, broadcast]
  -- REG1 needs a target, and there is none
  rcases ((s.looped env).reg.updateActiveConnections (s.looped env).conns).driveReg1_cases env.now with
    ⟨same, -⟩ | ⟨target, aimed, -⟩
  · rw [same]
    exact looped.1
  · exact absurd (looped.2.symm.trans aimed) (Option.some_ne_none target).symm

/-- A pass that finds the slot held, not timed out and no probes out begins with nothing. -/
theorem beginHousekeeping_of_early (settled : s.reg.probingState ≠ .waitingForProbes)
    (early : (s.reg.clearPendingIfTimedOut env.now).1 = s.reg) : s.beginHousekeeping env = s := by
  have same : (s.reg.checkProbingComplete env.probeNow).1 = s.reg := by
    simp only [SrtlaRegistrationManager.checkProbingComplete, settled, ne_eq, not_false_eq_true,
      if_true]
  simp only [beginHousekeeping, early]
  split
  case isTrue probing => simp only [same, probing]
  case isFalse => rfl

/-- The slot is held by `i` until `timeout`, and `link` is what there is at `i`. -/
structure HeldAs (i timeout : Nat) (link : Option SrtlaConnection) (connIo : ConnIoMap)
    (t : Sender) : Prop where
  slot : t.reg.pendingReg2Idx = some i
  timeout : t.reg.pendingTimeoutAtMs = timeout
  settled : t.reg.probingState ≠ .waitingForProbes
  link : t.conns[i]? = link
  connIo : t.connIo = connIo

/-- An iteration over another uplink leaves the holder alone. -/
theorem HeldAs.other {timeout : Nat} {link : Option SrtlaConnection} {connIo : ConnIoMap} {j : Nat}
    (held : HeldAs i timeout link connIo t) (ne : j ≠ i) :
    HeldAs i timeout link connIo (t.housekeepUplink env j) := by
  rcases housekeepUplink_cases env t j with ⟨turn, -⟩ | ⟨c, -, -, turn⟩ | ⟨c, -, -, turn⟩
  · rw [turn]
    exact held
  · rw [turn]
    exact ⟨held.slot, held.timeout, held.settled, (List.getElem?_set_ne ne).trans held.link, held.connIo⟩
  · have resent : (resendRegistration t.reg j env.now).1 = t.reg := by
      -- the slot is held by another link, so the link is silent
      rcases resendRegistration_cases t.reg j env.now with ⟨own, -⟩ | ⟨free, -⟩ | ⟨k, -, -, sent⟩
      · rw [held.slot, Option.some.injEq] at own
        exact absurd own.symm ne
      · rw [held.slot] at free
        cases free
      · rw [sent]
    rw [turn, resent]
    exact ⟨held.slot, held.timeout, held.settled, (List.getElem?_set_ne ne).trans held.link, held.connIo⟩

theorem HeldAs.reaching {timeout : Nat} {link : Option SrtlaConnection} {connIo : ConnIoMap}
    {k m : Nat} (held : HeldAs i timeout link connIo (s.reaching env k)) (le : k ≤ m)
    (others : ∀ j, k ≤ j → j < m → j ≠ i) : HeldAs i timeout link connIo (s.reaching env m) := by
  induction m, le using Nat.le_induction with
  | base => exact held
  | succ m le ih =>
    rw [reaching_succ]
    exact (ih fun j from_k below => others j from_k (Nat.lt_succ_of_lt below)).other
      (others m le (Nat.lt_succ_self m))

/-- After the pass at `now` the slot is held by `i`, and it will not be after `limit`. -/
structure HeldUntil (limit now i : Nat) (s : Sender) : Prop where
  slot : s.reg.pendingReg2Idx = some i
  set : s.reg.pendingTimeoutAtMs ≠ 0
  settled : s.reg.probingState ≠ .waitingForProbes
  bound : s.reg.pendingTimeoutAtMs ≤ limit
  budget : ∀ c, s.conns[i]? = some c → Budget limit now s.reg.pendingTimeoutAtMs c

/-- The iteration over the holder keeps its budget. -/
theorem HeldAs.own {limit now timeout : Nat} {c : SrtlaConnection}
    (held : HeldAs i timeout (some c) s.connIo t) (budget : Budget limit now timeout c)
    (late : now + 900 ≤ env.now) (soon : env.now ≤ now + 1100) (early : env.now < timeout)
    (opens : c.reconnection.connectionEstablishedMs = 0 → c.isTimedOut env.now = true →
      c.shouldAttemptReconnect env.now = true → c.connId ∈ s.connIo ∧ env.opened c.connId = true) :
    ∃ timeout' c', HeldAs i timeout' (some c') s.connIo (t.housekeepUplink env i) ∧
      timeout' ≠ 0 ∧ Budget limit env.now timeout' c' := by
  have inside : i < t.conns.length := (List.getElem?_eq_some_iff.mp held.link).1
  have retries_eq : t.retries env i =
      (c.isTimedOut env.now && c.shouldAttemptReconnect env.now) := by
    simp only [retries, held.link, Option.any_some]
  rcases housekeepUplink_cases env t i with ⟨turn, quiet⟩ | ⟨d, at_i, quiet, turn⟩ |
    ⟨d, at_i, retried, turn⟩
  · -- not yet due for a retry
    rw [turn]
    exact ⟨timeout, c, held, by omega, budget.idle late (retries_eq ▸ quiet)⟩
  · -- alive: serviced, with its retries as they were
    obtain rfl : c = d := Option.some.inj (held.link.symm.trans at_i)
    rw [turn]
    refine ⟨timeout, serviceUplink env c, ⟨held.slot, held.timeout, held.settled,
      List.getElem?_set_self inside, held.connIo⟩, by omega, ?_⟩
    exact (budget.idle late (retries_eq ▸ quiet)).congr (sameLife_serviceUplink env c)
      (serviceUplink_reconnection c)
  · -- the holder retries, and REG1 starts the timeout anew
    obtain rfl : c = d := Option.some.inj (held.link.symm.trans at_i)
    have both : c.isTimedOut env.now = true ∧ c.shouldAttemptReconnect env.now = true := by
      simpa only [retries_eq, Bool.and_eq_true] using retried
    have resent : resendRegistration t.reg i env.now =
        ((t.reg.buildReg1For i env.now).1, some (createReg1Packet t.reg.srtlaId)) := by
      rcases resendRegistration_cases t.reg i env.now with ⟨-, sent⟩ | ⟨free, -⟩ | ⟨k, other, ne, -⟩
      · exact sent
      · rw [held.slot] at free
        cases free
      · rw [held.slot, Option.some.injEq] at other
        exact absurd other.symm ne
    have link : Retried env.now c (t.retriedLink env i c) := by
      refine retried_retriedLink c fun never => ?_
      rw [held.connIo]
      exact opens never both.1 both.2
    rw [turn, resent]
    refine ⟨env.now + 4000, t.retriedLink env i c, ⟨rfl, rfl, held.settled,
      List.getElem?_set_self inside, held.connIo⟩, by omega, ?_⟩
    exact budget.retry late soon early both.2 link

/-- The driver leaves a held slot alone and stamps links only. -/
theorem HeldAs.driven {timeout : Nat} {link : Option SrtlaConnection} {connIo : ConnIoMap}
    (held : HeldAs i timeout link connIo t) (env : HousekeepingEnv) :
    (t.driveRegistration env).reg.pendingReg2Idx = some i ∧
      (t.driveRegistration env).reg.pendingTimeoutAtMs = timeout ∧
      (t.driveRegistration env).reg.probingState ≠ .waitingForProbes ∧
      ∀ c', (t.driveRegistration env).conns[i]? = some c' →
        ∃ c, link = some c ∧ SameLife c c' ∧ c'.reconnection = c.reconnection := by
  obtain ⟨grants, flag, broadcast⟩ := ((t.reg.updateActiveConnections t.conns).driveReg1
    env.now).1.driveBroadcast_eq t.conns.length
  have same : ((t.reg.updateActiveConnections t.conns).driveReg1 env.now).1 =
      t.reg.updateActiveConnections t.conns := by
    rcases (t.reg.updateActiveConnections t.conns).driveReg1_cases env.now with ⟨same, -⟩ |
      ⟨target, -, -, free, -⟩
    · exact same
    · exact absurd (held.slot.symm.trans free) (Option.some_ne_none i)
  rw [driveRegistration_reg, broadcast, same]
  refine ⟨held.slot, held.timeout, held.settled, fun c' at_i => ?_⟩
  have stamped := forall₂_driveRegistration env t
    (R := fun c c' : SrtlaConnection => SameLife c c' ∧ c'.reconnection = c.reconnection)
    (fun c => ⟨SameLife.refl c, rfl⟩)
    (fun _ _ _ first second => ⟨first.1.trans second.1, second.2.trans first.2⟩)
    (fun c => ⟨sameLife_noteSentIf t.connIo env c, noteSentIf_reconnection t.connIo c⟩)
  obtain ⟨c, before, related⟩ := getElem?_of_forall₂_right stamped at_i
  exact ⟨c, held.link.symm.trans before, related⟩

/-- The slot is still held after the next pass only before the limit, and the limit stays. -/
theorem HeldUntil.pass {limit now : Nat} (held : HeldUntil limit now i s)
    (late : now + 900 ≤ env.now) (soon : env.now ≤ now + 1100)
    (rebuilds : s.holderRebuilds (.housekeeping env) = true)
    (still : (s.handleHousekeeping env).1.reg.pendingReg2Idx = some i) :
    env.now < limit ∧ HeldUntil limit env.now i (s.handleHousekeeping env).1 := by
  rcases handleHousekeeping_cases env s with ⟨-, conns, reg, -⟩ | ⟨-, free, -⟩
  swap
  · exact absurd (still.symm.trans free) (Option.some_ne_none i)
  rw [reg] at still
  have kept : (s.reg.clearPendingIfTimedOut env.now).1 = s.reg ∧
      env.now < s.reg.pendingTimeoutAtMs := by
    rcases s.reg.clearPendingIfTimedOut_cases env.now with ⟨same, early⟩ | gone
    · refine ⟨same, (early ?_).resolve_left held.set⟩
      rw [held.slot]
      rfl
    · -- a slot that timed out stays free in this pass
      exfalso
      have begun : (s.beginHousekeeping env).reg =
          { s.reg with
            pendingReg2Idx := none
            pendingTimeoutAtMs := 0
            reg1TargetIdx := none
            reg1NextSendAtMs := env.now } := by
        rw [beginHousekeeping_reg, gone]
        simp only [SrtlaRegistrationManager.checkProbingComplete, held.settled, ne_eq,
          not_false_eq_true, if_true]
      have free : (s.driven env).reg.pendingReg2Idx = none :=
        free_driven (by rw [begun]; exact ⟨rfl, rfl⟩)
      rw [free] at still
      cases still
  obtain ⟨same, early⟩ := kept
  have start : HeldAs i s.reg.pendingTimeoutAtMs s.conns[i]? s.connIo (s.reaching env 0) := by
    rw [reaching_zero, beginHousekeeping_of_early held.settled same]
    exact ⟨held.slot, rfl, held.settled, rfl, rfl⟩
  have bound := held.bound
  refine ⟨by omega, ?_⟩
  -- the loop up to the holder, the holder, and the rest
  have looped : ∃ timeout' link', HeldAs i timeout' link' s.connIo (s.looped env) ∧ timeout' ≠ 0 ∧
      timeout' ≤ limit ∧ ∀ c', link' = some c' → Budget limit env.now timeout' c' := by
    cases at_i : s.conns[i]? with
    | none =>
      -- the holder has left the bond, and only its timeout runs
      have outside : s.conns.length ≤ i := List.getElem?_eq_none_iff.mp at_i
      refine ⟨s.reg.pendingTimeoutAtMs, none, ?_, held.set, bound, fun c' none' => ?_⟩
      swap
      · exact absurd none'.symm (Option.some_ne_none c')
      exact (at_i ▸ start).reaching (Nat.zero_le _) fun j _ below => by omega
    | some c =>
      have inside : i < s.conns.length := (List.getElem?_eq_some_iff.mp at_i).1
      have before : HeldAs i s.reg.pendingTimeoutAtMs (some c) s.connIo (s.reaching env i) :=
        (at_i ▸ start).reaching (Nat.zero_le _) fun j _ below => by omega
      have opens : c.reconnection.connectionEstablishedMs = 0 → c.isTimedOut env.now = true →
          c.shouldAttemptReconnect env.now = true →
          c.connId ∈ s.connIo ∧ env.opened c.connId = true := by
        intro never timedOut due
        simp only [holderRebuilds, held.slot, at_i, Option.all_some, decide_eq_true_eq] at rebuilds
        exact rebuilds ⟨early, never, timedOut, due⟩
      obtain ⟨timeout', c', own, set, budget⟩ :=
        before.own (held.budget c at_i) late soon early opens
      rw [← reaching_succ] at own
      refine ⟨timeout', some c', own.reaching inside fun j above _ => by omega, set,
        budget.timeout_le, fun d some' => ?_⟩
      rw [← Option.some.inj some']
      exact budget
  obtain ⟨timeout', link', own, set, under, budget⟩ := looped
  obtain ⟨slot, timeout, settled, links⟩ := own.driven env
  refine ⟨?_, ?_, ?_, ?_, ?_⟩
  · rw [reg]
    exact slot
  · rw [reg]
    exact timeout ▸ set
  · rw [reg]
    exact settled
  · rw [reg]
    exact timeout ▸ under
  · intro c' at_i
    rw [conns] at at_i
    obtain ⟨c, link, life, retries⟩ := links c' at_i
    rw [reg]
    change Budget limit env.now ((s.looped env).driveRegistration env).reg.pendingTimeoutAtMs c'
    rw [timeout]
    exact (budget c link).congr life retries

end Pass

end Sender

/-! ### Runs -/

/-- The passes after one that leaves the slot held until `limit` come before `limit`,
as long as they leave it held. -/
theorem heldUntil_window (ext : Externals) {limit i : Nat} {s : Sender} {first : HousekeepingEnv}
    {window : List HousekeepingEnv} (held : Sender.HeldUntil limit first.now i s)
    (spaced : (first :: window).IsChain Spaced)
    (rebuilds : EachStep (Sender.step ext) (fun s e => s.holderRebuilds e = true) s
      (window.map .housekeeping))
    (still : EachStep (Sender.step ext) (fun s e => (s.step ext e).reg.pendingReg2Idx = some i) s
      (window.map .housekeeping)) :
    ∀ env ∈ window, env.now < limit := by
  induction window generalizing s first with
  | nil => simp
  | cons env window ih =>
    rw [List.isChain_cons_cons] at spaced
    obtain ⟨⟨late, soon⟩, chain⟩ := spaced
    obtain ⟨still, stillLater⟩ := still
    rw [Sender.step_housekeeping] at still
    obtain ⟨before, held'⟩ := held.pass late soon rebuilds.1 still
    intro env' member
    -- by the first pass the limit is not reached, and the rest is one pass later
    rcases List.mem_cons.mp member with rfl | later
    · exact before
    · exact ih held' chain rebuilds.2 stillLater env' later

/-- After any events, in every run of passes about a second apart in which no rebuild
of a holder that never registered fails: passes that all leave the slot held by the
same uplink span at most fifteen seconds. -/
theorem slot_is_released (ext : Externals) (start : Sender) (before : List Event)
    (first : HousekeepingEnv) (window : List HousekeepingEnv) (i : Nat)
    (idle : start.reg.pendingReg2Idx = none ∧ start.reg.reg1TargetIdx = none)
    (clock : ∀ e ∈ before, e.time ≤ first.now)
    (spaced : (first :: window).IsChain Spaced)
    (rebuilds : EachStep (Sender.step ext) (fun s e => s.holderRebuilds e = true)
      (run (Sender.step ext) start before) ((first :: window).map .housekeeping))
    (held : EachStep (Sender.step ext) (fun s e => (s.step ext e).reg.pendingReg2Idx = some i)
      (run (Sender.step ext) start before) ((first :: window).map .housekeeping)) :
    ∀ env ∈ window, env.now ≤ first.now + 15000 := by
  -- up to the first pass: every slot is held with a timeout of its own
  have reached : SlotTimed first.now (run (Sender.step ext) start before).reg :=
    run_invariant_of (fun s : Sender => SlotTimed first.now s.reg)
      (fun e : Event => e.time ≤ first.now) (fun s e le timed => slotTimed_step ext le timed)
      (SlotTimed.free idle.1 fun _ => idle.2) clock
  set s := (run (Sender.step ext) start before).step ext (.housekeeping first)
  have timed : SlotTimed first.now s.reg := slotTimed_step ext (le_refl first.now) reached
  have slot : s.reg.pendingReg2Idx = some i := held.1
  obtain ⟨set, bound⟩ := timed.timed i slot
  have settled : s.reg.probingState ≠ .waitingForProbes := by
    intro waiting
    rw [(timed.probing waiting).1] at slot
    cases slot
  have limited : s.HeldUntil (first.now + 11300) first.now i := by
    refine ⟨slot, set, settled, by omega, fun c _ => ?_⟩
    -- a link that never registered waits longest
    by_cases never : c.reconnection.connectionEstablishedMs = 0
    · exact .waiting never (by omega)
    · exact .untried never (by omega)
  intro env member
  have within := heldUntil_window ext limited spaced rebuilds.2 held.2 env member
  omega

namespace Sample

/-- Nobody answers the probes; the second attempt on the first uplink gets a REG_NGP
just before its second is up. -/
def unanswered : List Event :=
  (List.range 11).map (fun k => Event.housekeeping (pass (1000 * (k + 1)) [])) ++
    [receive 1 regNgp 11500]

/-- Passes from twelve seconds on, with the sockets of `down` gone. -/
def passesFrom (count : Nat) (down : List Nat) : List HousekeepingEnv :=
  (List.range count).map fun k => pass (12000 + 1000 * k) down

end Sample

/-- With every socket working, the first uplink holds the slot over several passes. -/
theorem slot_is_released_working :
    let start := run (Sender.step Sample.externals) (Sample.sender [1, 2]) Sample.unanswered
    EachStep (Sender.step Sample.externals)
      (fun s e => (s.step Sample.externals e).reg.pendingReg2Idx = some 0) start
      ((Sample.passesFrom 5 []).map .housekeeping) ∧
    ∀ env ∈ (Sample.passesFrom 5 []).tail, env.now ≤ 12000 + 15000 := by
  intro start
  have held : EachStep (Sender.step Sample.externals)
      (fun s e => (s.step Sample.externals e).reg.pendingReg2Idx = some 0) start
      ((Sample.passesFrom 5 []).map .housekeeping) := by
    decide +kernel
  exact ⟨held, slot_is_released Sample.externals (Sample.sender [1, 2]) Sample.unanswered
    (Sample.pass 12000 []) (Sample.passesFrom 5 []).tail 0 ⟨rfl, rfl⟩ (by decide) (by decide)
    (by decide +kernel) held⟩

/-- The socket of the first uplink cannot be rebuilt: it holds the slot after every
pass for seventeen seconds. -/
theorem slot_is_held_for_seventeen_seconds :
    (Sample.passesFrom 18 [1]).IsChain Spaced ∧
    EachStep (Sender.step Sample.externals)
      (fun s e => (s.step Sample.externals e).reg.pendingReg2Idx = some 0)
      (run (Sender.step Sample.externals) (Sample.sender [1, 2]) Sample.unanswered)
      ((Sample.passesFrom 18 [1]).map .housekeeping) ∧
    ((Sample.passesFrom 18 [1]).map (·.now)).head? = some 12000 ∧
    ((Sample.passesFrom 18 [1]).map (·.now)).getLast? = some 29000 := by
  decide +kernel

end SrtlaSend
