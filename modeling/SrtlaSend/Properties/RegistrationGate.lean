import SrtlaSend.Lib.Run
import SrtlaSend.Core.Registration

/-!
# The one-shot registration gate

A REG3 takes effect exactly when its uplink was armed and the grant was not used
up, refused or wound back since. The property is about histories: every
operation of the manager is a step, and the entries of a history pair an
operation with the state it was applied to.
-/

namespace SrtlaSend

open Runs MachineInt

/-- The operations of the registration manager. -/
inductive RegOp
  | packet (connIdx : Nat) (buf : Bytes) (nowMs : Nat)
  | buildReg1For (connIdx now : Nat)
  | buildReg2 (connIdx : Nat)
  | driverPendingSends (connectionCount now : Nat)
  | updateActiveConnections (connections : List SrtlaConnection)
  | reg1IfNgpImmediate (connIdx now : Nat)
  | clearPendingIfTimedOut (nowMs : Nat)
  | startProbing (connections : List SrtlaConnection) (now : Nat)
  | handleProbeResponse (connIdx now : Nat)
  | checkProbingComplete (now : Nat)
  | resetForRehome (fresh probeId : SrtlaId)

namespace SrtlaRegistrationManager

def apply (r : SrtlaRegistrationManager) : RegOp → SrtlaRegistrationManager
  | .packet connIdx buf nowMs => (r.processRegistrationPacket connIdx buf nowMs).1
  | .buildReg1For connIdx now => (r.buildReg1For connIdx now).1
  | .buildReg2 connIdx => (r.buildReg2 connIdx).1
  | .driverPendingSends connectionCount now => (r.regDriverPendingSends connectionCount now).1
  | .updateActiveConnections connections => r.updateActiveConnections connections
  | .reg1IfNgpImmediate connIdx now => (r.reg1IfNgpImmediate connIdx now).1
  | .clearPendingIfTimedOut nowMs => (r.clearPendingIfTimedOut nowMs).1
  | .startProbing connections now => (r.startProbing connections now).1
  | .handleProbeResponse connIdx now => r.handleProbeResponse connIdx now
  | .checkProbingComplete now => (r.checkProbingComplete now).1
  | .resetForRehome fresh probeId => r.resetForRehome fresh probeId

end SrtlaRegistrationManager

/-! ### Arming and disarming -/

/-- The entry arms `i`: a REG2 built for it, or a broadcast that covers it while
the last snapshot does not show it connected. -/
def arms (i : Nat) : SrtlaRegistrationManager × RegOp → Bool
  | (_, .buildReg2 connIdx) => connIdx == i
  | (r, .driverPendingSends connectionCount _) =>
    r.broadcastReg2Pending && decide (i < connectionCount) && !r.isConnectedSnapshot i
  | _ => false

/-- The entry is a packet on `i` that the manager reports as `event`. -/
def reports (event : RegistrationEvent) (i : Nat) : SrtlaRegistrationManager × RegOp → Bool
  | (r, .packet connIdx buf nowMs) =>
    connIdx == i && (r.processRegistrationPacket connIdx buf nowMs).2 == some event
  | _ => false

def rehomes : SrtlaRegistrationManager × RegOp → Bool
  | (_, .resetForRehome _ _) => true
  | _ => false

/-- The entry ends whatever grant `i` had. -/
def disarms (i : Nat) (entry : SrtlaRegistrationManager × RegOp) : Bool :=
  reports .reg3 i entry || reports .regErr i entry || rehomes entry

/-- `i` was armed, and the grant has not ended since. -/
def Granted (i : Nat) (h : List (SrtlaRegistrationManager × RegOp)) : Prop :=
  Since (fun entry => arms i entry = true) (fun entry => disarms i entry = true) h

/-! ### Grants of one step -/

namespace SrtlaRegistrationManager

variable {r : SrtlaRegistrationManager} {i j : Nat}

@[simp] theorem mem_armReg3Grant :
    i ∈ (r.armReg3Grant j).awaitingReg3 ↔ i = j ∨ i ∈ r.awaitingReg3 := by
  unfold armReg3Grant
  split
  case isTrue present =>
    constructor
    · exact Or.inr
    · rintro (rfl | old)
      · exact present
      · exact old
  case isFalse => simp [or_comm]

@[simp] theorem mem_revokeReg3Grant :
    i ∈ (r.revokeReg3Grant j).awaitingReg3 ↔ i ∈ r.awaitingReg3 ∧ i ≠ j := by
  simp [revokeReg3Grant]

@[simp] theorem armReg3Grant_isConnectedSnapshot :
    (r.armReg3Grant j).isConnectedSnapshot i = r.isConnectedSnapshot i := by
  unfold armReg3Grant
  split <;> rfl

theorem armBroadcast_succ (count : Nat) :
    r.armBroadcast (count + 1) =
      if (r.armBroadcast count).isConnectedSnapshot count then r.armBroadcast count
      else (r.armBroadcast count).armReg3Grant count := by
  rw [armBroadcast, List.range_succ, List.foldl_append]
  rfl

theorem armBroadcast_isConnectedSnapshot (count : Nat) :
    (r.armBroadcast count).isConnectedSnapshot i = r.isConnectedSnapshot i := by
  induction count with
  | zero => rfl
  | succ count ih =>
    rw [armBroadcast_succ]
    split
    · exact ih
    · rw [armReg3Grant_isConnectedSnapshot]
      exact ih

/-- A broadcast arms the covered uplinks that the snapshot shows unconnected. -/
theorem mem_armBroadcast (count : Nat) :
    i ∈ (r.armBroadcast count).awaitingReg3 ↔
      (i < count ∧ r.isConnectedSnapshot i = false) ∨ i ∈ r.awaitingReg3 := by
  induction count with
  | zero => simp [armBroadcast]
  | succ count ih =>
    rw [armBroadcast_succ, armBroadcast_isConnectedSnapshot]
    by_cases same : i = count
    · subst same
      cases shown : r.isConnectedSnapshot i with
      | true => simp [ih, shown]
      | false => simp
    · have below : i < count + 1 ↔ i < count := by omega
      split
      · rw [ih, below]
      · rw [mem_armReg3Grant, ih, below]
        simp [same]

theorem driveReg1_frame (now : Nat) :
    (r.driveReg1 now).1.awaitingReg3 = r.awaitingReg3 ∧
      (r.driveReg1 now).1.broadcastReg2Pending = r.broadcastReg2Pending ∧
      (r.driveReg1 now).1.connectedSnapshot = r.connectedSnapshot := by
  unfold driveReg1
  split
  · split <;> exact ⟨rfl, rfl, rfl⟩
  · exact ⟨rfl, rfl, rfl⟩

/-- What a driver tick does to the grants. -/
theorem mem_regDriverPendingSends (count now : Nat) :
    i ∈ (r.regDriverPendingSends count now).1.awaitingReg3 ↔
      arms i (r, .driverPendingSends count now) = true ∨ i ∈ r.awaitingReg3 := by
  obtain ⟨grants, flag, snapshot⟩ := driveReg1_frame (r := r) now
  have shown : (r.driveReg1 now).1.isConnectedSnapshot i = r.isConnectedSnapshot i := by
    rw [isConnectedSnapshot, snapshot, isConnectedSnapshot]
  simp only [regDriverPendingSends, driveBroadcast, flag]
  split
  case isTrue pending =>
    simp only [mem_armBroadcast, grants, shown, arms, pending, Bool.true_and, Bool.and_eq_true,
      decide_eq_true_eq, Bool.not_eq_true']
  case isFalse idle =>
    simp [arms, idle, grants]

/-! ### Received packets -/

theorem handleReg3_of_granted (granted : i ∈ r.awaitingReg3) :
    r.handleReg3 i = ({ r.revokeReg3Grant i with hasConnected := true }, true) := by
  simp [handleReg3, granted]

theorem handleReg3_of_not_granted (refused : i ∉ r.awaitingReg3) :
    r.handleReg3 i = ({ r with outOfPhase.reg3 := satU64 (r.outOfPhase.reg3 + 1) }, false) := by
  simp [handleReg3, refused]

/-- The uplink has some handshake in flight. -/
def InPhase (r : SrtlaRegistrationManager) (i : Nat) : Prop :=
  r.pendingReg2Idx = some i ∨ i ∈ r.awaitingReg3

theorem handleRegErr_of_inPhase (nowMs : Nat) (inPhase : r.InPhase i) :
    r.handleRegErr i nowMs =
      ((if r.pendingReg2Idx = some i then r.abandonSlot nowMs else r).revokeReg3Grant i, true) := by
  have guard : ¬ (¬ r.pendingReg2Idx = some i ∧ i ∉ r.awaitingReg3) := by
    unfold InPhase at inPhase
    tauto
  simp only [handleRegErr, if_neg guard]

theorem handleRegErr_of_not_inPhase (nowMs : Nat) (refused : ¬ r.InPhase i) :
    r.handleRegErr i nowMs =
      ({ r with outOfPhase.regErr := satU64 (r.outOfPhase.regErr + 1) }, false) := by
  have guard : ¬ r.pendingReg2Idx = some i ∧ i ∉ r.awaitingReg3 := by
    unfold InPhase at refused
    tauto
  simp only [handleRegErr, if_pos guard]

theorem processRegistrationPacket_reg2 {buf : Bytes} (frame : getPacketType buf = some srtlaTypeReg2)
    (nowMs : Nat) :
    r.processRegistrationPacket i buf nowMs = (r.handleReg2 i buf nowMs, some .reg2) := by
  simp [processRegistrationPacket, frame, srtlaTypeReg2, srtlaTypeRegNgp]

theorem processRegistrationPacket_reg3 {buf : Bytes} (frame : getPacketType buf = some srtlaTypeReg3)
    (nowMs : Nat) :
    r.processRegistrationPacket i buf nowMs =
      ((r.handleReg3 i).1, if (r.handleReg3 i).2 then some .reg3 else none) := by
  simp [processRegistrationPacket, frame, srtlaTypeReg3, srtlaTypeReg2, srtlaTypeRegNgp]

theorem processRegistrationPacket_regErr {buf : Bytes}
    (frame : getPacketType buf = some srtlaTypeRegErr) (nowMs : Nat) :
    r.processRegistrationPacket i buf nowMs =
      ((r.handleRegErr i nowMs).1, if (r.handleRegErr i nowMs).2 then some .regErr else none) := by
  simp [processRegistrationPacket, frame, srtlaTypeRegErr, srtlaTypeReg3, srtlaTypeReg2,
    srtlaTypeRegNgp]

/-- Any other packet leaves the grants alone and reports neither REG3 nor REG_ERR. -/
theorem processRegistrationPacket_other {buf : Bytes} (notReg3 : getPacketType buf ≠ some srtlaTypeReg3)
    (notRegErr : getPacketType buf ≠ some srtlaTypeRegErr) (nowMs : Nat) :
    (r.processRegistrationPacket i buf nowMs).1.awaitingReg3 = r.awaitingReg3 ∧
      (r.processRegistrationPacket i buf nowMs).2 ≠ some .reg3 ∧
      (r.processRegistrationPacket i buf nowMs).2 ≠ some .regErr := by
  unfold processRegistrationPacket
  simp only [notReg3, notRegErr, if_false]
  split
  · refine ⟨?_, by simp, by simp⟩
    unfold handleRegNgp handleProbeResponse
    split
    · split <;> rfl
    · split <;> rfl
  · split
    · refine ⟨?_, by simp, by simp⟩
      unfold handleReg2
      split
      · rfl
      · split <;> rfl
    · exact ⟨rfl, by simp, by simp⟩

/-- Giving up the slot leaves the grants. -/
theorem awaitingReg3_abandonSlot_if (r : SrtlaRegistrationManager) (own : Prop) [Decidable own]
    (nowMs : Nat) : (if own then r.abandonSlot nowMs else r).awaitingReg3 = r.awaitingReg3 := by
  split <;> rfl

/-- Only REG3 and REG_ERR touch the grants, and only that of their own uplink. -/
theorem mem_processRegistrationPacket (buf : Bytes) (nowMs : Nat) :
    i ∈ (r.processRegistrationPacket j buf nowMs).1.awaitingReg3 ↔
      i ∈ r.awaitingReg3 ∧ disarms i (r, .packet j buf nowMs) = false := by
  simp only [disarms, reports, rehomes, Bool.or_false, Bool.or_eq_false_iff, Bool.and_eq_false_iff,
    beq_eq_false_iff_ne]
  have flip : j = i ↔ i = j := eq_comm
  by_cases reg3 : getPacketType buf = some srtlaTypeReg3
  · rw [processRegistrationPacket_reg3 reg3]
    by_cases granted : j ∈ r.awaitingReg3
    · rw [handleReg3_of_granted granted, if_pos rfl]
      simp [flip]
    · rw [handleReg3_of_not_granted granted]
      simp
  · by_cases regErr : getPacketType buf = some srtlaTypeRegErr
    · rw [processRegistrationPacket_regErr regErr]
      by_cases inPhase : r.InPhase j
      · rw [handleRegErr_of_inPhase nowMs inPhase, if_pos rfl]
        simp [awaitingReg3_abandonSlot_if, flip]
      · rw [handleRegErr_of_not_inPhase nowMs inPhase]
        simp
    · obtain ⟨kept, no_reg3, no_regErr⟩ := processRegistrationPacket_other reg3 regErr nowMs
      rw [kept]
      simp [no_reg3, no_regErr]

/-- A REG3 is accepted only against a grant. -/
theorem mem_of_reports_reg3 {op : RegOp} (accepted : reports .reg3 i (r, op) = true) :
    i ∈ r.awaitingReg3 ∧ arms i (r, op) = false := by
  cases op with
  | packet connIdx buf nowMs =>
    simp only [reports, Bool.and_eq_true, beq_iff_eq] at accepted
    obtain ⟨rfl, event⟩ := accepted
    refine ⟨?_, rfl⟩
    by_contra refused
    by_cases reg3 : getPacketType buf = some srtlaTypeReg3
    · simp [processRegistrationPacket_reg3 reg3, handleReg3_of_not_granted refused] at event
    · by_cases regErr : getPacketType buf = some srtlaTypeRegErr
      · rw [processRegistrationPacket_regErr regErr] at event
        simp only at event
        split at event <;> cases event
      · exact (processRegistrationPacket_other reg3 regErr nowMs).2.1 event
  | _ => simp [reports] at accepted

/-- How one operation changes the grant of `i`. -/
theorem mem_apply (op : RegOp) :
    i ∈ (r.apply op).awaitingReg3 ↔
      arms i (r, op) = true ∨ (i ∈ r.awaitingReg3 ∧ ¬ disarms i (r, op) = true) := by
  cases op with
  | packet connIdx buf nowMs =>
    rw [apply, mem_processRegistrationPacket]
    simp [arms]
  | buildReg2 connIdx =>
    have flip : connIdx = i ↔ i = connIdx := eq_comm
    simp [apply, buildReg2, arms, disarms, reports, rehomes, flip]
  | driverPendingSends count now =>
    rw [apply, mem_regDriverPendingSends]
    simp [disarms, reports, rehomes]
  | resetForRehome fresh probeId =>
    simp [apply, resetForRehome, arms, disarms, rehomes]
  -- the other operations leave the grants alone
  | buildReg1For connIdx now =>
    simp [apply, buildReg1For, arms, disarms, reports, rehomes]
  | updateActiveConnections connections =>
    simp [apply, updateActiveConnections, arms, disarms, reports, rehomes]
  | reg1IfNgpImmediate connIdx now =>
    have kept : (r.reg1IfNgpImmediate connIdx now).1.awaitingReg3 = r.awaitingReg3 := by
      unfold reg1IfNgpImmediate
      split <;> rfl
    simp [apply, kept, arms, disarms, reports, rehomes]
  | clearPendingIfTimedOut nowMs =>
    have kept : (r.clearPendingIfTimedOut nowMs).1.awaitingReg3 = r.awaitingReg3 := by
      unfold clearPendingIfTimedOut
      split
      · split <;> rfl
      · rfl
    simp [apply, kept, arms, disarms, reports, rehomes]
  | startProbing connections now =>
    have kept : (r.startProbing connections now).1.awaitingReg3 = r.awaitingReg3 := by
      unfold startProbing
      split
      · rfl
      · simp only
        split <;> rfl
    simp [apply, kept, arms, disarms, reports, rehomes]
  | handleProbeResponse connIdx now =>
    have kept : (r.handleProbeResponse connIdx now).awaitingReg3 = r.awaitingReg3 := by
      unfold handleProbeResponse
      split <;> rfl
    simp [apply, kept, arms, disarms, reports, rehomes]
  | checkProbingComplete now =>
    have kept : (r.checkProbingComplete now).1.awaitingReg3 = r.awaitingReg3 := by
      unfold checkProbingComplete
      split
      · rfl
      · simp only
        split <;> rfl
    simp [apply, kept, arms, disarms, reports, rehomes]

end SrtlaRegistrationManager

/-! ### Histories -/

open SrtlaRegistrationManager

section History

variable (id probeId : SrtlaId) (ops : List RegOp) (i : Nat)

/-- The grant set holds exactly the uplinks with an open grant. -/
theorem mem_awaitingReg3_iff_granted :
    i ∈ (run apply (new id probeId) ops).awaitingReg3 ↔
      Granted i (history apply (new id probeId) ops) := by
  induction ops using List.reverseRecOn with
  | nil =>
    have empty := not_since_nil (fun entry => arms i entry = true) fun entry => disarms i entry = true
    simp [history, Granted, empty, new]
  | append_singleton ops op ih =>
    unfold Granted at ih ⊢
    rw [run_append, run_cons, run_nil, mem_apply, ih, history_concat, since_concat]

/-- Every accepted REG3 used up an arming of its own. -/
theorem countP_reg3_le_countP_arms :
    (history apply (new id probeId) ops).countP (reports .reg3 i) ≤
      (history apply (new id probeId) ops).countP (arms i) := by
  -- An open grant is an arming that no REG3 has used up yet.
  suffices open_grants :
      (history apply (new id probeId) ops).countP (reports .reg3 i) +
        (if i ∈ (run apply (new id probeId) ops).awaitingReg3 then 1 else 0) ≤
      (history apply (new id probeId) ops).countP (arms i) by omega
  induction ops using List.reverseRecOn with
  | nil => simp [history, new]
  | append_singleton ops op ih =>
    rw [history_concat, run_append, run_cons, run_nil, List.countP_append, List.countP_append,
      List.countP_singleton, List.countP_singleton]
    by_cases accepted : reports .reg3 i (run apply (new id probeId) ops, op) = true
    · obtain ⟨granted, no_arming⟩ := mem_of_reports_reg3 accepted
      have used_up : i ∉ (apply (run apply (new id probeId) ops) op).awaitingReg3 := by
        rw [mem_apply, no_arming]
        simp [disarms, accepted]
      simp only [granted, if_true, accepted, used_up, if_false] at ih ⊢
      omega
    · have origin : i ∈ (apply (run apply (new id probeId) ops) op).awaitingReg3 →
          arms i (run apply (new id probeId) ops, op) = true ∨
            i ∈ (run apply (new id probeId) ops).awaitingReg3 := by
        rw [mem_apply]
        exact Or.imp_right And.left
      by_cases after : i ∈ (apply (run apply (new id probeId) ops) op).awaitingReg3
      · rcases origin after with armed | before
        · simp only [accepted, after, armed, if_true, Bool.false_eq_true, if_false]
          omega
        · simp only [accepted, after, before, if_true, Bool.false_eq_true, if_false] at ih ⊢
          omega
      · simp only [accepted, after, Bool.false_eq_true, if_false]
        omega

/-- The fields of the single REG1/REG2 slot. -/
def SameSlot (r r' : SrtlaRegistrationManager) : Prop :=
  r'.pendingReg2Idx = r.pendingReg2Idx ∧ r'.pendingTimeoutAtMs = r.pendingTimeoutAtMs ∧
    r'.reg1TargetIdx = r.reg1TargetIdx ∧ r'.reg1NextSendAtMs = r.reg1NextSendAtMs

private theorem reg3_packet {r : SrtlaRegistrationManager} {buf : Bytes}
    (frame : getPacketType buf = some srtlaTypeReg3) (nowMs : Nat) :
    ((r.processRegistrationPacket i buf nowMs).2 = some .reg3 ↔ i ∈ r.awaitingReg3) ∧
      (i ∉ r.awaitingReg3 → r.processRegistrationPacket i buf nowMs =
        ({ r with outOfPhase.reg3 := satU64 (r.outOfPhase.reg3 + 1) }, none)) := by
  rw [processRegistrationPacket_reg3 frame]
  by_cases granted : i ∈ r.awaitingReg3
  · simp [handleReg3_of_granted granted, granted]
  · simp [handleReg3_of_not_granted granted, granted]

private theorem regErr_packet {r : SrtlaRegistrationManager} {buf : Bytes}
    (frame : getPacketType buf = some srtlaTypeRegErr) (nowMs : Nat) :
    ((r.processRegistrationPacket i buf nowMs).2 = some .regErr ↔ r.InPhase i) ∧
      (¬ r.InPhase i → r.processRegistrationPacket i buf nowMs =
        ({ r with outOfPhase.regErr := satU64 (r.outOfPhase.regErr + 1) }, none)) ∧
      (r.InPhase i →
        (∀ j ≠ i, j ∈ (r.processRegistrationPacket i buf nowMs).1.awaitingReg3 ↔
          j ∈ r.awaitingReg3) ∧
        (r.pendingReg2Idx ≠ some i →
          SameSlot r (r.processRegistrationPacket i buf nowMs).1)) := by
  rw [processRegistrationPacket_regErr frame]
  by_cases inPhase : r.InPhase i
  · rw [handleRegErr_of_inPhase nowMs inPhase]
    refine ⟨by simp [inPhase], fun refused => absurd inPhase refused, fun _ => ⟨?_, ?_⟩⟩
    · intro j other
      simp [awaitingReg3_abandonSlot_if, other]
    · intro not_owner
      rw [if_neg not_owner]
      exact ⟨rfl, rfl, rfl, rfl⟩
  · rw [handleRegErr_of_not_inPhase nowMs inPhase]
    exact ⟨by simp [inPhase], fun _ => rfl, fun accepted => absurd accepted inPhase⟩

private theorem reg2_packet {r : SrtlaRegistrationManager} {buf : Bytes}
    (frame : getPacketType buf = some srtlaTypeReg2) (nowMs : Nat)
    (refused : buf.length < 258 ∨ r.pendingReg2Idx ≠ some i) :
    (r.processRegistrationPacket i buf nowMs).1 = r := by
  rw [processRegistrationPacket_reg2 frame]
  unfold handleReg2
  rcases refused with short | other
  · have unread : reg2Id buf = none := by
      have bound : ¬ 2 + srtlaIdLen ≤ buf.length := by
        unfold srtlaIdLen
        omega
      simp [reg2Id, bound]
    simp only [unread]
  · split
    · rfl
    · rw [if_neg other]

/-- The one-shot phase gate, after any operations of a new manager: a REG3 is
accepted exactly against an open grant, so never more often than it was armed
for; refused frames change a counter at most; a REG_ERR reaches no other uplink's
grant and no other uplink's slot; and only the slot owner's full-length REG2 is
read. -/
theorem registration_phase_gate (id probeId : SrtlaId) (ops : List RegOp) (i : Nat) :
    let r := run apply (new id probeId) ops
    let h := history apply (new id probeId) ops
    (∀ buf nowMs, getPacketType buf = some srtlaTypeReg3 →
      ((r.processRegistrationPacket i buf nowMs).2 = some .reg3 ↔ Granted i h) ∧
      (¬ Granted i h → r.processRegistrationPacket i buf nowMs =
        ({ r with outOfPhase.reg3 := satU64 (r.outOfPhase.reg3 + 1) }, none))) ∧
    h.countP (reports .reg3 i) ≤ h.countP (arms i) ∧
    (∀ buf nowMs, getPacketType buf = some srtlaTypeRegErr →
      ((r.processRegistrationPacket i buf nowMs).2 = some .regErr ↔
        (r.pendingReg2Idx = some i ∨ Granted i h)) ∧
      (¬ (r.pendingReg2Idx = some i ∨ Granted i h) → r.processRegistrationPacket i buf nowMs =
        ({ r with outOfPhase.regErr := satU64 (r.outOfPhase.regErr + 1) }, none)) ∧
      (r.pendingReg2Idx = some i ∨ Granted i h →
        (∀ j ≠ i, j ∈ (r.processRegistrationPacket i buf nowMs).1.awaitingReg3 ↔
          j ∈ r.awaitingReg3) ∧
        (r.pendingReg2Idx ≠ some i →
          SameSlot r (r.processRegistrationPacket i buf nowMs).1))) ∧
    (∀ buf nowMs, getPacketType buf = some srtlaTypeReg2 →
      buf.length < 258 ∨ r.pendingReg2Idx ≠ some i →
        (r.processRegistrationPacket i buf nowMs).1 = r) := by
  intro r h
  have granted : i ∈ r.awaitingReg3 ↔ Granted i h := mem_awaitingReg3_iff_granted id probeId ops i
  have inPhase : r.InPhase i ↔ r.pendingReg2Idx = some i ∨ Granted i h := by
    rw [InPhase, granted]
  refine ⟨?_, countP_reg3_le_countP_arms id probeId ops i, ?_, ?_⟩
  · intro buf nowMs frame
    rw [← granted]
    exact reg3_packet i frame nowMs
  · intro buf nowMs frame
    rw [← inPhase]
    exact regErr_packet i frame nowMs
  · intro buf nowMs frame refused
    exact reg2_packet i frame nowMs refused

end History

end SrtlaSend
