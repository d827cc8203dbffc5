import SrtlaSend.Properties.Handshake

/-!
# The registration gate across reloads

The manager knows an uplink by its position, the event loop by its connection id.
The two agree as long as nothing moves, and a reload moves links without telling
the manager. This module follows handshakes by connection id through whole runs:
what was queued for an uplink since it was created and last settled, and when a
REG3 or REG_ERR is accepted that nothing queued calls for.
-/

namespace SrtlaSend

open Runs Pointwise SrtlaConnection

namespace Sender

/-- The id of the uplink at a position. -/
def idAt (s : Sender) (i : Nat) : Option Nat := (s.conns[i]?).map (·.connId)

/-- The event queues a REG1 or a REG2 for the uplink `connId`. -/
def queuesFor (s : Sender) (connId : Nat) (e : Event) : Bool :=
  match e with
  | .uplink _ _ env =>
    match s.report e with
    | some (i, .regNgp) =>
      ((s.reg.handleRegNgp i env.now).reg1IfNgpImmediate i env.now).2.isSome &&
        s.idAt i == some connId
    | _ => false
  | .housekeeping env =>
    let resent := (List.range s.conns.length).any fun i =>
      (s.reaching env i).retries env i &&
        (resendRegistration (s.reaching env i).reg i env.now).2.isSome && s.idAt i == some connId
    let t := s.looped env
    let sends :=
      ((t.reg.updateActiveConnections t.conns).regDriverPendingSends t.conns.length env.now).2
    resent || sends.reg1.any (fun (i, _) => s.idAt i == some connId) ||
      (sends.broadcastReg2.isSome && s.conns.any (·.connId == connId))
  | _ => false

/-- The event is a REG3 or a REG_ERR that takes effect on the uplink `connId`. -/
def settles (s : Sender) (connId : Nat) (e : Event) : Bool :=
  match s.report e with
  | some (i, .reg3) => s.idAt i == some connId
  | some (i, .regErr) => s.idAt i == some connId
  | _ => false

/-- The event is a reload that may create the uplink `connId`. -/
def mayCreate (s : Sender) (connId : Nat) : Event → Bool
  | .reload _ => !s.conns.any (·.connId == connId)
  | _ => false

end Sender

/-- Something was queued for the uplink since its creation and since it was last
settled. -/
def Owed (connId : Nat) (h : List (Sender × Event)) : Prop :=
  Since (fun x => x.1.queuesFor connId x.2 = true)
    (fun x => x.1.settles connId x.2 = true ∨ x.1.mayCreate connId x.2 = true) h

instance (connId : Nat) (h : List (Sender × Event)) : Decidable (Owed connId h) :=
  inferInstanceAs (Decidable (Since _ _ _))

namespace Sender

/-- Datagrams, passes and reloads. -/
def isHandshakeStep : Event → Bool
  | .uplink _ _ _ => true
  | .housekeeping _ => true
  | .reload _ => true
  | _ => false

/-- A reload wants the link to stay. -/
def wanted (ext : Externals) (env : ReloadEnv) (c : SrtlaConnection) : Bool :=
  (env.newIps.map (uplinkLabel ext.showIp env.receiverHost env.receiverPort)).contains c.label

/-- The addresses a reload dials. -/
def missing (ext : Externals) (s : Sender) (env : ReloadEnv) : List IpAddr :=
  env.newIps.eraseDups.filter fun ip =>
    !(s.conns.map (·.label)).contains (uplinkLabel ext.showIp env.receiverHost env.receiverPort ip)

/-- The positions with a handshake in flight. -/
def openPositions (s : Sender) : List Nat := s.reg.awaitingReg3 ++ s.reg.pendingReg2Idx.toList

/-- A reload keeps the links up to every position with a handshake in flight, or
leaves no link there; a REG3 against a grant does not come to the holder of the slot. -/
def keepsPlaces (ext : Externals) (s : Sender) : Event → Bool
  | .reload env =>
    s.openPositions.all fun i =>
      decide (i < s.conns.length) && (s.conns.take (i + 1)).all (wanted ext env) ||
        decide ((s.conns.filter (wanted ext env)).length +
          ((s.missing ext env).filter fun ip => (env.dial ip).isSome).length ≤ i)
  | .uplink connId bytes _ =>
    match s.conns.findIdx? (·.connId == connId) with
    | some i =>
      decide (getPacketType bytes = some srtlaTypeReg3 ∧ i ∈ s.reg.awaitingReg3 →
        s.reg.pendingReg2Idx ≠ some i)
    | none => true
  | _ => true

/-- The ids drawn by the dials of a reload are new, and no two are equal. -/
def drawsFreshIds (s : Sender) : Event → Bool
  | .reload env =>
    env.newIps.all fun ip => (env.dial ip).all fun d =>
      s.conns.all (fun c => decide (c.connId ≠ d.connId)) &&
        env.newIps.all fun ip' => (env.dial ip').all fun d' =>
          decide (d.connId = d'.connId → ip = ip')
  | _ => true

end Sender

/-! ### Handshakes in flight -/

section InFlight

variable {r r' : SrtlaRegistrationManager} {i j now : Nat} {bytes : Bytes} {c c' : SrtlaConnection}

/-- A datagram on `j` opens a handshake for `j` only, with a REG1; and a REG3 or
REG_ERR that it settles closes that of `j`. -/
theorem FrameEffect.inPhase (effect : FrameEffect j bytes now c r c' r')
    (notHolder : (r.processRegistrationPacket j bytes now).2 = some .reg3 →
      r.pendingReg2Idx ≠ some j)
    (after : r'.InPhase i) :
    (r.InPhase i ∧ (i = j → (r.processRegistrationPacket j bytes now).2 ≠ some .reg3 ∧
      (r.processRegistrationPacket j bytes now).2 ≠ some .regErr)) ∨
    (i = j ∧ (r.processRegistrationPacket j bytes now).2 = some .regNgp ∧
      ((r.handleRegNgp j now).reg1IfNgpImmediate j now).2.isSome = true) := by
  cases effect with
  | quiet counters silent life =>
    refine Or.inl ⟨after, fun _ => ?_⟩
    rw [silent]
    simp
  | regNgp event =>
    obtain ⟨-, grants, slot⟩ := r.ngp_cases j now
    have quiet : (r.processRegistrationPacket j bytes now).2 ≠ some .reg3 ∧
        (r.processRegistrationPacket j bytes now).2 ≠ some .regErr := by
      rw [event]
      simp
    rw [SrtlaRegistrationManager.InPhase, grants] at after
    rcases after with held | granted
    · -- the slot is new only if an NGP sent REG1 at once
      rcases slot with ⟨-, taken, built⟩ | ⟨kept, -⟩
      · rw [taken, Option.some.injEq] at held
        exact Or.inr ⟨held.symm, event, built⟩
      · exact Or.inl ⟨Or.inl (kept.symm.trans held), fun _ => quiet⟩
    · exact Or.inl ⟨Or.inr granted, fun _ => quiet⟩
  | reg2 event =>
    refine Or.inl ⟨?_, fun _ => by rw [event]; simp⟩
    rcases r.handleReg2_cases j bytes now with h | ⟨-, -, gone, grants⟩
    · rwa [h] at after
    · -- an accepted REG2 gives up the slot and keeps the grants
      rw [SrtlaRegistrationManager.InPhase, gone, grants] at after
      rcases after with held | granted
      · cases held
      · exact Or.inr granted
  -- the accepted REG3 spends the grant of its own uplink
  | reg3 event granted =>
    have free := notHolder event
    rcases after with held | still
    · refine Or.inl ⟨Or.inl held, fun same => ?_⟩
      subst same
      exact absurd held free
    · obtain ⟨old, other⟩ := SrtlaRegistrationManager.mem_revokeReg3Grant.mp still
      exact Or.inl ⟨Or.inr old, fun same => absurd same other⟩
  | regErr event inPhase =>
    rcases after with held | still
    · -- an error ends the phase of the uplink it comes from
      by_cases own : r.pendingReg2Idx = some j
      · rw [if_pos own] at held
        cases held
      · rw [if_neg own] at held
        refine Or.inl ⟨Or.inl held, fun same => ?_⟩
        subst same
        exact absurd held own
    · obtain ⟨old, other⟩ := SrtlaRegistrationManager.mem_revokeReg3Grant.mp still
      rw [SrtlaRegistrationManager.awaitingReg3_abandonSlot_if] at old
      exact Or.inl ⟨Or.inr old, fun same => absurd same other⟩

theorem processRegistrationPacket_event_regErr
    (event : (r.processRegistrationPacket i bytes now).2 = some .regErr) : r.InPhase i := by
  rcases processRegistrationPacket_cases r i bytes now with h | h | ⟨-, h⟩ | ⟨inPhase, -⟩ | ⟨_, h⟩
  · simp [h] at event
  · simp [h] at event
  · simp [h] at event
  · exact inPhase
  · simp [h] at event

/-- A resend opens a handshake for its own uplink only, with the packet it queues. -/
theorem inPhase_resendRegistration (after : (Sender.resendRegistration r j now).1.InPhase i) :
    r.InPhase i ∨ (i = j ∧ (Sender.resendRegistration r j now).2.isSome = true) := by
  rcases Sender.resendRegistration_cases r j now with ⟨own, h⟩ | ⟨free, h⟩ | ⟨k, -, -, h⟩
  · rw [h] at after
    rcases after with held | granted
    · exact Or.inl (Or.inl (own.trans held))
    · exact Or.inl (Or.inr granted)
  · rw [h] at after ⊢
    obtain ⟨grants, arm⟩ := r.armReg3Grant_eq j
    rcases after with held | granted
    · refine Or.inl (Or.inl ?_)
      rw [arm] at held
      exact held
    · rcases SrtlaRegistrationManager.mem_armReg3Grant.mp granted with same | old
      · exact Or.inr ⟨same, rfl⟩
      · exact Or.inl (Or.inr old)
  · rw [h] at after
    exact Or.inl after

/-- The driver opens a handshake for the target of its REG1, and for the uplinks it
broadcasts to. -/
theorem inPhase_regDriverPendingSends (count : Nat)
    (after : (r.regDriverPendingSends count now).1.InPhase i) :
    r.InPhase i ∨ (r.regDriverPendingSends count now).2.reg1.any (fun x => x.1 == i) = true ∨
      ((r.regDriverPendingSends count now).2.broadcastReg2.isSome = true ∧ i < count) := by
  rcases after with held | granted
  · -- the slot: REG1 of the driver
    obtain ⟨grants, flag, broadcast⟩ := (r.driveReg1 now).1.driveBroadcast_eq count
    simp only [SrtlaRegistrationManager.regDriverPendingSends, broadcast] at held
    rcases r.driveReg1_cases now with ⟨h, -⟩ | ⟨target, -, -, -, h, built⟩
    · rw [h] at held
      exact Or.inl (Or.inl held)
    · rw [h] at held
      simp only [Option.some.injEq] at held
      refine Or.inr (Or.inl ?_)
      simp [SrtlaRegistrationManager.regDriverPendingSends, built, held]
  · -- the grant: a broadcast, to the positions it covers
    rcases (SrtlaRegistrationManager.mem_regDriverPendingSends count now).mp granted with armed | old
    · simp only [arms, Bool.and_eq_true, decide_eq_true_eq] at armed
      refine Or.inr (Or.inr ⟨?_, armed.1.2⟩)
      have flag := (r.driveReg1_frame now).2.1
      simp [SrtlaRegistrationManager.regDriverPendingSends, SrtlaRegistrationManager.driveBroadcast,
        flag, armed.1.1]
    · exact Or.inl (Or.inr old)

end InFlight

namespace Sender

/-! ### Passes -/

section Pass

variable (env : HousekeepingEnv) {s : Sender}

theorem idAt_of_connIds {s t : Sender} (ids : t.conns.map (·.connId) = s.conns.map (·.connId))
    (i : Nat) : t.idAt i = s.idAt i := by
  simp only [idAt, ← List.getElem?_map, ids]

theorem position_unique {s : Sender} (distinct : (s.conns.map (·.connId)).Nodup) {i j connId : Nat}
    (at_i : s.idAt i = some connId) (at_j : s.idAt j = some connId) : i = j := by
  rw [idAt, ← List.getElem?_map] at at_i at_j
  have inside : i < (s.conns.map (·.connId)).length := (List.getElem?_eq_some_iff.mp at_i).1
  exact (List.getElem?_inj inside distinct).mp (at_i.trans at_j.symm)

/-- What a pass finds in flight when it reaches uplink `k` was in flight before, or
was resent in an earlier iteration. -/
theorem inPhase_reaching {i k : Nat} (after : (s.reaching env k).reg.InPhase i) :
    s.reg.InPhase i ∨
      ((s.reaching env i).retries env i = true ∧
        (resendRegistration (s.reaching env i).reg i env.now).2.isSome = true) := by
  induction k with
  -- the timeouts of the pass only close positions
  | zero =>
    left
    rw [reaching_zero, beginHousekeeping_reg] at after
    have cleared : (s.reg.clearPendingIfTimedOut env.now).1.InPhase i := by
      rcases (s.reg.clearPendingIfTimedOut env.now).1.checkProbingComplete_cases env.probeNow with
        h | ⟨-, target, h⟩
      · rwa [h] at after
      · rwa [h] at after
    rcases s.reg.clearPendingIfTimedOut_cases env.now with ⟨h, -⟩ | h
    · rwa [h] at cleared
    · rw [h] at cleared
      rcases cleared with held | granted
      · cases held
      · exact Or.inr granted
  | succ k ih =>
    rw [reaching_succ] at after
    rcases housekeepUplink_cases env (s.reaching env k) k with ⟨h, -⟩ | ⟨c, -, -, h⟩ |
      ⟨c, -, retried, h⟩
    · rw [h] at after
      exact ih after
    · rw [h] at after
      exact ih after
    · -- a retry opens the position of the link it is for
      rw [h] at after
      rcases inPhase_resendRegistration after with before | ⟨rfl, built⟩
      · exact ih before
      · exact Or.inr ⟨retried, built⟩

/-- What is in flight after a pass was in flight before, or the pass queued a packet
for its uplink. -/
theorem inPhase_handleHousekeeping {i connId : Nat} (at_i : s.idAt i = some connId)
    (after : (s.handleHousekeeping env).1.reg.InPhase i) :
    s.reg.InPhase i ∨ s.queuesFor connId (.housekeeping env) = true := by
  have inside : i < s.conns.length := by
    obtain ⟨c, found, -⟩ := Option.map_eq_some_iff.mp at_i
    exact (List.getElem?_eq_some_iff.mp found).1
  rcases handleHousekeeping_cases env s with ⟨-, -, reg, -⟩ | ⟨-, slot, -, grants, -⟩
  · rw [reg, driven, driveRegistration_reg] at after
    rcases inPhase_regDriverPendingSends _ after with before | sent | ⟨broadcast, -⟩
    · rcases inPhase_reaching env (k := s.conns.length) before with old | ⟨retried, built⟩
      · exact Or.inl old
      · right
        simp only [queuesFor, Bool.or_eq_true]
        refine Or.inl (Or.inl (List.any_eq_true.mpr ⟨i, List.mem_range.mpr inside, ?_⟩))
        simp [retried, built, at_i]
    · right
      simp only [queuesFor, Bool.or_eq_true]
      refine Or.inl (Or.inr ?_)
      obtain ⟨x, built, target⟩ := Option.any_eq_true _ _ |>.mp sent
      rw [built, Option.any_some, beq_iff_eq.mp target, at_i]
      exact beq_self_eq_true _
    · right
      simp only [queuesFor, Bool.or_eq_true, Bool.and_eq_true]
      obtain ⟨c, found, id⟩ := Option.map_eq_some_iff.mp at_i
      exact Or.inr ⟨broadcast, List.any_eq_true.mpr
        ⟨c, List.mem_of_getElem? found, beq_iff_eq.mpr id⟩⟩
  · -- a bond that moves leaves nothing open
    exfalso
    rcases after with held | granted
    · rw [slot] at held
      cases held
    · rw [grants] at granted
      cases granted

end Pass

/-! ### Reloads -/

section Reload

variable {ext : Externals} {s : Sender} {env : ReloadEnv}

/-- The ids of the uplinks a reload adds. -/
def addedIds (ext : Externals) (s : Sender) (env : ReloadEnv) : List Nat :=
  (s.missing ext env).filterMap fun ip => (env.dial ip).map (·.connId)

/-- The wanted links in their order, then the new ones. -/
theorem connIds_applyReload :
    (s.applyReload ext.showIp env).conns.map (·.connId) =
      (s.conns.filter (wanted ext env)).map (·.connId) ++ s.addedIds ext env := by
  have kept : (applyLinkWeights (s.conns.filter (wanted ext env)) env.newIps env.newWeights).map
      (·.connId) = (s.conns.filter (wanted ext env)).map (·.connId) := by
    rw [applyLinkWeights, List.map_map]
    rfl
  simp only [applyReload, applyConnectionChanges, List.map_append]
  refine congrArg₂ (· ++ ·) kept ?_
  simp only [createConnectionsFromIps, filterMap_zipIdx_dial, addedIds, List.map_filterMap]
  congr 1
  funext ip
  cases env.dial ip with
  | none => rfl
  | some d => rfl

/-- If every link up to `i` stays, then `i` is the position of the same link. -/
theorem idAt_applyReload_of_wanted {i : Nat} (inside : i < s.conns.length)
    (stay : (s.conns.take (i + 1)).all (wanted ext env) = true) :
    (s.applyReload ext.showIp env).idAt i = s.idAt i := by
  have cut : s.conns.filter (wanted ext env) =
      s.conns.take (i + 1) ++ (s.conns.drop (i + 1)).filter (wanted ext env) := by
    conv_lhs => rw [← List.take_append_drop (i + 1) s.conns, List.filter_append]
    rw [List.filter_eq_self.mpr (List.all_eq_true.mp stay)]
  have short : i < (s.conns.take (i + 1)).length := by
    rw [List.length_take]
    omega
  simp only [idAt, ← List.getElem?_map, connIds_applyReload, cut, List.map_append, List.append_assoc]
  rw [List.getElem?_append_left (by rwa [List.length_map]), List.map_take,
    List.getElem?_take_of_lt (Nat.lt_succ_self i)]

theorem idAt_applyReload_of_short {i : Nat}
    (short : (s.conns.filter (wanted ext env)).length +
      ((s.missing ext env).filter fun ip => (env.dial ip).isSome).length ≤ i) :
    (s.applyReload ext.showIp env).idAt i = none := by
  have added : (s.addedIds ext env).length =
      ((s.missing ext env).filter fun ip => (env.dial ip).isSome).length := by
    rw [addedIds, List.length_filterMap_eq_countP, List.countP_eq_length_filter]
    simp only [Option.isSome_map]
  simp only [idAt, ← List.getElem?_map, connIds_applyReload]
  rw [List.getElem?_eq_none_iff, List.length_append, List.length_map, added]
  exact short

theorem nodup_eraseDups (ips : List IpAddr) : ips.eraseDups.Nodup := by
  induction len : ips.length using Nat.strong_induction_on generalizing ips with
  | _ n ih =>
    cases ips with
    | nil => exact List.nodup_nil
    | cons ip rest =>
      have shorter : (rest.filter fun other => !other == ip).length < n := by
        rw [← len, List.length_cons]
        exact Nat.lt_succ_of_le (List.length_filter_le _ rest)
      rw [List.eraseDups_cons, List.nodup_cons]
      refine ⟨?_, ih _ shorter _ rfl⟩
      simp [List.mem_eraseDups]

/-- A drawn id is not that of any uplink there is. -/
theorem connId_ne_of_dialed (fresh : s.drawsFreshIds (.reload env) = true) {ip : IpAddr} {d : Dialed}
    (listed : ip ∈ env.newIps) (dialed : env.dial ip = some d) : ∀ c ∈ s.conns, c.connId ≠ d.connId := by
  have here := List.all_eq_true.mp fresh ip listed
  simp only [dialed, Option.all_some, Bool.and_eq_true, List.all_eq_true, decide_eq_true_eq] at here
  exact here.1

theorem nodup_applyReload (distinct : (s.conns.map (·.connId)).Nodup)
    (fresh : s.drawsFreshIds (.reload env) = true) :
    ((s.applyReload ext.showIp env).conns.map (·.connId)).Nodup := by
  have listed : ∀ ip ∈ s.missing ext env, ip ∈ env.newIps := fun ip member =>
    List.mem_eraseDups.mp (List.mem_filter.mp member).1
  have drawn : ∀ ip ∈ env.newIps, ∀ d, env.dial ip = some d →
      (∀ c ∈ s.conns, c.connId ≠ d.connId) ∧
        ∀ ip' ∈ env.newIps, ∀ d', env.dial ip' = some d' → d.connId = d'.connId → ip = ip' := by
    intro ip member d dialed
    have here := List.all_eq_true.mp fresh ip member
    simp only [dialed, Option.all_some, Bool.and_eq_true, List.all_eq_true, decide_eq_true_eq] at here
    refine ⟨here.1, fun ip' member' d' dialed' => ?_⟩
    simpa only [dialed', Option.all_some, decide_eq_true_eq] using here.2 ip' member'
  rw [connIds_applyReload, List.nodup_append]
  -- kept, added, and no id in both
  refine ⟨?_, ?_, ?_⟩
  · exact (List.Sublist.map _ List.filter_sublist).nodup distinct
  · have missing : (s.missing ext env).Nodup := (nodup_eraseDups env.newIps).filter _
    rw [addedIds, List.Nodup, List.pairwise_filterMap]
    refine List.Pairwise.imp_of_mem (fun {ip ip'} member member' different => ?_) missing
    intro id some_id id' some_id' same
    obtain ⟨d, dialed, rfl⟩ := Option.map_eq_some_iff.mp some_id
    obtain ⟨d', dialed', rfl⟩ := Option.map_eq_some_iff.mp some_id'
    exact different ((drawn ip (listed ip member) d dialed).2 ip' (listed ip' member') d' dialed' same)
  · intro id old id' added same
    subst same
    obtain ⟨c, kept, rfl⟩ := List.mem_map.mp old
    obtain ⟨ip, member, some_id⟩ := List.mem_filterMap.mp added
    obtain ⟨d, dialed, same⟩ := Option.map_eq_some_iff.mp some_id
    exact (drawn ip (listed ip member) d dialed).1 c (List.mem_filter.mp kept).1 same.symm

end Reload

end Sender

/-! ### Runs -/

/-- Positions and connection ids agree about the handshakes in flight. -/
structure GateFollows (h : List (Sender × Event)) (s : Sender) : Prop where
  distinct : (s.conns.map (·.connId)).Nodup
  owed : ∀ i connId, s.idAt i = some connId → s.reg.InPhase i → Owed connId h

section Step

variable {h : List (Sender × Event)} {s : Sender} {ext : Externals}

/-- A debt is still there after a step that neither settles nor creates the uplink. -/
theorem Owed.concat {connId : Nat} {e : Event} (owed : Owed connId h)
    (unsettled : s.settles connId e = false) (old : s.mayCreate connId e = false) :
    Owed connId (h ++ [(s, e)]) := by
  refine (since_concat _ _ h (s, e)).mpr (Or.inr ⟨owed, ?_⟩)
  simp [unsettled, old]

theorem Owed.queued {connId : Nat} {e : Event} (queued : s.queuesFor connId e = true) :
    Owed connId (h ++ [(s, e)]) :=
  (since_concat _ _ h (s, e)).mpr (Or.inl queued)

theorem GateFollows.uplink (follows : GateFollows h s) {connId : Nat} {bytes : Bytes}
    {env : UplinkEnv} (places : s.keepsPlaces ext (.uplink connId bytes env) = true) :
    GateFollows (h ++ [(s, .uplink connId bytes env)])
      (s.handleUplinkPacket ext.hashOf connId bytes env) := by
  rcases s.handleUplinkPacket_cases ext.hashOf connId bytes env with ⟨same, silent⟩ |
    ⟨j, c, c', found, at_j, effect, bond, -⟩
  · rw [same]
    refine ⟨follows.distinct, fun i id at_i inPhase => ?_⟩
    exact (follows.owed i id at_i inPhase).concat (by simp [Sender.settles, silent]) rfl
  have notHolder : (s.reg.processRegistrationPacket j bytes env.now).2 = some .reg3 →
      s.reg.pendingReg2Idx ≠ some j := by
    intro event
    simp only [Sender.keepsPlaces, found, decide_eq_true_eq] at places
    exact places (processRegistrationPacket_event_reg3 event)
  have ids : (s.handleUplinkPacket ext.hashOf connId bytes env).conns.map (·.connId) =
      s.conns.map (·.connId) := by
    have placed : SameUplinks s.conns (s.conns.set j c') :=
      forall₂_set SameUplink.refl at_j effect.uplink
    exact (placed.trans bond.uplinks).connIds
  refine ⟨by rw [ids]; exact follows.distinct, fun i id at_i after => ?_⟩
  rw [Sender.idAt_of_connIds ids] at at_i
  rcases effect.inPhase notHolder after with ⟨before, unsettled⟩ | ⟨rfl, event, built⟩
  · -- another uplink may be settled, this one is not
    refine (follows.owed i id at_i before).concat ?_ rfl
    have elsewhere : ∀ event, s.report (.uplink connId bytes env) = some (i, event) →
        event ≠ .reg3 ∧ event ≠ .regErr := by
      intro event reported
      obtain ⟨found', event'⟩ := Sender.of_report_uplink reported
      have here : i = j := Option.some.inj (found'.symm.trans found)
      subst here
      obtain ⟨no_reg3, no_regErr⟩ := unsettled rfl
      exact ⟨fun same => no_reg3 (by rw [event', same]), fun same => no_regErr (by rw [event', same])⟩
    -- the report may settle a position, but not this one
    simp only [Sender.settles]
    cases reported : s.report (.uplink connId bytes env) with
    | none => rfl
    | some entry =>
      obtain ⟨k, event⟩ := entry
      have apart : event = .reg3 ∨ event = .regErr → s.idAt k ≠ some id := by
        intro settled at_k
        have same := Sender.position_unique follows.distinct at_i at_k
        subst same
        obtain ⟨no_reg3, no_regErr⟩ := elsewhere event reported
        exact settled.elim no_reg3 no_regErr
      cases event with
      | regNgp => rfl
      | reg2 => rfl
      | reg3 => exact beq_false_of_ne (apart (Or.inl rfl))
      | regErr => exact beq_false_of_ne (apart (Or.inr rfl))
  · -- the REG1 that an NGP caused is the packet that is owed
    refine Owed.queued ?_
    have reported : s.report (.uplink connId bytes env) = some (i, .regNgp) := by
      simp only [Sender.report, found, Option.bind_some, event, Option.map_some]
    simp only [Sender.queuesFor, reported, built, at_i, Bool.true_and]
    exact beq_self_eq_true _

theorem GateFollows.housekeeping (follows : GateFollows h s) (env : HousekeepingEnv) :
    GateFollows (h ++ [(s, .housekeeping env)]) (s.handleHousekeeping env).1 := by
  have ids := (Sender.sameUplinks_handleHousekeeping env s).connIds
  refine ⟨by rw [ids]; exact follows.distinct, fun i id at_i after => ?_⟩
  rw [Sender.idAt_of_connIds ids] at at_i
  rcases Sender.inPhase_handleHousekeeping env at_i after with before | queued
  · exact (follows.owed i id at_i before).concat rfl rfl
  · exact Owed.queued queued

theorem GateFollows.reload (follows : GateFollows h s) {env : ReloadEnv}
    (places : s.keepsPlaces ext (.reload env) = true) (fresh : s.drawsFreshIds (.reload env) = true) :
    GateFollows (h ++ [(s, .reload env)]) (s.applyReload ext.showIp env) := by
  refine ⟨Sender.nodup_applyReload follows.distinct fresh, fun i id at_i inPhase => ?_⟩
  -- the manager is untouched, so the position was open before
  have before : s.reg.InPhase i := inPhase
  have listed : i ∈ s.openPositions := by
    rcases before with held | granted
    · simp [Sender.openPositions, held]
    · simp [Sender.openPositions, granted]
  have place := List.all_eq_true.mp places i listed
  simp only [Bool.or_eq_true, Bool.and_eq_true, decide_eq_true_eq] at place
  -- the open position keeps its uplink, or is beyond the new list
  rcases place with ⟨inside, stay⟩ | short
  · rw [Sender.idAt_applyReload_of_wanted inside stay] at at_i
    refine (follows.owed i id at_i before).concat rfl ?_
    obtain ⟨c, found, same⟩ := Option.map_eq_some_iff.mp at_i
    have present : s.conns.any (·.connId == id) = true :=
      List.any_eq_true.mpr ⟨c, List.mem_of_getElem? found, beq_iff_eq.mpr same⟩
    simp only [Sender.mayCreate, present, Bool.not_true]
  · rw [Sender.idAt_applyReload_of_short short] at at_i
    cases at_i

/-- What a REG3 or REG_ERR takes effect on is owed an answer. -/
theorem GateFollows.owed_of_settles (follows : GateFollows h s) {e : Event} {connId : Nat}
    (settled : s.settles connId e = true) : Owed connId h := by
  cases e with
  | uplink id bytes env =>
    simp only [Sender.settles] at settled
    cases reported : s.report (.uplink id bytes env) with
    | none => simp [reported] at settled
    | some entry =>
      obtain ⟨i, event⟩ := entry
      obtain ⟨-, event'⟩ := Sender.of_report_uplink reported
      rw [reported] at settled
      cases event with
      | regNgp => cases settled
      | reg2 => cases settled
      | reg3 =>
        exact follows.owed i connId (beq_iff_eq.mp settled)
          (Or.inr (processRegistrationPacket_event_reg3 event').2)
      | regErr =>
        exact follows.owed i connId (beq_iff_eq.mp settled)
          (processRegistrationPacket_event_regErr event')
  | _ => cases settled

end Step

/-- In every run of datagrams, passes and reloads, from a bond with no handshake in
flight, in which reloads keep the uplinks with a handshake in flight in their
places and no REG3 comes to the holder of the slot: a REG3 or REG_ERR takes effect
on an uplink only if a REG1 or REG2 was queued for it since its creation and since
the last one that took effect on it. -/
theorem registration_gate_follows_uplink (ext : Externals) (start : Sender) (events : List Event)
    (distinct : (start.conns.map (·.connId)).Nodup) (idle : ∀ i, ¬ start.reg.InPhase i)
    (steps : EachStep (Sender.step ext)
      (fun s e => Sender.isHandshakeStep e = true ∧ s.drawsFreshIds e = true ∧
        s.keepsPlaces ext e = true)
      start events) :
    ∀ before e after, events = before ++ e :: after → ∀ connId,
      (run (Sender.step ext) start before).settles connId e = true →
      Owed connId (history (Sender.step ext) start before) := by
  intro before e after cut connId settled
  rw [cut, eachStep_append] at steps
  have follows : GateFollows (history (Sender.step ext) start before)
      (run (Sender.step ext) start before) := by
    refine EachStep.history_invariant GateFollows ?_ ?_ steps.1
    · -- the other events are not part of the handshake
      rintro h s e follows ⟨inScope, fresh, places⟩
      cases e with
      | uplink id bytes env => exact follows.uplink places
      | housekeeping env => exact follows.housekeeping env
      | reload env => exact follows.reload places fresh
      | _ => cases inScope
    · exact ⟨distinct, fun i _ _ inPhase => absurd inPhase (idle i)⟩
  exact follows.owed_of_settles settled

namespace Sample

/-- Three uplinks register; then the second one falls silent, and the pass at eight
seconds queues a REG2 for it. -/
def secondSilent : List Event :=
  [receive 1 regNgp 520, receive 2 regNgp 540, receive 3 regNgp 560, .housekeeping (pass 1000 []),
    receive 1 (reg2 5) 1100, .housekeeping (pass 2000 []), receive 1 reg3 2100, receive 2 reg3 2100,
    receive 3 reg3 2100] ++
  [3000, 4000, 5000, 6000, 7000, 8000].flatMap fun now =>
    [receive 1 [0, 0] (now - 10), receive 3 [0, 0] (now - 10), .housekeeping (pass now [])]

/-- A reload that keeps the uplinks of the given addresses and adds none. -/
def keepOnly (ips : List IpAddr) : Event :=
  .reload
    { newIps := ips, newWeights := [], receiverHost := "receiver", receiverPort := 5000,
      dial := fun _ => none }

end Sample

/-- A reload drops the last uplink, and the REG3 of the second is honoured. -/
theorem registration_gate_follows_second :
    let before := Sample.secondSilent ++ [Sample.keepOnly [.v4 1, .v4 2]]
    (run (Sender.step Sample.externals) (Sample.sender [1, 2, 3]) before).settles 2
      (Sample.receive 2 Sample.reg3 8100) = true ∧
    Owed 2 (history (Sender.step Sample.externals) (Sample.sender [1, 2, 3]) before) := by
  intro before
  have settled : (run (Sender.step Sample.externals) (Sample.sender [1, 2, 3]) before).settles 2
      (Sample.receive 2 Sample.reg3 8100) = true := by
    decide +kernel
  have idle : ∀ i, ¬ (Sample.sender [1, 2, 3]).reg.InPhase i := by
    rintro i (held | granted)
    · cases held
    · cases granted
  exact ⟨settled, registration_gate_follows_uplink Sample.externals (Sample.sender [1, 2, 3])
    (before ++ [Sample.receive 2 Sample.reg3 8100]) (by decide) idle (by decide +kernel) before _ []
    rfl 2 settled⟩

/-- A reload drops the first uplink, so that the third moves to the place of the
second: a REG3 on it takes effect, and nothing was queued for it since its last. -/
theorem registration_gate_follows_position :
    let before := Sample.secondSilent ++ [Sample.keepOnly [.v4 2, .v4 3]]
    let s := run (Sender.step Sample.externals) (Sample.sender [1, 2, 3]) before
    before.all Sender.isHandshakeStep = true ∧
    (s.conns.map fun c => (c.connId, c.connected)) = [(2, false), (3, true)] ∧
    s.settles 3 (Sample.receive 3 Sample.reg3 8100) = true ∧
    ¬ Owed 3 (history (Sender.step Sample.externals) (Sample.sender [1, 2, 3]) before) := by
  decide +kernel

end SrtlaSend
