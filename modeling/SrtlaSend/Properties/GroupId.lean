import SrtlaSend.Properties.Handshake

/-!
# The group id of a bond in use

While some uplink is registered, the id of the bond must stay and no REG1 may ask
for another. The manager guards both with `activeConnections`, a count that only
housekeeping refreshes, and a REG3 registers its link at once. So the guard is
right except between the two, and except for a REG3 that overtakes the REG2 of the
slot. Those two cases apart, a registered link means a free slot.
-/

namespace SrtlaSend

open Runs Pointwise SrtlaConnection

namespace Sender

def someConnected (s : Sender) : Bool := s.conns.any (·.connected)

/-- The links as they are at each REG1 an event builds: the answer to a REG_NGP,
the resends of a pass, and the REG1 of the driver. -/
def reg1Builds (s : Sender) (e : Event) : List (List SrtlaConnection) :=
  match e with
  | .uplink _ _ env =>
    match s.report e with
    | some (idx, .regNgp) =>
      if ((s.reg.handleRegNgp idx env.now).reg1IfNgpImmediate idx env.now).2.isSome then [s.conns]
      else []
    | _ => []
  | .housekeeping env =>
    let resends := (List.range s.conns.length).filter fun i =>
      (s.reaching env i).retries env i && (s.reaching env i).reg.pendingReg2Idx == some i
    let t := s.looped env
    resends.map (fun i => (s.reaching env (i + 1)).conns) ++
      if ((t.reg.updateActiveConnections t.conns).driveReg1 env.now).2.isSome then [t.conns] else []
  | _ => []

/-- The event is a REG2 whose id the manager takes. -/
def overwritesId (s : Sender) (e : Event) : Bool :=
  match e, s.report e with
  | .uplink _ bytes _, some (idx, .reg2) =>
    (SrtlaRegistrationManager.reg2Id bytes).isSome && s.reg.pendingReg2Idx == some idx
  | _, _ => false

/-- Datagrams and passes; no reload, and no pass that moves the bond. -/
def staysHome (s : Sender) : Event → Bool
  | .uplink _ _ _ => true
  | .housekeeping env => !s.rehomes env
  | _ => false

/-- A REG3 against a grant comes while the slot is free, and a REG_NGP does not come
while a link is registered and none is counted. -/
def inOrder (s : Sender) : Event → Bool
  | .uplink connId bytes _ =>
    match s.conns.findIdx? (·.connId == connId) with
    | some i =>
      if getPacketType bytes = some srtlaTypeReg3 ∧ i ∈ s.reg.awaitingReg3 then
        s.reg.pendingReg2Idx.isNone
      else if getPacketType bytes = some srtlaTypeRegNgp then
        !s.someConnected || s.reg.activeConnections != 0
      else true
    | none => true
  | _ => true

/-- No REG1 is built beside a registered link, and the id of a bond with a registered
link is not overwritten. -/
def KeepsGroup (ext : Externals) (s : Sender) (e : Event) : Prop :=
  (∀ links ∈ s.reg1Builds e, ∀ c ∈ links, c.connected = false) ∧
    (s.someConnected = true →
      s.overwritesId e = false ∧ (s.step ext e).reg.srtlaId = s.reg.srtlaId)

instance (ext : Externals) (s : Sender) (e : Event) : Decidable (s.KeepsGroup ext e) :=
  inferInstanceAs (Decidable (_ ∧ _))

/-- A registered link means a free slot. -/
def SlotFree (s : Sender) : Prop := s.someConnected = true → s.reg.pendingReg2Idx = none

section Links

variable {s t : Sender}

theorem someConnected_eq_false : s.someConnected = false ↔ ∀ c ∈ s.conns, c.connected = false := by
  simp [someConnected]

theorem someConnected_of_sameBond (same : SameBond s.conns t.conns) :
    t.someConnected = s.someConnected :=
  any_eq_of_forall₂ (fun _ _ life => life.connected) same

/-- Nothing is registered that was not, if the link put at `i` is not. -/
theorem someConnected_of_set {i : Nat} {c' : SrtlaConnection} {conns : List SrtlaConnection}
    (off : c'.connected = false) (some' : (conns.set i c').any (·.connected) = true) :
    conns.any (·.connected) = true := by
  obtain ⟨c, member, on⟩ := List.any_eq_true.mp some'
  rcases List.mem_or_eq_of_mem_set member with old | rfl
  · exact List.any_eq_true.mpr ⟨c, old, on⟩
  · exact absurd (on.symm.trans off) Bool.true_eq_false.mp

theorem SlotFree.of_sameBond (free : s.SlotFree) (same : SameBond s.conns t.conns)
    (slot : t.reg.pendingReg2Idx = s.reg.pendingReg2Idx ∨ t.reg.pendingReg2Idx = none) :
    t.SlotFree := by
  intro on
  rw [someConnected_of_sameBond same] at on
  rcases slot with kept | none'
  · rw [kept]
    exact free on
  · exact none'

end Links

end Sender

/-! ### Datagrams -/

section Datagrams

variable {r : SrtlaRegistrationManager}
  {i : Nat} {bytes : Bytes} {now : Nat} {c c' : SrtlaConnection}
  {r' : SrtlaRegistrationManager}

/-- A datagram takes the slot only if it is a REG_NGP and nothing counts as registered. -/
theorem FrameEffect.slot (effect : FrameEffect i bytes now c r c' r') :
    r'.pendingReg2Idx = r.pendingReg2Idx ∨ r'.pendingReg2Idx = none ∨
      ((r.processRegistrationPacket i bytes now).2 = some .regNgp ∧ r.activeConnections = 0) := by
  cases effect with
  | quiet counters silent life => exact Or.inl rfl
  | regNgp event =>
    rcases (r.ngp_cases i now).2.2 with ⟨idle, -⟩ | ⟨kept, -⟩
    · exact Or.inr (Or.inr ⟨event, idle⟩)
    · exact Or.inl kept
  | reg2 event =>
    rcases r.handleReg2_cases i bytes now with h | ⟨-, -, h, -⟩
    · exact Or.inl (by rw [h])
    · exact Or.inr (Or.inl h)
  | reg3 event granted => exact Or.inl rfl
  | regErr event inPhase =>
    by_cases own : r.pendingReg2Idx = some i
    · simp only [own, if_true]
      exact Or.inr (Or.inl rfl)
    · simp only [own, if_false]
      exact Or.inl rfl

/-- Only a REG3 registers a link. -/
theorem FrameEffect.connected (effect : FrameEffect i bytes now c r c' r') :
    (r.processRegistrationPacket i bytes now).2 = some .reg3 ∨
      (c'.connected = true → c.connected = true) := by
  cases effect with
  | quiet counters silent life =>
    right
    intro on
    rcases life with life | life
    · exact life.connected.symm.trans on
    · have stamped : (c.noteReceived now).connected = c.connected := by
        simp only [SrtlaConnection.noteReceived]
        split <;> rfl
      exact stamped.symm.trans (life.connected.symm.trans on)
  | regNgp event => exact Or.inr id
  | reg2 event => exact Or.inr id
  | reg3 event granted => exact Or.inl event
  | regErr event inPhase => exact Or.inr fun on => absurd on Bool.false_ne_true

/-- Only a REG2 that is taken changes the id. -/
theorem FrameEffect.srtlaId (effect : FrameEffect i bytes now c r c' r') :
    r'.srtlaId = r.srtlaId ∨
      ((r.processRegistrationPacket i bytes now).2 = some .reg2 ∧ r.pendingReg2Idx = some i) := by
  cases effect with
  | quiet counters silent life => exact Or.inl rfl
  | regNgp event => exact Or.inl (r.ngp_cases i now).1
  | reg2 event =>
    rcases r.handleReg2_cases i bytes now with h | ⟨-, own, -⟩
    · exact Or.inl (by rw [h])
    · exact Or.inr ⟨event, own⟩
  | reg3 event granted => exact Or.inl rfl
  | regErr event inPhase =>
    left
    split <;> rfl

end Datagrams

namespace Sender

section Uplink

variable {s : Sender} {connId : Nat} {bytes : Bytes} {env : UplinkEnv} {i : Nat}

theorem slot_of_inOrder (found : s.conns.findIdx? (·.connId == connId) = some i)
    (order : s.inOrder (.uplink connId bytes env) = true)
    (event : (s.reg.processRegistrationPacket i bytes env.now).2 = some .reg3) :
    s.reg.pendingReg2Idx = none := by
  obtain ⟨type, granted⟩ := processRegistrationPacket_event_reg3 event
  simp only [inOrder, found, type, granted, and_self, if_true] at order
  exact Option.isNone_iff_eq_none.mp order

theorem idle_of_inOrder (found : s.conns.findIdx? (·.connId == connId) = some i)
    (order : s.inOrder (.uplink connId bytes env) = true)
    (event : (s.reg.processRegistrationPacket i bytes env.now).2 = some .regNgp)
    (uncounted : s.reg.activeConnections = 0) : s.someConnected = false := by
  have type := processRegistrationPacket_event_regNgp event
  have other : srtlaTypeRegNgp ≠ srtlaTypeReg3 := by decide
  simpa [inOrder, found, type, other, uncounted] using order

/-- A datagram in order keeps the slot free beside a registered link. -/
theorem SlotFree.uplink (hashOf : Bytes → Nat) (free : s.SlotFree)
    (order : s.inOrder (.uplink connId bytes env) = true) :
    (s.handleUplinkPacket hashOf connId bytes env).SlotFree := by
  rcases s.handleUplinkPacket_cases hashOf connId bytes env with ⟨h, -⟩ |
    ⟨i, c, c', found, at_i, effect, same, -⟩
  · rw [h]
    exact free
  intro on
  set s' := s.handleUplinkPacket hashOf connId bytes env
  have on_set : (s.conns.set i c').any (·.connected) = true := by
    rw [← on]
    exact (any_eq_of_forall₂ (fun _ _ life => life.connected) same).symm
  -- a link that was not registered before answers a REG3
  have before : (s.reg.processRegistrationPacket i bytes env.now).2 = some .reg3 ∨
      s.someConnected = true := by
    rcases effect.connected with event | older
    · exact Or.inl event
    · right
      obtain ⟨d, member, on_d⟩ := List.any_eq_true.mp on_set
      rcases List.mem_or_eq_of_mem_set member with old | rfl
      · exact List.any_eq_true.mpr ⟨d, old, on_d⟩
      · exact List.any_eq_true.mpr ⟨c, List.mem_of_getElem? at_i, older on_d⟩
  rcases effect.slot with kept | gone | ⟨event, idle⟩
  · rw [kept]
    rcases before with event | on_s
    · exact slot_of_inOrder found order event
    · exact free on_s
  · exact gone
  · exfalso
    rcases before with reg3 | on_s
    · rw [event] at reg3
      cases reg3
    · exact absurd (on_s.symm.trans (idle_of_inOrder found order event idle)) Bool.true_eq_false.mp

theorem keepsGroup_uplink (ext : Externals) (free : s.SlotFree)
    (order : s.inOrder (.uplink connId bytes env) = true) :
    s.KeepsGroup ext (.uplink connId bytes env) := by
  constructor
  · intro links member c here
    simp only [reg1Builds] at member
    cases reported : s.report (.uplink connId bytes env) with
    | none => simp [reported] at member
    | some entry =>
      obtain ⟨i, event⟩ := entry
      cases event with
      -- REG1 is built for a bond that counts as idle, and in order it then is
      | regNgp =>
        simp only [reported] at member
        split at member
        case isTrue built =>
          rw [List.mem_singleton.mp member] at here
          rcases (s.reg.ngp_cases i env.now).2.2 with ⟨idle, -⟩ | ⟨-, refused⟩
          · obtain ⟨found, event⟩ := of_report_uplink reported
            exact someConnected_eq_false.mp (idle_of_inOrder found order event idle) c here
          · rw [refused] at built
            cases built
        case isFalse => cases member
      | reg2 => simp [reported] at member
      | reg3 => simp [reported] at member
      | regErr => simp [reported] at member
  · intro on
    have slot := free on
    constructor
    · simp only [overwritesId]
      split
      · simp [slot]
      · rfl
    · rw [Sender.step_uplink]
      rcases s.handleUplinkPacket_cases ext.hashOf connId bytes env with ⟨h, -⟩ |
        ⟨i, c, c', found, at_i, effect, same, -⟩
      · rw [h]
      · rcases effect.srtlaId with kept | ⟨-, own⟩
        · exact kept
        · rw [slot] at own
          cases own

end Uplink

/-! ### Passes -/

section Pass

variable {s : Sender} {env : HousekeepingEnv}

theorem SlotFree.beginHousekeeping (free : s.SlotFree) : (s.beginHousekeeping env).SlotFree := by
  refine free.of_sameBond (sameBond_beginHousekeeping env s) ?_
  have probing (r : SrtlaRegistrationManager) :
      (r.checkProbingComplete env.probeNow).1.pendingReg2Idx = r.pendingReg2Idx := by
    rcases r.checkProbingComplete_cases env.probeNow with h | ⟨-, target, h⟩
    · rw [h]
    · rw [h]
  rw [beginHousekeeping_reg, probing]
  rcases s.reg.clearPendingIfTimedOut_cases env.now with ⟨h, -⟩ | h
  · exact Or.inl (by rw [h])
  · exact Or.inr (by rw [h])

/-- A retry turns its link off and leaves the slot where it is. -/
theorem SlotFree.housekeepUplink (free : s.SlotFree) (i : Nat) :
    (s.housekeepUplink env i).SlotFree := by
  rcases housekeepUplink_cases env s i with ⟨h, -⟩ | ⟨c, at_i, -, h⟩ | ⟨c, at_i, -, h⟩
  · rw [h]
    exact free
  · rw [h]
    exact free.of_sameBond (forall₂_set SameLife.refl at_i (sameLife_serviceUplink env c))
      (Or.inl rfl)
  · rw [h]
    intro on
    have on_s := someConnected_of_set (turnedOff_retriedLink env s i c).connected on
    exact (resendRegistration_slot s.reg i env.now).trans (free on_s)

theorem SlotFree.reaching (free : s.SlotFree) (env : HousekeepingEnv) (i : Nat) :
    (s.reaching env i).SlotFree :=
  reaching_invariant env s SlotFree free.beginHousekeeping (fun _ j inv => inv.housekeepUplink j) i

/-- The count the driver goes by is the one it has just taken. -/
theorem driveReg1_built (now : Nat)
    (built : ((s.reg.updateActiveConnections s.conns).driveReg1 now).2.isSome = true) :
    s.someConnected = false := by
  rcases (s.reg.updateActiveConnections s.conns).driveReg1_cases now with ⟨-, idle⟩ |
    ⟨target, -, none_active, -⟩
  · rw [idle] at built
    cases built
  · have counted : (s.conns.filter (·.connected)).length = 0 := none_active
    rw [List.length_eq_zero_iff, List.filter_eq_nil_iff] at counted
    rw [someConnected_eq_false]
    intro c member
    exact Bool.eq_false_iff.mpr (counted c member)

theorem SlotFree.driveRegistration (free : s.SlotFree) : (s.driveRegistration env).SlotFree := by
  intro on
  rw [someConnected_of_sameBond (sameBond_driveRegistration env s)] at on
  obtain ⟨grants, flag, broadcast⟩ :=
    ((s.reg.updateActiveConnections s.conns).driveReg1 env.now).1.driveBroadcast_eq s.conns.length
  rw [driveRegistration_reg, broadcast]
  rcases (s.reg.updateActiveConnections s.conns).driveReg1_cases env.now with ⟨h, -⟩ |
    ⟨target, -, -, -, -, built⟩
  · rw [h]
    exact free on
  · have off : s.someConnected = false := driveReg1_built env.now (by rw [built]; rfl)
    exact absurd (on.symm.trans off) Bool.true_eq_false.mp

theorem SlotFree.housekeeping (free : s.SlotFree) (home : s.rehomes env = false) :
    (s.handleHousekeeping env).1.SlotFree := by
  have driven : (s.driven env).SlotFree := (free.reaching env s.conns.length).driveRegistration
  rcases handleHousekeeping_cases env s with ⟨-, conns, reg, -⟩ | ⟨moved, -⟩
  · intro on
    rw [reg]
    refine driven ?_
    simpa only [someConnected, conns] using on
  · exact absurd (moved.symm.trans home) Bool.true_eq_false.mp

theorem srtlaId_housekeepUplink (i : Nat) :
    (s.housekeepUplink env i).reg.srtlaId = s.reg.srtlaId := by
  rcases housekeepUplink_cases env s i with ⟨h, -⟩ | ⟨c, -, -, h⟩ | ⟨c, -, -, h⟩
  · rw [h]
  · rw [h]
  · rw [h]
    rcases resendRegistration_cases s.reg i env.now with ⟨-, resend⟩ | ⟨-, resend⟩ | ⟨j, -, -, resend⟩
    · rw [resend]
      rfl
    · obtain ⟨grants, arm⟩ := s.reg.armReg3Grant_eq i
      rw [resend, arm]
    · rw [resend]

theorem srtlaId_driven : (s.driven env).reg.srtlaId = s.reg.srtlaId := by
  have begun : (s.beginHousekeeping env).reg.srtlaId = s.reg.srtlaId := by
    rw [beginHousekeeping_reg]
    have cleared : (s.reg.clearPendingIfTimedOut env.now).1.srtlaId = s.reg.srtlaId := by
      rcases s.reg.clearPendingIfTimedOut_cases env.now with ⟨h, -⟩ | h
      · rw [h]
      · rw [h]
    rcases (s.reg.clearPendingIfTimedOut env.now).1.checkProbingComplete_cases env.probeNow with
      h | ⟨-, target, h⟩
    · rw [h]
      exact cleared
    · rw [h]
      exact cleared
  have looped : (s.looped env).reg.srtlaId = s.reg.srtlaId :=
    reaching_invariant env s (fun t => t.reg.srtlaId = s.reg.srtlaId) begun
      (fun t i kept => (srtlaId_housekeepUplink i).trans kept) s.conns.length
  obtain ⟨grants, flag, broadcast⟩ := (((s.looped env).reg.updateActiveConnections
    (s.looped env).conns).driveReg1 env.now).1.driveBroadcast_eq (s.looped env).conns.length
  rw [driven, driveRegistration_reg, broadcast]
  rcases ((s.looped env).reg.updateActiveConnections (s.looped env).conns).driveReg1_cases env.now with
    ⟨h, -⟩ | ⟨target, -, -, -, h, -⟩
  · rw [h]
    exact looped
  · rw [h]
    exact looped

theorem keepsGroup_housekeeping (ext : Externals) (free : s.SlotFree)
    (home : s.rehomes env = false) : s.KeepsGroup ext (.housekeeping env) := by
  constructor
  · intro links member c here
    simp only [reg1Builds] at member
    rcases List.mem_append.mp member with resent | drove
    · -- a resent REG1 means a held slot, so nothing was registered in this iteration
      obtain ⟨i, chosen, rfl⟩ := List.mem_map.mp resent
      obtain ⟨-, holds⟩ := List.mem_filter.mp chosen
      simp only [Bool.and_eq_true, beq_iff_eq] at holds
      have slot : (s.reaching env (i + 1)).reg.pendingReg2Idx = some i := by
        rw [reaching_succ]
        rcases housekeepUplink_cases env (s.reaching env i) i with ⟨h, -⟩ | ⟨d, -, -, h⟩ |
          ⟨d, -, -, h⟩
        · rw [h]
          exact holds.2
        · rw [h]
          exact holds.2
        · rw [h]
          exact (resendRegistration_slot _ i env.now).trans holds.2
      have off : (s.reaching env (i + 1)).someConnected = false := by
        by_contra on
        rw [Bool.not_eq_false] at on
        have free' := free.reaching env (i + 1) on
        rw [slot] at free'
        cases free'
      exact someConnected_eq_false.mp off c here
    · split at drove
      case isTrue built =>
        rw [List.mem_singleton.mp drove] at here
        exact someConnected_eq_false.mp (driveReg1_built env.now built) c here
      case isFalse => cases drove
  · intro _
    refine ⟨rfl, ?_⟩
    rw [Sender.step_housekeeping]
    rcases handleHousekeeping_cases env s with ⟨-, -, reg, -⟩ | ⟨moved, -⟩
    · rw [reg]
      exact srtlaId_driven
    · exact absurd (moved.symm.trans home) Bool.true_eq_false.mp

end Pass

end Sender

/-! ### Runs -/

/-- In every run of datagrams and passes that stays with its receiver, from a bond
with no registered uplink, in which no REG3 overtakes the REG2 of the slot and no
REG_NGP comes before the registered links were counted: while some uplink is
registered, the group id is not overwritten and no REG1 is built. -/
theorem group_id_stable (ext : Externals) (start : Sender) (events : List Event)
    (fresh : ∀ c ∈ start.conns, c.connected = false)
    (ordered : EachStep (Sender.step ext) (fun s e => s.staysHome e = true ∧ s.inOrder e = true)
      start events) :
    EachStep (Sender.step ext) (Sender.KeepsGroup ext) start events := by
  refine EachStep.mono_of_invariant Sender.SlotFree ?_ ?_ ?_ ordered
  · rintro s e free ⟨home, order⟩
    cases e with
    | uplink connId bytes env => exact free.uplink ext.hashOf order
    | housekeeping env =>
      have home' : s.rehomes env = false := by simpa only [Sender.staysHome, Bool.not_eq_true'] using home
      exact free.housekeeping home'
    | _ => cases home
  · rintro s e free ⟨home, order⟩
    cases e with
    | uplink connId bytes env => exact Sender.keepsGroup_uplink ext free order
    | housekeeping env =>
      have home' : s.rehomes env = false := by simpa only [Sender.staysHome, Bool.not_eq_true'] using home
      exact Sender.keepsGroup_housekeeping ext free home'
    | _ => cases home
  · intro on
    rw [Sender.someConnected_eq_false.mpr fresh] at on
    cases on

/-- A whole handshake, then a REG_NGP and a REG2 that come too late to be honoured. -/
theorem group_id_stable_handshake :
    EachStep (Sender.step Sample.externals) (Sender.KeepsGroup Sample.externals)
      (Sample.sender [1, 2])
      (Sample.handshake ++ [.housekeeping (Sample.pass 3000 []), Sample.receive 2 Sample.regNgp 3010,
        Sample.receive 2 (Sample.reg2 9) 3020]) :=
  group_id_stable Sample.externals (Sample.sender [1, 2]) _ (by decide +kernel) (by decide +kernel)

/-- A REG_NGP on the second uplink, between the REG3 of the first and the next pass. -/
def Sample.strayNgp : List Event :=
  Sample.grouped ++ [Sample.receive 1 Sample.reg3 2100, Sample.receive 2 Sample.regNgp 2110,
    Sample.receive 2 (Sample.reg2 9) 2120]

/-- It builds a REG1 beside the registered uplink, and the answer overwrites the id. -/
theorem group_id_overwritten_in_use :
    EachStep (Sender.step Sample.externals) (fun s e => s.staysHome e = true)
      (Sample.sender [1, 2]) Sample.strayNgp ∧
    ¬ EachStep (Sender.step Sample.externals) (Sender.KeepsGroup Sample.externals)
      (Sample.sender [1, 2]) Sample.strayNgp := by
  decide +kernel

end SrtlaSend
