import SrtlaSend.Properties.Reload
import SrtlaSend.Properties.SlotRelease

/-!
# The all-links-failed timer

The timer runs while every uplink has timed out. An uplink that registered once stays
timed out until it hears something, whatever happens to its socket. One that never
registered is given a startup grace with every new socket, and the grace alone stops the
timer.
-/

namespace SrtlaSend

open Runs Pointwise SrtlaConnection

/-- The two links have the same time of registration. -/
def SameEstablished (c c' : SrtlaConnection) : Prop :=
  c'.reconnection.connectionEstablishedMs = c.reconnection.connectionEstablishedMs

/-- The uplink has not completed a registration. -/
def SrtlaConnection.neverEstablished (c : SrtlaConnection) : Bool :=
  c.reconnection.connectionEstablishedMs == 0

namespace Sender

/-- The pass opens a new socket for an uplink that never registered and whose grace is over. -/
def rebuildsNew (env : HousekeepingEnv) (s : Sender) : Bool :=
  s.conns.any fun c =>
    c.neverEstablished && c.isTimedOut env.now && c.shouldAttemptReconnect env.now &&
      decide (c.connId ∈ s.connIo) && env.opened c.connId

/-- The pass ends the probing and selects an uplink that never registered. -/
def selectsNew (env : HousekeepingEnv) (s : Sender) : Bool :=
  let reg := (s.reg.clearPendingIfTimedOut env.now).1
  let settled := (reg.checkProbingComplete env.probeNow).1
  reg.isProbing && !settled.isProbing &&
    (settled.getSelectedConnectionIdx.bind (s.conns[·]?)).any (·.neverEstablished)

/-- The pass moves a bond in which an uplink never registered: every uplink is timed out, the
timer is over, the resolver may be asked, and it names none of the addresses the bond is pinned
to. -/
def rehomesNew (env : HousekeepingEnv) (s : Sender) : Bool :=
  s.conns.all (·.isTimedOut env.now) &&
    decide (env.now - s.allFailedAt.getD env.now > globalTimeoutMs) && s.consults env.now &&
    env.rehome.resolved.any (receiverMoved s.pinnedRemotes) && s.conns.any (·.neverEstablished)

/-- Datagrams and passes; while the timer runs, no pass gives a new grace to an uplink that
never registered. -/
def withoutNewGrace (s : Sender) : Event → Bool
  | .uplink _ _ _ => true
  | .housekeeping env =>
    s.allFailedAt.isNone || !(s.rebuildsNew env || s.selectsNew env || s.rehomesNew env)
  | _ => false

/-- An uplink receives a datagram. -/
def hears (s : Sender) : Event → Bool
  | .uplink connId bytes _ => !bytes.isEmpty && (s.conns.findIdx? (·.connId == connId)).isSome
  | _ => false

end Sender

/-! ### Timed-out links -/

section TimedOut

variable {c c' : SrtlaConnection}

/-- A link that hears nothing stays timed out. -/
theorem isTimedOut_mono {now later : Nat} (le : now ≤ later) (h : c.isTimedOut now = true) :
    c.isTimedOut later = true := by
  simp only [isTimedOut] at h ⊢
  cases connected : c.connected with
  | true =>
    simp only [connected, Bool.not_true, Bool.false_eq_true, if_false] at h ⊢
    -- a registered link is judged by the age of what it heard last
    cases heard : c.lastReceived with
    | none => simp [heard] at h
    | some lr =>
      simp only [heard, decide_eq_true_eq] at h ⊢
      omega
  | false =>
    simp only [connected, Bool.not_false, if_true] at h ⊢
    -- a grace that is over at `now` is over later
    split at h
    · cases h
    case isFalse ended =>
      rw [if_neg (by omega)]
      cases heard : c.lastReceived with
      | none => rfl
      | some lr =>
        simp only [heard, decide_eq_true_eq] at h ⊢
        omega

/-- A link that is off and has heard nothing is timed out, unless a startup grace applies. -/
theorem isTimedOut_of_off (off : c.connected = false) (unheard : c.lastReceived = none)
    (noGrace : c.reconnection.connectionEstablishedMs ≠ 0 ∨ c.reconnection.startupGraceDeadlineMs = 0)
    (now : Nat) : c.isTimedOut now = true := by
  simp only [isTimedOut, off, unheard, Bool.not_false, if_true]
  rw [if_neg (by omega)]

/-- The grace of a link that registered once does not matter. -/
theorem isTimedOut_renewGrace (once : c.reconnection.connectionEstablishedMs ≠ 0) (deadline now : Nat) :
    { c with reconnection.startupGraceDeadlineMs := deadline }.isTimedOut now = c.isTimedOut now := by
  simp only [isTimedOut, once, false_and, if_false]

theorem isTimedOut_noteSentIf (connIo : ConnIoMap) (env : HousekeepingEnv) (c : SrtlaConnection)
    (now : Nat) : (Sender.noteSentIf connIo env c).isTimedOut now = c.isTimedOut now := by
  simp only [Sender.noteSentIf]
  split <;> rfl

theorem isTimedOut_moreGrace {deadline now : Nat} (later : now < deadline)
    (alive : c.isTimedOut now = false) :
    { c with reconnection.startupGraceDeadlineMs := deadline }.isTimedOut now = false := by
  simp only [isTimedOut] at alive ⊢
  cases connected : c.connected with
  | true => simpa [connected] using alive
  | false =>
    simp only [connected, Bool.not_false, if_true] at alive ⊢
    by_cases new : c.reconnection.connectionEstablishedMs = 0
    · rw [if_pos ⟨new, later⟩]
    · rw [if_neg fun h => new h.1] at alive ⊢
      exact alive

theorem isTimedOut_serviceUplink (env : HousekeepingEnv) (c : SrtlaConnection) :
    (Sender.serviceUplink env c).isTimedOut env.now = c.isTimedOut env.now :=
  Sender.serviceUplink_invariant (P := fun d => d.isTimedOut env.now = c.isTimedOut env.now) env rfl
    (fun _ same => same) (fun _ same => same) (fun _ same => same) (fun d same => by
      rw [← same]
      simp only [updatePhase]
      repeat' split
      all_goals rfl)
    (fun _ same => same)

/-- A retry leaves its link timed out, unless it opens a new socket for a link that never
registered. -/
theorem isTimedOut_retriedLink (env : HousekeepingEnv) (s : Sender) (i : Nat) (c : SrtlaConnection)
    (old : c.reconnection.connectionEstablishedMs ≠ 0 ∨ ¬ (c.connId ∈ s.connIo ∧ env.opened c.connId = true))
    (now : Nat) : (s.retriedLink env i c).isTimedOut now = true := by
  have rebuilt : (Sender.reconnectUplink s.connIo env c s.tracker).1.isTimedOut now = true := by
    have off := turnedOff_reconnectUplink s.connIo env c s.tracker
    refine isTimedOut_of_off off.connected off.lastReceived ?_ now
    rw [off.established]
    refine old.imp_right fun closed => ?_
    have sameId : (c.recordReconnectAttempt env.now).connId = c.connId := rfl
    simp only [Sender.reconnectUplink, Sender.rebuildUplink, sameId]
    -- without a socket the link is left to recover, and its grace is set to 0
    split
    case isTrue inside =>
      have shut : env.opened c.connId = false := by
        rw [← Bool.not_eq_true]
        exact fun opened => closed ⟨inside, opened⟩
      simp only [rebuildOrRecover, rebuildUplinkSocket, shut, Bool.false_eq_true, if_false]
      rfl
    case isFalse => rfl
  simp only [Sender.retriedLink]
  split
  · rw [isTimedOut_noteSentIf]
    exact rebuilt
  · exact rebuilt

end TimedOut

/-! ### A pass over a dead bond -/

namespace Sender

variable {env : HousekeepingEnv} {s : Sender}

/-- A retry of the link, if it is due, gives no new grace. -/
def RetriesInVain (env : HousekeepingEnv) (s : Sender) (c : SrtlaConnection) : Prop :=
  c.shouldAttemptReconnect env.now = true →
    c.reconnection.connectionEstablishedMs ≠ 0 ∨
      ¬ (c.connId ∈ s.connIo ∧ env.opened c.connId = true)

theorem retriesInVain_of_not_rebuildsNew (old : s.rebuildsNew env = false) {c : SrtlaConnection}
    (member : c ∈ s.conns) (dead : c.isTimedOut env.now = true) : RetriesInVain env s c := by
  intro due
  by_cases once : c.reconnection.connectionEstablishedMs = 0
  · refine Or.inr fun ⟨inside, opened⟩ => ?_
    simp only [rebuildsNew, List.any_eq_false] at old
    refine old c member ?_
    simp only [neverEstablished, once, dead, due, inside, opened, beq_self_eq_true, decide_true,
      Bool.and_self]
  · exact Or.inl once

/-- The start of a pass over a dead bond. -/
theorem timedOut_beginHousekeeping (dead : ∀ c ∈ s.conns, c.isTimedOut env.now = true)
    (old : s.rebuildsNew env = false) (settled : s.selectsNew env = false) :
    ∀ c ∈ (s.beginHousekeeping env).conns, c.isTimedOut env.now = true ∧ RetriesInVain env s c := by
  have unchanged : ∀ c ∈ s.conns, c.isTimedOut env.now = true ∧ RetriesInVain env s c :=
    fun c member => ⟨dead c member, retriesInVain_of_not_rebuildsNew old member (dead c member)⟩
  -- only the end of the probing writes to a link here, and to the selected one alone
  simp only [beginHousekeeping, selectsNew] at settled ⊢
  split
  case isTrue probing =>
    simp only [probing, Bool.true_and] at settled
    split
    case h_1 idx done selected =>
      simp only [done, selected, Bool.not_false, Bool.true_and, Option.bind_some] at settled
      intro c member
      obtain ⟨j, at_j⟩ := List.getElem?_of_mem member
      rw [List.getElem?_modify] at at_j
      obtain ⟨c₀, found, rfl⟩ := Option.map_eq_some_iff.mp at_j
      by_cases same : idx = j
      · -- the selected link registered once, so its grace does not matter
        subst same
        rw [found] at settled
        have once : c₀.reconnection.connectionEstablishedMs ≠ 0 := by
          simpa [neverEstablished] using settled
        simp only [if_true]
        exact ⟨(isTimedOut_renewGrace once _ _).trans (dead c₀ (List.mem_of_getElem? found)),
          fun _ => Or.inl once⟩
      · simp only [if_neg same]
        exact unchanged c₀ (List.mem_of_getElem? found)
    case h_2 => exact unchanged
  case isFalse => exact unchanged

/-- The loop of a pass over a dead bond: nobody comes back. -/
theorem timedOut_reaching (dead : ∀ c ∈ s.conns, c.isTimedOut env.now = true)
    (old : s.rebuildsNew env = false) (settled : s.selectsNew env = false) (i : Nat) :
    (s.reaching env i).connIo = s.connIo ∧
      ∀ (j : Nat) (c : SrtlaConnection), (s.reaching env i).conns[j]? = some c →
        c.isTimedOut env.now = true ∧ (i ≤ j → RetriesInVain env s c) := by
  -- links the loop has passed are dead for good; those ahead are as the pass found them
  induction i with
  | zero =>
    refine ⟨?_, fun j c at_j => ?_⟩
    · rw [reaching_zero]
      simp only [beginHousekeeping]
      split <;> rfl
    · obtain ⟨out, vain⟩ :=
        timedOut_beginHousekeeping dead old settled c (List.mem_of_getElem? at_j)
      exact ⟨out, fun _ => vain⟩
  | succ i ih =>
    obtain ⟨sameIo, links⟩ := ih
    rw [reaching_succ]
    set t := s.reaching env i with t_eq
    cases at_i : t.conns[i]? with
    | none =>
      simp only [housekeepUplink, at_i]
      exact ⟨sameIo, fun j c at_j => ⟨(links j c at_j).1, fun le => (links j c at_j).2 (by omega)⟩⟩
    | some c =>
      obtain ⟨out, vain⟩ := links i c at_i
      cases due : c.shouldAttemptReconnect env.now with
      | false =>
        simp only [housekeepUplink, at_i, out, due, if_true, Bool.false_eq_true, if_false]
        exact ⟨sameIo, fun j c at_j => ⟨(links j c at_j).1, fun le => (links j c at_j).2 (by omega)⟩⟩
      | true =>
        have retried : (t.housekeepUplink env i).conns = t.conns.set i (t.retriedLink env i c) ∧
            (t.housekeepUplink env i).connIo = t.connIo := by
          simp only [housekeepUplink, at_i, out, due, if_true]
          exact ⟨rfl, trivial⟩
        rw [retried.1, retried.2]
        refine ⟨sameIo, fun j d at_j => ?_⟩
        -- the link whose turn it is, or another one
        by_cases same : i = j
        · subst same
          rw [List.getElem?_set_self (List.getElem?_eq_some_iff.mp at_i).1] at at_j
          obtain rfl := Option.some.inj at_j
          have failed := vain (le_refl i) due
          rw [← sameIo] at failed
          exact ⟨isTimedOut_retriedLink env t i c failed env.now, fun le => absurd le (by omega)⟩
        · rw [List.getElem?_set_ne same] at at_j
          exact ⟨(links j d at_j).1, fun le => (links j d at_j).2 (by omega)⟩

/-- The driver does not bring a link back, or lose one. -/
theorem sameTimeout_driveRegistration (env : HousekeepingEnv) (s : Sender) :
    List.Forall₂ (fun c c' : SrtlaConnection => c'.isTimedOut env.now = c.isTimedOut env.now)
      (s.looped env).conns (s.driven env).conns :=
  forall₂_driveRegistration env (s.looped env) (fun _ => rfl) (fun _ _ _ h h' => h'.trans h)
    fun c => isTimedOut_noteSentIf _ env c env.now

/-- A pass that gives no new grace leaves a dead bond dead. -/
theorem timedOut_driven (dead : ∀ c ∈ s.conns, c.isTimedOut env.now = true)
    (old : s.rebuildsNew env = false) (settled : s.selectsNew env = false) :
    ∀ c ∈ (s.driven env).conns, c.isTimedOut env.now = true := by
  intro c' member
  obtain ⟨j, at_j⟩ := List.getElem?_of_mem member
  obtain ⟨c, found, same⟩ := getElem?_of_forall₂_right (sameTimeout_driveRegistration env s) at_j
  rw [same]
  exact ((timedOut_reaching dead old settled s.conns.length).2 j c found).1

/-- A pass leaves an uplink that is not timed out as it is in this. -/
theorem alive_driven {j : Nat} {c : SrtlaConnection} (at_j : s.conns[j]? = some c)
    (alive : c.isTimedOut env.now = false) :
    ∃ c' ∈ (s.driven env).conns, c'.isTimedOut env.now = false := by
  have looped : ∃ d, (s.looped env).conns[j]? = some d ∧ d.isTimedOut env.now = false := by
    refine reaching_invariant env s
      (fun t => ∃ d, t.conns[j]? = some d ∧ d.isTimedOut env.now = false) ?_ ?_ _
    · -- the selected uplink gets more time
      simp only [beginHousekeeping]
      split
      · split
        · refine ⟨_, by rw [List.getElem?_modify, at_j]; rfl, ?_⟩
          split
          · exact isTimedOut_moreGrace (Nat.lt_add_of_pos_right (by decide)) alive
          · exact alive
        · exact ⟨c, at_j, alive⟩
      · exact ⟨c, at_j, alive⟩
    · intro t i held
      obtain ⟨d, at_j, alive⟩ := held
      by_cases here : i = j
      · subst here
        refine ⟨serviceUplink env d, ?_, (isTimedOut_serviceUplink env d).trans alive⟩
        simp only [housekeepUplink, at_j, alive, Bool.false_eq_true, if_false]
        exact List.getElem?_set_self (List.getElem?_eq_some_iff.mp at_j).1
      · refine ⟨d, ?_, alive⟩
        rcases housekeepUplink_cases env t i with ⟨h, -⟩ | ⟨e, -, -, h⟩ | ⟨e, -, -, h⟩
        · rw [h]
          exact at_j
        · rw [h]
          exact (List.getElem?_set_ne here).trans at_j
        · rw [h]
          exact (List.getElem?_set_ne here).trans at_j
  obtain ⟨d, at_j, alive⟩ := looped
  obtain ⟨c', found, same⟩ := getElem?_of_forall₂ (sameTimeout_driveRegistration env s) at_j
  exact ⟨c', List.mem_of_getElem? found, same.trans alive⟩

/-! ### The timer -/

theorem allFailedAt_handleUplinkPacket (hashOf : Bytes → Nat) (s : Sender) (connId : Nat)
    (bytes : Bytes) (env : UplinkEnv) :
    (s.handleUplinkPacket hashOf connId bytes env).allFailedAt = s.allFailedAt :=
  congrArg (fun t => t.allFailedAt) (s.handleUplinkPacket_frame hashOf connId bytes env)

/-- A pass does not change whether a link has registered once. -/
theorem established_driven (env : HousekeepingEnv) (s : Sender) :
    List.Forall₂ SameEstablished s.conns (s.driven env).conns := by
  have refl : ∀ c, SameEstablished c c := fun _ => rfl
  have compose : ∀ a b c, SameEstablished a b → SameEstablished b c → SameEstablished a c :=
    fun _ _ _ h h' => Eq.trans h' h
  have looped : List.Forall₂ SameEstablished s.conns (s.looped env).conns := by
    refine reaching_invariant env s (fun t => List.Forall₂ SameEstablished s.conns t.conns)
      ((sameBond_beginHousekeeping env s).imp fun _ _ h => h.established) (fun t i kept => ?_) _
    rcases housekeepUplink_cases env t i with ⟨h, -⟩ | ⟨c, at_i, -, h⟩ | ⟨c, at_i, -, h⟩
    · rw [h]
      exact kept
    · have serviced : SameEstablished c (serviceUplink env c) := (sameLife_serviceUplink env c).established
      rw [h]
      exact forall₂_trans compose kept (forall₂_set refl at_i serviced)
    · have retried : SameEstablished c (t.retriedLink env i c) := (turnedOff_retriedLink env t i c).established
      rw [h]
      exact forall₂_trans compose kept (forall₂_set refl at_i retried)
  exact forall₂_trans compose looped
    ((sameBond_driveRegistration env (s.looped env)).imp fun _ _ h => h.established)

/-- The bond is pinned to the same addresses until the pass moves it. -/
theorem pinnedRemotes_driven (env : HousekeepingEnv) (s : Sender) :
    (s.driven env).pinnedRemotes = s.pinnedRemotes := by
  have looked (t : Sender) :
      t.pinnedRemotes = ((t.conns.map (·.connId)).filterMap t.connIo.lookup).eraseDups := by
    rw [pinnedRemotes, List.filterMap_map]
    rfl
  rw [looked, looked, (sameUplinks_driven env s).connIds, (sameSetting_driven env s).connIo]

/-- What a move needs was there before the pass. -/
theorem rehomesNew_of_rehomes (moved : s.rehomes env = true)
    (new : s.conns.any (·.neverEstablished) = true) : s.rehomesNew env = true := by
  have kept := sameSetting_driven env s
  cases s.passEnd env with
  | alive _ stays => exact absurd (moved.symm.trans stays) Bool.true_eq_false.mp
  | allFailed _ stays => exact absurd (moved.symm.trans stays) Bool.true_eq_false.mp
  | moved dead _ failedAt timer long newRemote others asked answer away =>
    have dead' : s.conns.all (·.isTimedOut env.now) = true := by
      rw [List.all_eq_true]
      intro c member
      rw [← Bool.not_eq_false]
      intro alive
      obtain ⟨j, at_j⟩ := List.getElem?_of_mem member
      obtain ⟨c', member', alive'⟩ := alive_driven at_j alive
      rw [dead c' member'] at alive'
      cases alive'
    -- neither the timer, nor the gate, nor the addresses have changed on the way
    rw [kept.allFailedAt] at timer
    rw [Sender.consults, kept.rehome, pinnedRemotes_driven] at asked
    rw [pinnedRemotes_driven] at away
    have long' : env.now - s.allFailedAt.getD env.now > globalTimeoutMs := by
      rw [timer]
      exact long
    simp only [rehomesNew, dead', long', Sender.consults, asked, answer, Option.any_some, away, new,
      decide_true, Bool.and_self]

/-- After a move every link is off, and has registered once or not as before. -/
theorem turnedOff_rehomeBond (s : Sender) (newRemote : SocketAddr) (env : RehomeEnv) (now : Nat) :
    List.Forall₂ TurnedOff s.conns (s.rehomeBond newRemote env now).conns := by
  have rebuilt (connIo : ConnIoMap) (conns : List SrtlaConnection) (tracker : SequenceTracker) :
      List.Forall₂ TurnedOff conns (rebuildAll connIo env.opened now conns tracker).1 := by
    induction conns generalizing tracker with
    | nil => exact List.Forall₂.nil
    | cons c rest ih => exact List.Forall₂.cons (turnedOff_rebuildUplink connIo env.opened now c tracker) (ih _)
  have probed (r : SrtlaRegistrationManager) (conns : List SrtlaConnection) :
      List.Forall₂ SameLife conns (r.startProbing conns now).2.1 := by
    simp only [SrtlaRegistrationManager.startProbing]
    split
    · exact List.forall₂_same.mpr fun c _ => SameLife.refl c
    · rw [List.map_map]
      exact forall₂_map (fun c => ⟨rfl, Iff.rfl, rfl, rfl, rfl⟩) conns
  rw [rehomeBond_conns]
  exact forall₂_trans (fun _ _ _ off same => off.thenSame same) (rebuilt _ s.conns s.tracker)
    (probed _ _)

/-- What a pass does to the timer: it stops it with a live link, lets it run or starts it,
or starts it anew after a move. -/
theorem allFailedAt_cases (env : HousekeepingEnv) (s : Sender) :
    ((∃ c ∈ (s.driven env).conns, c.isTimedOut env.now = false) ∧
      (s.handleHousekeeping env).1.allFailedAt = none) ∨
    ((∀ c ∈ (s.driven env).conns, c.isTimedOut env.now = true) ∧
      (s.handleHousekeeping env).1.allFailedAt = some (s.allFailedAt.getD env.now) ∧
      (s.handleHousekeeping env).1.conns = (s.driven env).conns) ∨
    (s.rehomes env = true ∧ s.allFailedAt.isSome = true ∧
      (s.handleHousekeeping env).1.allFailedAt = some env.now ∧
      List.Forall₂ TurnedOff (s.driven env).conns (s.handleHousekeeping env).1.conns) := by
  rw [← (sameSetting_driven env s).allFailedAt]
  cases s.passEnd env with
  | alive live _ after =>
    rw [after]
    exact Or.inl ⟨live, rfl⟩
  | allFailed dead _ rehome after =>
    rw [after]
    exact Or.inr (Or.inl ⟨dead, rfl, rfl⟩)
  | moved _ moves _ timer _ newRemote _ _ _ _ rehome after =>
    rw [after, timer]
    exact Or.inr (Or.inr ⟨moves, rfl, rfl,
      turnedOff_rehomeBond (s.driven env) newRemote env.rehome env.now⟩)

end Sender

/-! ### Every run -/

/-- A datagram was received while the timer ran with the stamp it still has. -/
def HeardWhileArmed (ext : Externals) (start : Sender) (events : List Event) (failedAt : Nat) : Prop :=
  ∃ first e rest, events = first ++ e :: rest ∧ (run (Sender.step ext) start first).hears e = true ∧
    (run (Sender.step ext) start first).allFailedAt = some failedAt ∧
    ∀ mid tail, rest = mid ++ tail →
      (run (Sender.step ext) start (first ++ e :: mid)).allFailedAt = some failedAt

section Runs

variable {ext : Externals} {start : Sender} {events : List Event} {failedAt : Nat}

theorem HeardWhileArmed.extend (heard : HeardWhileArmed ext start events failedAt) {e : Event}
    (same : (run (Sender.step ext) start (events ++ [e])).allFailedAt = some failedAt) :
    HeardWhileArmed ext start (events ++ [e]) failedAt := by
  obtain ⟨first, q, rest, rfl, hears, before, all⟩ := heard
  refine ⟨first, q, rest ++ [e], by simp, hears, before, forall_prefix_concat all ?_⟩
  simpa using same

theorem HeardWhileArmed.new {e : Event} (hears : (run (Sender.step ext) start events).hears e = true)
    (before : (run (Sender.step ext) start events).allFailedAt = some failedAt)
    (same : (run (Sender.step ext) start (events ++ [e])).allFailedAt = some failedAt) :
    HeardWhileArmed ext start (events ++ [e]) failedAt := by
  refine ⟨events, e, [], rfl, hears, before, fun mid tail cut => ?_⟩
  obtain ⟨rfl, -⟩ := List.append_eq_nil_iff.mp cut.symm
  exact same

/-- While the timer runs and nothing has been heard, every link is timed out, now and at any
later time. -/
def TimerIsTrue (ext : Externals) (start : Sender) (events : List Event) : Prop :=
  ∀ failedAt, (run (Sender.step ext) start events).allFailedAt = some failedAt →
    HeardWhileArmed ext start events failedAt ∨
      ∀ now, (∀ e ∈ events, e.time ≤ now) →
        ∀ c ∈ (run (Sender.step ext) start events).conns, c.isTimedOut now = true

/-- A datagram is heard, or it changes nothing. -/
theorem TimerIsTrue.uplink (truth : TimerIsTrue ext start events) (connId : Nat) (bytes : Bytes)
    (env : UplinkEnv) : TimerIsTrue ext start (events ++ [.uplink connId bytes env]) := by
  intro failedAt armed
  have after : run (Sender.step ext) start (events ++ [.uplink connId bytes env]) =
      (run (Sender.step ext) start events).handleUplinkPacket ext.hashOf connId bytes env := by
    rw [run_append, run_cons, run_nil]
    rfl
  have before : (run (Sender.step ext) start events).allFailedAt = some failedAt := by
    rw [← armed, after, Sender.allFailedAt_handleUplinkPacket]
  cases hears : (run (Sender.step ext) start events).hears (.uplink connId bytes env) with
  | true => exact Or.inl (HeardWhileArmed.new hears before armed)
  -- an empty datagram, or one for an unknown uplink, is dropped
  | false =>
    have ignored : (run (Sender.step ext) start events).handleUplinkPacket ext.hashOf connId bytes env =
        run (Sender.step ext) start events := by
      rcases Sender.handleUplinkPacket_cases ext.hashOf _ connId bytes env with
        ⟨same, -⟩ | ⟨i, c, c', found, -⟩
      · exact same
      · simp only [Sender.hears, found, Option.isSome_some, Bool.and_true, Bool.not_eq_false'] at hears
        simp only [Sender.handleUplinkPacket, hears, if_true]
    refine (truth failedAt before).imp (·.extend armed) fun dead now bound => ?_
    rw [after, ignored]
    exact dead now fun e member => bound e (List.mem_append_left _ member)

/-- When a pass that gives no new grace lets the timer run, every link is timed out for good. -/
theorem timerIsTrue_housekeeping (env : HousekeepingEnv)
    (honest : (run (Sender.step ext) start events).withoutNewGrace (.housekeeping env) = true) :
    TimerIsTrue ext start (events ++ [.housekeeping env]) := by
  intro failedAt armed
  set s := run (Sender.step ext) start events with s_eq
  have after : run (Sender.step ext) start (events ++ [.housekeeping env]) =
      (s.handleHousekeeping env).1 := by
    rw [run_append, run_cons, run_nil]
    rfl
  right
  intro now bound c' member
  have le : env.now ≤ now := bound (.housekeeping env) (by simp)
  rw [after] at armed member
  rcases Sender.allFailedAt_cases env s with ⟨-, stopped⟩ | ⟨dead, -, conns⟩ | ⟨moved, running, -, off⟩
  · rw [stopped] at armed
    cases armed
  · rw [conns] at member
    exact isTimedOut_mono le (dead c' member)
  · -- every link of a bond that may move has registered once
    obtain ⟨j, at_j⟩ := List.getElem?_of_mem member
    obtain ⟨c, found, turned⟩ := getElem?_of_forall₂_right off at_j
    obtain ⟨c₀, found₀, same⟩ := getElem?_of_forall₂_right (Sender.established_driven env s) found
    have once : c₀.reconnection.connectionEstablishedMs ≠ 0 := by
      have none : s.allFailedAt.isNone = false := by
        rw [Option.isNone_eq_false_iff]
        exact running
      simp only [Sender.withoutNewGrace, none, Bool.false_or, Bool.not_eq_true',
        Bool.or_eq_false_iff] at honest
      intro never
      have new : s.conns.any (·.neverEstablished) = true :=
        List.any_eq_true.mpr ⟨c₀, List.mem_of_getElem? found₀, by simp [neverEstablished, never]⟩
      rw [Sender.rehomesNew_of_rehomes moved new] at honest
      cases honest.2
    refine isTimedOut_of_off turned.connected turned.lastReceived (Or.inl ?_) now
    rw [turned.established, same]
    exact once

theorem timerIsTrue_run (idle : start.allFailedAt = none)
    (steps : EachStep (Sender.step ext) (fun s e => s.withoutNewGrace e = true) start events) :
    TimerIsTrue ext start events := by
  induction events using List.reverseRecOn with
  | nil =>
    intro failedAt armed
    rw [run_nil, idle] at armed
    cases armed
  | append_singleton events e ih =>
    obtain ⟨before, last⟩ := (eachStep_append _ _ _ _ _).mp steps
    -- the condition leaves datagrams and passes only
    have honest := last.1
    cases e with
    | uplink connId bytes env => exact (ih before).uplink connId bytes env
    | housekeeping env => exact timerIsTrue_housekeeping env honest
    | _ => cases honest

end Runs

/-- In a run of datagrams and passes in which no pass gives an uplink that never registered a
new grace while the timer runs, the timer is stopped only if a datagram was received since it
was armed. -/
theorem timer_stopped_by_datagram (ext : Externals) (start : Sender) (events : List Event)
    (idle : start.allFailedAt = none)
    (clock : events.Pairwise fun e e' => e.time ≤ e'.time)
    (steps : EachStep (Sender.step ext) (fun s e => s.withoutNewGrace e = true) start events) :
    ∀ before env after, events = before ++ .housekeeping env :: after → ∀ failedAt,
      (run (Sender.step ext) start before).allFailedAt = some failedAt →
      (run (Sender.step ext) start (before ++ [.housekeeping env])).allFailedAt = none →
      HeardWhileArmed ext start before failedAt := by
  rintro before env after rfl failedAt armed stopped
  obtain ⟨earlier, rest⟩ := (eachStep_append _ _ _ _ _).mp steps
  have honest := rest.1
  rcases timerIsTrue_run idle earlier failedAt armed with heard | dead
  · exact heard
  · -- nothing was heard, so the bond is dead, and the pass leaves it dead
    exfalso
    have late : ∀ e ∈ before, e.time ≤ env.now := fun e member =>
      (List.pairwise_append.mp clock).2.2 e member _ List.mem_cons_self
    simp only [Sender.withoutNewGrace, armed, Option.isNone_some, Bool.false_or, Bool.not_eq_true',
      Bool.or_eq_false_iff] at honest
    have still := Sender.timedOut_driven (dead env.now late) honest.1.1 honest.1.2
    rw [run_append, run_cons, run_nil, Sender.step_housekeeping] at stopped
    rcases Sender.allFailedAt_cases env (run (Sender.step ext) start before) with
      ⟨⟨c, member, alive⟩, -⟩ | ⟨-, timer, -⟩ | ⟨-, -, timer, -⟩
    · rw [still c member] at alive
      cases alive
    · rw [timer] at stopped
      cases stopped
    · rw [timer] at stopped
      cases stopped

namespace Sample

/-- Nobody answers, and at nine seconds no socket can be opened. -/
def unanswering : List Event := [.housekeeping (pass 3000 []), .housekeeping (pass 9000 [1, 2])]

end Sample

/-- The timer runs from nine seconds on; a datagram on the first uplink stops it. -/
theorem timer_stopped_by_datagram_heard :
    let events := Sample.unanswering ++ [Sample.receive 1 [0, 0] 9500]
    (run (Sender.step Sample.externals) (Sample.sender [1, 2]) events).allFailedAt = some 9000 ∧
      (run (Sender.step Sample.externals) (Sample.sender [1, 2])
        (events ++ [.housekeeping (Sample.pass 10000 [1, 2])])).allFailedAt = none ∧
      HeardWhileArmed Sample.externals (Sample.sender [1, 2]) events 9000 := by
  intro events
  have armed : (run (Sender.step Sample.externals) (Sample.sender [1, 2]) events).allFailedAt =
      some 9000 := by
    decide +kernel
  have stopped : (run (Sender.step Sample.externals) (Sample.sender [1, 2])
      (events ++ [.housekeeping (Sample.pass 10000 [1, 2])])).allFailedAt = none := by
    decide +kernel
  exact ⟨armed, stopped, timer_stopped_by_datagram Sample.externals (Sample.sender [1, 2])
    (events ++ [.housekeeping (Sample.pass 10000 [1, 2])]) rfl (by decide) (by decide +kernel) events _ []
    rfl 9000 armed stopped⟩

/-- No datagram is ever received. The timer runs from nine seconds on, and the new sockets of
the next pass stop it. -/
theorem rebuild_stops_timer :
    (Sample.unanswering ++ [Event.housekeeping (Sample.pass 10000 [])]).Pairwise
        (fun e e' => e.time ≤ e'.time) ∧
      (run (Sender.step Sample.externals) (Sample.sender [1, 2]) Sample.unanswering).allFailedAt =
        some 9000 ∧
      (run (Sender.step Sample.externals) (Sample.sender [1, 2])
        (Sample.unanswering ++ [.housekeeping (Sample.pass 10000 [])])).allFailedAt = none ∧
      ¬ HeardWhileArmed Sample.externals (Sample.sender [1, 2]) Sample.unanswering 9000 := by
  refine ⟨by decide, by decide +kernel, by decide +kernel, ?_⟩
  rintro ⟨first, e, rest, cut, hears, -⟩
  have member : e ∈ Sample.unanswering := by
    rw [cut]
    exact List.mem_append_right _ List.mem_cons_self
  simp only [Sample.unanswering, List.mem_cons, List.not_mem_nil, or_false] at member
  rcases member with rfl | rfl
  · cases hears
  · cases hears

end SrtlaSend
