import SrtlaSend.Lib.Spacing
import SrtlaSend.Properties.Delivery
import SrtlaSend.Properties.SlotRelease
import SrtlaSend.Properties.UplinkTasks

/-!
# Pacing of retries

An uplink that was registered and then lost is rebuilt by housekeeping until the receiver
registers it again: four times about a second apart, and then every five seconds. The log of its
retries since its last registration keeps these gaps over every run of the bond, whatever a move
to another receiver or a reload does in between.
-/

namespace SrtlaSend

open Runs Pointwise Spacing

namespace ReconnectionState

/-- The least time to the next retry after `count` of them: the delay less the slack of a tick. -/
def retryGap (count : Nat) : Nat :=
  (if count < fastRetryAttempts then fastRetryDelayMs else slowRetryDelayMs) - tickSlackMs

/-- The saturation of the count does not shorten a gap. -/
theorem retryGap_min (count : Nat) : retryGap (min count (2 ^ 32 - 1)) = retryGap count := by
  have same : min count (2 ^ 32 - 1) < fastRetryAttempts ↔ count < fastRetryAttempts := by
    unfold fastRetryAttempts
    omega
  simp only [retryGap, same]

theorem retryGap_slow {count : Nat} (slow : 4 ≤ count) : retryGap count = 4500 := by
  simp only [retryGap, fastRetryAttempts, Nat.not_lt.mpr slow, if_false]
  rfl

theorem retryGap_le_of_due {r : ReconnectionState} {now : Nat} (once : r.connectionEstablishedMs ≠ 0)
    (attempted : r.lastReconnectAttemptMs ≠ 0) (due : r.shouldAttemptReconnect now = true) :
    r.lastReconnectAttemptMs + retryGap r.reconnectFailureCount ≤ now := by
  have elapsed : r.retryDelay ≤ now - r.lastReconnectAttemptMs + tickSlackMs := by
    simp only [shouldAttemptReconnect, once, attempted, if_false, elapsedReaches] at due
    exact of_decide_eq_true due
  have slack : tickSlackMs < r.retryDelay := by
    unfold retryDelay
    split <;> decide
  have gap : retryGap r.reconnectFailureCount = r.retryDelay - tickSlackMs := rfl
  omega

end ReconnectionState

open ReconnectionState

namespace SrtlaConnection

/-- The write does not touch when and how often the link was retried. -/
def SameRetries (c c' : SrtlaConnection) : Prop :=
  (c'.reconnection.lastReconnectAttemptMs, c'.reconnection.reconnectFailureCount,
      c'.reconnection.connectionEstablishedMs) =
    (c.reconnection.lastReconnectAttemptMs, c.reconnection.reconnectFailureCount,
      c.reconnection.connectionEstablishedMs)

theorem SameRetries.refl (c : SrtlaConnection) : SameRetries c c := rfl

theorem SameRetries.trans {a b c : SrtlaConnection} (h : SameRetries a b) (h' : SameRetries b c) :
    SameRetries a c := Eq.trans h' h

theorem sameRetries_of_eq {c c' : SrtlaConnection} (same : c'.reconnection = c.reconnection) :
    SameRetries c c' := by
  rw [SameRetries, same]

/-- The write may stamp the link at `now`, as a new socket does, and counts nothing. -/
structure Stamped (now : Nat) (c c' : SrtlaConnection) : Prop where
  count : c'.reconnection.reconnectFailureCount = c.reconnection.reconnectFailureCount
  established : c'.reconnection.connectionEstablishedMs = c.reconnection.connectionEstablishedMs
  last : c'.reconnection.lastReconnectAttemptMs = c.reconnection.lastReconnectAttemptMs ∨
    c'.reconnection.lastReconnectAttemptMs = now

namespace Stamped

variable {now : Nat}

theorem of_same {c c' : SrtlaConnection} (same : SameRetries c c') : Stamped now c c' := by
  simp only [SameRetries, Prod.mk.injEq] at same
  exact ⟨same.2.1, same.2.2, Or.inl same.1⟩

theorem trans {a b c : SrtlaConnection} (h : Stamped now a b) (h' : Stamped now b c) :
    Stamped now a c := by
  refine ⟨h'.count.trans h.count, h'.established.trans h.established, ?_⟩
  rcases h'.last with kept | stamped
  · exact h.last.imp kept.trans kept.trans
  · exact Or.inr stamped

end Stamped

theorem stamped_rebuild (env : HousekeepingEnv) : RebuildRelation env.now (Stamped env.now) where
  refl c := .of_same (SameRetries.refl c)
  trans _ _ _ := Stamped.trans
  renewGrace _ _ := .of_same rfl
  recover _ := .of_same rfl
  reset _ := ⟨rfl, rfl, Or.inr rfl⟩

/-! ### Events that retry nothing -/

theorem sameRetries_of_feedback {c c' : SrtlaConnection} (same : SameUpToFeedback c c') :
    SameRetries c c' := by
  rw [same]
  rfl

theorem sameRetries_of_phase {c c' : SrtlaConnection} (same : SameUpToPhase c c') :
    SameRetries c c' := by
  rw [same.frame]
  rfl

theorem sameRetries_traffic (calculate : SrtlaConnection → Nat → ℚ) :
    TrafficRelation calculate SameRetries where
  refl := SameRetries.refl
  trans _ _ _ := SameRetries.trans
  select conns lastIdx now config := by
    refine (selectConnectionIdx_frame calculate conns lastIdx now config).imp fun c c' frame => ?_
    rw [frame]
    simp only [withPass, withGates, withElection, refreshTimeouts]
    rfl
  queueData _ _ _ _ := rfl
  queueProbe _ _ _ _ := rfl
  probeTurn c := by
    simp only [stallProbeDue]
    split <;> rfl
  takeBatch c now := by
    have queue : SameRetries c { c with batchSender := (c.batchSender.drain now).1 } := rfl
    exact queue.trans (sameRetries_of_feedback (takeBatch_frame c now))
  noteSent _ _ := rfl
  recover _ := rfl

theorem sameRetries_feedback : FeedbackRelation SameRetries :=
  .of_frame SameRetries.refl (fun _ _ _ => SameRetries.trans) fun _ _ => sameRetries_of_feedback

end SrtlaConnection

open SrtlaConnection

/-- A datagram from the receiver leaves the retries of its link alone, unless it registers it. -/
theorem retries_processUplinkPacket (hashOf : Bytes → Nat) (c : SrtlaConnection) (i : Nat)
    (reg : SrtlaRegistrationManager) (clientAddr : Option SocketAddr) (dedup : ClientDedup)
    (data : Bytes) (now : Nat) :
    let c' := (processUplinkPacket hashOf c i reg clientAddr dedup data now).conn
    if (reg.processRegistrationPacket i data now).2 = some .reg3 then
      c'.reconnection.reconnectFailureCount = 0 ∧
        c'.reconnection.lastReconnectAttemptMs = c.reconnection.lastReconnectAttemptMs
    else SameRetries c c' := by
  have heard : SameRetries c (c.noteReceived now) := by
    unfold noteReceived
    split <;> rfl
  intro c'
  rcases conn_processUplinkPacket hashOf c i reg clientAddr dedup data now with ⟨event, h⟩ |
    ⟨other, h | h | h | h⟩
  · -- the count starts anew
    rw [if_pos event, show c' = c.acceptReg3 now from h]
    simp only [acceptReg3, markReconnectSuccess, ReconnectionState.markSuccess]
    split
    · exact ⟨rfl, rfl⟩
    case isFalse none_failed => exact ⟨Nat.eq_zero_of_not_pos none_failed, rfl⟩
  · rw [if_neg other, show c' = c from h]
    exact SameRetries.refl c
  · rw [if_neg other, show c' = c.acceptRegErr from h]
    rfl
  · rw [if_neg other, show c' = c.noteReceived now from h]
    exact heard
  · rw [if_neg other, show c' = (c.noteReceived now).handleKeepaliveEcho data now from h]
    exact heard.trans (sameRetries_of_phase (handleKeepaliveEcho_frame _ data now))

namespace Sender

variable {ext : Externals} {s : Sender} {env : HousekeepingEnv} {i : Nat} {c c' : SrtlaConnection}

theorem retries_handleUplinkPacket {connId : Nat} {bytes : Bytes} {env : UplinkEnv}
    (at_i : s.conns[i]? = some c)
    (at_i' : (s.handleUplinkPacket ext.hashOf connId bytes env).conns[i]? = some c') :
    if s.report (.uplink connId bytes env) = some (i, .reg3) then
      c'.reconnection.reconnectFailureCount = 0 ∧
        c'.reconnection.lastReconnectAttemptMs = c.reconnection.lastReconnectAttemptMs
    else SameRetries c c' := by
  rcases sameRetries_feedback.handleUplinkPacket (fun _ _ => rfl) ext.hashOf s connId bytes env with
    ⟨same, silent⟩ | ⟨idx, d, at_idx, reported, fed⟩
  · rw [same] at at_i'
    obtain rfl := Option.some.inj (at_i.symm.trans at_i')
    rw [silent, if_neg (Option.some_ne_none _).symm]
    exact SameRetries.refl c
  -- what the feedback starts from at this position
  obtain ⟨c₁, at_c₁, kept⟩ := getElem?_of_forall₂_right fed at_i'
  by_cases here : i = idx
  · subst here
    obtain rfl := Option.some.inj (at_i.symm.trans at_idx)
    rw [List.getElem?_set_self (List.getElem?_eq_some_iff.mp at_i).1] at at_c₁
    obtain rfl := Option.some.inj at_c₁
    have own := retries_processUplinkPacket ext.hashOf c i s.reg s.lastClientAddr s.dedup bytes env.now
    have event_iff : s.report (.uplink connId bytes env) = some (i, .reg3) ↔
        (s.reg.processRegistrationPacket i bytes env.now).2 = some .reg3 := by
      rw [reported]
      cases (s.reg.processRegistrationPacket i bytes env.now).2 with
      | none => simp
      | some event => simp
    simp only [event_iff]
    split at own
    case isTrue event =>
      simp only [event, if_true]
      simp only [SameRetries, Prod.mk.injEq] at kept
      exact ⟨kept.2.1.trans own.1, kept.1.trans own.2⟩
    case isFalse event =>
      simp only [event, if_false]
      exact own.trans kept
  · -- the datagram belongs to another link
    have elsewhere : s.report (.uplink connId bytes env) ≠ some (i, .reg3) := by
      rw [reported]
      cases (s.reg.processRegistrationPacket idx bytes env.now).2 with
      | none => simp
      | some event => simp [Ne.symm here]
    rw [List.getElem?_set_ne (Ne.symm here)] at at_c₁
    obtain rfl := Option.some.inj (at_i.symm.trans at_c₁)
    rw [if_neg elsewhere]
    exact kept

/-! ### A pass -/

/-- What a pass at `now` does to the retries of a link. It retries a link that is due, or leaves
the count as it is; a move of the bond stamps every link. -/
structure PassEffect (now : Nat) (retried : Bool) (c c' : SrtlaConnection) : Prop where
  established :
    c'.reconnection.connectionEstablishedMs = c.reconnection.connectionEstablishedMs
  due : retried = true → c.reconnection.connectionEstablishedMs ≠ 0 →
    c.reconnection.lastReconnectAttemptMs ≠ 0 →
      c.reconnection.lastReconnectAttemptMs + retryGap c.reconnection.reconnectFailureCount ≤ now
  count : c.reconnection.connectionEstablishedMs ≠ 0 →
    c'.reconnection.reconnectFailureCount =
      if retried then min (c.reconnection.reconnectFailureCount + 1) (2 ^ 32 - 1)
      else c.reconnection.reconnectFailureCount
  last : c'.reconnection.lastReconnectAttemptMs = now ∨
    retried = false ∧
      c'.reconnection.lastReconnectAttemptMs = c.reconnection.lastReconnectAttemptMs

namespace PassEffect

variable {now : Nat} {retried : Bool} {b d : SrtlaConnection}

theorem quiet (same : SameRetries c c') : PassEffect now false c c' := by
  simp only [SameRetries, Prod.mk.injEq] at same
  exact ⟨same.2.2, fun h => absurd h Bool.false_ne_true, fun _ => same.2.1, Or.inr ⟨rfl, same.1⟩⟩

theorem of_same (same : SameRetries b c) (effect : PassEffect now retried c c') :
    PassEffect now retried b c' := by
  simp only [SameRetries, Prod.mk.injEq] at same
  obtain ⟨last, count, established⟩ := same
  refine ⟨effect.established.trans established, ?_, ?_, ?_⟩
  · rw [← established, ← last, ← count]
    exact effect.due
  · rw [← established, ← count]
    exact effect.count
  · rw [← last]
    exact effect.last

theorem stamped (effect : PassEffect now retried c d) (after : Stamped now d c') :
    PassEffect now retried c c' := by
  refine ⟨after.established.trans effect.established, effect.due,
    fun once => after.count.trans (effect.count once), ?_⟩
  rcases after.last with kept | stamped
  · exact effect.last.imp kept.trans (And.imp_right kept.trans)
  · exact Or.inl stamped

theorem attempt (due : c.shouldAttemptReconnect now = true) :
    PassEffect now true c (c.recordReconnectAttempt now) := by
  refine ⟨?_, fun _ once attempted => retryGap_le_of_due once attempted due, fun once => ?_, Or.inl ?_⟩
  · simp only [recordReconnectAttempt, ReconnectionState.recordAttempt]
    split <;> rfl
  · simp only [recordReconnectAttempt, ReconnectionState.recordAttempt, once, if_false, if_true]
  · simp only [recordReconnectAttempt, ReconnectionState.recordAttempt]
    split <;> rfl

end PassEffect

theorem passEffect_retriedLink (due : c.shouldAttemptReconnect env.now = true) :
    PassEffect env.now true c (s.retriedLink env i c) := by
  have rebuilt : PassEffect env.now true c (reconnectUplink s.connIo env c s.tracker).1 :=
    (PassEffect.attempt due).stamped
      ((stamped_rebuild env).rebuildUplink s.connIo env.opened _ s.tracker)
  simp only [retriedLink]
  split
  · exact rebuilt.stamped (.of_same (sameRetries_of_eq (noteSentIf_reconnection _ _)))
  · exact rebuilt

theorem sameRetries_beginHousekeeping (env : HousekeepingEnv) (s : Sender) :
    List.Forall₂ SameRetries s.conns (s.beginHousekeeping env).conns := by
  have same := List.forall₂_same.mpr fun c (_ : c ∈ s.conns) => SameRetries.refl c
  have graced (c : SrtlaConnection) (deadline : Nat) :
      SameRetries c { c with reconnection.startupGraceDeadlineMs := deadline } := rfl
  simp only [beginHousekeeping]
  split
  · split
    · exact forall₂_modify SameRetries.refl (fun c => graced c _) _ _
    · exact same
  · exact same

/-- After its own turn an uplink is not touched again by the loop. -/
theorem getElem?_reaching_after (env : HousekeepingEnv) {j : Nat} (after : i + 1 ≤ j) :
    (s.reaching env j).conns[i]? = (s.reaching env (i + 1)).conns[i]? := by
  induction j, after using Nat.le_induction with
  | base => rfl
  | succ j after ih =>
    -- a turn sets the link at its own position only
    have elsewhere : j ≠ i := by omega
    rw [reaching_succ, ← ih]
    rcases housekeepUplink_cases env (s.reaching env j) j with ⟨h, -⟩ | ⟨c, -, -, h⟩ | ⟨c, -, -, h⟩
    · rw [h]
    · rw [h]
      exact List.getElem?_set_ne elsewhere
    · rw [h]
      exact List.getElem?_set_ne elsewhere

/-- The turn of an uplink in the loop. -/
theorem passEffect_turn {b : SrtlaConnection} (at_i : (s.reaching env i).conns[i]? = some b) :
    ∃ d, (s.reaching env (i + 1)).conns[i]? = some d ∧
      PassEffect env.now ((s.reaching env i).retries env i) b d := by
  have inside : i < (s.reaching env i).conns.length := (List.getElem?_eq_some_iff.mp at_i).1
  rw [reaching_succ]
  rcases housekeepUplink_cases env (s.reaching env i) i with ⟨turn, quiet⟩ | ⟨c, at_c, quiet, turn⟩ |
    ⟨c, at_c, retried, turn⟩
  · rw [turn, quiet]
    exact ⟨b, at_i, .quiet (SameRetries.refl b)⟩
  · obtain rfl := Option.some.inj (at_i.symm.trans at_c)
    rw [turn, quiet]
    exact ⟨_, List.getElem?_set_self inside, .quiet (sameRetries_of_eq (serviceUplink_reconnection b))⟩
  · obtain rfl := Option.some.inj (at_i.symm.trans at_c)
    have due : b.shouldAttemptReconnect env.now = true := by
      simp only [retries, at_i, Option.any_some, Bool.and_eq_true] at retried
      exact retried.2
    rw [turn, retried]
    exact ⟨_, List.getElem?_set_self inside, passEffect_retriedLink due⟩

theorem passEffect_handleHousekeeping (at_i : s.conns[i]? = some c)
    (at_i' : (s.handleHousekeeping env).1.conns[i]? = some c') :
    PassEffect env.now ((s.reaching env i).retries env i) c c' := by
  obtain ⟨b, at_b, same⟩ := getElem?_of_forall₂ (sameRetries_beginHousekeeping env s) at_i
  obtain ⟨d, at_d, effect⟩ := passEffect_turn ((getElem?_reaching env le_rfl).trans at_b)
  have inside : i < s.conns.length := (List.getElem?_eq_some_iff.mp at_i).1
  have looped : (s.looped env).conns[i]? = some d := (getElem?_reaching_after env inside).trans at_d
  -- the driver stamps send times, and the check at the end may move the bond
  have driven : List.Forall₂ (Stamped env.now) (s.looped env).conns (s.driven env).conns :=
    forall₂_driveRegistration env (s.looped env) (stamped_rebuild env).refl
      (stamped_rebuild env).trans
      fun c => .of_same (sameRetries_of_eq (noteSentIf_reconnection _ c))
  obtain ⟨c₁, at_c₁, after⟩ := getElem?_of_forall₂
    (forall₂_trans (stamped_rebuild env).trans driven ((stamped_rebuild env).checkAllFailed s)) looped
  obtain rfl := Option.some.inj (at_c₁.symm.trans at_i')
  exact (effect.stamped after).of_same same

/-! ### The log of retries -/

/-- The receiver registers the uplink `id`. -/
def admits (id : Nat) (s : Sender) (e : Event) : Bool :=
  (s.report e).any fun reported => decide (reported.2 = .reg3 ∧ s.idAt reported.1 = some id)

/-- The time of a pass that retries the uplink `id`, once it was registered. -/
def retriedAt (id : Nat) (s : Sender) : Event → Option Nat
  | .housekeeping env =>
    if (List.range s.conns.length).any fun i =>
        (s.conns[i]?).any (fun c =>
          decide (c.connId = id ∧ c.reconnection.connectionEstablishedMs ≠ 0)) &&
          (s.reaching env i).retries env i then
      some env.now
    else none
  | _ => none

def passTime : Event → Option Nat
  | .housekeeping env => some env.now
  | _ => none

/-- The passes run on a clock that has started and does not go back. -/
def OnClock (es : List Event) : Prop := (1 :: es.filterMap passTime).Pairwise (· ≤ ·)

def logRetry (id : Nat) (log : List Nat) (x : Sender × Event) : List Nat :=
  if x.1.admits id x.2 then [] else (x.1.retriedAt id x.2).toList ++ log

/-- When the uplink `id` was retried since its last registration, the latest time first. -/
def retryLog (ext : Externals) (id : Nat) (s : Sender) (es : List Event) : List Nat :=
  (history (step ext) s es).foldl (logRetry id) []

theorem admits_iff {id : Nat} {e : Event} :
    s.admits id e = true ↔ ∃ j, s.report e = some (j, .reg3) ∧ s.idAt j = some id := by
  simp only [admits, Option.any_eq_true_iff_get, decide_eq_true_eq]
  constructor
  · rintro ⟨present, event, at_id⟩
    refine ⟨((s.report e).get present).1, ?_, at_id⟩
    rw [← event, Prod.mk.eta, Option.some_get]
  · rintro ⟨j, reported, at_id⟩
    simp only [reported, Option.isSome_some, Option.get_some, true_and, exists_const]
    exact at_id

theorem retriedAt_eq_some_iff {id t : Nat} :
    s.retriedAt id (.housekeeping env) = some t ↔
      t = env.now ∧ ∃ i c, s.conns[i]? = some c ∧ c.connId = id ∧
        c.reconnection.connectionEstablishedMs ≠ 0 ∧ (s.reaching env i).retries env i = true := by
  have found : ((List.range s.conns.length).any fun i =>
      (s.conns[i]?).any (fun c =>
        decide (c.connId = id ∧ c.reconnection.connectionEstablishedMs ≠ 0)) &&
        (s.reaching env i).retries env i) = true ↔
      ∃ i c, s.conns[i]? = some c ∧ c.connId = id ∧
        c.reconnection.connectionEstablishedMs ≠ 0 ∧ (s.reaching env i).retries env i = true := by
    -- the scan over the positions, read as a statement
    rw [List.any_eq_true]
    constructor
    · rintro ⟨i, member, holds⟩
      have inside : i < s.conns.length := List.mem_range.mp member
      have at_i : s.conns[i]? = some s.conns[i] := List.getElem?_eq_getElem inside
      rw [at_i, Option.any_some, Bool.and_eq_true, decide_eq_true_eq] at holds
      exact ⟨i, s.conns[i], at_i, holds.1.1, holds.1.2, holds.2⟩
    · rintro ⟨i, c, at_i, at_id, once, retried⟩
      refine ⟨i, List.mem_range.mpr (List.getElem?_eq_some_iff.mp at_i).1, ?_⟩
      rw [at_i, Option.any_some, retried, Bool.and_true]
      exact decide_eq_true ⟨at_id, once⟩
  rw [retriedAt, ← found]
  split
  case isTrue holds =>
    rw [Option.some.injEq, eq_comm]
    exact ⟨fun same => ⟨same, holds⟩, And.left⟩
  case isFalse fails =>
    exact ⟨fun same => absurd same.symm (Option.some_ne_none t), fun both => absurd both.2 fails⟩

/-! ### The invariant -/

/-- The log is spaced, and the uplink counts as many retries as the log has and was stamped no
earlier than the last of them. -/
structure Paced (id clock : Nat) (log : List Nat) (s : Sender) : Prop where
  distinct : (s.conns.map (·.connId)).Nodup
  spaced : Gapped retryGap log
  stamped : ∀ c ∈ s.conns, c.reconnection.lastReconnectAttemptMs ≤ clock
  counted : ∀ c ∈ s.conns, c.connId = id → c.reconnection.connectionEstablishedMs ≠ 0 →
    c.reconnection.reconnectFailureCount = min log.length (2 ^ 32 - 1) ∧
      ∀ t ∈ log.head?, t ≠ 0 ∧ t ≤ c.reconnection.lastReconnectAttemptMs

theorem link_before {s' : Sender} (ids : s'.conns.map (·.connId) = s.conns.map (·.connId))
    (member : c' ∈ s'.conns) :
    ∃ (i : Nat) (c : SrtlaConnection), s.conns[i]? = some c ∧ s'.conns[i]? = some c' ∧
      c.connId = c'.connId := by
  obtain ⟨i, at_i'⟩ := List.mem_iff_getElem?.mp member
  have same := congrArg (fun l : List Nat => l[i]?) ids
  simp only [List.getElem?_map, at_i', Option.map_some] at same
  obtain ⟨c, at_i, id_eq⟩ := Option.map_eq_some_iff.mp same.symm
  exact ⟨i, c, at_i, at_i', id_eq⟩

section Step

variable {id clock : Nat} {log : List Nat} (paced : s.Paced id clock log)

include paced

/-- An event other than a pass and a reload registers a link, or retries stay as they are. -/
theorem Paced.heard {e : Event} {s' : Sender}
    (ids : s'.conns.map (·.connId) = s.conns.map (·.connId)) (idle : s.retriedAt id e = none)
    (effect : ∀ i c c', s.conns[i]? = some c → s'.conns[i]? = some c' →
      if s.report e = some (i, .reg3) then
        c'.reconnection.reconnectFailureCount = 0 ∧
          c'.reconnection.lastReconnectAttemptMs = c.reconnection.lastReconnectAttemptMs
      else SameRetries c c') :
    s'.Paced id clock (logRetry id log (s, e)) := by
  refine ⟨ids ▸ paced.distinct, ?_, fun c' member => ?_, fun c' member at_id once => ?_⟩
  · simp only [logRetry, idle, Option.toList_none, List.nil_append]
    split
    · trivial
    · exact paced.spaced
  · obtain ⟨i, c, at_i, at_i', -⟩ := link_before ids member
    have before := paced.stamped c (List.mem_of_getElem? at_i)
    have here := effect i c c' at_i at_i'
    split at here
    · exact here.2 ▸ before
    · simp only [SameRetries, Prod.mk.injEq] at here
      exact here.1 ▸ before
  · obtain ⟨i, c, at_i, at_i', same_id⟩ := link_before ids member
    have here := effect i c c' at_i at_i'
    have at_i_id : s.idAt i = some id := by
      rw [idAt, at_i, Option.map_some, same_id, at_id]
    cases admitted : s.admits id e with
    | true =>
      -- the link of that id is the one that is registered
      obtain ⟨j, reported, at_j⟩ := admits_iff.mp admitted
      obtain rfl : i = j := position_unique paced.distinct at_i_id at_j
      rw [if_pos reported] at here
      simp only [logRetry, admitted, if_true, List.length_nil, List.head?_nil]
      exact ⟨here.1, fun t none => absurd none (Option.not_mem_none t)⟩
    | false =>
      -- a registration at this position would be one of this id
      have other : s.report e ≠ some (i, .reg3) := by
        intro reported
        rw [← Bool.not_eq_true, admits_iff] at admitted
        exact admitted ⟨i, reported, at_i_id⟩
      rw [if_neg other] at here
      simp only [SameRetries, Prod.mk.injEq] at here
      simp only [logRetry, admitted, idle, Bool.false_eq_true, if_false, Option.toList_none,
        List.nil_append]
      rw [here.1, here.2.1]
      exact paced.counted c (List.mem_of_getElem? at_i) (same_id.trans at_id) (here.2.2 ▸ once)

theorem Paced.pass (later : clock ≤ env.now) (begun : 0 < clock) :
    (s.handleHousekeeping env).1.Paced id env.now (logRetry id log (s, .housekeeping env)) := by
  have steps : BondSteps _ _ := (pass_linkSteps env).handleHousekeeping s
  have ids : (s.handleHousekeeping env).1.conns.map (·.connId) = s.conns.map (·.connId) :=
    steps.uplinks.connIds
  have log_eq : logRetry id log (s, .housekeeping env) =
      (s.retriedAt id (.housekeeping env)).toList ++ log := rfl
  refine ⟨ids ▸ paced.distinct, ?_, fun c' member => ?_, fun c' member at_id once => ?_⟩
  · rw [log_eq]
    cases at_pass : s.retriedAt id (.housekeeping env) with
    | none => exact paced.spaced
    | some t =>
      obtain ⟨rfl, i, c, at_i, at_id, once, retried⟩ := retriedAt_eq_some_iff.mp at_pass
      obtain ⟨c', at_i', -⟩ := getElem?_of_forall₂ steps.uplinks at_i
      obtain ⟨count, after⟩ := paced.counted c (List.mem_of_getElem? at_i) at_id once
      -- the stamp is no earlier than the last entry, and the retry keeps its gap to the stamp
      refine paced.spaced.cons fun u head => ?_
      obtain ⟨started, stamp⟩ := after u head
      have attempted : c.reconnection.lastReconnectAttemptMs ≠ 0 := by omega
      have due := (passEffect_handleHousekeeping at_i at_i').due retried once attempted
      rw [count, retryGap_min] at due
      omega
  · obtain ⟨i, c, at_i, at_i', -⟩ := link_before ids member
    have before := paced.stamped c (List.mem_of_getElem? at_i)
    rcases (passEffect_handleHousekeeping at_i at_i').last with stamped | ⟨-, kept⟩
    · exact stamped.le
    · exact kept.trans_le (before.trans later)
  · obtain ⟨i, c, at_i, at_i', same_id⟩ := link_before ids member
    have effect : PassEffect env.now ((s.reaching env i).retries env i) c c' :=
      passEffect_handleHousekeeping at_i at_i'
    have once' : c.reconnection.connectionEstablishedMs ≠ 0 := effect.established ▸ once
    obtain ⟨count, after⟩ := paced.counted c (List.mem_of_getElem? at_i) (same_id.trans at_id) once'
    have before := paced.stamped c (List.mem_of_getElem? at_i)
    rw [log_eq, effect.count once', count]
    -- the link is retried exactly if the pass adds an entry to the log
    cases retried : (s.reaching env i).retries env i with
    | true =>
      have at_pass : s.retriedAt id (.housekeeping env) = some env.now :=
        retriedAt_eq_some_iff.mpr ⟨rfl, i, c, at_i, same_id.trans at_id, once', retried⟩
      have stamp : c'.reconnection.lastReconnectAttemptMs = env.now := by
        rcases effect.last with stamped | ⟨quiet, -⟩
        · exact stamped
        · exact absurd (retried.symm.trans quiet) Bool.noConfusion
      rw [at_pass, stamp]
      have one_more (n cap : Nat) : min (min n cap + 1) cap = min (n + 1) cap := by omega
      refine ⟨?_, fun t head => ?_⟩
      · simp only [if_true, Option.toList_some, List.cons_append, List.nil_append, List.length_cons]
        exact one_more log.length _
      · obtain rfl : env.now = t := Option.some.inj head
        exact ⟨by omega, le_rfl⟩
    | false =>
      have at_pass : s.retriedAt id (.housekeeping env) = none := by
        refine Option.eq_none_iff_forall_not_mem.mpr fun t member => ?_
        obtain ⟨-, j, d, at_j, at_id', -, retried'⟩ := retriedAt_eq_some_iff.mp member
        have at_i_id : s.idAt i = some id := by
          rw [idAt, at_i, Option.map_some, same_id, at_id]
        have at_j_id : s.idAt j = some id := by
          rw [idAt, at_j, Option.map_some, at_id']
        -- no other position has the id
        obtain rfl : i = j := position_unique paced.distinct at_i_id at_j_id
        exact absurd (retried.symm.trans retried') Bool.noConfusion
      rw [at_pass]
      simp only [Bool.false_eq_true, if_false, Option.toList_none, List.nil_append, true_and]
      refine fun t head => ⟨(after t head).1, ?_⟩
      have stamp := (after t head).2
      rcases effect.last with stamped | ⟨-, kept⟩
      · omega
      · omega

theorem Paced.reload {env : ReloadEnv} (fresh : s.drawsFreshIds (.reload env) = true) :
    (s.applyReload ext.showIp env).Paced id clock log := by
  refine ⟨nodup_applyReload paced.distinct fresh, paced.spaced, fun c' member => ?_,
    fun c' member at_id once => ?_⟩
  · rw [conns_applyReload, List.mem_append, List.mem_map, List.mem_map] at member
    rcases member with ⟨c, kept, rfl⟩ | ⟨entry, -, rfl⟩
    · exact paced.stamped c (List.mem_filter.mp kept).1
    · exact Nat.zero_le _
  · rw [conns_applyReload, List.mem_append, List.mem_map, List.mem_map] at member
    rcases member with ⟨c, kept, rfl⟩ | ⟨entry, -, rfl⟩
    · exact paced.counted c (List.mem_filter.mp kept).1 at_id once
    · -- a new link has not been registered yet
      exact absurd rfl once

theorem Paced.step {e : Event} (fresh : s.drawsFreshIds e = true)
    (later : ∀ t ∈ passTime e, clock ≤ t) (begun : 0 < clock) :
    (s.step ext e).Paced id ((passTime e).getD clock) (logRetry id log (s, e)) := by
  have idsOf (other : ∀ env, e ≠ .reload env) :
      (s.step ext e).conns.map (·.connId) = s.conns.map (·.connId) :=
    (bondSteps_step ext s other).uplinks.connIds
  -- an event without a report leaves the retries of every link alone
  have untouched (kept : List.Forall₂ SameRetries s.conns (s.step ext e).conns)
      (silent : s.report e = none) : ∀ i c c', s.conns[i]? = some c →
        (s.step ext e).conns[i]? = some c' →
          if s.report e = some (i, .reg3) then
            c'.reconnection.reconnectFailureCount = 0 ∧
              c'.reconnection.lastReconnectAttemptMs = c.reconnection.lastReconnectAttemptMs
          else SameRetries c c' := by
    intro i c c' at_i at_i'
    obtain ⟨d, at_d, same⟩ := getElem?_of_forall₂ kept at_i
    obtain rfl := Option.some.inj (at_d.symm.trans at_i')
    rw [silent, if_neg (Option.some_ne_none _).symm]
    exact same
  cases e with
  | data pkt src sends config criticalWindow now =>
    refine paced.heard (idsOf fun _ => Event.noConfusion) rfl (untouched ?_ rfl)
    exact (sameRetries_traffic ext.calculate).handleSrtPacket s.toDataPath pkt src s.connIo sends
      s.reg.hasConnected config criticalWindow now
  | uplink connId bytes env =>
    refine paced.heard (idsOf fun _ => Event.noConfusion) rfl fun i c c' at_i at_i' => ?_
    exact retries_handleUplinkPacket at_i at_i'
  | flush sends now =>
    refine paced.heard (idsOf fun _ => Event.noConfusion) rfl (untouched ?_ rfl)
    exact (sameRetries_traffic ext.calculate).flushAllBatches s.connIo sends now s.conns s.tracker
  | housekeeping env =>
    rw [step_housekeeping]
    exact paced.pass (later env.now rfl) begun
  | classify verdict =>
    refine paced.heard (idsOf fun _ => Event.noConfusion) rfl (untouched ?_ rfl)
    exact List.forall₂_map_right_iff.mpr (List.forall₂_same.mpr fun _ _ => rfl)
  | reload env => exact paced.reload fresh

end Step

theorem gapped_of_paced {id clock : Nat} {log : List Nat} {es : List Event} (paced : s.Paced id clock log)
    (fresh : EachStep (step ext) (fun s e => s.drawsFreshIds e = true) s es) (begun : 0 < clock)
    (onClock : (clock :: es.filterMap passTime).Pairwise (· ≤ ·)) :
    Gapped retryGap ((history (Sender.step ext) s es).foldl (logRetry id) log) := by
  -- the invariant is carried from the front, with the time of the last pass
  induction es generalizing s clock log with
  | nil => exact paced.spaced
  | cons e es ih =>
    rw [history, List.foldl_cons]
    cases time : passTime e with
    | none =>
      rw [List.filterMap_cons_none time] at onClock
      have next : (s.step ext e).Paced id ((passTime e).getD clock) (logRetry id log (s, e)) :=
        paced.step fresh.1 (by simp [time]) begun
      rw [time, Option.getD_none] at next
      exact ih next fresh.2 begun onClock
    | some t =>
      rw [List.filterMap_cons_some time] at onClock
      obtain ⟨first, rest⟩ := List.pairwise_cons.mp onClock
      have later : clock ≤ t := first t List.mem_cons_self
      have next : (s.step ext e).Paced id ((passTime e).getD clock) (logRetry id log (s, e)) :=
        paced.step fresh.1 (by simpa [time] using later) begun
      rw [time, Option.getD_some] at next
      exact ih next fresh.2 (begun.trans_le later) rest

theorem paced_startup {host : String} {port : Nat} {dial : Nat → IpAddr → Option Dialed}
    {ips : List IpAddr} {weights : List Nat} {groupId probeId : SrtlaId} {rehomeEnabled : Bool}
    {now : Nat}
    (started : startup ext host port dial ips weights groupId probeId rehomeEnabled now = some s)
    (distinct : (s.conns.map (·.connId)).Nodup) (id clock : Nat) : s.Paced id clock [] := by
  -- every link is as it was dialed, with or without probes sent
  have untried : ∀ c ∈ s.conns, c.reconnection.lastReconnectAttemptMs = 0 ∧
      c.reconnection.connectionEstablishedMs = 0 := by
    simp only [startup] at started
    split at started
    · cases started
    · obtain rfl := Option.some.inj started
      intro c member
      simp only [start, SrtlaRegistrationManager.startProbing] at member
      split at member
      · obtain ⟨entry, -, rfl⟩ := List.mem_map.mp member
        exact ⟨rfl, rfl⟩
      · rw [List.map_map] at member
        obtain ⟨d, dialed, rfl⟩ := List.mem_map.mp member
        obtain ⟨entry, -, rfl⟩ := List.mem_map.mp dialed
        exact ⟨rfl, rfl⟩
  exact ⟨distinct, trivial, fun c member => (untried c member).1 ▸ Nat.zero_le _,
    fun c member _ once => absurd (untried c member).2 once⟩

/-- In every run from startup the retries of an uplink since its last registration keep their
gaps, so that from the fourth on there is at least 4.5 s to each. -/
theorem retries_are_paced {host : String} {port : Nat} {dial : Nat → IpAddr → Option Dialed}
    {ips : List IpAddr} {weights : List Nat} {groupId probeId : SrtlaId} {rehomeEnabled : Bool}
    {now : Nat} {es : List Event}
    (started : startup ext host port dial ips weights groupId probeId rehomeEnabled now = some s)
    (distinct : (s.conns.map (·.connId)).Nodup) (onClock : OnClock es)
    (fresh : EachStep (step ext) (fun s e => s.drawsFreshIds e = true) s es) (id : Nat) :
    Gapped retryGap (s.retryLog ext id es) ∧
      ∀ last earlier, s.retryLog ext id es = last :: earlier →
        ∀ first ∈ (last :: earlier).getLast?, first + 4500 * (earlier.length - 3) ≤ last := by
  have spaced : Gapped retryGap (s.retryLog ext id es) :=
    gapped_of_paced (paced_startup started distinct id 1) fresh Nat.one_pos onClock
  refine ⟨spaced, fun last earlier log_eq first member => ?_⟩
  rw [log_eq] at spaced
  exact spaced.span (by decide) (fun n slow => (retryGap_slow slow).ge) first member

/-- Both uplinks fall silent after they have registered. -/
def silentSample : List Event :=
  Sample.handshake ++
    [10000, 11000, 12000, 13000, 14000, 17600].map fun now => .housekeeping (Sample.pass now [])

theorem retries_are_paced_sample :
    startedSample.retryLog ratedExternals 2 silentSample = [17600, 13000, 12000, 11000, 10000] ∧
      Gapped retryGap [17600, 13000, 12000, 11000, 10000] := by
  have onClock : OnClock silentSample := by
    unfold OnClock
    decide +kernel
  have fresh : EachStep (step ratedExternals) (fun s e => s.drawsFreshIds e = true) startedSample
      silentSample := by
    decide +kernel
  have log : startedSample.retryLog ratedExternals 2 silentSample =
      [17600, 13000, 12000, 11000, 10000] := by decide +kernel
  have paced := retries_are_paced startedSample_eq (by decide +kernel) onClock fresh 2
  rw [log] at paced
  exact ⟨log, paced.1⟩

end Sender

end SrtlaSend
