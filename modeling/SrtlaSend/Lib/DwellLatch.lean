import SrtlaSend.Lib.Run
import Mathlib.Tactic.Common

/-!
# A latch with a dwell and a backoff

A latch engages at once on an alarm and lets go only after proof of recovery has been
seen at every reading for a whole dwell. A release that does not outlast its probation
doubles the dwell of the next one, up to a cap. Times are positive, and 0 stands for
"not running".
-/

namespace DwellLatch

open Runs

/-- What is read at one time: the alarm, the proof of recovery, and the waits in force. -/
structure Reading where
  now : Nat
  alarm : Bool
  proof : Bool
  dwell : Nat
  probation : Nat

/-- Since when the latch is engaged, since when proof has been seen, when it last let go,
the factor of the dwell, and the number of engagements. -/
@[ext] structure Latch where
  since : Nat
  recovery : Nat
  released : Nat
  backoff : Nat
  engagements : Nat
deriving DecidableEq

namespace Latch

def engaged (l : Latch) : Bool := l.since != 0

/-- The factor after an engagement. -/
def nextBackoff (cap : Nat) (l : Latch) (r : Reading) : Nat :=
  if l.released = 0 ∨ r.probation ≤ r.now - l.released then 1 else min (max 2 (2 * l.backoff)) cap

def engage (cap : Nat) (l : Latch) (r : Reading) : Latch :=
  { l with
    since := r.now
    recovery := 0
    backoff := l.nextBackoff cap r
    engagements := l.engagements + 1 }

/-- Since when proof has been seen, this reading included. -/
def recoveryStart (l : Latch) (r : Reading) : Nat := if l.recovery = 0 then r.now else l.recovery

def step (cap : Nat) (l : Latch) (r : Reading) : Latch :=
  if r.alarm then if l.since = 0 then l.engage cap r else { l with recovery := 0 }
  else if l.since = 0 then l
  else if !r.proof then { l with recovery := 0 }
  else if r.dwell * max l.backoff 1 ≤ r.now - l.recoveryStart r then
    { l with since := 0, recovery := 0, released := r.now }
  else { l with recovery := l.recoveryStart r }

/-- The latch engages at this reading. -/
def engages (cap : Nat) (l : Latch) (r : Reading) : Bool := !l.engaged && (l.step cap r).engaged

/-- The latch lets go at this reading. -/
def releases (cap : Nat) (l : Latch) (r : Reading) : Bool := l.engaged && !(l.step cap r).engaged

/-! ### One reading -/

section Step

variable (cap : Nat) (l : Latch) {r : Reading}

/-- Everything a reading can do. -/
theorem step_cases (positive : 0 < r.now) :
    (r.alarm = true ∧ l.engaged = false ∧ l.step cap r = l.engage cap r) ∨
    (r.alarm = true ∧ l.engaged = true ∧ l.step cap r = { l with recovery := 0 }) ∨
    (r.alarm = false ∧ l.engaged = false ∧ l.step cap r = l) ∨
    (r.alarm = false ∧ l.engaged = true ∧ r.proof = false ∧
      l.step cap r = { l with recovery := 0 }) ∨
    (r.alarm = false ∧ l.engaged = true ∧ r.proof = true ∧
      r.dwell * max l.backoff 1 ≤ r.now - l.recoveryStart r ∧
      l.step cap r = { l with since := 0, recovery := 0, released := r.now }) ∨
    (r.alarm = false ∧ l.engaged = true ∧ r.proof = true ∧
      l.step cap r = { l with recovery := l.recoveryStart r } ∧ l.recoveryStart r ≠ 0) := by
  -- 0 says that no recovery is running, so the start of one must not be 0
  have start : l.recoveryStart r ≠ 0 := by
    simp only [recoveryStart]
    split
    · omega
    · assumption
  cases alarm : r.alarm with
  | true =>
    by_cases off : l.since = 0
    · simp [step, alarm, off, engaged]
    · simp [step, alarm, off, engaged]
  | false =>
    by_cases off : l.since = 0
    · simp [step, alarm, off, engaged]
    · cases proof : r.proof with
      | false => simp [step, alarm, off, engaged, proof]
      | true =>
        by_cases served : r.dwell * max l.backoff 1 ≤ r.now - l.recoveryStart r
        · simp [step, alarm, off, engaged, proof, served]
        · simp [step, alarm, off, engaged, proof, served, start]

theorem engaged_engage (positive : 0 < r.now) : (l.engage cap r).engaged = true := by
  simp only [engaged, engage, bne_iff_ne]
  omega

variable {l}

/-- The latch engages on an alarm, and on nothing else. -/
theorem engaged_step_of_off (positive : 0 < r.now) (off : l.engaged = false) :
    (l.step cap r).engaged = r.alarm := by
  rcases step_cases cap l positive with
    ⟨alarm, -, same⟩ | ⟨-, on, -⟩ | ⟨alarm, -, same⟩ | ⟨-, on, -⟩ | ⟨-, on, -⟩ | ⟨-, on, -⟩
  · rw [same, alarm]
    exact engaged_engage cap l positive
  · simp [off] at on
  · rw [same, alarm, off]
  · simp [off] at on
  · simp [off] at on
  · simp [off] at on

/-- What a release needs of the reading it happens at. -/
theorem of_releases (positive : 0 < r.now) (h : l.releases cap r = true) :
    r.alarm = false ∧ r.proof = true ∧ r.dwell * max l.backoff 1 ≤ r.now - l.recoveryStart r ∧
      l.step cap r = { l with since := 0, recovery := 0, released := r.now } := by
  simp only [releases, Bool.and_eq_true, Bool.not_eq_true'] at h
  obtain ⟨on, off⟩ := h
  -- one of the six ends an engagement; the others are impossible here or keep `since`
  rcases step_cases cap l positive with
    ⟨-, off', -⟩ | ⟨-, -, same⟩ | ⟨-, off', -⟩ | ⟨-, -, -, same⟩ | ⟨alarm, -, proof, served, same⟩ |
    ⟨-, -, -, same, -⟩
  · simp [on] at off'
  · rw [same] at off
    exact absurd (show l.engaged = false from off) (by simp [on])
  · simp [on] at off'
  · rw [same] at off
    exact absurd (show l.engaged = false from off) (by simp [on])
  · exact ⟨alarm, proof, served, same⟩
  · rw [same] at off
    exact absurd (show l.engaged = false from off) (by simp [on])

/-- An engagement starts over, under the factor it has earned. -/
theorem of_engages (positive : 0 < r.now) (h : l.engages cap r = true) :
    r.alarm = true ∧ l.step cap r = l.engage cap r := by
  simp only [engages, Bool.and_eq_true, Bool.not_eq_true'] at h
  have alarm := (engaged_step_of_off cap positive h.1).symm.trans h.2
  rcases step_cases cap l positive with
    ⟨-, -, same⟩ | ⟨-, on, -⟩ | ⟨quiet, -⟩ | ⟨quiet, -⟩ | ⟨quiet, -⟩ | ⟨quiet, -⟩
  · exact ⟨alarm, same⟩
  · simp [h.1] at on
  · simp [alarm] at quiet
  · simp [alarm] at quiet
  · simp [alarm] at quiet
  · simp [alarm] at quiet

/-- The count of engagements moves with the engagements. -/
theorem engagements_step (positive : 0 < r.now) :
    (l.step cap r).engagements = l.engagements + if l.engages cap r then 1 else 0 := by
  by_cases engages : l.engages cap r = true
  · rw [(of_engages cap positive engages).2, if_pos engages]
    rfl
  · rw [if_neg engages]
    -- without an engagement the count stays, whatever else the reading does
    rcases step_cases cap l positive with
      ⟨-, off, same⟩ | ⟨-, -, same⟩ | ⟨-, -, same⟩ | ⟨-, -, -, same⟩ | ⟨-, -, -, -, same⟩ |
      ⟨-, -, -, same, -⟩
    · have on := engaged_engage cap l positive
      rw [← same] at on
      exact absurd (by rw [Latch.engages, off, on]; rfl) engages
    · rw [same, Nat.add_zero]
    · rw [same, Nat.add_zero]
    · rw [same, Nat.add_zero]
    · rw [same, Nat.add_zero]
    · rw [same, Nat.add_zero]

/-- The time of the last release moves with the releases. -/
theorem released_step (positive : 0 < r.now) :
    (l.step cap r).released = if l.releases cap r then r.now else l.released := by
  by_cases releases : l.releases cap r = true
  · rw [(of_releases cap positive releases).2.2.2, if_pos releases]
  · rw [if_neg releases]
    rcases step_cases cap l positive with
      ⟨-, -, same⟩ | ⟨-, -, same⟩ | ⟨-, -, same⟩ | ⟨-, -, -, same⟩ | ⟨-, on, -, -, same⟩ |
      ⟨-, -, -, same, -⟩
    · rw [same]
      rfl
    · rw [same]
    · rw [same]
    · rw [same]
    · -- this is the release that was excluded
      refine absurd ?_ releases
      rw [Latch.releases, on, same]
      rfl
    · rw [same]

end Step

/-! ### Runs of readings -/

/-- A latch that has never been engaged. -/
structure Idle (l : Latch) : Prop where
  since : l.since = 0
  recovery : l.recovery = 0
  released : l.released = 0

instance (l : Latch) : Decidable l.Idle :=
  decidable_of_iff (l.since = 0 ∧ l.recovery = 0 ∧ l.released = 0)
    ⟨fun h => ⟨h.1, h.2.1, h.2.2⟩, fun h => ⟨h.since, h.recovery, h.released⟩⟩

section Runs

variable (cap : Nat) {start : Latch} {readings : List Reading}

/-- The end of a run of readings with proof and without an alarm. -/
def ProvenFrom (readings : List Reading) (since : Nat) : Prop :=
  ∃ first r rest, readings = first ++ r :: rest ∧ r.now = since ∧
    ∀ q ∈ r :: rest, q.alarm = false ∧ q.proof = true

/-- A reading with proof starts such an end, or extends the one that is running. -/
theorem provenFrom_recoveryStart {l : Latch} {r : Reading}
    (proven : l.recovery ≠ 0 → ProvenFrom readings l.recovery) (alarm : r.alarm = false)
    (proof : r.proof = true) : ProvenFrom (readings ++ [r]) (l.recoveryStart r) := by
  -- a recovery starts with this reading, or the one that is running goes on
  by_cases running : l.recovery = 0
  · refine ⟨readings, r, [], rfl, by rw [recoveryStart, if_pos running], fun q member => ?_⟩
    rw [List.mem_singleton.mp member]
    exact ⟨alarm, proof⟩
  · obtain ⟨first, q, rest, rfl, at_start, all⟩ := proven running
    refine ⟨first, q, rest ++ [r], by simp, by rw [recoveryStart, if_neg running, at_start],
      fun x member => ?_⟩
    rw [← List.cons_append, List.mem_append, List.mem_singleton] at member
    rcases member with old | rfl
    · exact all x old
    · exact ⟨alarm, proof⟩

/-- The reading at which proof was first seen, and all since, have seen it. -/
theorem proven_recovery (idle : start.Idle) (times : ∀ r ∈ readings, 0 < r.now) :
    ((run (step cap) start readings).engaged = false →
      (run (step cap) start readings).recovery = 0) ∧
    ((run (step cap) start readings).recovery ≠ 0 →
      ProvenFrom readings (run (step cap) start readings).recovery) := by
  induction readings using List.reverseRecOn with
  | nil => exact ⟨fun _ => idle.recovery, fun running => absurd idle.recovery running⟩
  | append_singleton readings r ih =>
    obtain ⟨quiet, proven⟩ := ih fun q member => times q (List.mem_append_left _ member)
    have positive : 0 < r.now := times r (by simp)
    rw [run_append, run_cons, run_nil]
    -- all but the last stop the recovery or find none running
    rcases step_cases cap (run (step cap) start readings) positive with
      ⟨-, -, same⟩ | ⟨-, -, same⟩ | ⟨-, off, same⟩ | ⟨-, -, -, same⟩ | ⟨-, -, -, -, same⟩ |
      ⟨alarm, on, proof, same, -⟩
    · rw [same]
      exact ⟨fun _ => rfl, fun running => absurd rfl running⟩
    · rw [same]
      exact ⟨fun _ => rfl, fun running => absurd rfl running⟩
    · rw [same]
      exact ⟨quiet, fun running => absurd (quiet off) running⟩
    · rw [same]
      exact ⟨fun _ => rfl, fun running => absurd rfl running⟩
    · rw [same]
      exact ⟨fun _ => rfl, fun running => absurd rfl running⟩
    · rw [same]
      refine ⟨fun off => absurd (show Latch.engaged (run (step cap) start readings) = false from off)
        (by simp [on]), fun _ => ?_⟩
      exact provenFrom_recoveryStart proven alarm proof

/-- The latch lets go at a reading only if proof without an alarm was seen at every reading
for the whole dwell. -/
theorem dwell_of_releases (idle : start.Idle) (times : ∀ r ∈ readings, 0 < r.now) {r : Reading}
    (positive : 0 < r.now) (h : (run (step cap) start readings).releases cap r = true) :
    ∃ since, ProvenFrom (readings ++ [r]) since ∧
      r.dwell * max (run (step cap) start readings).backoff 1 ≤ r.now - since := by
  obtain ⟨alarm, proof, served, -⟩ := of_releases cap positive h
  exact ⟨_, provenFrom_recoveryStart (proven_recovery cap idle times).2 alarm proof, served⟩

/-- The times at which the latch let go. -/
def releaseTimes (start : Latch) (readings : List Reading) : List Nat :=
  (history (step cap) start readings).filterMap fun x =>
    if x.1.releases cap x.2 then some x.2.now else none

/-- The latch remembers when it last let go. -/
theorem released_run (idle : start.Idle) (times : ∀ r ∈ readings, 0 < r.now) :
    (run (step cap) start readings).released =
      ((releaseTimes cap start readings).getLast?).getD 0 := by
  induction readings using List.reverseRecOn with
  | nil => exact idle.released
  | append_singleton readings r ih =>
    have before := ih fun q member => times q (List.mem_append_left _ member)
    simp only [releaseTimes] at before ⊢
    rw [run_append, run_cons, run_nil, released_step cap (times r (by simp)), before,
      history_concat, List.filterMap_append]
    by_cases releases : (run (step cap) start readings).releases cap r = true
    · simp [releases]
    · simp [releases]

theorem releaseTimes_pos (times : ∀ r ∈ readings, 0 < r.now) :
    ∀ t ∈ releaseTimes cap start readings, 0 < t := by
  induction readings using List.reverseRecOn with
  | nil => intro t member; cases member
  | append_singleton readings r ih =>
    intro t member
    simp only [releaseTimes, history_concat, List.filterMap_append, List.mem_append] at member
    rcases member with earlier | last
    · exact ih (fun q inside => times q (List.mem_append_left _ inside)) t earlier
    · simp only [List.filterMap_cons, List.filterMap_nil] at last
      split at last
      · cases last
      case h_2 released =>
        split at released
        · rw [List.mem_singleton.mp last, ← Option.some.inj released]
          exact times r (by simp)
        · cases released

/-- An engagement is judged by the last release. -/
theorem nextBackoff_run (idle : start.Idle) (times : ∀ r ∈ readings, 0 < r.now) (r : Reading) :
    (run (step cap) start readings).nextBackoff cap r =
      if ∀ t ∈ (releaseTimes cap start readings).getLast?, r.probation ≤ r.now - t then 1
      else min (max 2 (2 * (run (step cap) start readings).backoff)) cap := by
  have released := released_run cap idle times
  simp only [nextBackoff]
  refine if_congr ?_ rfl rfl
  -- a release at 0 could not be told from no release at all
  cases last : (releaseTimes cap start readings).getLast? with
  | none =>
    rw [last] at released
    simp [released]
  | some t =>
    have positive : 0 < t := releaseTimes_pos cap times t (List.mem_of_getLast? last)
    rw [last, Option.getD_some] at released
    rw [released]
    simp only [Option.mem_some_iff, forall_eq']
    exact or_iff_right (by omega)

/-- The latch counts its engagements. -/
theorem engagements_run (start : Latch) (times : ∀ r ∈ readings, 0 < r.now) :
    (run (step cap) start readings).engagements =
      start.engagements + (history (step cap) start readings).countP fun x => x.1.engages cap x.2 := by
  induction readings using List.reverseRecOn with
  | nil => rfl
  | append_singleton readings r ih =>
    have before := ih fun q member => times q (List.mem_append_left _ member)
    rw [run_append, run_cons, run_nil, engagements_step cap (times r (by simp)), before,
      history_concat, List.countP_append, List.countP_singleton, Nat.add_assoc]

end Runs

end Latch

end DwellLatch
