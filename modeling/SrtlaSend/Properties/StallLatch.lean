import SrtlaSend.Lib.DwellLatch
import SrtlaSend.Properties.Selection
import SrtlaSend.Properties.LinkSteps

/-!
# The stall latch over runs

The five fields the stall guard keeps on a link are a latch with a dwell and a backoff.
Each pass of the guard takes it through one reading of the link: whether the link is
stalled, whether it has shown fresh and timely proof of delivery, and the staleness
window the waits are multiples of.
-/

namespace SrtlaSend

open MachineInt Runs DwellLatch SrtlaConnection

/-- The latch the stall guard keeps on a link. -/
def SrtlaConnection.latch (c : SrtlaConnection) : Latch :=
  { since := c.stallLatchedSinceMs
    recovery := c.stallRecoverySinceMs
    released := c.stallReleasedAtMs
    backoff := c.stallRejoinBackoff
    engagements := c.stallGateEvents }

theorem SameMemory.latch {c c' : SrtlaConnection} (same : SameMemory c c') : c'.latch = c.latch := by
  simp only [SrtlaConnection.latch, same.stallLatchedSinceMs, same.stallRecoverySinceMs,
    same.stallReleasedAtMs, same.stallRejoinBackoff, same.stallGateEvents]

/-- One pass of the guard over a link, as the pass finds it. -/
structure LatchPass where
  found : SrtlaConnection
  now : Nat
  config : ConfigSnapshot

namespace LatchPass

variable (p : LatchPass)

/-- The link with its silence pull up to date. -/
def link : SrtlaConnection :=
  p.found.updateSilencePull p.now p.config.stallMinInFlight p.config.stallAckStaleMs

/-- The effective staleness window. -/
def staleMs : Nat := p.link.effectiveStallStaleMs p.config.stallAckStaleMs

/-- The link is stalled, or it is pulled and its proof is a whole window old. -/
def engaging : Bool :=
  p.link.isStalled p.now p.config.stallMinInFlight p.config.stallAckStaleMs ||
    (p.link.silencePulled && (p.link.lastAckOrRttSampleMs != 0 &&
      decide (p.now - p.link.lastAckOrRttSampleMs ≥ p.staleMs)))

/-- The proof of delivery is recent, and its round trip fits the budget. -/
def proven : Bool :=
  p.link.lastAckOrRttSampleMs != 0 &&
    decide (p.now - p.link.lastAckOrRttSampleMs < max p.staleMs 1500) &&
    deliveryProofIsTimely p.link.getSmoothRttMs p.link.delayBudgetMs

def reading : Reading :=
  { now := p.now
    alarm := p.engaging
    proof := p.proven
    dwell := 2 * p.staleMs
    probation := 3 * p.staleMs }

/-- The pass finds the latch as the last one left it. The clock is a positive `u64`. -/
structure Follows (c : SrtlaConnection) (p : LatchPass) : Prop where
  latch : p.found.latch = c.latch
  positive : 0 < p.now
  bounded : p.now < 2 ^ 64

instance (c : SrtlaConnection) (p : LatchPass) : Decidable (p.Follows c) :=
  decidable_of_iff (p.found.latch = c.latch ∧ 0 < p.now ∧ p.now < 2 ^ 64)
    ⟨fun h => ⟨h.1, h.2.1, h.2.2⟩, fun h => ⟨h.latch, h.positive, h.bounded⟩⟩

end LatchPass

/-- The link after a pass. -/
def latchStep (_ : SrtlaConnection) (p : LatchPass) : SrtlaConnection :=
  p.found.updateStallState p.now p.config

/-! ### One pass is one reading -/

/-- A clock that fits a `u64` and does not start at 0 never reaches a saturated wait. -/
theorem satU64_le_iff {n x : Nat} (below : n < 2 ^ 64 - 1) : satU64 x ≤ n ↔ x ≤ n := by
  simp only [satU64]
  omega

theorem satU64_satU64_mul {x m : Nat} (positive : 0 < m) : satU64 (satU64 x * m) = satU64 (x * m) := by
  simp only [satU64]
  rcases Nat.le_total x (2 ^ 64 - 1) with fits | exceeds
  · rw [Nat.min_eq_left fits]
  · have grows : 2 ^ 64 - 1 ≤ (2 ^ 64 - 1) * m := Nat.le_mul_of_pos_right _ positive
    have grows' : 2 ^ 64 - 1 ≤ x * m := le_trans exceeds (Nat.le_mul_of_pos_right _ positive)
    rw [Nat.min_eq_right exceeds, Nat.min_eq_right grows, Nat.min_eq_right grows']

theorem stallRejoinBackoffNext_eq (backoff releasedAtMs heldForMs probationMs : Nat) :
    stallRejoinBackoffNext backoff releasedAtMs heldForMs probationMs =
      if releasedAtMs = 0 ∨ probationMs ≤ heldForMs then 1 else min (max 2 (2 * backoff)) 16 := by
  simp only [stallRejoinBackoffNext, stallRejoinBackoffMax, satU32, ge_iff_le]
  split
  · rfl
  · split <;> omega

/-- The silence pull does not touch the latch. -/
theorem latch_updateSilencePull (c : SrtlaConnection) (nowMs : Nat) (minInFlight : Int)
    (staleCeilingMs : Nat) : (c.updateSilencePull nowMs minInFlight staleCeilingMs).latch = c.latch := by
  rw [updateSilencePull_frame c nowMs minInFlight staleCeilingMs]
  rfl

theorem latch_armRejoinRamp (c : SrtlaConnection) (nowMs rampMs : Nat) (fromStallGate : Bool) :
    (c.armRejoinRamp nowMs rampMs fromStallGate).latch = c.latch := by
  rw [armRejoinRamp_frame c nowMs rampMs fromStallGate]
  rfl

theorem latch_engageStallLatch (c : SrtlaConnection) {nowMs : Nat} (positive : 0 < nowMs)
    (bounded : nowMs < 2 ^ 64) (ceilingMs : Nat) (alarm proof : Bool) (dwell : Nat) :
    { c.engageStallLatch nowMs ceilingMs with stallRecoverySinceMs := 0 }.latch =
      c.latch.engage 16 ⟨nowMs, alarm, proof, dwell, 3 * c.effectiveStallStaleMs ceilingMs⟩ := by
  have probation : stallRejoinBackoffNext c.stallRejoinBackoff c.stallReleasedAtMs
        (nowMs - c.stallReleasedAtMs)
        (satU64 (c.effectiveStallStaleMs ceilingMs * stallRejoinProbationMult)) =
      if c.stallReleasedAtMs = 0 ∨ 3 * c.effectiveStallStaleMs ceilingMs ≤ nowMs - c.stallReleasedAtMs
        then 1 else min (max 2 (2 * c.stallRejoinBackoff)) 16 := by
    rw [stallRejoinBackoffNext_eq]
    refine if_congr ?_ rfl rfl
    -- a link that has rejoined did so after 0, and its hold is below the saturation
    by_cases never : c.stallReleasedAtMs = 0
    · simp only [never, true_or]
    · rw [satU64_le_iff (by omega), stallRejoinProbationMult, stallRejoinDwellMult, Nat.mul_comm]
  exact Latch.ext rfl rfl rfl probation rfl

/-- The base dwell times the backoff, without the saturation. -/
theorem dwell_le_iff {nowMs since stale backoff : Nat} (bounded : nowMs < 2 ^ 64)
    (positive : 0 < since) :
    satU64 (satU64 (stale * stallRejoinDwellMult) * max backoff 1) ≤ nowMs - since ↔
      2 * stale * max backoff 1 ≤ nowMs - since := by
  rw [satU64_satU64_mul (by omega), satU64_le_iff (by omega), stallRejoinDwellMult, Nat.mul_comm stale 2]

/-- A pass with proof on an engaged latch: the dwell starts, runs on, or is over. -/
theorem latch_dwell (c : SrtlaConnection) {nowMs : Nat} (positive : 0 < nowMs)
    (bounded : nowMs < 2 ^ 64) (ceilingMs : Nat) :
    (let c' := if c.stallRecoverySinceMs = 0 then { c with stallRecoverySinceMs := nowMs } else c
      if nowMs - c'.stallRecoverySinceMs ≥
          satU64 (satU64 (c.effectiveStallStaleMs ceilingMs * stallRejoinDwellMult) *
            max c'.stallRejoinBackoff 1) then
        armRejoinRamp
          { c' with stallLatchedSinceMs := 0, stallRecoverySinceMs := 0, stallReleasedAtMs := nowMs }
          nowMs (satU64 (c.effectiveStallStaleMs ceilingMs * stallRejoinDwellMult)) true
      else c').latch =
    (let start := if c.latch.recovery = 0 then nowMs else c.latch.recovery
      if 2 * c.effectiveStallStaleMs ceilingMs * max c.latch.backoff 1 ≤ nowMs - start then
        { c.latch with since := 0, recovery := 0, released := nowMs }
      else { c.latch with recovery := start }) := by
  have recovery : c.latch.recovery = c.stallRecoverySinceMs := rfl
  have backoff : c.latch.backoff = c.stallRejoinBackoff := rfl
  -- the two sides branch on the same wait, once the saturation is gone
  by_cases starts : c.stallRecoverySinceMs = 0
  · simp only [recovery, backoff, if_pos starts, ge_iff_le, dwell_le_iff bounded positive]
    split_ifs
    · exact latch_armRejoinRamp _ nowMs _ true
    · rfl
  · simp only [recovery, backoff, if_neg starts, ge_iff_le,
      dwell_le_iff bounded (Nat.pos_of_ne_zero starts)]
    split_ifs
    · exact latch_armRejoinRamp _ nowMs _ true
    · rfl

/-- A pass of the guard is one step of the latch. -/
theorem latch_latchStep {c : SrtlaConnection} {p : LatchPass} (follows : p.Follows c) :
    (latchStep c p).latch = c.latch.step 16 p.reading := by
  obtain ⟨found, positive, bounded⟩ := follows
  have same : p.link.latch = c.latch :=
    (latch_updateSilencePull p.found p.now p.config.stallMinInFlight p.config.stallAckStaleMs).trans found
  rw [← same]
  change (p.link.updateStallLatch p.now p.config.stallMinInFlight p.config.stallAckStaleMs).latch = _
  -- the signals the source computes are those of the reading
  have signal : (p.link.isStalled p.now p.config.stallMinInFlight p.config.stallAckStaleMs ||
      (p.link.silencePulled && (p.link.lastAckOrRttSampleMs != 0 &&
        decide (p.now - p.link.lastAckOrRttSampleMs ≥
          p.link.effectiveStallStaleMs p.config.stallAckStaleMs)))) = p.engaging := rfl
  have fresh : (p.link.lastAckOrRttSampleMs != 0 &&
      decide (p.now - p.link.lastAckOrRttSampleMs <
        max (p.link.effectiveStallStaleMs p.config.stallAckStaleMs) stallRejoinProofFloorMs) &&
      deliveryProofIsTimely p.link.getSmoothRttMs p.link.delayBudgetMs) = p.proven := rfl
  have latched : p.link.latch.since = p.link.stallLatchedSinceMs := rfl
  simp only [updateStallLatch, Latch.step, signal, fresh, latched]
  cases alarm : p.engaging with
  | true =>
    simp only [LatchPass.reading, alarm, if_true]
    by_cases off : p.link.stallLatchedSinceMs = 0
    · simp only [if_pos off]
      exact latch_engageStallLatch p.link positive bounded p.config.stallAckStaleMs _ _ _
    · simp only [if_neg off]
      rfl
  | false =>
    simp only [LatchPass.reading, alarm, Bool.false_eq_true, if_false]
    by_cases off : p.link.stallLatchedSinceMs = 0
    · simp only [if_pos off]
    · simp only [if_neg off]
      cases proven : p.proven with
      | false =>
        simp only [Bool.not_false, if_true]
        rfl
      | true =>
        simp only [Bool.not_true, Bool.false_eq_true, if_false]
        exact latch_dwell p.link positive bounded p.config.stallAckStaleMs

/-! ### Runs of passes -/

/-- The latch goes on at this pass. -/
def engagesAt (c : SrtlaConnection) (p : LatchPass) : Bool :=
  !c.stallLatched && (latchStep c p).stallLatched

/-- The latch goes off at this pass. -/
def rejoinsAt (c : SrtlaConnection) (p : LatchPass) : Bool :=
  c.stallLatched && !(latchStep c p).stallLatched

/-- How often the latch went on. -/
def engagementCount (start : SrtlaConnection) (passes : List LatchPass) : Nat :=
  (history latchStep start passes).countP fun x => engagesAt x.1 x.2

/-- When the latch last went off. -/
def lastRejoin (start : SrtlaConnection) (passes : List LatchPass) : Option Nat :=
  ((history latchStep start passes).filterMap fun x =>
    if rejoinsAt x.1 x.2 then some x.2.now else none).getLast?

section Simulation

variable {start : SrtlaConnection} {passes : List LatchPass}
  (steps : EachStep latchStep (fun c p => p.Follows c) start passes)

include steps

/-- The link's latch runs through the readings of the passes. -/
theorem latch_run : (run latchStep start passes).latch =
    run (Latch.step 16) start.latch (passes.map LatchPass.reading) :=
  steps.simulates SrtlaConnection.latch LatchPass.reading fun _ _ => latch_latchStep

theorem history_latch : history (Latch.step 16) start.latch (passes.map LatchPass.reading) =
    (history latchStep start passes).map fun x => (x.1.latch, x.2.reading) :=
  steps.history_simulates SrtlaConnection.latch LatchPass.reading fun _ _ => latch_latchStep

theorem engaged_of_mem_history {x : SrtlaConnection × LatchPass}
    (member : x ∈ history latchStep start passes) :
    (x.1.latch.step 16 x.2.reading).engaged = (latchStep x.1 x.2).stallLatched := by
  rw [← latch_latchStep (steps.of_mem_history member)]
  rfl

theorem reading_positive : ∀ r ∈ passes.map LatchPass.reading, 0 < r.now := by
  intro r member
  obtain ⟨p, inside, rfl⟩ := List.mem_map.mp member
  obtain ⟨before, after, cut⟩ := List.append_of_mem inside
  exact ((eachStep_iff _ _ _ _).mp steps before p after cut).positive

theorem engagementCount_eq : engagementCount start passes =
    (history (Latch.step 16) start.latch (passes.map LatchPass.reading)).countP
      fun x => x.1.engages 16 x.2 := by
  rw [history_latch steps, List.countP_map]
  refine List.countP_congr fun x member => ?_
  simp only [engagesAt, Function.comp_apply, Latch.engages, engaged_of_mem_history steps member]
  exact Iff.rfl

theorem lastRejoin_eq : lastRejoin start passes =
    (Latch.releaseTimes 16 start.latch (passes.map LatchPass.reading)).getLast? := by
  simp only [lastRejoin, Latch.releaseTimes]
  rw [history_latch steps, List.filterMap_map]
  refine congrArg List.getLast? (List.filterMap_congr fun x member => ?_)
  simp only [rejoinsAt, Function.comp_apply, Latch.releases, engaged_of_mem_history steps member]
  rfl

end Simulation

/-- What a pass after the passes `before` does to the latch. -/
structure LatchLaw (start : SrtlaConnection) (before : List LatchPass) (p : LatchPass) : Prop where
  /-- The latch goes on exactly on an engaging signal. -/
  engages : (run latchStep start before).stallLatched = false →
    ((run latchStep start (before ++ [p])).stallLatched = true ↔
      p.link.isStalled p.now p.config.stallMinInFlight p.config.stallAckStaleMs = true ∨
        (p.link.silencePulled = true ∧ p.link.lastAckOrRttSampleMs ≠ 0 ∧
          p.staleMs ≤ p.now - p.link.lastAckOrRttSampleMs))
  /-- It goes off only after proof at every pass of the dwell. -/
  releases : (run latchStep start before).stallLatched = true →
    (run latchStep start (before ++ [p])).stallLatched = false →
    ∃ first r rest, before ++ [p] = first ++ r :: rest ∧
      2 * p.staleMs * max 1 (run latchStep start before).stallRejoinBackoff ≤ p.now - r.now ∧
      ∀ q ∈ r :: rest, q.proven = true ∧ q.engaging = false
  counts : (run latchStep start (before ++ [p])).stallGateEvents =
    start.stallGateEvents + engagementCount start (before ++ [p])
  /-- An engagement judges the rejoin before it. -/
  backoff : (run latchStep start before).stallLatched = false →
    (run latchStep start (before ++ [p])).stallLatched = true →
    (run latchStep start (before ++ [p])).stallRejoinBackoff =
      if ∀ rejoined ∈ lastRejoin start before, 3 * p.staleMs ≤ p.now - rejoined then 1
      else min (max 2 (2 * (run latchStep start before).stallRejoinBackoff)) 16

theorem LatchPass.engaging_iff (p : LatchPass) : p.engaging = true ↔
    p.link.isStalled p.now p.config.stallMinInFlight p.config.stallAckStaleMs = true ∨
      (p.link.silencePulled = true ∧ p.link.lastAckOrRttSampleMs ≠ 0 ∧
        p.staleMs ≤ p.now - p.link.lastAckOrRttSampleMs) := by
  simp only [engaging, Bool.or_eq_true, Bool.and_eq_true, bne_iff_ne, decide_eq_true_eq, ge_iff_le]

/-- A proven end of the readings is one of the passes. -/
theorem provenFrom_reading {passes : List LatchPass} {since : Nat}
    (proven : Latch.ProvenFrom (passes.map LatchPass.reading) since) :
    ∃ first r rest, passes = first ++ r :: rest ∧ r.now = since ∧
      ∀ q ∈ r :: rest, q.proven = true ∧ q.engaging = false := by
  obtain ⟨first, r, rest, cut, at_since, all⟩ := proven
  obtain ⟨first', tail, rfl, -, split⟩ := List.map_eq_append_iff.mp cut
  obtain ⟨r', rest', rfl, rfl, rfl⟩ := List.map_eq_cons_iff.mp split
  refine ⟨first', r', rest', rfl, at_since, fun q member => ?_⟩
  obtain ⟨quiet, proof⟩ := all q.reading (by
    rw [← List.map_cons]
    exact List.mem_map_of_mem member)
  exact ⟨proof, quiet⟩

/-- The law at the last pass of a run. -/
theorem latchLaw_last {start : SrtlaConnection} {before : List LatchPass} {p : LatchPass}
    (idle : start.latch.Idle)
    (both : EachStep latchStep (fun c p => p.Follows c) start (before ++ [p])) :
    LatchLaw start before p := by
  obtain ⟨earlier, follows, -⟩ := (eachStep_append _ _ _ _ _).mp both
  have positive : 0 < p.reading.now := follows.positive
  have times := reading_positive earlier
  have state := latch_run earlier
  -- the link after the pass, as a step of its latch
  have after_p : (run latchStep start (before ++ [p])).latch =
      (run latchStep start before).latch.step 16 p.reading := by
    rw [run_append, run_cons, run_nil]
    exact latch_latchStep follows
  have engaged (c : SrtlaConnection) : c.stallLatched = c.latch.engaged := rfl
  -- each law is the library's law of the latch, read back on the link
  refine ⟨fun off => ?_, fun on off => ?_, ?_, fun off on => ?_⟩
  · have off' : (run latchStep start before).latch.engaged = false := off
    rw [← p.engaging_iff, engaged, after_p, Latch.engaged_step_of_off 16 positive off']
    exact Iff.rfl
  · have lets : (run latchStep start before).latch.releases 16 p.reading = true := by
      rw [Latch.releases, ← after_p, ← engaged, ← engaged, on, off]
      rfl
    rw [state] at lets
    obtain ⟨since, proven, served⟩ := Latch.dwell_of_releases 16 idle times positive lets
    rw [← List.map_singleton, ← List.map_append] at proven
    obtain ⟨first, r, rest, cut, rfl, all⟩ := provenFrom_reading proven
    refine ⟨first, r, rest, cut, ?_, all⟩
    rw [← state, Nat.max_comm] at served
    exact served
  · have counted := Latch.engagements_run 16 start.latch (reading_positive both)
    rw [← latch_run both, ← engagementCount_eq both] at counted
    exact counted
  · have engages : (run latchStep start before).latch.engages 16 p.reading = true := by
      rw [Latch.engages, ← after_p, ← engaged, ← engaged, on, off]
      rfl
    have next : (run latchStep start (before ++ [p])).latch.backoff =
        (run latchStep start before).latch.nextBackoff 16 p.reading := by
      rw [after_p, (Latch.of_engages 16 positive engages).2]
      rfl
    have judged := Latch.nextBackoff_run 16 idle times p.reading
    rw [← state, ← lastRejoin_eq earlier] at judged
    exact next.trans judged

/-- The latch of a link that starts without one, at every pass of every run. -/
theorem stall_latch_law (start : SrtlaConnection) (passes : List LatchPass) (idle : start.latch.Idle)
    (steps : EachStep latchStep (fun c p => p.Follows c) start passes) :
    ∀ before p after, passes = before ++ p :: after → LatchLaw start before p := by
  rintro before p after rfl
  rw [List.append_cons] at steps
  exact latchLaw_last idle ((eachStep_append _ _ _ _ _).mp steps).1

namespace Sample

/-- A pass over a loaded link whose last proof of delivery, and last datagram, came at
`stamp`. -/
def loadedPass (now stamp : Nat) (latch : Latch) : LatchPass :=
  { found :=
      { liveLink 1 stamp with
        inFlightPackets := 40
        lastAckOrRttSampleMs := stamp
        stallLatchedSinceMs := latch.since
        stallRecoverySinceMs := latch.recovery
        stallReleasedAtMs := latch.released
        stallRejoinBackoff := latch.backoff
        stallGateEvents := latch.engagements }
    now
    config := {} }

/-- Three seconds without proof, six with it, and three without it again. -/
def restall : List LatchPass :=
  [loadedPass 10000 7000 ⟨0, 0, 0, 0, 0⟩, loadedPass 10500 10400 ⟨10000, 0, 0, 1, 1⟩,
    loadedPass 16500 16400 ⟨10000, 10500, 0, 1, 1⟩]

end Sample

/-- The link is latched, rejoins after the dwell, and comes back with twice the wait. -/
theorem stall_latch_law_restalled :
    (run latchStep (liveLink 1 500) Sample.restall).latch = ⟨0, 0, 16500, 1, 1⟩ ∧
      (run latchStep (liveLink 1 500)
        (Sample.restall ++ [Sample.loadedPass 19400 16400 ⟨0, 0, 16500, 1, 1⟩])).latch =
        ⟨19400, 0, 16500, 2, 2⟩ ∧
      LatchLaw (liveLink 1 500) Sample.restall (Sample.loadedPass 19400 16400 ⟨0, 0, 16500, 1, 1⟩) :=
  ⟨by decide +kernel, by decide +kernel,
    stall_latch_law (liveLink 1 500)
      (Sample.restall ++ [Sample.loadedPass 19400 16400 ⟨0, 0, 16500, 1, 1⟩]) (by decide)
      (by decide +kernel) Sample.restall _ [] rfl⟩

end SrtlaSend
