import SrtlaSend.Properties.LossWindow
import Mathlib.Data.Nat.Cast.Order.Field
import Mathlib.Tactic.Linarith

/-!
# The soft cap over runs

What a tick of the congestion controller does to the target of a link, and how many cuts
a loss that does not respond can cause. The floor of the target is also the mark of a
target that was never seeded, so a link that was cut down to the floor is seeded again;
everywhere else a congestion verdict does not raise the target.
-/

namespace SrtlaSend

open MachineInt Runs

namespace LinkCongestionState

/-! ### One tick -/

/-- What the efficacy test of the backoff looks at. -/
structure Efficacy where
  state : CcState
  ticks : Nat
  entryPm : Nat
  uncongestive : Bool
  heldTicks : Nat
deriving DecidableEq, Repr

def efficacy (s : LinkCongestionState) : Efficacy :=
  ⟨s.state, s.backoffTicks, s.backoffEntryLossPm, s.lossUncongestive, s.uncongestiveTicks⟩

/-- The efficacy test, on the fields it reads and writes. -/
def Efficacy.judge (e : Efficacy) (lossHigh : Bool) (lossPm : Nat) : Efficacy :=
  if !lossHigh then { e with ticks := 0, entryPm := 0, uncongestive := false, heldTicks := 0 }
  else if e.uncongestive then
    if e.heldTicks + 1 ≥ lossUncongestiveRetestTicks then
      { e with uncongestive := false, heldTicks := 0, ticks := 0, entryPm := lossPm }
    else { e with heldTicks := e.heldTicks + 1 }
  else if e.state ≠ .backingOff then { e with ticks := 0, entryPm := lossPm }
  else if e.ticks + 1 < backoffEfficacyTicks then { e with ticks := e.ticks + 1 }
  else if lossPm * 1000 < e.entryPm * backoffEfficacyImprovementPermille then
    { e with ticks := 0, entryPm := lossPm }
  else { e with ticks := e.ticks + 1, uncongestive := true, heldTicks := 0 }

theorem efficacy_updateBackoffEfficacy (s : LinkCongestionState) (lossHigh : Bool)
    (lossPm : Nat) :
    (s.updateBackoffEfficacy lossHigh lossPm).efficacy = s.efficacy.judge lossHigh lossPm := by
  simp only [updateBackoffEfficacy, apply_ite efficacy]
  rfl

/-- The target a tick starts from. -/
def seeded (target sane : Nat) : Nat :=
  if target = minTargetBps then clampTarget (max sane initialTargetBps) else target

theorem targetBps_seedTarget (s : LinkCongestionState) (sane : Nat) :
    (s.seedTarget sane).targetBps = seeded s.targetBps sane := by
  simp only [seedTarget, seeded, apply_ite targetBps]

/-- The loss average does not enter the control. -/
theorem updateLossEwma_frame (exp : ℚ → ℚ) (s : LinkCongestionState) (lossPm nowMs : Nat) :
    (s.updateLossEwma exp lossPm nowMs).targetBps = s.targetBps ∧
      (s.updateLossEwma exp lossPm nowMs).efficacy = s.efficacy := by
  obtain ⟨average, last, since, degraded, eq⟩ := updateLossEwma_eq exp s lossPm nowMs
  rw [eq]
  exact ⟨rfl, rfl⟩

theorem targetBps_updateBackoffEfficacy (s : LinkCongestionState) (lossHigh : Bool)
    (lossPm : Nat) : (s.updateBackoffEfficacy lossHigh lossPm).targetBps = s.targetBps := by
  simp only [updateBackoffEfficacy]
  split_ifs <;> rfl

theorem efficacy_seedTarget (s : LinkCongestionState) (sane : Nat) :
    (s.seedTarget sane).efficacy = s.efficacy := by
  simp only [seedTarget]
  split <;> rfl

/-- The loss permille a tick at `nowMs` judges. -/
def lossAt (s : LinkCongestionState) (nowMs : Nat) : Nat := (s.evictExpired nowMs).lossPermille

/-- The load gate of a tick. -/
def loadedAt (s : LinkCongestionState) (observedBps : Nat) : Bool :=
  decide (s.saneObserved observedBps * 1000 ≥
    seeded s.targetBps (s.saneObserved observedBps) * backoffMinLoadPermille)

/-- Without a round trip a tick only evicts and goes back to bootstrap. -/
theorem tick_of_unmeasured (exp : ℚ → ℚ) {s : LinkCongestionState} (observedBps nowMs : Nat)
    (unmeasured : s.rttEwmaMs = 0) :
    s.tick exp observedBps nowMs =
      { s.evictExpired nowMs with
        state := .bootstrap, climbMode := .normal, targetBps := minTargetBps } := by
  have unmeasured' : (s.evictExpired nowMs).rttEwmaMs = 0 := unmeasured
  rw [tick, if_pos unmeasured']

/-- A tick of a link with a round trip: the target is seeded, the efficacy test is judged
on the state of the last tick, and the move to the next state follows. -/
theorem tick_of_measured (exp : ℚ → ℚ) (s : LinkCongestionState) (observedBps nowMs : Nat)
    (measured : s.rttEwmaMs ≠ 0) :
    ∃ judged : LinkCongestionState,
      judged.efficacy =
          s.efficacy.judge (decide (s.lossAt nowMs > lossBackoffPermille)) (s.lossAt nowMs) ∧
        judged.targetBps = seeded s.targetBps (s.saneObserved observedBps) ∧
        s.tick exp observedBps nowMs =
          judged.moveTo (judged.nextState (decide (s.lossAt nowMs > lossBackoffPermille))
            (s.loadedAt observedBps)) (s.saneObserved observedBps) := by
  obtain ⟨sameTarget, sameEfficacy⟩ :=
    updateLossEwma_frame exp (s.evictExpired nowMs) (s.lossAt nowMs) nowMs
  have sane : ((s.evictExpired nowMs).updateLossEwma exp (s.lossAt nowMs) nowMs).saneObserved
      observedBps = s.saneObserved observedBps := by
    simp only [saneObserved, sameTarget]
    rfl
  have target : (((s.evictExpired nowMs).updateLossEwma exp (s.lossAt nowMs) nowMs).seedTarget
      (s.saneObserved observedBps)).targetBps =
        seeded s.targetBps (s.saneObserved observedBps) := by
    rw [targetBps_seedTarget, sameTarget]
    rfl
  refine ⟨(((s.evictExpired nowMs).updateLossEwma exp (s.lossAt nowMs) nowMs).seedTarget
    (s.saneObserved observedBps)).updateBackoffEfficacy
      (decide (s.lossAt nowMs > lossBackoffPermille)) (s.lossAt nowMs), ?_, ?_, ?_⟩
  · -- the efficacy test sees the state of the last tick
    rw [efficacy_updateBackoffEfficacy, efficacy_seedTarget, sameEfficacy]
    rfl
  · rw [targetBps_updateBackoffEfficacy, target]
  · -- the load gate is judged on the seeded target
    have measured' : ¬ (s.evictExpired nowMs).rttEwmaMs = 0 := measured
    rw [tick, if_neg measured', tickMeasured]
    have pm : (s.evictExpired nowMs).lossPermille = s.lossAt nowMs := rfl
    simp only [pm, sane]
    have gate : (((s.evictExpired nowMs).updateLossEwma exp (s.lossAt nowMs) nowMs).seedTarget
        (s.saneObserved observedBps)).loaded (s.saneObserved observedBps) =
          s.loadedAt observedBps := by
      rw [loaded, target, loadedAt]
    rw [gate]

/-! ### The target -/

def InRange (target : Nat) : Prop := minTargetBps ≤ target ∧ target ≤ maxTargetBps

theorem inRange_floor : InRange minTargetBps := ⟨le_rfl, by decide⟩

theorem inRange_clampTarget (target : Nat) : InRange (clampTarget target) := by
  simp only [InRange, clampTarget, minTargetBps, maxTargetBps]
  omega

theorem inRange_seeded {target : Nat} (range : InRange target) (sane : Nat) :
    InRange (seeded target sane) := by
  rw [seeded]
  split
  · exact inRange_clampTarget _
  · exact range

/-- A link at the floor is seeded with at least the initial target. -/
theorem initial_le_seeded_floor (sane : Nat) : initialTargetBps ≤ seeded minTargetBps sane := by
  rw [seeded, if_pos rfl]
  simp only [clampTarget, initialTargetBps, minTargetBps, maxTargetBps]
  omega

theorem seeded_of_ne {target : Nat} (above : target ≠ minTargetBps) (sane : Nat) :
    seeded target sane = target := if_neg above

/-- Truncating and clamping a target between two integers. -/
theorem clampTarget_trunc {q : ℚ} {low high : Nat} (range : InRange high) (below : (low : ℚ) ≤ q)
    (above : q ≤ high) :
    low ≤ clampTarget (satU64 (trunc q).toNat) ∧
      clampTarget (satU64 (trunc q).toNat) ≤ high := by
  obtain ⟨lower, upper⟩ := trunc_toNat_mem below above
  obtain ⟨floor, ceiling⟩ := range
  simp only [clampTarget, satU64, minTargetBps, maxTargetBps] at *
  omega

theorem targetBps_moveTo {s : LinkCongestionState} {next : CcState} (cut : next ≠ .climbing)
    (sane : Nat) :
    (s.moveTo next sane).targetBps =
      clampTarget (satU64 (trunc (s.nextTarget s.state next sane)).toNat) := by
  -- only a climb arms the fast recovery
  have still : s.armFastRecovery next = s := by
    rw [armFastRecovery, if_neg fun arm => cut arm.2]
  rw [moveTo, still]

/-- Holding, and staying in a drain, hold the target. -/
theorem moveTo_holds {s : LinkCongestionState} {next : CcState} (range : InRange s.targetBps)
    (held : next = .holding ∨ next = .drain ∧ s.state = .drain) (sane : Nat) :
    (s.moveTo next sane).targetBps = s.targetBps := by
  have cut : next ≠ .climbing := by
    rintro rfl
    simp at held
  have same : s.nextTarget s.state next sane = s.targetBps := by
    rcases held with rfl | ⟨rfl, drained⟩
    · rfl
    · simp [nextTarget, drained]
  obtain ⟨lower, upper⟩ := clampTarget_trunc range (le_of_eq same.symm) (le_of_eq same)
  rw [targetBps_moveTo cut]
  exact le_antisymm upper lower

/-- The way into a drain takes a quarter of the target. -/
theorem moveTo_drains {s : LinkCongestionState} (range : InRange s.targetBps)
    (entering : s.state ≠ .drain) (sane : Nat) :
    s.targetBps * 750 / 1000 ≤ (s.moveTo .drain sane).targetBps ∧
      (s.moveTo .drain sane).targetBps ≤ s.targetBps := by
  have next : s.nextTarget s.state .drain sane = (s.targetBps : ℚ) * 750 / 1000 := by
    simp [nextTarget, entering, drainPermille]
  rw [targetBps_moveTo (by simp), next]
  refine clampTarget_trunc range ?_ ?_
  · exact_mod_cast Nat.cast_div_le (α := ℚ)
  · have : (0 : ℚ) ≤ s.targetBps := Nat.cast_nonneg _
    linarith

/-- A backoff takes at most fifteen percent, and no more than leaves what is delivered. -/
theorem moveTo_backs_off {s : LinkCongestionState} (range : InRange s.targetBps) (sane : Nat) :
    s.targetBps * 850 / 1000 ≤ (s.moveTo .backingOff sane).targetBps ∧
      min sane s.targetBps ≤ (s.moveTo .backingOff sane).targetBps ∧
      (s.moveTo .backingOff sane).targetBps ≤ s.targetBps := by
  have next : s.nextTarget s.state .backingOff sane =
      max ((s.targetBps : ℚ) * 850 / 1000) (min (sane : ℚ) s.targetBps) := rfl
  have above : max ((s.targetBps : ℚ) * 850 / 1000) (min (sane : ℚ) s.targetBps) ≤ s.targetBps := by
    have : (0 : ℚ) ≤ s.targetBps := Nat.cast_nonneg _
    refine max_le ?_ (min_le_right _ _)
    linarith
  rw [targetBps_moveTo (by simp), next]
  -- the two lower bounds are the two sides of the maximum
  refine ⟨(clampTarget_trunc range ?_ above).1, clampTarget_trunc range ?_ above⟩
  · refine le_trans ?_ (le_max_left _ _)
    exact_mod_cast Nat.cast_div_le (α := ℚ)
  · rw [Nat.cast_min]
    exact le_max_right _ _

/-- A tick that answers congestion. -/
def Congested (s : LinkCongestionState) : Prop :=
  s.state = .backingOff ∨ s.state = .drain ∨ s.state = .holding

/-- The target was not raised from `s` to `s'`, and it was held by a hold and by a drain that
goes on. -/
structure CapHeld (s s' : LinkCongestionState) : Prop where
  le : s'.targetBps ≤ s.targetBps
  holding : s'.state = .holding → s'.targetBps = s.targetBps
  drained : s'.state = .drain → s.state = .drain → s'.targetBps = s.targetBps

instance (s : LinkCongestionState) : Decidable s.Congested :=
  inferInstanceAs (Decidable (_ ∨ _ ∨ _))

/-- Where the target starts from, and where a congestion verdict takes it. -/
theorem tick_of_congested {exp : ℚ → ℚ} {s : LinkCongestionState} {observedBps nowMs : Nat}
    (range : InRange s.targetBps) (congested : (s.tick exp observedBps nowMs).Congested) :
    CapHeld { s with targetBps := seeded s.targetBps (s.saneObserved observedBps) }
        (s.tick exp observedBps nowMs) ∧
      seeded s.targetBps (s.saneObserved observedBps) * 750 / 1000 ≤
        (s.tick exp observedBps nowMs).targetBps ∧
      ((s.tick exp observedBps nowMs).state = .backingOff →
        min (s.saneObserved observedBps) (seeded s.targetBps (s.saneObserved observedBps)) ≤
          (s.tick exp observedBps nowMs).targetBps) := by
  have measured : s.rttEwmaMs ≠ 0 := by
    intro unmeasured
    rw [tick_of_unmeasured exp observedBps nowMs unmeasured] at congested
    simp [Congested] at congested
  obtain ⟨judged, efficacy, target, tick⟩ := tick_of_measured exp s observedBps nowMs measured
  have sameState : judged.state = s.state := by
    have := congrArg Efficacy.state efficacy
    simp only [Efficacy.judge] at this
    split_ifs at this <;> exact this
  have rangeJudged : InRange judged.targetBps := by
    rw [target]
    exact inRange_seeded range _
  generalize judged.nextState (decide (s.lossAt nowMs > lossBackoffPermille))
    (s.loadedAt observedBps) = next at tick
  have reached : (s.tick exp observedBps nowMs).state = next := by rw [tick]; rfl
  have less : judged.targetBps * 750 / 1000 ≤ judged.targetBps * 850 / 1000 ∧
      judged.targetBps * 750 / 1000 ≤ judged.targetBps := by omega
  rw [← target]
  rcases congested with backs | drains | holds
  · -- a backoff
    obtain rfl : next = .backingOff := reached.symm.trans backs
    obtain ⟨cut, delivered, le⟩ := moveTo_backs_off rangeJudged (s.saneObserved observedBps)
    rw [tick]
    exact ⟨⟨le, nofun, nofun⟩, less.1.trans cut, fun _ => delivered⟩
  · obtain rfl : next = .drain := reached.symm.trans drains
    -- only the first tick of a drain cuts
    by_cases drained : judged.state = .drain
    · have same := moveTo_holds rangeJudged (Or.inr ⟨rfl, drained⟩) (s.saneObserved observedBps)
      rw [tick]
      exact ⟨⟨same.le, fun _ => same, fun _ _ => same⟩, less.2.trans same.ge, nofun⟩
    · obtain ⟨cut, le⟩ := moveTo_drains rangeJudged drained (s.saneObserved observedBps)
      rw [tick]
      refine ⟨⟨le, nofun, fun _ prev => ?_⟩, cut, nofun⟩
      exact absurd (sameState.trans prev) drained
  · -- a hold
    obtain rfl : next = .holding := reached.symm.trans holds
    have same := moveTo_holds rangeJudged (Or.inl rfl) (s.saneObserved observedBps)
    rw [tick]
    exact ⟨⟨same.le, fun _ => same, nofun⟩, less.2.trans same.ge, nofun⟩

/-- A congestion verdict keeps the cap exactly when it does not find the target at the
floor. -/
theorem capHeld_iff {exp : ℚ → ℚ} {s : LinkCongestionState} {observedBps nowMs : Nat}
    (range : InRange s.targetBps) (congested : (s.tick exp observedBps nowMs).Congested) :
    CapHeld s (s.tick exp observedBps nowMs) ↔ s.targetBps ≠ minTargetBps := by
  obtain ⟨held, least, -⟩ := tick_of_congested range congested
  constructor
  · intro kept floor
    -- at the floor the target is seeded first, and no single cut undoes that
    have seed := initial_le_seeded_floor (s.saneObserved observedBps)
    have le := kept.le
    rw [floor] at least le
    simp only [initialTargetBps, minTargetBps] at *
    omega
  · intro above
    rw [seeded_of_ne above] at held
    exact ⟨held.le, held.holding, held.drained⟩

/-- The calls other than a tick leave the target alone. -/
theorem inRange_apply (exp : ℚ → ℚ) {s : LinkCongestionState} (range : InRange s.targetBps)
    (op : CcOp) : InRange (s.apply exp op).targetBps := by
  -- the calls other than a tick do not touch the target; a tick clamps it
  cases op with
  | recordRtt rttMs nowMs =>
    have same : (s.recordRtt rttMs nowMs).targetBps = s.targetBps := by
      simp only [recordRtt, updateRttMin]
      split_ifs <;> rfl
    rw [apply, same]
    exact range
  | observeTraffic bytesSentTotal nakTotal nowMs =>
    have same : (s.observeTraffic bytesSentTotal nakTotal nowMs).targetBps = s.targetBps := by
      simp only [observeTraffic]
      split
      · rfl
      · split <;> rfl
    rw [apply, same]
    exact range
  | recordLoss sent lost nowMs => exact range
  | tick observedBps nowMs =>
    rw [apply]
    by_cases measured : s.rttEwmaMs = 0
    · rw [tick_of_unmeasured exp observedBps nowMs measured]
      exact inRange_floor
    · obtain ⟨judged, -, -, eq⟩ := tick_of_measured exp s observedBps nowMs measured
      rw [eq]
      exact inRange_clampTarget _

theorem inRange_run (exp : ℚ → ℚ) (ops : List CcOp) :
    InRange (run (apply exp) default ops).targetBps :=
  run_invariant (fun s : LinkCongestionState => InRange s.targetBps)
    (fun _ op range => inRange_apply exp range op) inRange_floor ops

/-- In every run of the controller: a tick that ends in a congestion verdict keeps the cap
exactly when it does not find the target at the floor, a backoff leaves what is
delivered, and the target stays in its range. -/
theorem verdict_keeps_cap (exp : ℚ → ℚ) (before : List CcOp) :
    InRange (run (apply exp) default before).targetBps ∧
    ∀ observedBps nowMs, (run (apply exp) default before).state ≠ .bootstrap →
      (((run (apply exp) default before).tick exp observedBps nowMs).Congested →
        (CapHeld (run (apply exp) default before)
            ((run (apply exp) default before).tick exp observedBps nowMs) ↔
          (run (apply exp) default before).targetBps ≠ minTargetBps)) ∧
      (((run (apply exp) default before).tick exp observedBps nowMs).state = .backingOff →
        min (run (apply exp) default before).targetBps
            ((run (apply exp) default before).saneObserved observedBps) ≤
          ((run (apply exp) default before).tick exp observedBps nowMs).targetBps) := by
  have range := inRange_run exp before
  refine ⟨range, fun observedBps nowMs _ => ⟨capHeld_iff range, fun backs => ?_⟩⟩
  obtain ⟨-, -, delivered⟩ := tick_of_congested range (Or.inl backs)
  have least := delivered backs
  have range' := inRange_apply exp range (.tick observedBps nowMs)
  by_cases floor : (run (apply exp) default before).targetBps = minTargetBps
  · -- seeded before the cut, the target still ends above the floor
    rw [floor]
    exact (min_le_left _ _).trans range'.1
  · rw [seeded_of_ne floor] at least
    rwa [min_comm]

/-- A rational stand-in for the exponential. The control does not depend on it. -/
def expApprox (x : ℚ) : ℚ := 1 / (1 - x + x * x / 2)

/-- Round trips at twice their minimum, answered by drains and backoffs in turn. -/
def cutToFloor : List CcOp :=
  [.recordRtt 50 1000, .tick 0 1000, .recordRtt 100 4000, .tick 0 4000,
   .recordLoss 1000 10 6000, .tick 250000 6000, .tick 0 8000,
   .recordLoss 1000 10 10000, .tick 150000 10000, .tick 0 12000,
   .recordLoss 1000 10 14000, .tick 100000 14000, .tick 0 16000,
   .recordLoss 1000 10 18000, .tick 60000 18000, .tick 0 20000,
   .recordLoss 1000 10 22000, .tick 40000 22000]

/-- The tick before the floor is reached meets the condition and keeps the cap. -/
theorem verdict_keeps_cap_drain :
    ((run (apply expApprox) default cutToFloor).tick expApprox 0 24000).state = .drain ∧
    CapHeld (run (apply expApprox) default cutToFloor)
      ((run (apply expApprox) default cutToFloor).tick expApprox 0 24000) := by
  refine ⟨by decide +kernel, ?_⟩
  exact (((verdict_keeps_cap expApprox cutToFloor).2 0 24000 (by decide +kernel)).1
    (by decide +kernel)).mpr (by decide +kernel)

/-- The next tick finds the target at the floor: a drain that goes on raises it from
100000 to 1000000. -/
theorem floor_is_seeded_again :
    ¬ ∀ (exp : ℚ → ℚ) (before : List CcOp) (observedBps nowMs : Nat),
      (run (apply exp) default before).state ≠ .bootstrap →
      ((run (apply exp) default before).tick exp observedBps nowMs).Congested →
      CapHeld (run (apply exp) default before)
        ((run (apply exp) default before).tick exp observedBps nowMs) := by
  intro kept
  have raised := (kept expApprox (cutToFloor ++ [.tick 0 24000]) 0 25000 (by decide +kernel)
    (by decide +kernel)).le
  exact absurd raised (by decide +kernel)

end LinkCongestionState

end SrtlaSend
