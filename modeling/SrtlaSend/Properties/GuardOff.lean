import SrtlaSend.Properties.Selection
import SrtlaSend.Core.Quality
import SrtlaSend.Lib.Run

/-!
# Selection without the stall guard

With the guard off, a pass first drops everything the guard has left on the links: the
gate, the pull, the latch with its stamps and backoff, and a ramp that the latch armed.
What remains of it are three counters, which nothing in a pass reads. So the guard's past
cannot be seen in any later choice.
-/

namespace SrtlaSend

open MachineInt Runs Pointwise SrtlaConnection

namespace SrtlaConnection

/-- `c` with the counters of `g`. -/
def withCounters (c g : SrtlaConnection) : SrtlaConnection :=
  { c with
    stallGateEvents := g.stallGateEvents
    stallProbeCounter := g.stallProbeCounter
    silencePulls := g.silencePulls }

/-- `c` with everything the stall guard leaves on a link, from `g`. -/
def withGuard (c g : SrtlaConnection) : SrtlaConnection :=
  { c.withCounters g with
    stallGated := g.stallGated
    stallLatchedSinceMs := g.stallLatchedSinceMs
    stallRecoverySinceMs := g.stallRecoverySinceMs
    stallReleasedAtMs := g.stallReleasedAtMs
    stallRejoinBackoff := g.stallRejoinBackoff
    stallRejoinRampStartMs := g.stallRejoinRampStartMs
    stallRejoinRampMs := g.stallRejoinRampMs
    stallRejoinRampFromStallGate := g.stallRejoinRampFromStallGate
    silencePulled := g.silencePulled }

/-- The two links agree outside the counters. -/
def SameUpToCounters (c c' : SrtlaConnection) : Prop := c' = c.withCounters c'

/-- The rejoin ramp: its start, its length, and whether the stall gate armed it. -/
def ramp (c : SrtlaConnection) : Nat × Nat × Bool :=
  (c.stallRejoinRampStartMs, c.stallRejoinRampMs, c.stallRejoinRampFromStallGate)

/-- No ramp is armed. -/
def noRamp : Nat × Nat × Bool := (0, 0, false)

/-- The two links agree outside what the stall guard writes; their ramps are the same, or
one is of the stall gate and the other is not armed. -/
structure SameUpToGuard (c c' : SrtlaConnection) : Prop where
  fields : c' = c.withGuard c'
  ramps : c'.ramp = c.ramp ∨
    (c.stallRejoinRampFromStallGate = true ∧ c'.ramp = noRamp) ∨
    (c.ramp = noRamp ∧ c'.stallRejoinRampFromStallGate = true)

theorem SameUpToCounters.toGuard {c c' : SrtlaConnection} (h : SameUpToCounters c c') :
    SameUpToGuard c c' := by
  rw [h]
  exact ⟨rfl, Or.inl rfl⟩

/-- The ramp that is left when the guard is dropped. -/
def foreignRamp (c : SrtlaConnection) : Nat × Nat × Bool :=
  if c.stallRejoinRampFromStallGate then noRamp else c.ramp

/-- Everything but the foreign ramp is reset. -/
theorem dropStallGuard_eq (c : SrtlaConnection) :
    c.dropStallGuard =
      { c with
        stallGated := false
        silencePulled := false
        stallLatchedSinceMs := 0
        stallRecoverySinceMs := 0
        stallReleasedAtMs := 0
        stallRejoinBackoff := 0
        stallRejoinRampStartMs := c.foreignRamp.1
        stallRejoinRampMs := c.foreignRamp.2.1
        stallRejoinRampFromStallGate := c.foreignRamp.2.2 } := by
  simp only [dropStallGuard, clearStallLatch, foreignRamp]
  split <;> rfl

theorem SameUpToGuard.foreignRamp {c c' : SrtlaConnection} (h : SameUpToGuard c c') :
    c'.foreignRamp = c.foreignRamp := by
  simp only [SrtlaConnection.foreignRamp]
  rcases h.ramps with same | ⟨stall, none⟩ | ⟨none, stall⟩
  · have armed : c'.stallRejoinRampFromStallGate = c.stallRejoinRampFromStallGate :=
      congrArg (·.2.2) same
    rw [armed, same]
  · -- a ramp of the stall gate on one side, which goes with the guard, and none on the other
    have unarmed : c'.stallRejoinRampFromStallGate = false := congrArg (·.2.2) none
    rw [stall, unarmed, none]
    rfl
  · have unarmed : c.stallRejoinRampFromStallGate = false := congrArg (·.2.2) none
    rw [stall, unarmed, none]
    rfl

/-- Dropping the guard leaves the counters of its past. -/
theorem SameUpToGuard.dropStallGuard {c c' : SrtlaConnection} (h : SameUpToGuard c c')
    (config : ConfigSnapshot) :
    SameUpToCounters (c.refreshTimeouts config).dropStallGuard
      (c'.refreshTimeouts config).dropStallGuard := by
  have ramps : (c'.refreshTimeouts config).foreignRamp = (c.refreshTimeouts config).foreignRamp :=
    h.foreignRamp
  rw [dropStallGuard_eq, dropStallGuard_eq, ramps, h.fields]
  rfl

end SrtlaConnection

/-! ### What a pass reads and writes -/

/-- The reading does not look at the counters. -/
def IgnoresCounters {β : Type} (f : SrtlaConnection → β) : Prop := ∀ c g, f (c.withCounters g) = f c

/-- The write takes the counters along. -/
def CarriesCounters (f : SrtlaConnection → SrtlaConnection) : Prop :=
  ∀ c g, f (c.withCounters g) = (f c).withCounters g

abbrev SameBondUpToCounters (conns conns' : List SrtlaConnection) : Prop :=
  List.Forall₂ SameUpToCounters conns conns'

theorem IgnoresCounters.eq {β : Type} {f : SrtlaConnection → β} (ignores : IgnoresCounters f)
    (c c' : SrtlaConnection) (h : SameUpToCounters c c') : f c' = f c := by
  rw [h]
  exact ignores c c'

theorem CarriesCounters.same {f : SrtlaConnection → SrtlaConnection} (carries : CarriesCounters f)
    (c c' : SrtlaConnection) (h : SameUpToCounters c c') : SameUpToCounters (f c) (f c') := by
  rw [h, carries]
  rfl

theorem carries_armRejoinRamp (nowMs rampMs : Nat) (fromStallGate : Bool) :
    CarriesCounters (·.armRejoinRamp nowMs rampMs fromStallGate) := by
  intro c g
  have same : (c.withCounters g).rejoinRampMultiplier nowMs = c.rejoinRampMultiplier nowMs := rfl
  simp only [armRejoinRamp, same]
  split <;> rfl

namespace Enhanced

theorem carries_leaveExclusion (nowMs : Nat) : CarriesCounters (leaveExclusion · nowMs) := by
  intro c g
  have same : (c.withCounters g).soleCarrierExcluded = c.soleCarrierExcluded := rfl
  simp only [leaveExclusion, same]
  split
  · exact carries_armRejoinRamp nowMs heldOutRejoinRampMs false c g
  · rfl

theorem carries_releaseSoleCarrier (nowMs : Nat) : CarriesCounters (releaseSoleCarrier · nowMs) := by
  intro c g
  simp only [releaseSoleCarrier, carries_leaveExclusion nowMs c g]
  rfl

theorem carries_installCarrier (handover : Bool) (nowMs : Nat) :
    CarriesCounters (installCarrier · handover nowMs) := by
  intro c g
  have role : CarriesCounters (takeRole · handover nowMs) := by
    intro c g
    have same : (c.withCounters g).soleCarrier = c.soleCarrier := rfl
    simp only [takeRole, same]
    split <;> rfl
  have taken := role (leaveExclusion c nowMs) g
  simp only [installCarrier, carries_leaveExclusion nowMs c g, taken]
  rfl

theorem carries_dismissCarrier (handover elected : Bool) (nowMs : Nat) :
    CarriesCounters (dismissCarrier · handover elected nowMs) := fun _ _ => rfl

theorem carries_holdOut (nowMs : Nat) (anyUnconstrained : Bool) (soleCarrier : Option Nat) (i : Nat) :
    CarriesCounters (holdOut nowMs anyUnconstrained soleCarrier i) := by
  intro c g
  have verdict : isExcluded nowMs anyUnconstrained soleCarrier i (c.withCounters g) =
      isExcluded nowMs anyUnconstrained soleCarrier i c := rfl
  have before : (c.withCounters g).qualityExcluded = c.qualityExcluded := rfl
  have ramped : (c.withCounters g).armRejoinRamp nowMs heldOutRejoinRampMs false =
      (c.armRejoinRamp nowMs heldOutRejoinRampMs false).withCounters g :=
    carries_armRejoinRamp nowMs heldOutRejoinRampMs false c g
  simp only [holdOut, verdict, setExcluded, before]
  split
  · rw [ramped]
    rfl
  · rfl

/-- The score ignores the counters, and the refreshed cache takes them along. -/
theorem scoreLink_withCounters (exp : ℚ → ℚ) (nowMs : Nat) (anyUnconstrained enableQuality : Bool)
    (c g : SrtlaConnection) :
    scoreLink (calculateQualityMultiplier exp) nowMs anyUnconstrained enableQuality (c.withCounters g) =
      ((scoreLink (calculateQualityMultiplier exp) nowMs anyUnconstrained enableQuality c).1.withCounters g,
        (scoreLink (calculateQualityMultiplier exp) nowMs anyUnconstrained enableQuality c).2) := by
  have ranked : isRanked nowMs anyUnconstrained (c.withCounters g) =
      isRanked nowMs anyUnconstrained c := rfl
  have cached : (c.withCounters g).qualityCache = c.qualityCache := rfl
  simp only [scoreLink, ranked, getCachedQualityMultiplier, cached]
  split
  · rfl
  · split
    · rfl
    · split <;> rfl

/-- The incumbent is found by its candidacy and its role alone. -/
theorem incumbent_eq_foldl (conns : List SrtlaConnection) (nowMs : Nat) :
    incumbent conns nowMs =
      (conns.map fun c => c.isCandidate nowMs && c.soleCarrier).zipIdx.foldl
        (fun found entry => if entry.1 then some entry.2 else found) none := by
  rw [List.zipIdx_map, List.foldl_map]
  rfl

/-- Who is elected does not depend on the counters. -/
theorem electedCarrier_eq {conns conns' : List SrtlaConnection}
    (same : SameBondUpToCounters conns conns') (nowMs : Nat) :
    incumbent conns' nowMs = incumbent conns nowMs ∧
      electedCarrier conns' nowMs = electedCarrier conns nowMs := by
  -- every scan of the election maps the links through a reading that ignores the counters
  have measured : bestMeasured conns' nowMs = bestMeasured conns nowMs :=
    congrArg (FirstMax.scan none) (map_eq_of_forall₂
      (IgnoresCounters.eq (show IgnoresCounters (measuredRtt nowMs) from fun _ _ => rfl)) same)
  have unmeasured : bestUnmeasured conns' nowMs = bestUnmeasured conns nowMs :=
    congrArg (FirstMax.scan none) (map_eq_of_forall₂
      (IgnoresCounters.eq (show IgnoresCounters (unmeasuredScore nowMs) from fun _ _ => rfl)) same)
  have holder : incumbent conns' nowMs = incumbent conns nowMs := by
    rw [incumbent_eq_foldl, incumbent_eq_foldl, map_eq_of_forall₂ (IgnoresCounters.eq
      (show IgnoresCounters fun c => c.isCandidate nowMs && c.soleCarrier from fun _ _ => rfl)) same]
  have challenged (inc : Nat) (bestRtt : ℚ) :
      ((conns'[inc]?).any fun c => soleCarrierHandover c.getSmoothRttMs bestRtt
        (nowMs - c.soleCarrierSinceMs) soleCarrierMinHoldMs soleCarrierMargin) =
      (conns[inc]?).any fun c => soleCarrierHandover c.getSmoothRttMs bestRtt
        (nowMs - c.soleCarrierSinceMs) soleCarrierMinHoldMs soleCarrierMargin := by
    have read := map_eq_of_forall₂ (IgnoresCounters.eq (show IgnoresCounters fun c =>
      soleCarrierHandover c.getSmoothRttMs bestRtt (nowMs - c.soleCarrierSinceMs)
        soleCarrierMinHoldMs soleCarrierMargin from fun _ _ => rfl)) same
    have at_inc := congrArg (fun l : List Bool => (l[inc]?).any id) read
    simpa only [List.getElem?_map, Option.any_map, id_eq] using at_inc
  refine ⟨holder, ?_⟩
  simp only [electedCarrier, holder, measured, unmeasured, challenged]

/-- The election elects the same link, and leaves the counters where they are. -/
theorem electSoleCarrier_same {conns conns' : List SrtlaConnection}
    (same : SameBondUpToCounters conns conns') (nowMs : Nat) (anyQualityOk : Bool) :
    SameBondUpToCounters (electSoleCarrier conns nowMs anyQualityOk).1
        (electSoleCarrier conns' nowMs anyQualityOk).1 ∧
      (electSoleCarrier conns' nowMs anyQualityOk).2 = (electSoleCarrier conns nowMs anyQualityOk).2 := by
  obtain ⟨holder, elected⟩ := electedCarrier_eq same nowMs
  simp only [electSoleCarrier, holder, elected]
  split
  · exact ⟨forall₂_map_both (carries_releaseSoleCarrier nowMs).same same, rfl⟩
  · refine ⟨forall₂_mapIdx_both (fun i c c' h => ?_) same, rfl⟩
    split
    · exact (carries_installCarrier _ nowMs).same c c' h
    · exact (carries_dismissCarrier _ _ nowMs).same c c' h

theorem anyUnconstrained_same {conns conns' : List SrtlaConnection}
    (same : SameBondUpToCounters conns conns') (nowMs : Nat) :
    conns'.any (unconstrained nowMs) = conns.any (unconstrained nowMs) :=
  any_eq_of_forall₂
    (IgnoresCounters.eq (show IgnoresCounters (unconstrained nowMs) from fun _ _ => rfl)) same

theorem prepare_same {conns conns' : List SrtlaConnection}
    (same : SameBondUpToCounters conns conns') (nowMs : Nat) :
    SameBondUpToCounters (prepare conns nowMs) (prepare conns' nowMs) := by
  have free := anyUnconstrained_same same nowMs
  have healthy : conns'.any (qualityOk nowMs) = conns.any (qualityOk nowMs) :=
    any_eq_of_forall₂
      (IgnoresCounters.eq (show IgnoresCounters (qualityOk nowMs) from fun _ _ => rfl)) same
  obtain ⟨links, carrier⟩ := electSoleCarrier_same same nowMs (conns.any (qualityOk nowMs))
  simp only [prepare, free, healthy, carrier]
  exact forall₂_mapIdx_both (fun i => (carries_holdOut nowMs _ _ i).same) links

/-- The enhanced selector makes the same choice. -/
theorem selectConnection_same {conns conns' : List SrtlaConnection}
    (same : SameBondUpToCounters conns conns') (exp : ℚ → ℚ) (lastIdx : Option Nat) (nowMs : Nat)
    (enableQuality : Bool) :
    SameBondUpToCounters
        (selectConnection (calculateQualityMultiplier exp) conns lastIdx nowMs enableQuality).1
        (selectConnection (calculateQualityMultiplier exp) conns' lastIdx nowMs enableQuality).1 ∧
      (selectConnection (calculateQualityMultiplier exp) conns' lastIdx nowMs enableQuality).2 =
        (selectConnection (calculateQualityMultiplier exp) conns lastIdx nowMs enableQuality).2 := by
  have free := anyUnconstrained_same same nowMs
  have prepared := prepare_same same nowMs
  -- scoring refreshes the cache of a link and returns its score
  have links : CarriesCounters fun c => (scoreLink (calculateQualityMultiplier exp) nowMs
      (conns.any (unconstrained nowMs)) enableQuality c).1 := by
    intro c g
    simp only [scoreLink_withCounters]
  have scores : IgnoresCounters fun c => (scoreLink (calculateQualityMultiplier exp) nowMs
      (conns.any (unconstrained nowMs)) enableQuality c).2 := by
    intro c g
    simp only [scoreLink_withCounters]
  simp only [selectConnection, rankLinks, free, List.map_map]
  refine ⟨forall₂_map_both links.same prepared, ?_⟩
  have ranking := map_eq_of_forall₂ scores.eq prepared
  rw [Function.comp_def]
  rw [ranking]

end Enhanced

/-! ### Two runs -/

/-- One call of the selector. -/
structure SelectCall where
  lastIdx : Option Nat
  now : Nat
  config : ConfigSnapshot

/-- What a call returns, with the links as it leaves them. -/
def SelectCall.select (exp : ℚ → ℚ) (conns : List SrtlaConnection) (call : SelectCall) :
    List SrtlaConnection × Option Nat :=
  selectConnectionIdx (calculateQualityMultiplier exp) conns call.lastIdx call.now call.config

def SelectCall.step (exp : ℚ → ℚ) (conns : List SrtlaConnection) (call : SelectCall) :
    List SrtlaConnection := (call.select exp conns).1

/-- A call without the guard makes the same choice whatever the guard has left. -/
theorem SelectCall.select_same {conns conns' : List SrtlaConnection}
    (same : List.Forall₂ SameUpToGuard conns conns') (exp : ℚ → ℚ) {call : SelectCall}
    (off : call.config.stallDeselect = false) :
    (call.select exp conns').2 = (call.select exp conns).2 ∧
      SameBondUpToCounters (call.select exp conns).1 (call.select exp conns').1 := by
  -- without the guard the gate only takes back what it has left
  have gate (conns : List SrtlaConnection) : applyStallGate conns call.now call.config =
      conns.map fun c => (c.refreshTimeouts call.config).dropStallGuard := by
    simp only [applyStallGate, off, Bool.not_false, if_true, List.map_map]
    rfl
  have dropped : SameBondUpToCounters (applyStallGate conns call.now call.config)
      (applyStallGate conns' call.now call.config) := by
    rw [gate, gate]
    exact forall₂_map_both (fun c c' h => h.dropStallGuard call.config) same
  simp only [select, selectConnectionIdx]
  cases call.config.mode with
  | classic =>
    have cleared : SameBondUpToCounters
        ((applyStallGate conns call.now call.config).map (·.clearQualityGateState))
        ((applyStallGate conns' call.now call.config).map (·.clearQualityGateState)) :=
      forall₂_map_both (CarriesCounters.same
        (show CarriesCounters (·.clearQualityGateState) from fun _ _ => rfl)) dropped
    refine ⟨?_, cleared⟩
    simp only [Classic.selectConnection]
    rw [map_eq_of_forall₂ (IgnoresCounters.eq
      (show IgnoresCounters (Classic.rank call.now) from fun _ _ => rfl)) cleared]
  | enhanced =>
    exact (Enhanced.selectConnection_same dropped exp call.lastIdx call.now
      call.config.effectiveQualityEnabled).symm

/-- Two bonds that differ in what the stall guard has left on their links are told apart by
no later call without it, and agree after the first up to its counters. -/
theorem guard_off_restores_baseline (exp : ℚ → ℚ) (conns conns' : List SrtlaConnection)
    (calls : List SelectCall) (same : List.Forall₂ SameUpToGuard conns conns')
    (off : ∀ call ∈ calls, call.config.stallDeselect = false) :
    ∀ before call after, calls = before ++ call :: after →
      (call.select exp (run (SelectCall.step exp) conns' before)).2 =
          (call.select exp (run (SelectCall.step exp) conns before)).2 ∧
        SameBondUpToCounters (run (SelectCall.step exp) conns (before ++ [call]))
          (run (SelectCall.step exp) conns' (before ++ [call])) := by
  rintro before call after rfl
  -- up to the guard the bonds agree before each call, up to the counters after it
  have still : List.Forall₂ SameUpToGuard (run (SelectCall.step exp) conns before)
      (run (SelectCall.step exp) conns' before) := by
    induction before using List.reverseRecOn with
    | nil => exact same
    | append_singleton before last ih =>
      have earlier := ih fun call member => off call (by
        simp only [List.mem_append, List.mem_cons] at member ⊢
        tauto)
      have agree := (SelectCall.select_same earlier exp (off last (by simp))).2
      rw [run_append, run_append, run_cons, run_cons, run_nil, run_nil]
      exact agree.imp fun _ _ h => h.toGuard
  rw [run_append, run_append, run_cons, run_cons, run_nil, run_nil]
  exact SelectCall.select_same still exp (off call (by simp))

namespace Sample

/-- A link the guard holds out, with a ramp of an earlier rejoin. -/
def heldOut : SrtlaConnection :=
  { liveLink 1 1000 with
    stallGated := true
    stallLatchedSinceMs := 900
    stallReleasedAtMs := 800
    stallRejoinBackoff := 4
    stallRejoinRampStartMs := 800
    stallRejoinRampMs := 6000
    stallRejoinRampFromStallGate := true
    silencePulled := true
    stallGateEvents := 3
    silencePulls := 7
    stallProbeCounter := 12 }

/-- An enhanced call and a classic one, both without the guard. -/
def offCalls : List SelectCall :=
  [⟨none, 1200, { stallDeselect := false }⟩, ⟨some 0, 1300, { mode := .classic, stallDeselect := false }⟩]

end Sample

/-- The link that was held out is chosen as if it had never been. -/
theorem guard_off_restores_baseline_heldOut :
    ((Sample.offCalls.getLast (by decide)).select (fun _ => 1)
        (run (SelectCall.step fun _ => 1) [Sample.heldOut, liveLink 2 1000] [Sample.offCalls.head (by decide)])).2 =
        some 0 ∧
      SameBondUpToCounters
        (run (SelectCall.step fun _ => 1) [liveLink 1 1000, liveLink 2 1000] Sample.offCalls)
        (run (SelectCall.step fun _ => 1) [Sample.heldOut, liveLink 2 1000] Sample.offCalls) := by
  have same : List.Forall₂ SameUpToGuard [liveLink 1 1000, liveLink 2 1000]
      [Sample.heldOut, liveLink 2 1000] :=
    .cons ⟨rfl, Or.inr (Or.inr ⟨rfl, rfl⟩)⟩ (.cons ⟨rfl, Or.inl rfl⟩ .nil)
  have both := guard_off_restores_baseline (fun _ => 1) _ _ Sample.offCalls same (by decide)
    [Sample.offCalls.head (by decide)] (Sample.offCalls.getLast (by decide)) [] rfl
  refine ⟨both.1.trans ?_, both.2⟩
  decide +kernel

end SrtlaSend
