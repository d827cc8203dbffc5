import SrtlaSend.Core.Selection
import SrtlaSend.Lib.Pointwise

/-!
# What a selection pass may change

A pass writes nothing but gate and election fields, the quality cache, and the
two timeouts it refreshes from the configuration. Its parts write even less: the
election leaves the stall gate alone, and only the ranking loop touches the
cache. Each fact is stated as an equation such as `after = before.withGates
after`, from which every unchanged field can be read off.
-/

namespace SrtlaSend

namespace SrtlaConnection

/-! ### Frames -/

/-- `c` with the fields that the election and the exclusion write, from `g`. -/
def withElection (c g : SrtlaConnection) : SrtlaConnection :=
  { c with
    stallRejoinRampStartMs := g.stallRejoinRampStartMs
    stallRejoinRampMs := g.stallRejoinRampMs
    stallRejoinRampFromStallGate := g.stallRejoinRampFromStallGate
    soleCarrier := g.soleCarrier
    soleCarrierSinceMs := g.soleCarrierSinceMs
    soleCarrierExcluded := g.soleCarrierExcluded
    soleCarrierElections := g.soleCarrierElections
    qualityExcluded := g.qualityExcluded }

/-- `c` with these and the fields of the stall gate, from `g`. -/
def withGates (c g : SrtlaConnection) : SrtlaConnection :=
  { c.withElection g with
    stallGated := g.stallGated
    stallLatchedSinceMs := g.stallLatchedSinceMs
    stallRecoverySinceMs := g.stallRecoverySinceMs
    stallGateEvents := g.stallGateEvents
    stallReleasedAtMs := g.stallReleasedAtMs
    stallRejoinBackoff := g.stallRejoinBackoff
    silencePulled := g.silencePulled
    silencePulls := g.silencePulls }

/-- `c` with the rejoin ramp of `g`, which the stall gate and the election both arm. -/
def withRamp (c g : SrtlaConnection) : SrtlaConnection :=
  { c with
    stallRejoinRampStartMs := g.stallRejoinRampStartMs
    stallRejoinRampMs := g.stallRejoinRampMs
    stallRejoinRampFromStallGate := g.stallRejoinRampFromStallGate }

/-- `c` with the ramp and the fields of the stall gate, from `g`. -/
def withStallGate (c g : SrtlaConnection) : SrtlaConnection :=
  { c.withRamp g with
    stallGated := g.stallGated
    stallLatchedSinceMs := g.stallLatchedSinceMs
    stallRecoverySinceMs := g.stallRecoverySinceMs
    stallGateEvents := g.stallGateEvents
    stallReleasedAtMs := g.stallReleasedAtMs
    stallRejoinBackoff := g.stallRejoinBackoff
    silencePulled := g.silencePulled
    silencePulls := g.silencePulls }

/-- `c` with every field that a whole pass writes, from `g`. -/
def withPass (c g : SrtlaConnection) : SrtlaConnection :=
  { c.withGates g with qualityCache := g.qualityCache }

/-- The two links agree outside the rejoin ramp. -/
def SameUpToRamp (c c' : SrtlaConnection) : Prop := c' = c.withRamp c'

/-- The two links agree outside the silence pull. -/
def SameUpToPull (c c' : SrtlaConnection) : Prop :=
  c' = { c with silencePulled := c'.silencePulled, silencePulls := c'.silencePulls }

/-- The two links agree outside what the stall gate writes. -/
def SameUpToStallGate (c c' : SrtlaConnection) : Prop := c' = c.withStallGate c'

/-- The two links agree outside the election fields. -/
def SameUpToElection (c c' : SrtlaConnection) : Prop := c' = c.withElection c'

/-- The two links agree outside the gate fields. -/
def SameUpToGates (c c' : SrtlaConnection) : Prop := c' = c.withGates c'

/-- The two links agree outside the quality cache. -/
def SameUpToCache (c c' : SrtlaConnection) : Prop := c' = { c with qualityCache := c'.qualityCache }

/-- The two links agree outside what a pass writes. -/
def SameUpToPass (c c' : SrtlaConnection) : Prop := c' = c.withPass c'

theorem SameUpToPull.toStallGate {c c' : SrtlaConnection} (h : SameUpToPull c c') :
    SameUpToStallGate c c' := by
  rw [SameUpToStallGate, h]
  rfl

namespace SameUpToRamp

variable {c c' : SrtlaConnection}

theorem toStallGate (h : SameUpToRamp c c') : SameUpToStallGate c c' := by
  rw [SameUpToStallGate, h]
  rfl

theorem toElection (h : SameUpToRamp c c') : SameUpToElection c c' := by
  rw [SameUpToElection, h]
  rfl

end SameUpToRamp

namespace SameUpToStallGate

variable {c c' c'' : SrtlaConnection}

theorem trans (h : SameUpToStallGate c c') (h' : SameUpToStallGate c' c'') :
    SameUpToStallGate c c'' := by
  unfold SameUpToStallGate at h
  rw [SameUpToStallGate, h', h]
  rfl

theorem toGates (h : SameUpToStallGate c c') : SameUpToGates c c' := by
  rw [SameUpToGates, h]
  rfl

end SameUpToStallGate

namespace SameUpToElection

variable {c c' c'' : SrtlaConnection}

theorem refl (c : SrtlaConnection) : SameUpToElection c c := rfl

theorem trans (h : SameUpToElection c c') (h' : SameUpToElection c' c'') :
    SameUpToElection c c'' := by
  unfold SameUpToElection at h
  rw [SameUpToElection, h', h]
  rfl

theorem toGates (h : SameUpToElection c c') : SameUpToGates c c' := by
  rw [SameUpToGates, h]
  rfl

theorem isCandidate (h : SameUpToElection c c') (nowMs : Nat) :
    c'.isCandidate nowMs = c.isCandidate nowMs := by
  rw [h]
  rfl

theorem inFlightCapExceeded (h : SameUpToElection c c') :
    Enhanced.inFlightCapExceeded c' = Enhanced.inFlightCapExceeded c := by
  rw [h]
  rfl

theorem unconstrained (h : SameUpToElection c c') (nowMs : Nat) :
    Enhanced.unconstrained nowMs c' = Enhanced.unconstrained nowMs c := by
  rw [h]
  rfl

theorem isLate (h : SameUpToElection c c') : Enhanced.isLate c' = Enhanced.isLate c := by
  rw [h]
  rfl

end SameUpToElection

namespace SameUpToGates

variable {c c' c'' : SrtlaConnection}

theorem trans (h : SameUpToGates c c') (h' : SameUpToGates c' c'') : SameUpToGates c c'' := by
  unfold SameUpToGates at h
  rw [SameUpToGates, h', h]
  rfl

theorem thenPass (h : SameUpToGates c c') (h' : SameUpToPass c' c'') : SameUpToPass c c'' := by
  unfold SameUpToGates at h
  rw [SameUpToPass, h', h]
  rfl

theorem toPass (h : SameUpToGates c c') : SameUpToPass c c' := by
  rw [SameUpToPass, h]
  rfl

theorem qualityCache (h : SameUpToGates c c') : c'.qualityCache = c.qualityCache := by
  rw [h]
  rfl

theorem isUsable (h : SameUpToGates c c') (nowMs : Nat) : c'.isUsable nowMs = c.isUsable nowMs := by
  rw [h]
  rfl

end SameUpToGates

theorem SameUpToCache.toPass {c c' : SrtlaConnection} (h : SameUpToCache c c') :
    SameUpToPass c c' := by
  rw [SameUpToPass, h]
  rfl

namespace SameUpToPass

variable {c c' : SrtlaConnection}

theorem connId (h : SameUpToPass c c') : c'.connId = c.connId := by
  rw [h]
  rfl

theorem connected (h : SameUpToPass c c') : c'.connected = c.connected := by
  rw [h]
  rfl

theorem window (h : SameUpToPass c c') : c'.window = c.window := by
  rw [h]
  rfl

theorem getScore (h : SameUpToPass c c') : c'.getScore = c.getScore := by
  rw [h]
  rfl

theorem isUsable (h : SameUpToPass c c') (nowMs : Nat) : c'.isUsable nowMs = c.isUsable nowMs := by
  rw [h]
  rfl

end SameUpToPass

/-! ### Each step of a pass -/

theorem armRejoinRamp_frame (c : SrtlaConnection) (nowMs rampMs : Nat) (fromStallGate : Bool) :
    SameUpToRamp c (c.armRejoinRamp nowMs rampMs fromStallGate) := by
  unfold armRejoinRamp
  split <;> rfl

theorem updateSilencePull_frame (c : SrtlaConnection) (nowMs : Nat) (minInFlight : Int)
    (staleCeilingMs : Nat) :
    SameUpToPull c (c.updateSilencePull nowMs minInFlight staleCeilingMs) := by
  unfold updateSilencePull
  simp only
  split
  · rfl
  · split
    · rfl
    · split <;> rfl

/-- The release of the latch, which may arm the ramp. -/
private theorem releaseStallLatch_frame (c : SrtlaConnection) (nowMs rampMs : Nat) :
    SameUpToStallGate c
      ({ c with
          stallLatchedSinceMs := 0
          stallRecoverySinceMs := 0
          stallReleasedAtMs := nowMs }.armRejoinRamp nowMs rampMs true) := by
  refine SameUpToStallGate.trans ?_ (armRejoinRamp_frame _ nowMs rampMs true).toStallGate
  rfl

theorem updateStallLatch_frame (c : SrtlaConnection) (nowMs : Nat) (minInFlight : Int)
    (staleCeilingMs : Nat) :
    SameUpToStallGate c (c.updateStallLatch nowMs minInFlight staleCeilingMs) := by
  unfold updateStallLatch
  simp only
  split
  · -- The latch engages, or stays engaged.
    split <;> rfl
  · split
    · rfl
    · split
      · rfl
      · -- A dwell is running; it starts here when there was none.
        split
        · split
          · exact releaseStallLatch_frame c nowMs _
          · rfl
        · split
          · exact releaseStallLatch_frame c nowMs _
          · rfl

theorem updateStallState_frame (c : SrtlaConnection) (nowMs : Nat) (config : ConfigSnapshot) :
    SameUpToStallGate c (c.updateStallState nowMs config) :=
  (updateSilencePull_frame c _ _ _).toStallGate.trans (updateStallLatch_frame _ _ _ _)

theorem clearStallLatch_frame (c : SrtlaConnection) : SameUpToStallGate c c.clearStallLatch := by
  unfold clearStallLatch
  simp only
  split <;> rfl

theorem dropStallGuard_frame (c : SrtlaConnection) : SameUpToStallGate c c.dropStallGuard := by
  refine SameUpToStallGate.trans ?_ (clearStallLatch_frame _)
  rfl

theorem setStallGated_frame (c : SrtlaConnection) (anyHealthy : Bool) :
    SameUpToStallGate c (c.setStallGated anyHealthy) := rfl

theorem clearQualityGateState_frame (c : SrtlaConnection) :
    SameUpToElection c c.clearQualityGateState := rfl

theorem leaveExclusion_frame (c : SrtlaConnection) (nowMs : Nat) :
    SameUpToElection c (Enhanced.leaveExclusion c nowMs) := by
  unfold Enhanced.leaveExclusion
  split
  · exact (armRejoinRamp_frame c nowMs _ false).toElection
  · rfl

theorem takeRole_frame (c : SrtlaConnection) (handover : Bool) (nowMs : Nat) :
    SameUpToElection c (Enhanced.takeRole c handover nowMs) := by
  unfold Enhanced.takeRole
  split <;> rfl

theorem releaseSoleCarrier_frame (c : SrtlaConnection) (nowMs : Nat) :
    SameUpToElection c (Enhanced.releaseSoleCarrier c nowMs) := by
  refine (leaveExclusion_frame c nowMs).trans ?_
  rfl

theorem installCarrier_frame (c : SrtlaConnection) (handover : Bool) (nowMs : Nat) :
    SameUpToElection c (Enhanced.installCarrier c handover nowMs) := by
  refine ((leaveExclusion_frame c nowMs).trans (takeRole_frame _ handover nowMs)).trans ?_
  rfl

theorem setExcluded_frame (c : SrtlaConnection) (excluded : Bool) (nowMs : Nat) :
    SameUpToElection c (Enhanced.setExcluded c excluded nowMs) := by
  unfold Enhanced.setExcluded
  split
  · refine (armRejoinRamp_frame c nowMs Enhanced.heldOutRejoinRampMs false).toElection.trans ?_
    rfl
  · rfl

theorem scoreLink_frame (calculate : SrtlaConnection → Nat → ℚ) (nowMs : Nat)
    (anyUnconstrained enableQuality : Bool) (c : SrtlaConnection) :
    SameUpToCache c (Enhanced.scoreLink calculate nowMs anyUnconstrained enableQuality c).1 := by
  unfold Enhanced.scoreLink getCachedQualityMultiplier
  simp only
  split
  · rfl
  · split
    · rfl
    · split <;> rfl

end SrtlaConnection

open SrtlaConnection Pointwise

/-! ### Whole passes -/

theorem applyStallGate_frame (conns : List SrtlaConnection) (nowMs : Nat)
    (config : ConfigSnapshot) :
    List.Forall₂ (fun c c' => SameUpToGates (c.refreshTimeouts config) c') conns
      (applyStallGate conns nowMs config) := by
  unfold applyStallGate
  simp only
  split
  · rw [List.map_map]
    exact forall₂_map (fun c => (dropStallGuard_frame (c.refreshTimeouts config)).toGates) conns
  · rw [List.map_map, List.map_map]
    refine forall₂_map (fun c => ?_) conns
    have latched := updateStallState_frame (c.refreshTimeouts config) nowMs config
    exact (latched.trans (setStallGated_frame _ _)).toGates

theorem electSoleCarrier_frame (conns : List SrtlaConnection) (nowMs : Nat) (anyQualityOk : Bool) :
    List.Forall₂ SameUpToElection conns
      (Enhanced.electSoleCarrier conns nowMs anyQualityOk).1 := by
  unfold Enhanced.electSoleCarrier
  split
  · exact forall₂_map (fun c => releaseSoleCarrier_frame c nowMs) conns
  · refine forall₂_mapIdx (fun i c => ?_) conns
    split
    · exact installCarrier_frame c _ nowMs
    · rfl

theorem prepare_frame (conns : List SrtlaConnection) (nowMs : Nat) :
    List.Forall₂ SameUpToElection conns (Enhanced.prepare conns nowMs) := by
  unfold Enhanced.prepare
  exact forall₂_trans (fun _ _ _ elected held => elected.trans held)
    (electSoleCarrier_frame conns nowMs _)
    (forall₂_mapIdx (fun _ c => setExcluded_frame c _ nowMs) _)

theorem enhanced_selectConnection_frame (calculate : SrtlaConnection → Nat → ℚ)
    (conns : List SrtlaConnection) (lastIdx : Option Nat) (nowMs : Nat) (enableQuality : Bool) :
    List.Forall₂ SameUpToPass conns
      (Enhanced.selectConnection calculate conns lastIdx nowMs enableQuality).1 := by
  unfold Enhanced.selectConnection Enhanced.rankLinks
  simp only [List.map_map]
  exact forall₂_trans (fun _ _ _ prepared scored => prepared.toGates.thenPass scored.toPass)
    (prepare_frame conns nowMs) (forall₂_map (fun c => scoreLink_frame calculate nowMs _ _ c) _)

/-- After a pass every link is the one before it, up to what a pass writes and
the timeouts of the configuration. -/
theorem selectConnectionIdx_frame (calculate : SrtlaConnection → Nat → ℚ)
    (conns : List SrtlaConnection) (lastIdx : Option Nat) (nowMs : Nat) (config : ConfigSnapshot) :
    List.Forall₂ (fun c c' => SameUpToPass (c.refreshTimeouts config) c') conns
      (selectConnectionIdx calculate conns lastIdx nowMs config).1 := by
  unfold selectConnectionIdx
  simp only
  split
  · exact forall₂_trans (fun _ _ _ gate rest => (gate.trans rest.toGates).toPass)
      (applyStallGate_frame conns nowMs config) (forall₂_map clearQualityGateState_frame _)
  · exact forall₂_trans (fun _ _ _ gate rest => gate.thenPass rest)
      (applyStallGate_frame conns nowMs config)
      (enhanced_selectConnection_frame calculate _ lastIdx nowMs _)

end SrtlaSend
