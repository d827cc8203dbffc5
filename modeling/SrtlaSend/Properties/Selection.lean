import SrtlaSend.Properties.SelectionFrame
import SrtlaSend.Core.Quality

/-!
# Selection never starves the stream

Five gates remove links from a pass, each under a guard of its own. This module
shows that they never empty the pool together: a link is chosen exactly when one
is schedulable and not timed out. It also identifies the choice, in both modes,
as the first maximiser of the mode's score over the links as the pass leaves
them, hysteresis apart.
-/

namespace SrtlaSend

open MachineInt SrtlaConnection Pointwise

/-! ### Usable links are connected -/

/-- A link that is not connected is waiting for REG3, or was registered once and
has heard nothing since. -/
def SrtlaConnection.NoLimbo (c : SrtlaConnection) : Prop :=
  c.connected = false →
    c.phase = .registering ∨ (c.reconnection.connectionEstablishedMs ≠ 0 ∧ c.lastReceived = none)

/-- The link can carry data, judged with the liveness timeout of `config`. -/
def SrtlaConnection.UsableUnder (config : ConfigSnapshot) (nowMs : Nat) (c : SrtlaConnection) :
    Prop :=
  c.isSchedulable = true ∧ { c with connTimeoutMs := config.connTimeoutMs }.isTimedOut nowMs = false

theorem usableUnder_iff {config : ConfigSnapshot} {nowMs : Nat} {c : SrtlaConnection} :
    c.UsableUnder config nowMs ↔ (c.refreshTimeouts config).isUsable nowMs = true := by
  have same : (c.refreshTimeouts config).isUsable nowMs =
      (!{ c with connTimeoutMs := config.connTimeoutMs }.isTimedOut nowMs && c.isSchedulable) := rfl
  rw [same, UsableUnder, Bool.and_eq_true, Bool.not_eq_true', and_comm]

theorem connected_of_isUsable {c : SrtlaConnection} (lifecycle : c.NoLimbo) {nowMs : Nat}
    (usable : c.isUsable nowMs = true) : c.connected = true := by
  by_contra off
  rw [Bool.not_eq_true] at off
  simp only [isUsable, Bool.and_eq_true, Bool.not_eq_true'] at usable
  rcases lifecycle off with waiting | ⟨established, silent⟩
  · simp [isSchedulable, waiting, LinkPhase.isSchedulable] at usable
  · simp [isTimedOut, off, established, silent] at usable

/-! ### Scores are never negative -/

theorem asF32_mono {q r : ℚ} (nonneg : 0 ≤ q) (le : q ≤ r) : asF32 q ≤ asF32 r :=
  FloatFormat.round_mono _ nonneg le

theorem asF32_intCast {n : Int} (few : |n| < 2 ^ 24) : asF32 n = n :=
  FloatFormat.round_intCast _ (by decide) few

/-- The fading factor stays between its ends in spite of the roundings. -/
theorem linkWeightMultiplier_mem (window : Int) (weight : Nat) :
    1 ≤ linkWeightMultiplier window weight ∧ linkWeightMultiplier window weight ≤ 10 := by
  obtain ⟨w, clamped, one_le, le_ten⟩ : ∃ w : Int,
      ((max linkWeightMin (min weight linkWeightMax) : Nat) : ℚ) = w ∧ 1 ≤ w ∧ w ≤ 10 := by
    refine ⟨(max linkWeightMin (min weight linkWeightMax) : Nat), (Int.cast_natCast _).symm, ?_, ?_⟩
    · exact_mod_cast le_max_left linkWeightMin _
    · exact_mod_cast max_le (by decide) (min_le_right weight linkWeightMax)
  have low : (1 : ℚ) ≤ w := by exact_mod_cast one_le
  have high : (w : ℚ) ≤ 10 := by exact_mod_cast le_ten
  simp only [linkWeightMultiplier, clamped]
  split
  · exact ⟨low, high⟩
  split
  case isFalse => exact ⟨le_rfl, by norm_num⟩
  case isTrue full fading =>
    simp only [linkWeightFullAboveWindow, linkWeightNoneAtOrBelowWindow, windowMult] at full fading ⊢
    set span : Int := 20 * 1000 - 10 * 1000
    have span_eq : asF32 (span : Int) = 10000 := asF32_intCast (by decide)
    have part_eq : asF32 ((window - 10 * 1000 : Int) : ℚ) = (window - 10 * 1000 : Int) :=
      asF32_intCast (by rw [abs_of_nonneg] <;> omega)
    have part_nonneg : (0 : ℚ) ≤ (window - 10 * 1000 : Int) := by exact_mod_cast (by omega)
    have part_le : ((window - 10 * 1000 : Int) : ℚ) ≤ 10000 := by exact_mod_cast (by omega)
    rw [span_eq, part_eq]
    -- rounding is monotone and keeps integers, so it crosses none of these bounds
    set factor := asF32 (((window - 10 * 1000 : Int) : ℚ) / 10000)
    have factor_nonneg : 0 ≤ factor := FloatFormat.round_nonneg _ (by positivity)
    have factor_le : factor ≤ 1 := by
      have ratio : ((window - 10 * 1000 : Int) : ℚ) / 10000 ≤ ((1 : Int) : ℚ) := by
        rw [Int.cast_one]
        exact (div_le_one (by norm_num)).mpr part_le
      have rounded := asF32_mono (by positivity) ratio
      rw [asF32_intCast (by decide), Int.cast_one] at rounded
      exact rounded
    have extra_eq : asF32 ((w : ℚ) - 1) = ((w - 1 : Int) : ℚ) := by
      rw [← asF32_intCast (n := w - 1) (by rw [abs_of_nonneg] <;> omega), Int.cast_sub, Int.cast_one]
    have extra_nonneg : (0 : ℚ) ≤ (w - 1 : Int) := by exact_mod_cast (by omega)
    rw [extra_eq]
    have faded_nonneg : 0 ≤ asF32 (((w - 1 : Int) : ℚ) * factor) :=
      FloatFormat.round_nonneg _ (mul_nonneg extra_nonneg factor_nonneg)
    have faded_le : asF32 (((w - 1 : Int) : ℚ) * factor) ≤ (w - 1 : Int) := by
      have rounded := asF32_mono (mul_nonneg extra_nonneg factor_nonneg)
        (mul_le_of_le_one_right extra_nonneg factor_le)
      rwa [asF32_intCast (by rw [abs_of_nonneg] <;> omega)] at rounded
    constructor
    · have rounded := asF32_mono (q := ((1 : Int) : ℚ)) (by norm_num)
        (le_add_of_nonneg_right (a := ((1 : Int) : ℚ)) faded_nonneg)
      rw [asF32_intCast (by decide), Int.cast_one] at rounded
      exact rounded
    · have sum : 1 + asF32 (((w - 1 : Int) : ℚ) * factor) ≤ (w : ℚ) := by
        rw [Int.cast_sub, Int.cast_one] at faded_le ⊢
        linarith
      have rounded := asF32_mono (add_nonneg zero_le_one faded_nonneg) sum
      rw [asF32_intCast (by rw [abs_of_nonneg] <;> omega)] at rounded
      exact rounded.trans high

/-- An operator weight does not lower a score, and multiplies it by ten at most. -/
theorem Classic.weightedScore_mem {c : SrtlaConnection} (nonneg : 0 ≤ c.getScore)
    (small : 10 * c.getScore < 2 ^ 24) :
    c.getScore ≤ Classic.weightedScore c ∧ Classic.weightedScore c ≤ 10 * c.getScore := by
  obtain ⟨low, high⟩ := linkWeightMultiplier_mem c.window c.linkWeight
  have natural : (0 : ℚ) ≤ c.getScore := by exact_mod_cast nonneg
  simp only [weightedScore, weightMultiplier]
  split
  · omega
  rw [asF32_intCast (by rw [abs_of_nonneg nonneg]; omega)]
  set product := (c.getScore : ℚ) * linkWeightMultiplier c.window c.linkWeight
  have product_low : (c.getScore : ℚ) ≤ product := le_mul_of_one_le_right natural low
  have product_high : product ≤ ((10 * c.getScore : Int) : ℚ) := by
    rw [Int.cast_mul, mul_comm ((10 : Int) : ℚ)]
    exact mul_le_mul_of_nonneg_left high natural
  have rounded_low := asF32_mono natural product_low
  rw [asF32_intCast (by rw [abs_of_nonneg nonneg]; omega)] at rounded_low
  have rounded_high := asF32_mono (natural.trans product_low) product_high
  rw [asF32_intCast (by rw [abs_of_nonneg] <;> omega)] at rounded_high
  have truncated_low := le_trunc_of_le (natural.trans rounded_low) rounded_low
  have truncated_high := trunc_le_of_le (natural.trans rounded_low) rounded_high
  unfold satI32
  omega

theorem Classic.weightedScore_nonneg {c : SrtlaConnection} (score : 0 ≤ c.getScore) :
    0 ≤ Classic.weightedScore c := by
  have multiplier : 0 ≤ c.weightMultiplier := zero_le_one.trans (linkWeightMultiplier_mem _ _).1
  have rounded : 0 ≤ asF32 c.getScore := FloatFormat.round_nonneg _ (by exact_mod_cast score)
  unfold weightedScore
  simp only
  split
  · exact score
  · exact satI32_nonneg (trunc_nonneg (FloatFormat.round_nonneg _ (mul_nonneg rounded multiplier)))

theorem rejoinRampMultiplier_nonneg (c : SrtlaConnection) (nowMs : Nat) :
    0 ≤ c.rejoinRampMultiplier nowMs := by
  unfold SrtlaConnection.rejoinRampMultiplier SrtlaSend.rejoinRampMultiplier
  simp only
  split
  · norm_num
  · split
    · norm_num
    · exact le_trans (by norm_num [stallRejoinRampFloor]) (le_max_left stallRejoinRampFloor _)

theorem phaseWeight_nonneg (c : SrtlaConnection) : 0 ≤ c.phaseWeight := by
  unfold phaseWeight LinkPhase.weight
  split <;> norm_num

namespace Enhanced

theorem ccSoftCapMultiplier_nonneg (c : SrtlaConnection) : 0 ≤ ccSoftCapMultiplier c := by
  unfold ccSoftCapMultiplier
  simp only
  split
  · norm_num
  · split
    · norm_num
    · exact le_trans (by norm_num [ccSoftCapFloor]) (le_max_left ccSoftCapFloor _)

theorem gateMultiplier_nonneg (anyUnconstrained : Bool) (c : SrtlaConnection) :
    0 ≤ gateMultiplier anyUnconstrained c := by
  unfold gateMultiplier
  split
  · norm_num [gatedLinkPenalty]
  · norm_num

/-- The enhanced score of a link as the pass leaves it. -/
def score (nowMs : Nat) (anyUnconstrained enableQuality : Bool) (c : SrtlaConnection) : ℚ :=
  c.getScore * c.phaseWeight * c.rejoinRampMultiplier nowMs *
    (if enableQuality then c.qualityCache.multiplier else 1) * ccSoftCapMultiplier c *
    gateMultiplier anyUnconstrained c

/-- The score of a ranked link; other links have none. -/
def rank (nowMs : Nat) (anyUnconstrained enableQuality : Bool) (c : SrtlaConnection) : Option ℚ :=
  if isRanked nowMs anyUnconstrained c then some (score nowMs anyUnconstrained enableQuality c)
  else none

theorem score_nonneg {c : SrtlaConnection} (natural : 0 ≤ c.getScore)
    (quality : 0 < c.qualityCache.multiplier) (nowMs : Nat) (anyUnconstrained enableQuality : Bool) :
    0 ≤ score nowMs anyUnconstrained enableQuality c := by
  have base : (0 : ℚ) ≤ c.getScore * c.phaseWeight * c.rejoinRampMultiplier nowMs :=
    mul_nonneg (mul_nonneg (by exact_mod_cast natural) (phaseWeight_nonneg c))
      (rejoinRampMultiplier_nonneg c nowMs)
  have factor : (0 : ℚ) ≤ if enableQuality then c.qualityCache.multiplier else 1 := by
    split
    · exact quality.le
    · norm_num
  exact mul_nonneg (mul_nonneg (mul_nonneg base factor) (ccSoftCapMultiplier_nonneg c))
    (gateMultiplier_nonneg anyUnconstrained c)

end Enhanced

/-! ### The gates leave a candidate -/

theorem dropStallGuard_stallGated (c : SrtlaConnection) : c.dropStallGuard.stallGated = false := by
  unfold dropStallGuard clearStallLatch
  simp only
  split <;> rfl

/-- The stall gate never gates the last usable link. -/
theorem exists_candidate_applyStallGate {conns : List SrtlaConnection} {nowMs : Nat}
    {config : ConfigSnapshot} {i : Nat} {c : SrtlaConnection} (at_i : conns[i]? = some c)
    (usable : c.UsableUnder config nowMs) :
    ∃ c' ∈ applyStallGate conns nowMs config, c'.isCandidate nowMs = true := by
  rw [usableUnder_iff] at usable
  have member : c.refreshTimeouts config ∈ conns.map (·.refreshTimeouts config) :=
    List.mem_map_of_mem (List.mem_of_getElem? at_i)
  unfold applyStallGate
  simp only
  split
  · -- The guard is off, so nothing is gated.
    refine ⟨_, List.mem_map_of_mem member, ?_⟩
    rw [isCandidate, (dropStallGuard_frame _).toGates.isUsable, usable, dropStallGuard_stallGated]
    rfl
  · by_cases healthy :
        ((conns.map (·.refreshTimeouts config)).map (·.updateStallState nowMs config)).any
          (·.isHealthy nowMs) = true
    · -- The healthy link itself is not gated.
      obtain ⟨h, in_pool, good⟩ := List.any_eq_true.mp healthy
      simp only [isHealthy, Bool.and_eq_true, Bool.not_eq_true'] at good
      obtain ⟨⟨up, unlatched⟩, unpulled⟩ := good
      refine ⟨_, List.mem_map_of_mem in_pool, ?_⟩
      rw [isCandidate, (setStallGated_frame h _).toGates.isUsable, up, setStallGated, unlatched, unpulled,
        healthy]
      rfl
    · -- Without one, no link is gated.
      rw [Bool.not_eq_true] at healthy
      refine ⟨_, List.mem_map_of_mem (List.mem_map_of_mem member), ?_⟩
      rw [isCandidate, (setStallGated_frame _ _).toGates.isUsable, (updateStallState_frame _ _ _).toGates.isUsable,
        usable, setStallGated, healthy]
      rfl

namespace Enhanced

theorem incumbent_isCandidate {conns : List SrtlaConnection} {nowMs i : Nat}
    (h : incumbent conns nowMs = some i) :
    ∃ c, conns[i]? = some c ∧ c.isCandidate nowMs = true ∧ c.soleCarrier = true := by
  induction conns using List.reverseRecOn with
  | nil => cases h
  | append_singleton conns last ih =>
    simp only [incumbent, List.zipIdx_append, List.foldl_append, List.zipIdx_singleton,
      List.foldl_cons, List.foldl_nil, Nat.zero_add] at h
    split at h
    case isTrue holds =>
      obtain rfl := Option.some.inj h
      rw [Bool.and_eq_true] at holds
      exact ⟨last, by simp, holds⟩
    case isFalse =>
      obtain ⟨c, found, candidate⟩ := ih h
      have within : i < conns.length := (List.getElem?_eq_some_iff.mp found).1
      exact ⟨c, by rw [List.getElem?_append_left within]; exact found, candidate⟩

private theorem best_isCandidate {conns : List SrtlaConnection} {nowMs i : Nat}
    (h : (bestMeasured conns nowMs).idx.or (bestUnmeasured conns nowMs).idx = some i) :
    ∃ c, conns[i]? = some c ∧ c.isCandidate nowMs = true := by
  rw [Option.or_eq_some_iff] at h
  rcases h with measured | ⟨-, unmeasured⟩
  · obtain ⟨x, at_i⟩ := FirstMax.scan_idx_attained _ _ measured
    rw [List.getElem?_map, Option.map_eq_some_iff] at at_i
    obtain ⟨c, found, rated⟩ := at_i
    unfold measuredRtt at rated
    split at rated
    case isTrue holds => exact ⟨c, found, holds.1⟩
    case isFalse => cases rated
  · obtain ⟨x, at_i⟩ := FirstMax.scan_idx_attained _ _ unmeasured
    rw [List.getElem?_map, Option.map_eq_some_iff] at at_i
    obtain ⟨c, found, rated⟩ := at_i
    unfold unmeasuredScore at rated
    split at rated
    case isTrue holds => exact ⟨c, found, holds.1⟩
    case isFalse => cases rated

private theorem best_isSome {conns : List SrtlaConnection} {nowMs : Nat} {c : SrtlaConnection}
    (member : c ∈ conns) (candidate : c.isCandidate nowMs = true) :
    ((bestMeasured conns nowMs).idx.or (bestUnmeasured conns nowMs).idx).isSome = true := by
  by_cases measured : c.getSmoothRttMs > 0
  · have rated : some (OrderDual.toDual c.getSmoothRttMs) ∈ conns.map (measuredRtt nowMs) :=
      List.mem_map.mpr ⟨c, member, by simp [measuredRtt, candidate, measured]⟩
    obtain ⟨i, x, found, -⟩ := FirstMax.scan_of_some none (by simp) ⟨_, rated⟩
    rw [bestMeasured, found]
    rfl
  · have rated : some c.getScore ∈ conns.map (unmeasuredScore nowMs) :=
      List.mem_map.mpr ⟨c, member, by simp [unmeasuredScore, candidate, measured]⟩
    obtain ⟨i, x, found, -⟩ := FirstMax.scan_of_some none (by simp) ⟨_, rated⟩
    rw [bestUnmeasured, found]
    simp

/-- While any link is a candidate, the elected carrier is one. -/
theorem electedCarrier_isCandidate {conns : List SrtlaConnection} {nowMs : Nat}
    {c : SrtlaConnection} (member : c ∈ conns) (candidate : c.isCandidate nowMs = true) :
    ∃ k carrier, electedCarrier conns nowMs = some k ∧ conns[k]? = some carrier ∧
      carrier.isCandidate nowMs = true := by
  have some_best := best_isSome member candidate
  obtain ⟨b, best⟩ := Option.isSome_iff_exists.mp some_best
  unfold electedCarrier
  simp only [best]
  -- the best candidate takes over, or the incumbent, itself a candidate, stays
  split
  case h_1 inc b' holder same =>
    obtain rfl := Option.some.inj same
    split
    · obtain ⟨carrier, found, ok⟩ := best_isCandidate best
      exact ⟨_, carrier, rfl, found, ok⟩
    · obtain ⟨carrier, found, ok, -⟩ := incumbent_isCandidate holder
      exact ⟨_, carrier, rfl, found, ok⟩
  case h_2 absent => cases absent
  case h_3 =>
    obtain ⟨carrier, found, ok⟩ := best_isCandidate best
    exact ⟨_, carrier, rfl, found, ok⟩

theorem setExcluded_qualityExcluded (c : SrtlaConnection) (excluded : Bool) (nowMs : Nat) :
    (setExcluded c excluded nowMs).qualityExcluded = excluded := by
  unfold setExcluded
  split <;> rfl

/-- What the preparation of the ranking does to the link at `i`. -/
theorem prepare_getElem? {conns : List SrtlaConnection} {i : Nat} {c : SrtlaConnection}
    (at_i : conns[i]? = some c) (nowMs : Nat) :
    ∃ c', (prepare conns nowMs)[i]? = some c' ∧ SameUpToElection c c' ∧
      c'.qualityExcluded = isExcluded nowMs (conns.any (unconstrained nowMs))
        (electSoleCarrier conns nowMs (conns.any (qualityOk nowMs))).2 i c := by
  obtain ⟨e, elected, same⟩ := getElem?_of_forall₂
    (electSoleCarrier_frame conns nowMs (conns.any (qualityOk nowMs))) at_i
  refine ⟨holdOut nowMs (conns.any (unconstrained nowMs))
    (electSoleCarrier conns nowMs (conns.any (qualityOk nowMs))).2 i e, ?_, ?_, ?_⟩
  · simp [prepare, elected]
  · exact same.trans (setExcluded_frame e _ nowMs)
  · rw [holdOut, setExcluded_qualityExcluded, isExcluded, isExcluded, same.isCandidate, same.isLate]

/-- The exclusion, the election and the in-flight cap together leave a ranked link. -/
theorem exists_ranked_prepare {conns : List SrtlaConnection} {nowMs : Nat} {c : SrtlaConnection}
    (member : c ∈ conns) (candidate : c.isCandidate nowMs = true) :
    ∃ c' ∈ prepare conns nowMs,
      isRanked nowMs (conns.any (unconstrained nowMs)) c' = true := by
  by_cases free : conns.any (unconstrained nowMs) = true
  · -- An unconstrained link is a healthy one, so no election runs, and it is not late.
    obtain ⟨u, in_pool, ok⟩ := List.any_eq_true.mp free
    obtain ⟨i, at_i⟩ := List.getElem?_of_mem in_pool
    obtain ⟨u', found, same, verdict⟩ := prepare_getElem? at_i nowMs
    have healthy : conns.any (qualityOk nowMs) = true := by
      refine List.any_eq_true.mpr ⟨u, in_pool, ?_⟩
      rw [unconstrained, Bool.and_eq_true] at ok
      exact ok.1
    simp only [unconstrained, qualityOk, Bool.and_eq_true, Bool.not_eq_true'] at ok
    obtain ⟨⟨⟨up, strong⟩, lossless⟩, uncapped⟩ := ok
    refine ⟨u', List.mem_of_getElem? found, ?_⟩
    have kept : u'.qualityExcluded = false := by
      rw [verdict, healthy]
      simp [isExcluded, electSoleCarrier, isLate, strong, lossless]
    rw [isRanked, same.isCandidate, same.inFlightCapExceeded, up, kept, uncapped]
    simp
  · rw [Bool.not_eq_true] at free
    rw [free]
    by_cases healthy : conns.any (qualityOk nowMs) = true
    · -- No election, and nobody is late: every candidate is ranked.
      obtain ⟨i, at_i⟩ := List.getElem?_of_mem member
      obtain ⟨c', found, same, verdict⟩ := prepare_getElem? at_i nowMs
      refine ⟨c', List.mem_of_getElem? found, ?_⟩
      have kept : c'.qualityExcluded = false := by
        rw [verdict, free, healthy]
        simp [isExcluded, electSoleCarrier]
      rw [isRanked, same.isCandidate, candidate, kept]
      rfl
    · -- The election runs, and its winner is ranked.
      rw [Bool.not_eq_true] at healthy
      obtain ⟨k, carrier, elected, at_k, ok⟩ := electedCarrier_isCandidate member candidate
      obtain ⟨c', found, same, verdict⟩ := prepare_getElem? at_k nowMs
      refine ⟨c', List.mem_of_getElem? found, ?_⟩
      have kept : c'.qualityExcluded = false := by
        rw [verdict, free, healthy]
        simp [isExcluded, electSoleCarrier, elected]
      rw [isRanked, same.isCandidate, ok, kept]
      rfl

/-! ### The ranking loop -/

theorem isRanked_of_sameUpToCache {c c' : SrtlaConnection} (h : SameUpToCache c c') (nowMs : Nat)
    (anyUnconstrained : Bool) :
    isRanked nowMs anyUnconstrained c' = isRanked nowMs anyUnconstrained c := by
  rw [h]
  rfl

/-- The loop's score is the score of the link it leaves behind. -/
theorem scoreLink_snd (calculate : SrtlaConnection → Nat → ℚ) (nowMs : Nat)
    (anyUnconstrained enableQuality : Bool) (c : SrtlaConnection) :
    (scoreLink calculate nowMs anyUnconstrained enableQuality c).2 =
      rank nowMs anyUnconstrained enableQuality
        (scoreLink calculate nowMs anyUnconstrained enableQuality c).1 := by
  have kept := isRanked_of_sameUpToCache
    (scoreLink_frame calculate nowMs anyUnconstrained enableQuality c) nowMs anyUnconstrained
  rw [rank, kept]
  by_cases ranked : isRanked nowMs anyUnconstrained c = true
  · cases enableQuality with
    | false =>
      simp [scoreLink, ranked, score, baseScore]
    | true =>
      simp only [scoreLink, ranked, getCachedQualityMultiplier, Bool.not_true, Bool.false_eq_true,
        if_false, if_true]
      split <;> rfl
  · rw [Bool.not_eq_true] at ranked
    simp [scoreLink, ranked]

/-- A refreshed cache holds a positive multiplier when both its sources do. -/
theorem scoreLink_qualityCache_pos {calculate : SrtlaConnection → Nat → ℚ}
    (positive : ∀ c t, 0 < calculate c t) {c : SrtlaConnection}
    (cached : 0 < c.qualityCache.multiplier) (nowMs : Nat) (anyUnconstrained enableQuality : Bool) :
    0 < (scoreLink calculate nowMs anyUnconstrained enableQuality c).1.qualityCache.multiplier := by
  unfold scoreLink getCachedQualityMultiplier
  simp only
  split
  · exact cached
  · split
    · exact cached
    · split
      · exact positive _ _
      · exact cached

/-- Hysteresis keeps the maximiser or falls back on a ranked last link. -/
theorem applyHysteresis_cases {scores : List (Option ℚ)} {best : Nat} {x : ℚ}
    (lastIdx : Option Nat) :
    applyHysteresis lastIdx scores ⟨some best, some x⟩ = some best ∨
      ∃ last own, lastIdx = some last ∧ applyHysteresis lastIdx scores ⟨some best, some x⟩ = some last ∧
        scores[last]? = some (some own) ∧ x < own * switchThreshold := by
  cases lastIdx with
  | none => exact Or.inl rfl
  | some last =>
    -- the incumbent stays only if it has a score and the best one is close to it
    by_cases same : best = last
    · left
      simp [applyHysteresis, same]
    · cases rated : (scores[last]?).join with
      | none =>
        left
        simp [applyHysteresis, same, rated]
      | some own =>
        by_cases close : x < own * switchThreshold
        · refine Or.inr ⟨last, own, rfl, ?_, Option.join_eq_some_iff.mp rated, close⟩
          simp [applyHysteresis, same, rated, close]
        · left
          simp [applyHysteresis, same, rated, close]

/-- Whatever hysteresis decides, the choice has a score. -/
theorem applyHysteresis_attained {lastIdx bar} {scores : List (Option ℚ)} {i : Nat}
    (h : applyHysteresis lastIdx scores (FirstMax.scan bar scores) = some i) :
    ∃ own, scores[i]? = some (some own) := by
  cases lastIdx with
  | none => exact FirstMax.scan_idx_attained bar scores h
  | some last =>
    simp only [applyHysteresis] at h
    split at h
    · exact FirstMax.scan_idx_attained bar scores h
    · split at h
      · exact FirstMax.scan_idx_attained bar scores h
      case h_2 own rated =>
        split at h
        · obtain rfl := Option.some.inj h
          exact ⟨own, Option.join_eq_some_iff.mp rated⟩
        · exact FirstMax.scan_idx_attained bar scores h

end Enhanced

/-! ### The choice of each mode -/

/-- What selection relies on: no limbo, and a window in its range. -/
structure SrtlaConnection.Sound (c : SrtlaConnection) : Prop where
  noLimbo : c.NoLimbo
  window : 1000 ≤ c.window ∧ c.window ≤ 60000

theorem SrtlaConnection.NoLimbo.of_sameUpToPass {c c' : SrtlaConnection} {config : ConfigSnapshot}
    (noLimbo : c.NoLimbo) (same : SameUpToPass (c.refreshTimeouts config) c') : c'.NoLimbo := by
  rw [same]
  simp only [withPass, withGates, withElection, refreshTimeouts]
  exact noLimbo

theorem SrtlaConnection.Sound.of_sameUpToPass {c c' : SrtlaConnection} {config : ConfigSnapshot}
    (sound : c.Sound) (same : SameUpToPass (c.refreshTimeouts config) c') : c'.Sound :=
  ⟨sound.noLimbo.of_sameUpToPass same, same.window ▸ sound.window⟩

theorem SrtlaConnection.Sound.getScore_nonneg {c : SrtlaConnection} (sound : c.Sound) {nowMs : Nat}
    (candidate : c.isCandidate nowMs = true) : 0 ≤ c.getScore := by
  rw [isCandidate, Bool.and_eq_true] at candidate
  have window := sound.window
  exact SrtlaConnection.getScore_nonneg (connected_of_isUsable sound.noLimbo candidate.1) (by omega)

theorem mem_map_rank {conns : List SrtlaConnection} {nowMs : Nat} {y : Int}
    (member : some y ∈ conns.map (Classic.rank nowMs)) :
    ∃ c ∈ conns, c.isCandidate nowMs = true ∧ y = Classic.weightedScore c := by
  obtain ⟨c, in_pool, rated⟩ := List.mem_map.mp member
  unfold Classic.rank at rated
  split at rated
  case isTrue candidate => exact ⟨c, in_pool, candidate, (Option.some.inj rated).symm⟩
  case isFalse => cases rated

/-- Classic selection picks the first maximiser among the candidates. -/
theorem classic_selectConnection_spec {conns : List SrtlaConnection} {nowMs : Nat}
    (sound : ∀ c ∈ conns, c.Sound) (pool : ∃ c ∈ conns, c.isCandidate nowMs = true) :
    ∃ i x, Classic.selectConnection conns nowMs = some i ∧
      FirstMax.IsFirstMax (conns.map (Classic.rank nowMs)) i x := by
  obtain ⟨c, in_pool, candidate⟩ := pool
  have clears : ∀ y, some y ∈ conns.map (Classic.rank nowMs) → ∀ b ∈ some (-1 : Int), b < y := by
    intro y member b floor
    obtain ⟨c, in_pool, candidate, rfl⟩ := mem_map_rank member
    have score := Classic.weightedScore_nonneg ((sound c in_pool).getScore_nonneg candidate)
    obtain rfl := Option.mem_some_iff.mp floor
    omega
  obtain ⟨i, x, found, first⟩ := FirstMax.scan_of_some _ clears
    ⟨Classic.weightedScore c, List.mem_map.mpr ⟨c, in_pool, by simp [Classic.rank, candidate]⟩⟩
  exact ⟨i, x, by rw [Classic.selectConnection, found], first⟩

/-- `i` is the first maximiser of the enhanced score over the ranked links, or
the last choice, ranked and within the switching threshold of the best. -/
def Enhanced.IsChoice (conns : List SrtlaConnection) (lastIdx : Option Nat) (nowMs : Nat)
    (enableQuality : Bool) (i : Nat) : Prop :=
  let scores := conns.map (rank nowMs (conns.any (unconstrained nowMs)) enableQuality)
  ∃ best x, FirstMax.IsFirstMax scores best x ∧
    (i = best ∨
      lastIdx = some i ∧ ∃ own, scores[i]? = some (some own) ∧ x < own * switchThreshold)

namespace Enhanced

section RankingLoop

variable {calculate : SrtlaConnection → Nat → ℚ} {conns : List SrtlaConnection} {nowMs : Nat}
  {enableQuality : Bool}

/-- Where a link of the ranking loop comes from. -/
private theorem mem_rankLinks {entry : SrtlaConnection × Option ℚ}
    (member : entry ∈ rankLinks calculate conns nowMs enableQuality) :
    ∃ c ∈ conns, ∃ p, SameUpToElection c p ∧
      entry = scoreLink calculate nowMs (conns.any (unconstrained nowMs)) enableQuality p := by
  obtain ⟨p, in_prepared, rfl⟩ := List.mem_map.mp member
  obtain ⟨i, at_i⟩ := List.getElem?_of_mem in_prepared
  obtain ⟨c, at_i', same⟩ := getElem?_of_forall₂_right (prepare_frame conns nowMs) at_i
  exact ⟨c, List.mem_of_getElem? at_i', p, same, rfl⟩

/-- The ranking loop changes nobody's constraints. -/
private theorem rankLinks_any_unconstrained :
    ((rankLinks calculate conns nowMs enableQuality).map (·.1)).any (unconstrained nowMs) =
      conns.any (unconstrained nowMs) := by
  have prepared := any_eq_of_forall₂ (fun _ _ same => same.unconstrained nowMs)
    (prepare_frame conns nowMs)
  refine Eq.trans ?_ prepared
  rw [rankLinks, List.map_map]
  refine any_eq_of_forall₂ (fun a b same => ?_)
    (forall₂_map (fun c => scoreLink_frame calculate nowMs _ enableQuality c) _)
  rw [same]
  rfl

private theorem rankLinks_scores :
    (rankLinks calculate conns nowMs enableQuality).map (·.2) =
      ((rankLinks calculate conns nowMs enableQuality).map (·.1)).map
        (rank nowMs (conns.any (unconstrained nowMs)) enableQuality) := by
  simp only [rankLinks, List.map_map]
  exact List.map_congr_left fun c _ => scoreLink_snd calculate nowMs _ enableQuality c

/-- Every score clears the floor of the loop. -/
private theorem rankLinks_clears (positive : ∀ c t, 0 < calculate c t)
    (sound : ∀ c ∈ conns, c.Sound) (cached : ∀ c ∈ conns, 0 < c.qualityCache.multiplier) {y : ℚ}
    (member : some y ∈ (rankLinks calculate conns nowMs enableQuality).map (·.2)) : -1 < y := by
  obtain ⟨entry, in_loop, scored⟩ := List.mem_map.mp member
  obtain ⟨c, in_pool, p, same, rfl⟩ := mem_rankLinks in_loop
  let free := conns.any (unconstrained nowMs)
  have frame := scoreLink_frame calculate nowMs free enableQuality p
  -- the cache was positive before the loop, and the loop stores positive values
  have cache := scoreLink_qualityCache_pos positive (same.toGates.qualityCache ▸ cached c in_pool)
    nowMs free enableQuality
  rw [scoreLink_snd, rank, isRanked_of_sameUpToCache frame] at scored
  split at scored
  case isTrue ranked =>
    simp only [isRanked, Bool.and_eq_true] at ranked
    have natural : 0 ≤ (scoreLink calculate nowMs free enableQuality p).1.getScore := by
      rw [frame.toPass.getScore, same.toGates.toPass.getScore]
      exact (sound c in_pool).getScore_nonneg (same.isCandidate nowMs ▸ ranked.1.1)
    have nonneg := score_nonneg natural cache nowMs free enableQuality
    obtain rfl := Option.some.inj scored
    linarith
  case isFalse => cases scored

private theorem rankLinks_some_score (pool : ∃ c ∈ conns, c.isCandidate nowMs = true) :
    ∃ y, some y ∈ (rankLinks calculate conns nowMs enableQuality).map (·.2) := by
  obtain ⟨c, in_pool, candidate⟩ := pool
  obtain ⟨p, in_prepared, ranked⟩ := exists_ranked_prepare in_pool candidate
  let free := conns.any (unconstrained nowMs)
  have scored : (scoreLink calculate nowMs free enableQuality p).2 =
      some (score nowMs free enableQuality (scoreLink calculate nowMs free enableQuality p).1) := by
    rw [scoreLink_snd, rank, isRanked_of_sameUpToCache (scoreLink_frame calculate nowMs _ _ p),
      if_pos ranked]
  exact ⟨_, List.mem_map.mpr ⟨_, List.mem_map_of_mem in_prepared, scored⟩⟩

/-- Enhanced selection, on links the stall gate has been applied to. -/
theorem selectConnection_spec (positive : ∀ c t, 0 < calculate c t)
    (sound : ∀ c ∈ conns, c.Sound) (cached : ∀ c ∈ conns, 0 < c.qualityCache.multiplier)
    (pool : ∃ c ∈ conns, c.isCandidate nowMs = true) (lastIdx : Option Nat) :
    ∃ i, (selectConnection calculate conns lastIdx nowMs enableQuality).2 = some i ∧
      IsChoice (selectConnection calculate conns lastIdx nowMs enableQuality).1 lastIdx nowMs
        enableQuality i := by
  have clears : ∀ y, some y ∈ (rankLinks calculate conns nowMs enableQuality).map (·.2) →
      ∀ b ∈ some (-1 : ℚ), b < y := by
    intro y member b floor
    obtain rfl := Option.mem_some_iff.mp floor
    exact rankLinks_clears positive sound cached member
  obtain ⟨best, x, found, first⟩ :=
    FirstMax.scan_of_some _ clears (rankLinks_some_score pool)
  unfold selectConnection IsChoice
  simp only [found, rankLinks_any_unconstrained]
  rw [← rankLinks_scores]
  rcases applyHysteresis_cases lastIdx with stays | ⟨last, own, same, stays, rated, close⟩
  · exact ⟨best, stays, best, x, first, Or.inl rfl⟩
  · exact ⟨last, stays, best, x, first, Or.inr ⟨same, own, rated, close⟩⟩

end RankingLoop

end Enhanced

/-! ### Correctness of a pass -/

section Pass

variable {calculate : SrtlaConnection → Nat → ℚ} {conns : List SrtlaConnection} {nowMs : Nat}
  {config : ConfigSnapshot} {lastIdx : Option Nat} {i : Nat}

private theorem usable_before {after : List SrtlaConnection} {c' : SrtlaConnection}
    (frame : List.Forall₂ (fun c c' => SameUpToPass (c.refreshTimeouts config) c') conns after)
    (at_i : after[i]? = some c') (usable : c'.isUsable nowMs = true) :
    ∃ c, conns[i]? = some c ∧ c.UsableUnder config nowMs := by
  obtain ⟨c, at_i', same⟩ := getElem?_of_forall₂_right frame at_i
  refine ⟨c, at_i', usableUnder_iff.mpr ?_⟩
  rw [← same.isUsable nowMs]
  exact usable

private theorem pool_of_usable (usable : ∃ c ∈ conns, c.UsableUnder config nowMs) :
    ∃ c ∈ applyStallGate conns nowMs config, c.isCandidate nowMs = true := by
  obtain ⟨c, member, usable⟩ := usable
  obtain ⟨i, at_i⟩ := List.getElem?_of_mem member
  exact exists_candidate_applyStallGate at_i usable

private theorem applyStallGate_sound (nowMs : Nat) (config : ConfigSnapshot)
    (sound : ∀ c ∈ conns, c.Sound) : ∀ c ∈ applyStallGate conns nowMs config, c.Sound := by
  intro c' member
  obtain ⟨i, at_i⟩ := List.getElem?_of_mem member
  obtain ⟨c, at_i', same⟩ := getElem?_of_forall₂_right (applyStallGate_frame conns nowMs config) at_i
  exact (sound c (List.mem_of_getElem? at_i')).of_sameUpToPass same.toPass

private theorem applyStallGate_cached (nowMs : Nat) (config : ConfigSnapshot)
    (cached : ∀ c ∈ conns, 0 < c.qualityCache.multiplier) :
    ∀ c ∈ applyStallGate conns nowMs config, 0 < c.qualityCache.multiplier := by
  intro c' member
  obtain ⟨i, at_i⟩ := List.getElem?_of_mem member
  obtain ⟨c, at_i', same⟩ := getElem?_of_forall₂_right (applyStallGate_frame conns nowMs config) at_i
  rw [same.qualityCache]
  exact cached c (List.mem_of_getElem? at_i')

/-- A chosen link is a candidate, and not held out, as the pass leaves it. -/
theorem selectConnectionIdx_admitted
    (chosen : (selectConnectionIdx calculate conns lastIdx nowMs config).2 = some i) :
    ∃ c, (selectConnectionIdx calculate conns lastIdx nowMs config).1[i]? = some c ∧
      c.isCandidate nowMs = true ∧ c.qualityExcluded = false := by
  unfold selectConnectionIdx at chosen ⊢
  simp only at chosen ⊢
  -- classic mode: the scan returns a link with a score, so a candidate
  split at chosen
  · obtain ⟨x, at_i⟩ := FirstMax.scan_idx_attained _ _ chosen
    rw [List.getElem?_map, Option.map_eq_some_iff] at at_i
    obtain ⟨c, found, rated⟩ := at_i
    unfold Classic.rank at rated
    split at rated
    case isTrue candidate =>
      refine ⟨c, found, candidate, ?_⟩
      obtain ⟨g, -, rfl⟩ := List.mem_map.mp (List.mem_of_getElem? found)
      rfl
    case isFalse => cases rated
  · -- enhanced mode: the hysteresis keeps to links with a score
    obtain ⟨own, at_i⟩ := Enhanced.applyHysteresis_attained chosen
    rw [Enhanced.rankLinks_scores, List.getElem?_map, Option.map_eq_some_iff] at at_i
    obtain ⟨c, found, rated⟩ := at_i
    unfold Enhanced.rank at rated
    split at rated
    case isTrue ranked =>
      simp only [Enhanced.isRanked, Bool.and_eq_true, Bool.not_eq_true'] at ranked
      exact ⟨c, found, ranked.1.1, ranked.1.2⟩
    case isFalse => cases rated

/-- A classic pass that finds a usable link chooses by weighted score. -/
theorem classic_pass (mode : config.mode = .classic) (sound : ∀ c ∈ conns, c.Sound)
    (usable : ∃ c ∈ conns, c.UsableUnder config nowMs) :
    ∃ i x, (selectConnectionIdx calculate conns lastIdx nowMs config).2 = some i ∧
      FirstMax.IsFirstMax
        ((selectConnectionIdx calculate conns lastIdx nowMs config).1.map (Classic.rank nowMs)) i x := by
  obtain ⟨c, member, candidate⟩ := pool_of_usable usable
  simp only [selectConnectionIdx, mode]
  refine classic_selectConnection_spec ?_ ⟨_, List.mem_map_of_mem member, ?_⟩
  · intro c' member'
    obtain ⟨g, in_pool, rfl⟩ := List.mem_map.mp member'
    obtain ⟨noLimbo, window⟩ := applyStallGate_sound nowMs config sound g in_pool
    exact ⟨noLimbo, window⟩
  · rw [(clearQualityGateState_frame c).isCandidate]
    exact candidate

/-- An enhanced pass that finds a usable link chooses by enhanced score. -/
theorem enhanced_pass (mode : config.mode = .enhanced)
    (positive : ∀ c t, 0 < calculate c t) (sound : ∀ c ∈ conns, c.Sound)
    (cached : ∀ c ∈ conns, 0 < c.qualityCache.multiplier)
    (usable : ∃ c ∈ conns, c.UsableUnder config nowMs) :
    ∃ i, (selectConnectionIdx calculate conns lastIdx nowMs config).2 = some i ∧
      Enhanced.IsChoice (selectConnectionIdx calculate conns lastIdx nowMs config).1 lastIdx nowMs
        config.effectiveQualityEnabled i := by
  simp only [selectConnectionIdx, mode]
  exact Enhanced.selectConnection_spec positive (applyStallGate_sound nowMs config sound)
    (applyStallGate_cached nowMs config cached) (pool_of_usable usable) lastIdx

/-- A pass chooses a link exactly when one is usable; the choice is usable and
admitted by every gate, and it is the one the mode's ranking asks for. -/
theorem selectConnectionIdx_correct (positive : ∀ c t, 0 < calculate c t)
    (sound : ∀ c ∈ conns, c.Sound) (cached : ∀ c ∈ conns, 0 < c.qualityCache.multiplier)
    (lastIdx : Option Nat) (nowMs : Nat) (config : ConfigSnapshot) :
    ((selectConnectionIdx calculate conns lastIdx nowMs config).2.isSome = true ↔
      ∃ c ∈ conns, c.UsableUnder config nowMs) ∧
    ∀ i, (selectConnectionIdx calculate conns lastIdx nowMs config).2 = some i →
      (∃ c, conns[i]? = some c ∧ c.UsableUnder config nowMs) ∧
      (∃ c, (selectConnectionIdx calculate conns lastIdx nowMs config).1[i]? = some c ∧
        c.stallGated = false ∧ c.qualityExcluded = false) ∧
      (config.mode = .classic → ∃ x, FirstMax.IsFirstMax
        ((selectConnectionIdx calculate conns lastIdx nowMs config).1.map (Classic.rank nowMs)) i x) ∧
      (config.mode = .enhanced → Enhanced.IsChoice
        (selectConnectionIdx calculate conns lastIdx nowMs config).1 lastIdx nowMs
        config.effectiveQualityEnabled i) := by
  -- the pass refreshes timeouts and gates, so usability is that of the link before it
  have chosen_usable : ∀ i, (selectConnectionIdx calculate conns lastIdx nowMs config).2 = some i →
      ∃ c, conns[i]? = some c ∧ c.UsableUnder config nowMs := by
    intro i chosen
    obtain ⟨c, at_i, candidate, -⟩ := selectConnectionIdx_admitted chosen
    rw [isCandidate, Bool.and_eq_true] at candidate
    exact usable_before (selectConnectionIdx_frame calculate conns lastIdx nowMs config) at_i
      candidate.1
  have some_usable : ∀ i, (selectConnectionIdx calculate conns lastIdx nowMs config).2 = some i →
      ∃ c ∈ conns, c.UsableUnder config nowMs := by
    intro i chosen
    obtain ⟨c, at_i, usable⟩ := chosen_usable i chosen
    exact ⟨c, List.mem_of_getElem? at_i, usable⟩
  refine ⟨⟨?_, ?_⟩, fun i chosen => ⟨chosen_usable i chosen, ?_, ?_, ?_⟩⟩
  · intro chosen
    obtain ⟨i, chosen⟩ := Option.isSome_iff_exists.mp chosen
    exact some_usable i chosen
  · intro usable
    cases mode : config.mode with
    | classic =>
      obtain ⟨i, x, chosen, -⟩ := classic_pass mode sound usable
      rw [chosen]
      rfl
    | enhanced =>
      obtain ⟨i, chosen, -⟩ := enhanced_pass mode positive sound cached usable
      rw [chosen]
      rfl
  · obtain ⟨c, at_i, candidate, kept⟩ := selectConnectionIdx_admitted chosen
    rw [isCandidate, Bool.and_eq_true, Bool.not_eq_true'] at candidate
    exact ⟨c, at_i, candidate.2, kept⟩
  · intro mode
    obtain ⟨j, x, chosen', first⟩ := classic_pass mode sound (some_usable i chosen)
    obtain rfl := Option.some.inj (chosen.symm.trans chosen')
    exact ⟨x, first⟩
  · intro mode
    obtain ⟨j, chosen', choice⟩ := enhanced_pass mode positive sound cached (some_usable i chosen)
    obtain rfl := Option.some.inj (chosen.symm.trans chosen')
    exact choice

end Pass

/-- A registered link that heard from the receiver at `lastReceived`. -/
def liveLink (connId lastReceived : Nat) : SrtlaConnection :=
  { newRegistering connId "uplink" (.v4 connId) 500 with
    connected := true
    lastReceived := some lastReceived
    phase := .live }

/-- One link is latched, one carries a weight in the fading band, one is unweighted, one has
not registered, and one is late. -/
def gatedBond : List SrtlaConnection :=
  [{ liveLink 1 1000 with stallLatchedSinceMs := 900, inFlightPackets := 40 },
    { liveLink 2 1000 with window := 10001, inFlightPackets := 2, linkWeight := 4 },
    { liveLink 3 1000 with window := 10002, inFlightPackets := 2 },
    { liveLink 4 1000 with connected := false, phase := .registering },
    { liveLink 5 1000 with lossDegraded := true }]

theorem gatedBond_sound : ∀ c ∈ gatedBond, c.Sound := by
  have places : ∀ c ∈ gatedBond, c.connected = false → c.phase = .registering := by decide
  have windows : ∀ c ∈ gatedBond, 1000 ≤ c.window ∧ c.window ≤ 60000 := by decide
  exact fun c member => ⟨fun off => Or.inl (places c member off), windows c member⟩

/-- With the late link out of the classic bond, the weighted score 3333.99.. of the second link
is 3334 in `f32`, as is that of the third, and the lower index wins. An enhanced pass holds the
late link out and stays on the second one. -/
theorem selectConnectionIdx_gatedBond :
    (selectConnectionIdx (fun _ _ => 1) (gatedBond.take 4) none 1200 { mode := .classic }).2 = some 1 ∧
      (∃ x, FirstMax.IsFirstMax
        ((selectConnectionIdx (fun _ _ => 1) (gatedBond.take 4) none 1200 { mode := .classic }).1.map
          (Classic.rank 1200)) 1 x) ∧
      (selectConnectionIdx (fun _ _ => 1) gatedBond (some 1) 1200 {}).2 = some 1 ∧
      Enhanced.IsChoice (selectConnectionIdx (fun _ _ => 1) gatedBond (some 1) 1200 {}).1 (some 1) 1200
        true 1 := by
  have classic : (selectConnectionIdx (fun _ _ => 1) (gatedBond.take 4) none 1200
      { mode := .classic }).2 = some 1 := by decide +kernel
  have enhanced : (selectConnectionIdx (fun _ _ => 1) gatedBond (some 1) 1200 {}).2 = some 1 := by
    decide +kernel
  have cached : ∀ c ∈ gatedBond, 0 < c.qualityCache.multiplier := by decide +kernel
  have first := (selectConnectionIdx_correct (fun _ _ => one_pos)
    (fun c member => gatedBond_sound c (List.mem_of_mem_take member))
    (fun c member => cached c (List.mem_of_mem_take member)) none 1200 { mode := .classic }).2 1 classic
  have second := (selectConnectionIdx_correct (fun _ _ => one_pos) gatedBond_sound cached (some 1) 1200
    {}).2 1 enhanced
  exact ⟨classic, first.2.2.1 rfl, enhanced, second.2.2.2 rfl⟩

end SrtlaSend
