import SrtlaSend.Core.Connection
import Mathlib.Tactic.NormNum
import Mathlib.Tactic.Linarith

/-!
# Quality multiplier

The NAK- and RTT-based factor of an enhanced score. The exponential is a
parameter: the only fact about it that matters is that it stays in `(0, 1]` on
non-positive arguments.
-/

namespace SrtlaSend

def startupGracePeriodMs : Nat := 30000
def perfectConnectionBonus : ℚ := 11 / 10
def startupNakPenalty : ℚ := 98 / 100
def halfLifeMs : ℚ := 2000
def maxPenalty : ℚ := 1 / 2
def nakBurstThreshold : Int := 5
def nakBurstMaxAgeMs : Nat := 3000
def nakBurstPenalty : ℚ := 7 / 10
def rttBonusThresholdMs : ℚ := 200
def minRttMs : ℚ := 50
def maxRttBonus : ℚ := 103 / 100

def calculateRttBonus (conn : SrtlaConnection) : ℚ :=
  let smoothRtt := conn.getSmoothRttMs
  if smoothRtt ≤ 0 then 1
  else max (min (rttBonusThresholdMs / max smoothRtt minRttMs) maxRttBonus) 1

/-- Penalty factor of a link whose last NAK is `nakAgeMs` old. -/
def nakDecayMultiplier (exp : ℚ → ℚ) (conn : SrtlaConnection) (nakAgeMs : Nat) : ℚ :=
  let mult := 1 - maxPenalty * exp (-(nakAgeMs : ℚ) / halfLifeMs)
  if conn.congestion.nakBurstCount ≥ nakBurstThreshold ∧ nakAgeMs < nakBurstMaxAgeMs then
    mult * nakBurstPenalty
  else mult

def calculateQualityMultiplier (exp : ℚ → ℚ) (conn : SrtlaConnection) (currentTimeMs : Nat) : ℚ :=
  let connectionAgeMs := currentTimeMs - conn.reconnection.connectionEstablishedMs
  if connectionAgeMs < startupGracePeriodMs then
    if conn.congestion.nakCount = 0 then perfectConnectionBonus else startupNakPenalty
  else
    let qualityMult :=
      match conn.timeSinceLastNakMs currentTimeMs with
      | some nakAgeMs => nakDecayMultiplier exp conn nakAgeMs
      | none => if conn.congestion.nakCount = 0 then perfectConnectionBonus else 1
    qualityMult * calculateRttBonus conn

/-! ### Positivity -/

theorem one_le_calculateRttBonus (conn : SrtlaConnection) : 1 ≤ calculateRttBonus conn := by
  unfold calculateRttBonus
  simp only
  split
  · exact le_refl 1
  · exact le_max_right _ _

theorem nakDecayMultiplier_pos {exp : ℚ → ℚ} (bounded : ∀ x ≤ 0, exp x ≤ 1)
    (conn : SrtlaConnection) (nakAgeMs : Nat) : 0 < nakDecayMultiplier exp conn nakAgeMs := by
  have age : -(nakAgeMs : ℚ) / halfLifeMs ≤ 0 := by
    have nonneg : (0 : ℚ) ≤ nakAgeMs := Nat.cast_nonneg _
    unfold halfLifeMs
    linarith
  have decay := bounded _ age
  have positive : 0 < 1 - maxPenalty * exp (-(nakAgeMs : ℚ) / halfLifeMs) := by
    unfold maxPenalty
    linarith
  unfold nakDecayMultiplier
  simp only
  split
  · exact mul_pos positive (by norm_num [nakBurstPenalty])
  · exact positive

/-- Every quality multiplier is positive, so it never removes a link. -/
theorem calculateQualityMultiplier_pos {exp : ℚ → ℚ} (bounded : ∀ x ≤ 0, exp x ≤ 1)
    (conn : SrtlaConnection) (currentTimeMs : Nat) :
    0 < calculateQualityMultiplier exp conn currentTimeMs := by
  have bonus : 0 < calculateRttBonus conn :=
    lt_of_lt_of_le zero_lt_one (one_le_calculateRttBonus conn)
  unfold calculateQualityMultiplier
  simp only
  split
  · split
    · norm_num [perfectConnectionBonus]
    · norm_num [startupNakPenalty]
  · split
    · exact mul_pos (nakDecayMultiplier_pos bounded conn _) bonus
    · refine mul_pos ?_ bonus
      split
      · norm_num [perfectConnectionBonus]
      · norm_num

end SrtlaSend
