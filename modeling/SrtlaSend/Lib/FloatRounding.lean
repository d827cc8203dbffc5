import Mathlib.Data.Int.Log
import Mathlib.Data.Rat.Floor
import Mathlib.Tactic.Common
import Mathlib.Tactic.FieldSimp

/-!
# Rounding to a binary float format

An operation on floats computes its exact result and rounds it to the nearest number of the
format, ties to the even significand. Numbers are their rational values here. Below the
smallest exponent the last bit stays where it is, as in subnormal numbers; there is no largest
exponent, so that nothing becomes infinite.
-/

/-- Bits of the significand, the leading one included, and the exponent of the last bit of a
subnormal number. -/
structure FloatFormat where
  precision : Nat
  minExponent : Int
  positive : 0 < precision
deriving DecidableEq, Repr

namespace FloatFormat

/-- Single precision, `f32`. -/
def binary32 : FloatFormat := ⟨24, -149, by decide⟩

/-- The nearest integer, and the even one of two. -/
def roundEven (q : ℚ) : Int :=
  let below := ⌊q⌋
  let rest := q - below
  if rest < 1 / 2 ∨ (rest = 1 / 2 ∧ below % 2 = 0) then below else below + 1

/-- The exponent of the last bit of the significand for a number of the size of `q`. -/
def lastBit (f : FloatFormat) (q : ℚ) : Int :=
  max (Int.log 2 |q| - (f.precision - 1)) f.minExponent

def round (f : FloatFormat) (q : ℚ) : ℚ :=
  roundEven (q / 2 ^ f.lastBit q) * 2 ^ f.lastBit q

/-! ### To an integer -/

theorem roundEven_intCast (n : Int) : roundEven n = n := by
  unfold roundEven
  simp

theorem floor_le_roundEven (q : ℚ) : ⌊q⌋ ≤ roundEven q := by
  unfold roundEven
  simp only
  split
  · exact le_rfl
  · exact Int.le_add_one le_rfl

theorem roundEven_le_floor_add_one (q : ℚ) : roundEven q ≤ ⌊q⌋ + 1 := by
  unfold roundEven
  simp only
  split
  · exact Int.le_add_one le_rfl
  · exact le_rfl

theorem roundEven_mono {q r : ℚ} (le : q ≤ r) : roundEven q ≤ roundEven r := by
  rcases (Int.floor_mono le).lt_or_eq with apart | together
  · -- an integer lies between them
    have low := roundEven_le_floor_add_one q
    have high := floor_le_roundEven r
    omega
  · unfold roundEven
    simp only [together]
    split
    · split
      · exact le_rfl
      · exact Int.le_add_one le_rfl
    case isFalse up =>
      -- the rest of `r` is at least that of `q`, which was rounded up
      have rests : q - ⌊r⌋ ≤ r - ⌊r⌋ := sub_le_sub_right le _
      split
      case isTrue down =>
        rcases down with less | ⟨half, even⟩
        · exact absurd (Or.inl (rests.trans_lt less)) up
        · rw [half] at rests
          rcases rests.lt_or_eq with less | same
          · exact absurd (Or.inl less) up
          · exact absurd (Or.inr ⟨same, even⟩) up
      · exact le_rfl

/-! ### To the format -/

variable (f : FloatFormat)

theorem lastBit_pow_pos (q : ℚ) : (0 : ℚ) < 2 ^ f.lastBit q := zpow_pos two_pos _

/-- A multiple of its own last bit is a number of the format. -/
theorem round_of_multiple {q : ℚ} {n : Int} (multiple : q = n * 2 ^ f.lastBit q) : f.round q = q := by
  have scaled : q / 2 ^ f.lastBit q = n := by
    rw [div_eq_iff (f.lastBit_pow_pos q).ne']
    exact multiple
  rw [round, scaled, roundEven_intCast]
  exact multiple.symm

/-- Integers of at most `precision` bits are exact. -/
theorem round_intCast (subnormal : f.minExponent ≤ 0) {n : Int} (few : |n| < 2 ^ f.precision) :
    f.round n = n := by
  have whole : f.lastBit n ≤ 0 := by
    refine max_le ?_ subnormal
    rcases eq_or_ne n 0 with rfl | filled
    · simp only [Int.cast_zero, abs_zero, Int.log_zero_right]
      have := f.positive
      omega
    · have size : (0 : ℚ) < |(n : ℚ)| := abs_pos.mpr (by exact_mod_cast filled)
      have few' : |(n : ℚ)| < ((2 : Nat) : ℚ) ^ (f.precision : Int) := by
        rw [zpow_natCast]
        exact_mod_cast few
      have := (Int.lt_zpow_iff_log_lt one_lt_two size).mp few'
      omega
  obtain ⟨k, shift⟩ : ∃ k : Nat, f.lastBit n = -(k : Int) := ⟨(-f.lastBit n).toNat, by omega⟩
  refine f.round_of_multiple (n := n * 2 ^ k) ?_
  rw [shift, zpow_neg, zpow_natCast]
  push_cast
  field_simp

theorem round_zero : f.round 0 = 0 := f.round_of_multiple (n := 0) (by simp)

/-- Rounding keeps the order of nonnegative numbers. -/
theorem round_mono {q r : ℚ} (nonneg : 0 ≤ q) (le : q ≤ r) : f.round q ≤ f.round r := by
  rcases nonneg.eq_or_lt with rfl | positive
  · rw [round_zero]
    -- nothing above zero rounds below it
    have floor : (0 : Int) ≤ roundEven (r / 2 ^ f.lastBit r) := by
      rw [← roundEven_intCast 0]
      exact roundEven_mono (by simpa using div_nonneg le (f.lastBit_pow_pos r).le)
    exact mul_nonneg (by exact_mod_cast floor) (f.lastBit_pow_pos r).le
  have positive' : 0 < r := positive.trans_le le
  have logs : Int.log 2 |q| ≤ Int.log 2 |r| := by
    rw [abs_of_pos positive, abs_of_pos positive']
    exact Int.log_mono_right positive le
  have bits : f.lastBit q ≤ f.lastBit r := max_le_max_right _ (sub_le_sub_right logs _)
  rcases bits.lt_or_eq with apart | together
  · -- a power of two lies between them, and it is a number of the format on both scales
    set k : Int := Int.log 2 |r|
    have last_r : f.lastBit r = k - (f.precision - 1) := by
      have := le_max_right (Int.log 2 |q| - (f.precision - 1)) f.minExponent
      unfold lastBit at apart ⊢
      omega
    have below : q ≤ 2 ^ k := by
      have above := Int.lt_zpow_succ_log_self (b := 2) one_lt_two q
      have smaller : Int.log 2 q + 1 ≤ k := by
        have := le_max_left (Int.log 2 |q| - (f.precision - 1)) f.minExponent
        rw [abs_of_pos positive] at this
        have := f.positive
        unfold lastBit at apart
        rw [abs_of_pos positive] at apart
        omega
      exact above.le.trans (zpow_le_zpow_right₀ one_le_two smaller)
    have above : (2 : ℚ) ^ k ≤ r := by
      have size : 0 < |r| := abs_pos.mpr positive'.ne'
      exact (Int.zpow_log_le_self (b := 2) one_lt_two size).trans_eq (abs_of_pos positive')
    have power (e : Int) (low : e ≤ k) : (2 : ℚ) ^ k / 2 ^ e = ((2 ^ (k - e).toNat : Int) : ℚ) := by
      rw [← zpow_sub₀ two_ne_zero]
      push_cast
      rw [← zpow_natCast, Int.toNat_of_nonneg (by omega)]
    have low : f.round q ≤ 2 ^ k := by
      have e_le : f.lastBit q ≤ k := by
        have := f.positive
        omega
      have scaled : q / 2 ^ f.lastBit q ≤ ((2 ^ (k - f.lastBit q).toNat : Int) : ℚ) := by
        rw [← power _ e_le]
        exact div_le_div_of_nonneg_right below (f.lastBit_pow_pos q).le
      have rounded := roundEven_mono scaled
      rw [roundEven_intCast] at rounded
      rw [round, ← le_div_iff₀ (f.lastBit_pow_pos q), power _ e_le]
      exact_mod_cast rounded
    have high : 2 ^ k ≤ f.round r := by
      have e_le : f.lastBit r ≤ k := by
        have := f.positive
        omega
      have scaled : ((2 ^ (k - f.lastBit r).toNat : Int) : ℚ) ≤ r / 2 ^ f.lastBit r := by
        rw [← power _ e_le]
        exact div_le_div_of_nonneg_right above (f.lastBit_pow_pos r).le
      have rounded := roundEven_mono scaled
      rw [roundEven_intCast] at rounded
      rw [round, ← div_le_iff₀ (f.lastBit_pow_pos r), power _ e_le]
      exact_mod_cast rounded
    exact low.trans high
  · rw [round, round, together]
    have scaled := roundEven_mono (div_le_div_of_nonneg_right le (f.lastBit_pow_pos r).le)
    exact mul_le_mul_of_nonneg_right (by exact_mod_cast scaled) (f.lastBit_pow_pos r).le

theorem round_nonneg {q : ℚ} (nonneg : 0 ≤ q) : 0 ≤ f.round q := by
  have rounded := f.round_mono le_rfl nonneg
  rwa [round_zero] at rounded

end FloatFormat
