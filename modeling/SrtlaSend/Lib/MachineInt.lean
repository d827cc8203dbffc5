import Mathlib.Data.Int.Init
import Mathlib.Algebra.Order.Ring.Rat
import Mathlib.Data.Nat.Cast.Order.Ring
import Mathlib.Tactic.Common

/-!
# Fixed-width integers over `Int` and `Nat`

Machine integers are modelled by unbounded ones. A cast is an explicit
reduction, a saturating operation an explicit clamp, and a plain operation is
exact as long as its result lies in the range of the type, which is what
`InI32` states.
-/

namespace MachineInt

/-- The range of an `i32`. -/
def InI32 (x : Int) : Prop := -2 ^ 31 ≤ x ∧ x < 2 ^ 31

instance (x : Int) : Decidable (InI32 x) := inferInstanceAs (Decidable (_ ∧ _))

/-- Cast to `i32`: the representative of `x` modulo `2 ^ 32` in the signed range. -/
def asI32 (x : Int) : Int := (x + 2 ^ 31) % 2 ^ 32 - 2 ^ 31

/-- Cast to `u32`: the representative of `x` modulo `2 ^ 32`. -/
def asU32 (x : Int) : Nat := (x % 2 ^ 32).toNat

/-- Clamp to the range of an `i32`, as the `saturating_*` operations do. -/
def satI32 (x : Int) : Int := max (-2 ^ 31) (min x (2 ^ 31 - 1))

/-- Clamp to the range of a `u64`. -/
def satU64 (n : Nat) : Nat := min n (2 ^ 64 - 1)

/-- Clamp to the range of a `u32`. -/
def satU32 (n : Nat) : Nat := min n (2 ^ 32 - 1)

/-- `wrapping_sub` on `u32`. -/
def wrappingSubU32 (a b : Nat) : Nat := (a + (2 ^ 32 - b % 2 ^ 32)) % 2 ^ 32

/-- `wrapping_add` on `u32`. -/
def wrappingAddU32 (a b : Nat) : Nat := (a + b) % 2 ^ 32

/-- Plain subtraction on an unsigned type, `none` if it underflows. -/
def subU (a b : Nat) : Option Nat := if b ≤ a then some (a - b) else none

/-- Plain addition on `u8`, `none` if it overflows. -/
def addU8 (a b : Nat) : Option Nat := if a + b < 2 ^ 8 then some (a + b) else none

/-- Rounding toward zero, the integer part of a float-to-integer cast. -/
def trunc (q : ℚ) : Int := q.num.tdiv q.den

theorem asI32_of_inI32 {x : Int} (h : InI32 x) : asI32 x = x := by
  obtain ⟨low, high⟩ := h
  unfold asI32
  omega

/-- A length below `2 ^ 31` survives the cast to `i32`. -/
theorem asI32_natCast {n : Nat} (h : n < 2 ^ 31) : asI32 (n : Int) = n :=
  asI32_of_inI32 ⟨by omega, by omega⟩

theorem satI32_nonneg {x : Int} (h : 0 ≤ x) : 0 ≤ satI32 x := by
  unfold satI32
  omega

theorem trunc_nonneg {q : ℚ} (h : 0 ≤ q) : 0 ≤ trunc q := by
  unfold trunc
  exact Int.tdiv_nonneg (Rat.num_nonneg.mpr h) (Int.natCast_nonneg _)

theorem trunc_le_of_le {q : ℚ} {n : Int} (nonneg : 0 ≤ q) (h : q ≤ n) : trunc q ≤ n := by
  have den : (0 : Int) < q.den := by exact_mod_cast q.den_pos
  have scaled : q.num ≤ n * q.den := by
    have product : (q.num : ℚ) ≤ n * q.den := by
      rw [← Rat.mul_den_eq_num q]
      exact mul_le_mul_of_nonneg_right h (Nat.cast_nonneg _)
    exact_mod_cast product
  rw [trunc, Int.tdiv_eq_ediv_of_nonneg (Rat.num_nonneg.mpr nonneg)]
  exact Int.ediv_le_of_le_mul den scaled

theorem le_trunc_of_le {q : ℚ} {n : Int} (nonneg : 0 ≤ q) (h : (n : ℚ) ≤ q) : n ≤ trunc q := by
  have den : (0 : Int) < q.den := by exact_mod_cast q.den_pos
  have scaled : n * q.den ≤ q.num := by
    have product : (n : ℚ) * q.den ≤ q.num := by
      rw [← Rat.mul_den_eq_num q]
      exact mul_le_mul_of_nonneg_right h (Nat.cast_nonneg _)
    exact_mod_cast product
  rw [trunc, Int.tdiv_eq_ediv_of_nonneg (Rat.num_nonneg.mpr nonneg)]
  exact (Int.le_ediv_iff_mul_le den).mpr scaled

/-- Truncation of a number between two integers stays between them. -/
theorem trunc_toNat_mem {q : ℚ} {low high : Nat} (below : (low : ℚ) ≤ q) (above : q ≤ high) :
    low ≤ (trunc q).toNat ∧ (trunc q).toNat ≤ high := by
  have nonneg : 0 ≤ q := (Nat.cast_nonneg low).trans below
  have lower : ((low : Int) : ℚ) ≤ q := by exact_mod_cast below
  have upper : q ≤ ((high : Int) : ℚ) := by exact_mod_cast above
  have := le_trunc_of_le nonneg lower
  have := trunc_le_of_le nonneg upper
  omega

end MachineInt
