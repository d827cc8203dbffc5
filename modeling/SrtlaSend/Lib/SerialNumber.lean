import Mathlib.Data.Int.ModEq
import Mathlib.Order.RelClasses
import Mathlib.Logic.Function.Iterate

/-!
# Serial numbers

Counters that wrap at a modulus `m`. Two of them are compared by the short way round
between them, `distance`, which is the balanced remainder of their difference. Near each
other, that is within half the modulus, distances add up like the steps counted, and being
ahead is a strict total order.
-/

namespace SerialNumber

/-- The counter after `x`. -/
def next (m : Nat) (x : Int) : Int := (x + 1) % m

/-- The counter before `x`. -/
def prev (m : Nat) (x : Int) : Int := (x - 1) % m

/-- The signed number of steps from `b` to `a`, the short way round. -/
def distance (m : Nat) (a b : Int) : Int := (a - b).bmod m

/-- The short way round from `b` to `a` is forward. -/
def Ahead (m : Nat) (a b : Int) : Prop := 0 < distance m a b

variable {m : Nat}

/-! ### Distance -/

theorem distance_modEq (m : Nat) (a b : Int) : distance m a b ≡ a - b [ZMOD m] :=
  Int.modEq_iff_dvd.mpr Int.dvd_self_sub_bmod

theorem not_ahead_self (a : Int) : ¬ Ahead m a a := by
  rw [Ahead, distance, Int.sub_self, Int.zero_bmod]
  exact lt_irrefl 0

/-- The distance changes its sign with the direction, unless both ways are equally long. -/
theorem distance_comm_iff (pos : 0 < m) (a b : Int) :
    distance m b a = -distance m a b ↔ 2 * ((a - b) % m) ≠ m := by
  have opposite : b - a = -(a - b) := by omega
  have nonneg : 0 ≤ (a - b) % m := Int.emod_nonneg _ (by omega)
  have below : (a - b) % m < m := Int.emod_lt_of_pos _ (by omega)
  rw [distance, distance, opposite, Int.bmod_eq_emod, Int.bmod_eq_emod, Int.neg_emod]
  simp only [Int.dvd_iff_emod_eq_zero, Int.natAbs_natCast]
  generalize (a - b) % m = r at nonneg below
  -- both directions are now linear in the remainder and the modulus
  split_ifs <;> omega

/-! ### Counting up -/

theorem iterate_next_emod (m : Nat) (x : Int) (n : Nat) : (next m)^[n] x % m = (x + n) % m := by
  induction n with
  | zero => rw [Function.iterate_zero_apply, Nat.cast_zero, Int.add_zero]
  | succ n ih =>
    rw [Function.iterate_succ_apply', next, Int.emod_emod, Int.add_emod, ih, ← Int.add_emod,
      Int.add_assoc]
    rfl

/-- Counted from a common start, the distance is the number of steps in between. -/
theorem distance_iterate_next (base : Int) {i j : Nat} (low : 2 * i < m + 2 * j)
    (high : 2 * j < m + 2 * i) :
    distance m ((next m)^[j] base) ((next m)^[i] base) = j - i := by
  have counted : distance m ((next m)^[j] base) ((next m)^[i] base) =
      (base + j - (base + i)).bmod m := by
    rw [distance, ← Int.emod_sub_bmod, ← Int.sub_emod_bmod, iterate_next_emod, iterate_next_emod,
      Int.emod_sub_bmod, Int.sub_emod_bmod]
  have steps : base + j - (base + i) = j - i := by omega
  rw [counted, steps]
  exact Int.bmod_eq_of_le (by omega) (by omega)

variable {n : Nat}

/-- Within `n` consecutive counters being ahead is having been counted later. -/
theorem ahead_iterate_next_iff (base : Int) (short : 2 * n ≤ m) {i j : Nat} (hi : i < n)
    (hj : j < n) :
    Ahead m ((next m)^[j] base) ((next m)^[i] base) ↔ i < j := by
  rw [Ahead, distance_iterate_next base (by omega) (by omega)]
  omega

/-- On a set of counters within half the modulus, being ahead is a strict total order. -/
theorem isStrictTotalOrder_ahead {base : Int} (short : 2 * n ≤ m) {S : Set Int}
    (consecutive : ∀ x ∈ S, ∃ i < n, (next m)^[i] base = x) :
    IsStrictTotalOrder S fun x y => Ahead m (y : Int) x := by
  choose turn turn_lt turn_eq using consecutive
  -- the order is that of the turns at which the counters are reached
  have turns : (fun x y : S => Ahead m (y : Int) x) =
      Function.onFun (· < ·) fun x : S => turn x x.2 := by
    funext x y
    have ahead := ahead_iterate_next_iff base short (turn_lt x x.2) (turn_lt y y.2)
    rw [turn_eq, turn_eq] at ahead
    exact propext ahead
  have injective : Function.Injective fun x : S => turn x x.2 := by
    intro x y same
    apply Subtype.ext
    calc (x : Int) = (next m)^[turn x x.2] base := (turn_eq x x.2).symm
      _ = (next m)^[turn y y.2] base := congrArg (fun i => (next m)^[i] base) same
      _ = y := turn_eq y y.2
  rw [turns]
  exact injective.isStrictTotalOrder_onFun (r := (· < ·))

/-! ### Predecessors -/

theorem prev_next {x : Int} (low : 0 ≤ x) (high : x < m) : prev m (next m x) = x := by
  rw [prev, next, Int.emod_sub_emod, Int.add_sub_cancel, Int.emod_eq_of_lt low high]

theorem next_prev {x : Int} (low : 0 ≤ x) (high : x < m) : next m (prev m x) = x := by
  rw [next, prev, Int.emod_add_emod, Int.sub_add_cancel, Int.emod_eq_of_lt low high]

end SerialNumber
