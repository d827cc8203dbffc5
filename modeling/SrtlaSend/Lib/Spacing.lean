import Mathlib.Order.Basic
import Mathlib.Data.List.Basic
import Mathlib.Tactic.Common

/-!
# Gapped times

A log of times, the latest first, in which every entry keeps a gap to the one before it. The gap
may depend on how many entries there were. Where the later gaps have a lower bound, the log
spans at least that much for each of them.
-/

namespace Spacing

/-- An entry comes at least `gap n` after the `n`-th one. -/
def Gapped (gap : Nat → Nat) : List Nat → Prop
  | [] => True
  | [_] => True
  | later :: earlier :: rest =>
    earlier + gap (rest.length + 1) ≤ later ∧ Gapped gap (earlier :: rest)

variable {gap : Nat → Nat}

theorem Gapped.cons {log : List Nat} {t : Nat} (spaced : Gapped gap log)
    (late : ∀ u ∈ log.head?, u + gap log.length ≤ t) : Gapped gap (t :: log) := by
  cases log with
  | nil => trivial
  | cons u rest => exact ⟨late u rfl, spaced⟩

/-- From the `k`-th entry on each gap is at least `g`, and the whole log spans them. -/
theorem Gapped.span {k g : Nat} (positive : 0 < k) (slow : ∀ n, k ≤ n → g ≤ gap n) {last : Nat}
    {log : List Nat} (spaced : Gapped gap (last :: log)) :
    ∀ first ∈ (last :: log).getLast?, first + g * (log.length + 1 - k) ≤ last := by
  induction log generalizing last with
  | nil =>
    intro first member
    obtain rfl : last = first := Option.some.inj member
    have none_left : 0 + 1 - k = 0 := Nat.sub_eq_zero_of_le positive
    simp only [List.length_nil, none_left, Nat.mul_zero, Nat.add_zero, Nat.le_refl]
  | cons u rest ih =>
    intro first member
    rw [List.getLast?_cons_cons] at member
    have before := ih spaced.2 first member
    by_cases late : k ≤ rest.length + 1
    · have one_more : (u :: rest).length + 1 - k = rest.length + 1 - k + 1 := by
        rw [List.length_cons, Nat.sub_add_comm late]
      have gap_u := slow _ late
      have step := spaced.1
      rw [one_more, Nat.mul_succ]
      omega
    · -- still among the first entries, where nothing is counted
      have none_left : (u :: rest).length + 1 - k = 0 := by
        rw [List.length_cons]
        omega
      have step := spaced.1
      rw [none_left, Nat.mul_zero]
      omega

end Spacing
