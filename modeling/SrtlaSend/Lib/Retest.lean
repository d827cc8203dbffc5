import SrtlaSend.Lib.Run
import Mathlib.Order.MinMax
import Mathlib.Order.Nat
import Mathlib.Tactic.Set

/-!
# Re-tests that back off

A subject that fails is tried again after a wait, in a window during which its failures are
overlooked. The wait is `interval` failures in a row for the first window; each window
doubles it, up to `cap` times the interval, and a pass outside a window sets it back. An
alarm ends the window at once.
-/

namespace Retest

open Runs

structure Timer where
  /-- Steps left of the window; 0 outside. -/
  left : Nat := 0
  streak : Nat := 0
  backoff : Nat := 0
deriving DecidableEq, Repr

inductive Signal
  | alarm
  | fail
  | pass
deriving DecidableEq, Repr

variable (interval window cap : Nat)

def next (t : Timer) (s : Signal) : Timer :=
  if 0 < t.left then
    { t with left := if s = .alarm then 0 else t.left - 1, streak := 0 }
  else
    match s with
    | .fail =>
      if interval * max t.backoff 1 ≤ t.streak + 1 then
        ⟨window, 0, min (2 * max t.backoff 1) cap⟩
      else { t with streak := t.streak + 1 }
    | .alarm => { t with streak := 0 }
    | .pass => { t with streak := 0, backoff := 1 }

/-- The step opens a window. -/
def opens (t : Timer) (s : Signal) : Prop := t.left = 0 ∧ 0 < (next interval window cap t s).left

instance (t : Timer) (s : Signal) : Decidable (opens interval window cap t s) :=
  inferInstanceAs (Decidable (_ ∧ _))

/-- The factor of the wait for the next window, read off the history: 1 at first and after a
pass outside any window, doubled by each window up to the cap. -/
def factor (h : List (Timer × Signal)) : Nat :=
  h.foldl
    (fun b x =>
      if opens interval window cap x.1 x.2 then min (2 * b) cap
      else if x.1.left = 0 ∧ x.2 = .pass then 1
      else b)
    1

/-! ### Steps -/

/-- Everything a step does. -/
theorem next_cases (t : Timer) (s : Signal) :
    (0 < t.left ∧ (next interval window cap t s).left = (if s = .alarm then 0 else t.left - 1) ∧
      (next interval window cap t s).streak = 0 ∧
      (next interval window cap t s).backoff = t.backoff) ∨
    (t.left = 0 ∧ s = .fail ∧ interval * max t.backoff 1 ≤ t.streak + 1 ∧
      next interval window cap t s = ⟨window, 0, min (2 * max t.backoff 1) cap⟩) ∨
    (t.left = 0 ∧ s = .fail ∧ t.streak + 1 < interval * max t.backoff 1 ∧
      next interval window cap t s = { t with streak := t.streak + 1 }) ∨
    (t.left = 0 ∧ s ≠ .fail ∧
      next interval window cap t s =
        { t with streak := 0, backoff := if s = .pass then 1 else t.backoff }) := by
  simp only [next]
  by_cases inside : 0 < t.left
  · rw [if_pos inside]
    exact Or.inl ⟨inside, rfl, rfl, rfl⟩
  · have outside : t.left = 0 := by omega
    rw [if_neg inside]
    cases s with
    | fail =>
      by_cases due : interval * max t.backoff 1 ≤ t.streak + 1
      · exact Or.inr (Or.inl ⟨outside, rfl, due, if_pos due⟩)
      · exact Or.inr (Or.inr (Or.inl ⟨outside, rfl, not_le.mp due, if_neg due⟩))
    | alarm => exact Or.inr (Or.inr (Or.inr ⟨outside, nofun, rfl⟩))
    | pass => exact Or.inr (Or.inr (Or.inr ⟨outside, nofun, rfl⟩))

variable {interval window cap}

/-- The numbers of a timer stay small. -/
structure Bounded (interval window cap : Nat) (t : Timer) : Prop where
  left : t.left ≤ window
  streak : t.streak ≤ interval * cap
  backoff : t.backoff ≤ cap

theorem bounded_next (one_le : 1 ≤ cap) {t : Timer} (bounded : Bounded interval window cap t)
    (s : Signal) : Bounded interval window cap (next interval window cap t s) := by
  obtain ⟨left, streak, backoff⟩ := bounded
  have factor_le : interval * max t.backoff 1 ≤ interval * cap :=
    Nat.mul_le_mul_left _ (max_le backoff one_le)
  rcases next_cases interval window cap t s with ⟨inside, left', streak', backoff'⟩ | ⟨-, -, -, eq⟩ | ⟨-, -, wait, eq⟩ |
    ⟨-, -, eq⟩
  · refine ⟨?_, by omega, by omega⟩
    rw [left']
    split <;> omega
  · rw [eq]
    exact ⟨le_rfl, Nat.zero_le _, min_le_right _ _⟩
  · rw [eq]
    exact ⟨left, by simp only; omega, backoff⟩
  · rw [eq]
    refine ⟨left, Nat.zero_le _, ?_⟩
    simp only
    split
    · exact one_le
    · exact backoff

/-- A window closes by itself: the steps that find it open are no more than it had left. -/
theorem window_length_le {t : Timer} {ss : List Signal}
    (inside : EachStep (next interval window cap) (fun t _ => 0 < t.left) t ss) :
    ss.length ≤ t.left := by
  induction ss generalizing t with
  | nil => exact Nat.zero_le _
  | cons s ss ih =>
    obtain ⟨inside_now, rest⟩ := inside
    have later := ih rest
    rcases next_cases interval window cap t s with
      ⟨-, left, -, -⟩ | ⟨outside, -⟩ | ⟨outside, -⟩ | ⟨outside, -⟩
    · rw [left] at later
      rw [List.length_cons]
      split at later <;> omega
    all_goals omega

theorem next_inside {t : Timer} (inside : 0 < t.left) (s : Signal) :
    next interval window cap t s =
      { t with left := if s = .alarm then 0 else t.left - 1, streak := 0 } := if_pos inside

/-! ### Runs -/

/-- The wait so far and its factor, read off the history. -/
structure Waited (interval window cap : Nat) (h : List (Timer × Signal)) (t : Timer) : Prop where
  factor : max t.backoff 1 = factor interval window cap h
  streak : ∃ front stretch, h = front ++ stretch ∧ stretch.length = t.streak ∧
    ∀ x ∈ stretch, x.1.left = 0 ∧ x.2 = .fail

theorem factor_concat (h : List (Timer × Signal)) (t : Timer) (s : Signal) :
    factor interval window cap (h ++ [(t, s)]) =
      if opens interval window cap t s then min (2 * factor interval window cap h) cap
      else if t.left = 0 ∧ s = .pass then 1
      else factor interval window cap h := by
  rw [factor, List.foldl_append]
  rfl

theorem waited_next (one_le : 1 ≤ cap) (positive : 0 < window) {h : List (Timer × Signal)} {t : Timer}
    (waited : Waited interval window cap h t) (s : Signal) :
    Waited interval window cap (h ++ [(t, s)]) (next interval window cap t s) := by
  obtain ⟨same, front, stretch, cut, length, failed⟩ := waited
  -- a step that ends the streak leaves the empty one
  have cleared : ∃ front stretch, h ++ [(t, s)] = front ++ stretch ∧ stretch.length = 0 ∧
      ∀ x ∈ stretch, x.1.left = 0 ∧ x.2 = .fail := ⟨h ++ [(t, s)], [], by simp⟩
  rcases next_cases interval window cap t s with
    ⟨inside, -, streak, backoff⟩ | ⟨outside, -, -, eq⟩ | ⟨outside, rfl, -, eq⟩ | ⟨outside, other, eq⟩
  · have closed : ¬ opens interval window cap t s := fun o => absurd o.1 (by omega)
    refine ⟨?_, by rw [streak]; exact cleared⟩
    rw [factor_concat, if_neg closed, if_neg (by omega), backoff, same]
  · have opened : opens interval window cap t s := ⟨outside, by rw [eq]; exact positive⟩
    rw [eq]
    refine ⟨?_, cleared⟩
    rw [factor_concat, if_pos opened, ← same]
    simp only
    omega
  · have closed : ¬ opens interval window cap t .fail := by
      rintro ⟨-, inside⟩
      rw [eq] at inside
      exact absurd outside inside.ne'
    rw [eq]
    refine ⟨?_, front, stretch ++ [(t, .fail)], ?_, ?_, ?_⟩
    · rw [factor_concat, if_neg closed, if_neg (by simp), same]
    · rw [cut, List.append_assoc]
    · rw [List.length_append, length]
      rfl
    · intro x member
      rcases List.mem_append.mp member with earlier | last
      · exact failed x earlier
      · rw [List.mem_singleton.mp last]
        exact ⟨outside, rfl⟩
  · have closed : ¬ opens interval window cap t s := by
      rintro ⟨-, inside⟩
      rw [eq] at inside
      exact absurd outside inside.ne'
    rw [eq]
    refine ⟨?_, cleared⟩
    rw [factor_concat, if_neg closed]
    by_cases passed : s = .pass
    · simp [passed, outside]
    · simpa [passed] using same

theorem waited_run (interval : Nat) (one_le : 1 ≤ cap) (positive : 0 < window) (ss : List Signal) :
    Waited interval window cap (history (next interval window cap) {} ss)
      (run (next interval window cap) {} ss) := by
  induction ss using List.reverseRecOn with
  | nil => exact ⟨rfl, [], [], rfl, rfl, by simp⟩
  | append_singleton ss s ih =>
    rw [history_concat, run_append]
    exact waited_next one_le positive ih s

/-- A window opens only after the full wait: as many failures in a row, outside any window,
as the interval times the factor. -/
theorem opened_after_wait (one_le : 1 ≤ cap) (positive : 0 < window) {ss : List Signal} {s : Signal}
    (opened : opens interval window cap (run (next interval window cap) {} ss) s) :
    ∃ front stretch,
      history (next interval window cap) {} (ss ++ [s]) = front ++ stretch ∧
      stretch.length = interval *
        factor interval window cap (history (next interval window cap) {} ss) ∧
      ∀ x ∈ stretch, x.1.left = 0 ∧ x.2 = .fail := by
  obtain ⟨same, front, stretch, cut, length, failed⟩ :=
    waited_run interval one_le positive ss
  obtain ⟨outside, inside⟩ := opened
  set t := run (next interval window cap) {} ss
  rcases next_cases interval window cap t s with
    ⟨open_, -⟩ | ⟨-, rfl, due, -⟩ | ⟨-, -, -, eq⟩ | ⟨-, -, eq⟩
  · omega
  · rw [same] at due
    -- the streak may be longer than the wait: its end is as long
    set wait := interval * factor interval window cap (history (next interval window cap) {} ss)
    set failures := stretch ++ [(t, Signal.fail)]
    have size : failures.length = t.streak + 1 := by
      rw [List.length_append, length]
      rfl
    refine ⟨front ++ failures.take (failures.length - wait), failures.drop (failures.length - wait),
      ?_, ?_, ?_⟩
    · rw [history_concat, cut, List.append_assoc, List.append_assoc, List.take_append_drop]
    · rw [List.length_drop]
      omega
    · intro x member
      rcases List.mem_append.mp (List.mem_of_mem_drop member) with earlier | last
      · exact failed x earlier
      · rw [List.mem_singleton.mp last]
        exact ⟨outside, rfl⟩
  · rw [eq] at inside
    exact absurd outside inside.ne'
  · rw [eq] at inside
    exact absurd outside inside.ne'

end Retest
