import SrtlaSend.Lib.Run
import SrtlaSend.Core.Rtt

/-!
# The windowed minimum over runs

Three samples stand for a whole window. What holds of them after every sequence of
updates with a clock that does not go back: each is a sample that nothing folded in
later has beaten, and the first is no older than the window. It is also at most every
sample of the last quarter of the window, until the minimum rises once more without a
new low since it rose before: the runners-up of a promoted minimum start where they
happened to be found and not a sub-window apart. What is folded in after that is covered
again.
-/

namespace SrtlaSend

open Runs

namespace WindowedMin

variable {α : Type} [LinearOrder α]

/-- Fold in a sample, forgetting the returned minimum. -/
def fold (w : WindowedMin α) (x : Sample α) : WindowedMin α := (w.update x.tMs x.v).1

/-- The filter of window `win` after the samples `xs`. -/
def after (win : Nat) (xs : List (Sample α)) : WindowedMin α := run fold (new win) xs

/-- The clock does not go back. -/
def Chronological (xs : List (Sample α)) : Prop := xs.Pairwise fun x y => x.tMs ≤ y.tMs

/-- Nothing is reported yet, or the sample is at most what is. -/
def Lowers (w : WindowedMin α) (x : Sample α) : Prop := ∀ m ∈ w.get, x.v ≤ m

/-- The reported minimum goes up as the sample is folded in. -/
def Raises (w : WindowedMin α) (x : Sample α) : Prop := ∃ m ∈ w.get, ∃ m' ∈ (w.fold x).get, m < m'

/-- The minimum has risen since the last sample at most it. -/
def Risen (win : Nat) (xs : List (Sample α)) : Prop :=
  Since (fun e => Raises e.1 e.2) (fun e => Lowers e.1 e.2) (history fold (new win) xs)

/-- After `before` the minimum rises with `x`, and it had risen already. -/
def RisesAgain (win : Nat) (before : List (Sample α)) (x : Sample α) : Prop :=
  Raises (after win before) x ∧ Risen win before

/-- After `before` no sample of `later` makes the minimum rise again. -/
def SteadyAfter (win : Nat) (before later : List (Sample α)) : Prop :=
  ∀ mid x tail, later = mid ++ x :: tail → ¬ RisesAgain win (before ++ mid) x

@[simp] theorem after_nil (win : Nat) : after win ([] : List (Sample α)) = new win := rfl

@[simp] theorem after_concat (win : Nat) (xs : List (Sample α)) (x : Sample α) :
    after win (xs ++ [x]) = (after win xs).fold x := by
  simp only [after, run_append, run_cons, run_nil]

@[simp] theorem fold_windowMs (w : WindowedMin α) (x : Sample α) :
    (w.fold x).windowMs = w.windowMs := by
  simp only [fold, update]
  split
  · split_ifs <;> rfl
  · rfl

@[simp] theorem after_windowMs (win : Nat) (xs : List (Sample α)) :
    (after win xs).windowMs = win := by
  induction xs using List.reverseRecOn with
  | nil => rfl
  | append_singleton xs x ih => rw [after_concat, fold_windowMs, ih]

/-- What `update` returns is what the filter reports from then on. -/
theorem get_fold (w : WindowedMin α) (x : Sample α) :
    (w.fold x).get = some (w.update x.tMs x.v).2 := by
  simp only [fold, update]
  split
  · split_ifs <;> rfl
  · rfl

omit [LinearOrder α] in
theorem chronological_concat {xs : List (Sample α)} {x : Sample α} :
    Chronological (xs ++ [x]) ↔ Chronological xs ∧ ∀ y ∈ xs, y.tMs ≤ x.tMs := by
  simp [Chronological, List.pairwise_append]

omit [LinearOrder α] in
theorem le_of_chronological {xs : List (Sample α)} {x : Sample α}
    (clock : Chronological (xs ++ [x])) : ∀ y ∈ xs ++ [x], y.tMs ≤ x.tMs := by
  intro y member
  rcases List.mem_append.mp member with old | new
  · exact (chronological_concat.mp clock).2 y old
  · rw [List.mem_singleton.mp new]

theorem SteadyAfter.of_concat {win : Nat} {before later : List (Sample α)} {x : Sample α}
    (steady : SteadyAfter win before (later ++ [x])) :
    SteadyAfter win before later ∧ ¬ RisesAgain win (before ++ later) x := by
  refine ⟨fun mid y tail cut => steady mid y (tail ++ [x]) ?_, steady later x [] rfl⟩
  rw [cut, List.append_assoc, List.cons_append]

/-! ### What one update does -/

/-- The runners-up once the newest sample has displaced those it does not exceed. -/
def runnersUp (s1 s2 x : Sample α) : Sample α × Sample α :=
  if x.v ≤ s1.v then (x, x) else if x.v ≤ s2.v then (s1, x) else (s1, s2)

/-- The newest sample displaces both runners-up, the second one, or none. -/
theorem runnersUp_cases (s1 s2 x : Sample α) :
    (x.v ≤ s1.v ∧ runnersUp s1 s2 x = (x, x)) ∨
      (s1.v < x.v ∧ x.v ≤ s2.v ∧ runnersUp s1 s2 x = (s1, x)) ∨
      (s1.v < x.v ∧ s2.v < x.v ∧ runnersUp s1 s2 x = (s1, s2)) := by
  simp only [runnersUp]
  rcases le_or_gt x.v s1.v with le | above
  · exact Or.inl ⟨le, if_pos le⟩
  · rcases le_or_gt x.v s2.v with le | above'
    · exact Or.inr (Or.inl ⟨above, le, by rw [if_neg above.not_ge, if_pos le]⟩)
    · exact Or.inr (Or.inr ⟨above, above', by rw [if_neg above.not_ge, if_neg above'.not_ge]⟩)

/-- Promotion, double promotion, the quarter-window refresh, the half-window refresh, or
nothing but the displaced runners-up. -/
theorem shift_cases (win : Nat) (s0 s1 s2 x : Sample α) {r1 r2 : Sample α}
    (runners : runnersUp s1 s2 x = (r1, r2)) :
    (win < x.tMs - s0.tMs ∧ x.tMs - r1.tMs ≤ win ∧
        shift win x.tMs s0 s1 s2 x = (r1, r2, x)) ∨
      (win < x.tMs - s0.tMs ∧ win < x.tMs - r1.tMs ∧
        shift win x.tMs s0 s1 s2 x = (r2, x, x)) ∨
      (x.tMs - s0.tMs ≤ win ∧ r1.tMs = s0.tMs ∧ win / 4 < x.tMs - s0.tMs ∧
        shift win x.tMs s0 s1 s2 x = (s0, x, x)) ∨
      (x.tMs - s0.tMs ≤ win ∧ (r1.tMs = s0.tMs → x.tMs - s0.tMs ≤ win / 4) ∧
        r2.tMs = r1.tMs ∧ win / 2 < x.tMs - s0.tMs ∧
        shift win x.tMs s0 s1 s2 x = (s0, r1, x)) ∨
      (x.tMs - s0.tMs ≤ win ∧ (r1.tMs = s0.tMs → x.tMs - s0.tMs ≤ win / 4) ∧
        (r2.tMs = r1.tMs → x.tMs - s0.tMs ≤ win / 2) ∧
        shift win x.tMs s0 s1 s2 x = (s0, r1, r2)) := by
  simp only [runnersUp] at runners
  simp only [shift, runners]
  split_ifs with expired again quarter half
  · exact Or.inr (Or.inl ⟨expired, again, rfl⟩)
  · exact Or.inl ⟨expired, not_lt.mp again, rfl⟩
  · exact Or.inr (Or.inr (Or.inl ⟨not_lt.mp expired, quarter.1, quarter.2, rfl⟩))
  · refine Or.inr (Or.inr (Or.inr (Or.inl ⟨not_lt.mp expired, ?_, half.1, half.2, rfl⟩)))
    exact fun same => not_lt.mp fun late => quarter ⟨same, late⟩
  · refine Or.inr (Or.inr (Or.inr (Or.inr ⟨not_lt.mp expired, ?_, ?_, rfl⟩)))
    · exact fun same => not_lt.mp fun late => quarter ⟨same, late⟩
    · exact fun same => not_lt.mp fun late => half ⟨same, late⟩

theorem fold_of_none {w : WindowedMin α} (none : w.s = none) (x : Sample α) :
    (w.fold x).s = some (x, x, x) := by
  simp only [fold, update, none]

/-- A sample at most the minimum restarts the filter, and so does one that finds all
three samples expired. -/
theorem fold_restart {w : WindowedMin α} {s0 s1 s2 : Sample α} (held : w.s = some (s0, s1, s2))
    {x : Sample α} (restart : x.v ≤ s0.v ∨ w.windowMs < x.tMs - s2.tMs) :
    (w.fold x).s = some (x, x, x) := by
  have no : ¬ (x.v > s0.v ∧ x.tMs - s2.tMs ≤ w.windowMs) := by
    rintro ⟨above, fresh⟩
    rcases restart with le | stale
    · exact absurd above le.not_gt
    · exact absurd fresh stale.not_ge
  simp only [fold, update, held]
  rw [if_neg no]

theorem fold_shift {w : WindowedMin α} {s0 s1 s2 : Sample α} (held : w.s = some (s0, s1, s2))
    {x : Sample α} (above : s0.v < x.v) (fresh : x.tMs - s2.tMs ≤ w.windowMs) :
    (w.fold x).s = some (shift w.windowMs x.tMs s0 s1 s2 x) := by
  have yes : x.v > s0.v ∧ x.tMs - s2.tMs ≤ w.windowMs := ⟨above, fresh⟩
  simp only [fold, update, held]
  rw [if_pos yes]

/-! ### The three samples -/

/-- A sample of the history that everything folded in later exceeds. -/
def Stands (xs : List (Sample α)) (s : Sample α) : Prop :=
  ∃ before later, xs = before ++ s :: later ∧ ∀ y ∈ later, s.v < y.v

theorem stands_last (xs : List (Sample α)) (x : Sample α) : Stands (xs ++ [x]) x :=
  ⟨xs, [], rfl, by simp⟩

theorem Stands.concat {xs : List (Sample α)} {s x : Sample α} (stands : Stands xs s)
    (above : s.v < x.v) : Stands (xs ++ [x]) s := by
  obtain ⟨before, later, rfl, least⟩ := stands
  refine ⟨before, later ++ [x], by simp, fun y member => ?_⟩
  rcases List.mem_append.mp member with old | new
  · exact least y old
  · rw [List.mem_singleton.mp new]
    exact above

theorem Stands.le_last {xs : List (Sample α)} {s x : Sample α} (stands : Stands (xs ++ [x]) s) :
    s.v ≤ x.v := by
  obtain ⟨before, later, cut, least⟩ := stands
  rcases List.eq_nil_or_concat later with rfl | ⟨later, y, rfl⟩
  · obtain ⟨-, last⟩ := List.append_inj' cut rfl
    obtain ⟨rfl, -⟩ := List.cons.inj last
    exact le_rfl
  · rw [List.concat_eq_append, ← List.cons_append, ← List.append_assoc] at cut
    obtain ⟨-, last⟩ := List.append_inj' cut rfl
    obtain ⟨rfl, -⟩ := List.cons.inj last
    exact (least x (by simp)).le

theorem Stands.mem {xs : List (Sample α)} {s : Sample α} (stands : Stands xs s) : s ∈ xs := by
  obtain ⟨before, later, rfl, -⟩ := stands
  simp

/-- A sample that stands is below every sample with a later time. -/
theorem Stands.lt_of_later {xs : List (Sample α)} {s y : Sample α} (stands : Stands xs s)
    (clock : Chronological xs) (member : y ∈ xs) (late : s.tMs < y.tMs) : s.v < y.v := by
  obtain ⟨before, later, rfl, least⟩ := stands
  have earlier : ∀ z ∈ before, z.tMs ≤ s.tMs := fun z member' =>
    (List.pairwise_append.mp clock).2.2 z member' s List.mem_cons_self
  rcases List.mem_append.mp member with old | new
  · exact absurd (earlier y old) late.not_ge
  · rcases List.mem_cons.mp new with rfl | new
    · exact absurd late (lt_irrefl _)
    · exact least y new

/-- What the three samples of a filter are, after the samples `xs`. -/
structure Holding (win : Nat) (xs : List (Sample α)) (s0 s1 s2 : Sample α) : Prop where
  first : Stands xs s0
  second : Stands xs s1
  third : Stands xs s2
  ordered : s0.tMs ≤ s1.tMs
  ordered' : s1.tMs ≤ s2.tMs
  recent : ∀ y ∈ xs, y.tMs ≤ s0.tMs + win

theorem holding_restart {win : Nat} {xs : List (Sample α)} {x : Sample α}
    (clock : Chronological (xs ++ [x])) : Holding win (xs ++ [x]) x x x where
  first := stands_last xs x
  second := stands_last xs x
  third := stands_last xs x
  ordered := le_rfl
  ordered' := le_rfl
  recent y member := (le_of_chronological clock y member).trans (Nat.le_add_right _ _)

/-- The displaced runners-up still stand, in order. -/
theorem Holding.runnersUp {win : Nat} {xs : List (Sample α)} {s0 s1 s2 x r1 r2 : Sample α}
    (holding : Holding win xs s0 s1 s2) (clock : Chronological (xs ++ [x]))
    (runners : runnersUp s1 s2 x = (r1, r2)) :
    Stands (xs ++ [x]) r1 ∧ Stands (xs ++ [x]) r2 ∧ s0.tMs ≤ r1.tMs ∧ r1.tMs ≤ r2.tMs := by
  have older := (chronological_concat.mp clock).2
  rcases runnersUp_cases s1 s2 x with ⟨-, eq⟩ | ⟨above, -, eq⟩ | ⟨above, above', eq⟩
  · -- the newest sample displaces both
    obtain ⟨rfl, rfl⟩ := Prod.mk.inj (eq.symm.trans runners)
    exact ⟨stands_last xs x, stands_last xs x, older s0 holding.first.mem, le_rfl⟩
  · -- it displaces the second one, which the clock puts last
    obtain ⟨rfl, rfl⟩ := Prod.mk.inj (eq.symm.trans runners)
    exact ⟨holding.second.concat above, stands_last xs x, holding.ordered,
      older s1 holding.second.mem⟩
  · -- both exceed nothing that came later, also not the newest
    obtain ⟨rfl, rfl⟩ := Prod.mk.inj (eq.symm.trans runners)
    exact ⟨holding.second.concat above, holding.third.concat above', holding.ordered,
      holding.ordered'⟩

theorem holding_shift {win : Nat} {xs : List (Sample α)} {s0 s1 s2 x : Sample α}
    (holding : Holding win xs s0 s1 s2) (clock : Chronological (xs ++ [x]))
    (above : s0.v < x.v) (fresh : x.tMs - s2.tMs ≤ win) :
    Holding win (xs ++ [x]) (shift win x.tMs s0 s1 s2 x).1 (shift win x.tMs s0 s1 s2 x).2.1
      (shift win x.tMs s0 s1 s2 x).2.2 := by
  obtain ⟨r1, r2, runners⟩ : ∃ r1 r2, WindowedMin.runnersUp s1 s2 x = (r1, r2) :=
    ⟨_, _, rfl⟩
  obtain ⟨stands1, stands2, le1, le2⟩ := holding.runnersUp clock runners
  have kept : Stands (xs ++ [x]) s0 := holding.first.concat above
  have last := le_of_chronological clock
  have fresh2 : x.tMs - r2.tMs ≤ win := by
    rcases runnersUp_cases s1 s2 x with ⟨-, eq⟩ | ⟨-, -, eq⟩ | ⟨-, -, eq⟩ <;>
      obtain ⟨rfl, rfl⟩ := Prod.mk.inj (eq.symm.trans runners) <;> omega
  rcases shift_cases win s0 s1 s2 x runners with
    ⟨-, within, eq⟩ | ⟨-, -, eq⟩ | ⟨within, -, -, eq⟩ | ⟨within, -, -, -, eq⟩ | ⟨within, -, -, eq⟩
  · -- the first runner-up is promoted
    rw [eq]
    exact ⟨stands1, stands2, stands_last xs x, le2, last r2 stands2.mem,
      fun y member => by have := last y member; simp only; omega⟩
  · -- it had expired too, and the second one is promoted
    rw [eq]
    exact ⟨stands2, stands_last xs x, stands_last xs x, last r2 stands2.mem, le_rfl,
      fun y member => by have := last y member; simp only; omega⟩
  · -- quarter-window refresh
    rw [eq]
    exact ⟨kept, stands_last xs x, stands_last xs x, last s0 kept.mem, le_rfl,
      fun y member => by have := last y member; simp only; omega⟩
  · -- half-window refresh
    rw [eq]
    exact ⟨kept, stands1, stands_last xs x, le1, last r1 stands1.mem,
      fun y member => by have := last y member; simp only; omega⟩
  · -- only the runners-up moved
    rw [eq]
    exact ⟨kept, stands1, stands2, le1, le2,
      fun y member => by have := last y member; simp only; omega⟩

/-- After every nonempty sequence of updates the filter holds three such samples. -/
theorem holding_after (win : Nat) (xs : List (Sample α)) (x : Sample α)
    (clock : Chronological (xs ++ [x])) :
    ∃ s0 s1 s2, (after win (xs ++ [x])).s = some (s0, s1, s2) ∧
      Holding win (xs ++ [x]) s0 s1 s2 := by
  induction xs using List.reverseRecOn generalizing x with
  | nil => exact ⟨x, x, x, fold_of_none rfl x, holding_restart clock⟩
  | append_singleton xs y ih =>
    obtain ⟨s0, s1, s2, held, holding⟩ := ih y (chronological_concat.mp clock).1
    rw [after_concat]
    by_cases restart : x.v ≤ s0.v ∨ win < x.tMs - s2.tMs
    · -- a new low, or all three samples expired
      have restarted := fold_restart held (x := x) (by rwa [after_windowMs])
      exact ⟨x, x, x, restarted, holding_restart clock⟩
    · obtain ⟨above, fresh⟩ := not_or.mp restart
      have shifted := fold_shift held (not_le.mp above) (by rw [after_windowMs]; exact not_lt.mp fresh)
      rw [after_windowMs] at shifted
      exact ⟨_, _, _, shifted, holding_shift holding clock (not_le.mp above) (not_lt.mp fresh)⟩

theorem holding_of_held {win : Nat} {xs : List (Sample α)} {s0 s1 s2 : Sample α}
    (clock : Chronological xs) (held : (after win xs).s = some (s0, s1, s2)) :
    Holding win xs s0 s1 s2 := by
  rcases List.eq_nil_or_concat xs with rfl | ⟨init, last, rfl⟩
  · exact nomatch held
  · rw [List.concat_eq_append] at clock held ⊢
    obtain ⟨t0, t1, t2, held', holding⟩ := holding_after win init last clock
    obtain ⟨rfl, rfl, rfl⟩ : s0 = t0 ∧ s1 = t1 ∧ s2 = t2 := by simpa using held.symm.trans held'
    exact holding

/-! ### Holding on to the minimum -/

omit [LinearOrder α] in
theorem get_of_held {w : WindowedMin α} {s0 s1 s2 : Sample α} (held : w.s = some (s0, s1, s2)) :
    w.get = some s0.v := by
  simp only [get, held, Option.map_some]

/-- A sample that lowers the minimum restarts the filter. -/
theorem fold_of_lowers {w : WindowedMin α} {x : Sample α} (lowers : Lowers w x) :
    (w.fold x).s = some (x, x, x) := by
  rcases held : w.s with _ | ⟨s0, s1, s2⟩
  · exact fold_of_none held x
  · exact fold_restart held (Or.inl (lowers s0.v (get_of_held held)))

/-- Neither lower nor late: the minimum stays. -/
theorem fold_keeps {w : WindowedMin α} {s0 s1 s2 x : Sample α} (held : w.s = some (s0, s1, s2))
    (ordered : s0.tMs ≤ s2.tMs) (above : s0.v < x.v) (within : x.tMs - s0.tMs ≤ w.windowMs) :
    ∃ r1 r2, (w.fold x).s = some (s0, r1, r2) := by
  have shifted := fold_shift held above (by omega)
  obtain ⟨r1, r2, runners⟩ : ∃ r1 r2, runnersUp s1 s2 x = (r1, r2) := ⟨_, _, rfl⟩
  rcases shift_cases w.windowMs s0 s1 s2 x runners with
    ⟨late, -, -⟩ | ⟨late, -, -⟩ | ⟨-, -, -, eq⟩ | ⟨-, -, -, -, eq⟩ | ⟨-, -, -, eq⟩
  · -- the minimum would have to be late for a promotion
    exact absurd within late.not_ge
  · exact absurd within late.not_ge
  · exact ⟨x, x, shifted.trans (by rw [eq])⟩
  · exact ⟨r1, x, shifted.trans (by rw [eq])⟩
  · exact ⟨r1, r2, shifted.trans (by rw [eq])⟩

/-- A sample that lowered the minimum is reported while only larger ones arrive within
the window. -/
theorem get_after_lowers (win : Nat) (before : List (Sample α)) (s : Sample α)
    (later : List (Sample α)) (clock : Chronological (before ++ s :: later))
    (lowers : Lowers (after win before) s)
    (later_above : ∀ y ∈ later, s.v < y.v ∧ y.tMs - s.tMs ≤ win) :
    ∃ s1 s2, (after win (before ++ s :: later)).s = some (s, s1, s2) := by
  induction later using List.reverseRecOn with
  | nil =>
    rw [after_concat]
    exact ⟨s, s, fold_of_lowers lowers⟩
  | append_singleton later y ih =>
    rw [← List.cons_append, ← List.append_assoc] at clock ⊢
    have clock' := (chronological_concat.mp clock).1
    obtain ⟨s1, s2, held⟩ := ih clock' fun z member => later_above z (by simp [member])
    -- the runners-up of a held minimum are never older than it
    have holding := holding_of_held clock' held
    have ordered : s.tMs ≤ s2.tMs := holding.ordered.trans holding.ordered'
    obtain ⟨above, within⟩ := later_above y (by simp)
    rw [after_concat]
    exact fold_keeps held ordered above (by rwa [after_windowMs])

/-! ### The last quarter of the window -/

/-- The minimum is at most every sample of the last quarter of the window. -/
def CoversQuarter (win : Nat) (xs : List (Sample α)) (now : Nat) (m : α) : Prop :=
  ∀ y ∈ xs, now ≤ y.tMs + win / 4 → m ≤ y.v

/-- Runners-up found in their own sub-windows: the second sample is the least since a
quarter of the window after the first, the third the least since half of it. -/
structure Spread (win : Nat) (xs : List (Sample α)) (s0 s1 s2 : Sample α) : Prop where
  apart : s0.tMs + win / 4 < s1.tMs
  second : ∀ y ∈ xs, s0.tMs + win / 4 < y.tMs → s1.v ≤ y.v
  third : ∀ y ∈ xs, s1.tMs < y.tMs → s0.tMs + win / 2 < y.tMs → s2.v ≤ y.v
  refreshed : s2.tMs = s1.tMs → ∀ y ∈ xs, y.tMs ≤ s0.tMs + win / 2 ∨ y.tMs ≤ s1.tMs

/-- The filter as it is between a new low and the expiry of that low. -/
def Settled (win : Nat) (xs : List (Sample α)) (s0 s1 s2 : Sample α) : Prop :=
  (s1 = s0 ∧ s2 = s0 ∧ ∀ y ∈ xs, y.tMs ≤ s0.tMs + win / 4) ∨ Spread win xs s0 s1 s2

/-- A new low settles the filter. -/
theorem settled_restart {win : Nat} {xs : List (Sample α)} {x : Sample α}
    (clock : Chronological (xs ++ [x])) : Settled win (xs ++ [x]) x x x :=
  Or.inl ⟨rfl, rfl, fun y member =>
    (le_of_chronological clock y member).trans (Nat.le_add_right _ _)⟩

theorem Spread.runnersUp {win : Nat} {xs : List (Sample α)} {s0 s1 s2 x r1 r2 : Sample α}
    (spread : Spread win xs s0 s1 s2) (holding : Holding win xs s0 s1 s2)
    (clock : Chronological (xs ++ [x])) (runners : runnersUp s1 s2 x = (r1, r2)) :
    s0.tMs + win / 4 < r1.tMs ∧
      (∀ y ∈ xs ++ [x], s0.tMs + win / 4 < y.tMs → r1.v ≤ y.v) ∧
      (∀ y ∈ xs ++ [x], r1.tMs < y.tMs → s0.tMs + win / 2 < y.tMs → r2.v ≤ y.v) ∧
      (r2.tMs = r1.tMs → ∀ y ∈ xs, y.tMs ≤ s0.tMs + win / 2 ∨ y.tMs ≤ r1.tMs) := by
  obtain ⟨apart, second, third, refreshed⟩ := spread
  have last := le_of_chronological clock
  have older := (chronological_concat.mp clock).2
  have s1_le : s1.tMs ≤ x.tMs := older s1 holding.second.mem
  simp only [List.forall_mem_append, List.forall_mem_singleton]
  rcases runnersUp_cases s1 s2 x with ⟨le, eq⟩ | ⟨above, le, eq⟩ | ⟨above, above', eq⟩
  · obtain ⟨rfl, rfl⟩ := Prod.mk.inj (eq.symm.trans runners)
    refine ⟨by omega, ⟨fun y member late => le.trans (second y member late), fun _ => le_rfl⟩,
      ⟨fun y member late _ => ?_, fun _ _ => le_rfl⟩, fun _ y member => Or.inr (older y member)⟩
    exact absurd (older y member) late.not_ge
  · obtain ⟨rfl, rfl⟩ := Prod.mk.inj (eq.symm.trans runners)
    refine ⟨apart, ⟨second, fun _ => above.le⟩,
      ⟨fun y member late half => le.trans (third y member late half), fun _ _ => le_rfl⟩,
      fun same y member => Or.inr ?_⟩
    rw [← same]
    exact older y member
  · obtain ⟨rfl, rfl⟩ := Prod.mk.inj (eq.symm.trans runners)
    exact ⟨apart, ⟨second, fun _ => above.le⟩, ⟨third, fun _ _ => above'.le⟩, refreshed⟩

/-- While the low is within the window the filter stays settled. -/
theorem Settled.keep {win : Nat} {xs : List (Sample α)} {s0 s1 s2 x : Sample α}
    (settled : Settled win xs s0 s1 s2) (holding : Holding win xs s0 s1 s2)
    (clock : Chronological (xs ++ [x])) (above : s0.v < x.v) (within : x.tMs - s0.tMs ≤ win) :
    Settled win (xs ++ [x]) (shift win x.tMs s0 s1 s2 x).1 (shift win x.tMs s0 s1 s2 x).2.1
      (shift win x.tMs s0 s1 s2 x).2.2 := by
  have last := le_of_chronological clock
  have older := (chronological_concat.mp clock).2
  rcases settled with ⟨rfl, rfl, early⟩ | spread
  · -- the low stands alone until a quarter of the window has passed
    have runners : WindowedMin.runnersUp s2 s2 x = (s2, s2) := by
      simp only [WindowedMin.runnersUp, if_neg above.not_ge]
    rcases shift_cases win s2 s2 s2 x runners with
      ⟨late, -, -⟩ | ⟨late, -, -⟩ | ⟨-, -, late, eq⟩ | ⟨-, soon, -, late, -⟩ | ⟨-, soon, -, eq⟩
    · exact absurd within late.not_ge
    · exact absurd within late.not_ge
    · rw [eq]
      refine Or.inr ⟨by simp only; omega, ?_, ?_, fun _ y member => Or.inr (last y member)⟩
      · simp only [List.forall_mem_append, List.forall_mem_singleton]
        exact ⟨fun y member late' => absurd (early y member) late'.not_ge, fun _ => le_rfl⟩
      · exact fun y member late' _ => absurd (last y member) late'.not_ge
    · -- half of the window cannot pass before the quarter
      have := soon rfl
      omega
    · -- still inside the quarter
      rw [eq]
      refine Or.inl ⟨rfl, rfl, ?_⟩
      simp only [List.forall_mem_append, List.forall_mem_singleton]
      have := soon rfl
      exact ⟨early, by omega⟩
  · -- the runners-up are spread over their sub-windows
    obtain ⟨r1, r2, runners⟩ : ∃ r1 r2, WindowedMin.runnersUp s1 s2 x = (r1, r2) := ⟨_, _, rfl⟩
    obtain ⟨apart, second, third, refreshed⟩ := spread.runnersUp holding clock runners
    rcases shift_cases win s0 s1 s2 x runners with
      ⟨late, -, -⟩ | ⟨late, -, -⟩ | ⟨-, same, -, -⟩ | ⟨-, -, same, late, eq⟩ | ⟨-, -, soon, eq⟩
    · exact absurd within late.not_ge
    · exact absurd within late.not_ge
    · -- the second sample is a quarter away from the first
      omega
    · -- the half-window refresh: every older sample lies before its sub-window
      rw [eq]
      refine Or.inr ⟨apart, second, ?_, fun _ y member => Or.inr ?_⟩
      · simp only [List.forall_mem_append, List.forall_mem_singleton]
        refine ⟨fun y member late' half => ?_, fun _ _ => le_rfl⟩
        rcases refreshed same y member with early | early <;> omega
      · have := last y member
        simp only at *
        omega
    · rw [eq]
      refine Or.inr ⟨apart, second, third, fun same => ?_⟩
      simp only [List.forall_mem_append, List.forall_mem_singleton]
      have := soon same
      exact ⟨refreshed same, Or.inl (by omega)⟩

/-- The first expiry of a low hands over to a sample that covers the quarter too. -/
theorem Settled.expire {win : Nat} {xs : List (Sample α)} {s0 s1 s2 x : Sample α}
    (settled : Settled win xs s0 s1 s2) (holding : Holding win xs s0 s1 s2)
    (clock : Chronological (xs ++ [x])) (fresh : x.tMs - s2.tMs ≤ win)
    (late : win < x.tMs - s0.tMs) :
    CoversQuarter win (xs ++ [x]) x.tMs (shift win x.tMs s0 s1 s2 x).1.v := by
  rcases settled with ⟨-, rfl, -⟩ | spread
  · exact absurd fresh late.not_ge
  · obtain ⟨r1, r2, runners⟩ : ∃ r1 r2, WindowedMin.runnersUp s1 s2 x = (r1, r2) := ⟨_, _, rfl⟩
    obtain ⟨apart, second, third, -⟩ := spread.runnersUp holding clock runners
    rcases shift_cases win s0 s1 s2 x runners with
      ⟨-, -, eq⟩ | ⟨-, gone, eq⟩ | ⟨within, -⟩ | ⟨within, -⟩ | ⟨within, -⟩
    · -- the second sample is the least since the quarter
      rw [eq]
      exact fun y member recent => second y member (by omega)
    · -- the third is the least since the half, and the second lies before it
      rw [eq]
      exact fun y member recent => third y member (by omega) (by omega)
    · exact absurd within late.not_ge
    · exact absurd within late.not_ge
    · exact absurd within late.not_ge

/-- When all three samples expire at once, nothing else lies in the last quarter. -/
theorem Settled.restart {win : Nat} {xs : List (Sample α)} {s0 s1 s2 x : Sample α}
    (settled : Settled win xs s0 s1 s2) (holding : Holding win xs s0 s1 s2)
    (stale : win < x.tMs - s2.tMs) : CoversQuarter win (xs ++ [x]) x.tMs x.v := by
  simp only [CoversQuarter, List.forall_mem_append, List.forall_mem_singleton]
  refine ⟨fun y member recent => ?_, fun _ => le_rfl⟩
  have := holding.recent y member
  have := holding.ordered'
  rcases settled with ⟨-, rfl, early⟩ | spread
  · -- nothing was folded in after the quarter
    have := early y member
    omega
  · have := spread.apart
    omega

/-! ### Runs -/

/-- The minimum is at most every sample of the last quarter of the window after which it has
not risen again. -/
def Covers (win : Nat) (xs : List (Sample α)) (now : Nat) (m : α) : Prop :=
  ∀ before y later, xs = before ++ y :: later → now ≤ y.tMs + win / 4 →
    SteadyAfter win (before ++ [y]) later → m ≤ y.v

/-- One more sample: the new minimum is no higher than before, or covers the whole quarter,
or it rises again. -/
theorem Covers.concat {win : Nat} {xs : List (Sample α)} {now : Nat} {m m' : α} {x : Sample α}
    (covers : Covers win xs now m) (now_le : now ≤ x.tMs) (le : m' ≤ x.v)
    (old : ¬ RisesAgain win xs x → m' ≤ m ∨ CoversQuarter win (xs ++ [x]) x.tMs m') :
    Covers win (xs ++ [x]) x.tMs m' := by
  intro before y later cut recent steady
  rcases List.eq_nil_or_concat later with rfl | ⟨later, z, rfl⟩
  · obtain ⟨-, last⟩ := List.append_inj' cut rfl
    obtain ⟨rfl, -⟩ := List.cons.inj last
    exact le
  · rw [List.concat_eq_append, ← List.cons_append, ← List.append_assoc] at cut
    obtain ⟨rest, last⟩ := List.append_inj' cut rfl
    obtain ⟨rfl, -⟩ := List.cons.inj last
    rw [List.concat_eq_append] at steady
    obtain ⟨steady', level⟩ := steady.of_concat
    rw [List.append_assoc, List.singleton_append, ← rest] at level
    rcases old level with lower | all
    · exact lower.trans (covers before y later rest (now_le.trans recent) steady')
    · exact all y (by simp [rest]) recent

/-- The reported minimum covers what it has not risen past again, and the filter is settled
unless the minimum has risen since the last low. -/
def Phase (win : Nat) (xs : List (Sample α)) (now : Nat) (s0 s1 s2 : Sample α) : Prop :=
  Covers win xs now s0.v ∧ (Settled win xs s0 s1 s2 ∨ Risen win xs)

/-- An expiry raises the reported minimum. -/
theorem raises_of_late {win : Nat} {xs : List (Sample α)} {s0 s1 s2 x : Sample α}
    (clock : Chronological (xs ++ [x])) (held : (after win xs).s = some (s0, s1, s2))
    (above : s0.v < x.v) (late : win < x.tMs - s0.tMs) : Raises (after win xs) x := by
  have holding := holding_of_held (chronological_concat.mp clock).1 held
  obtain ⟨t0, t1, t2, held', holding'⟩ := holding_after win xs x clock
  rw [after_concat] at held'
  -- the new minimum is later than the expired one, which still stands
  refine ⟨s0.v, get_of_held held, t0.v, get_of_held held', ?_⟩
  have recent := holding'.recent x (by simp)
  exact (holding.first.concat above).lt_of_later clock holding'.first.mem (by omega)

/-- A sample that is neither low nor late leaves the phase as it is. -/
theorem phase_keep {win : Nat} {xs : List (Sample α)} {s0 s1 s2 x : Sample α} {now : Nat}
    (clock : Chronological (xs ++ [x])) (held : (after win xs).s = some (s0, s1, s2))
    (now_le : now ≤ x.tMs) (phase : Phase win xs now s0 s1 s2) (above : s0.v < x.v)
    (within : x.tMs - s0.tMs ≤ win) :
    ∃ t0 t1 t2, (after win (xs ++ [x])).s = some (t0, t1, t2) ∧
      Phase win (xs ++ [x]) x.tMs t0 t1 t2 := by
  have holding := holding_of_held (chronological_concat.mp clock).1 held
  have ordered := holding.ordered.trans holding.ordered'
  obtain ⟨r1, r2, kept⟩ := fold_keeps held ordered above (by rwa [after_windowMs])
  have shifted := fold_shift held above (by rw [after_windowMs]; omega)
  rw [after_windowMs] at shifted
  have eq : shift win x.tMs s0 s1 s2 x = (s0, r1, r2) :=
    Option.some.inj (shifted.symm.trans kept)
  refine ⟨s0, r1, r2, by rw [after_concat]; exact kept,
    phase.1.concat now_le above.le fun _ => Or.inl le_rfl, ?_⟩
  -- what the filter was, it stays: settled, or risen since the last low
  rcases phase.2 with settled | risen
  · left
    have settled' := settled.keep holding clock above within
    rwa [eq] at settled'
  · right
    rw [Risen, history_concat, since_concat]
    exact Or.inr ⟨risen, fun lowers => above.not_ge (lowers s0.v (get_of_held held))⟩

/-- The minimum expires. If it had not risen before, the next one covers the quarter. -/
theorem phase_expire {win : Nat} {xs : List (Sample α)} {s0 s1 s2 x : Sample α} {now : Nat}
    (clock : Chronological (xs ++ [x])) (held : (after win xs).s = some (s0, s1, s2))
    (now_le : now ≤ x.tMs) (phase : Phase win xs now s0 s1 s2) (above : s0.v < x.v)
    (late : win < x.tMs - s0.tMs) :
    ∃ t0 t1 t2, (after win (xs ++ [x])).s = some (t0, t1, t2) ∧
      Phase win (xs ++ [x]) x.tMs t0 t1 t2 := by
  have holding := holding_of_held (chronological_concat.mp clock).1 held
  have raises := raises_of_late clock held above late
  have risen : Risen win (xs ++ [x]) := by
    rw [Risen, history_concat, since_concat]
    exact Or.inl raises
  have settled (level : ¬ RisesAgain win xs x) : Settled win xs s0 s1 s2 :=
    phase.2.resolve_right fun risen => level ⟨raises, risen⟩
  rw [after_concat]
  by_cases stale : win < x.tMs - s2.tMs
  · -- all three are gone at once
    have restarted := fold_restart held (x := x) (Or.inr (by rwa [after_windowMs]))
    refine ⟨x, x, x, restarted, phase.1.concat now_le le_rfl fun level => Or.inr ?_, Or.inr risen⟩
    exact (settled level).restart holding stale
  · have fresh := not_lt.mp stale
    have shifted := fold_shift held above (by rwa [after_windowMs])
    rw [after_windowMs] at shifted
    have first := (holding_shift holding clock above fresh).first
    refine ⟨_, _, _, shifted, phase.1.concat now_le ?_ fun level => Or.inr ?_, Or.inr risen⟩
    · exact first.le_last
    · exact (settled level).expire holding clock fresh late

theorem phase_after (win : Nat) {xs : List (Sample α)} {x : Sample α}
    (clock : Chronological (xs ++ [x])) :
    ∃ s0 s1 s2, (after win (xs ++ [x])).s = some (s0, s1, s2) ∧
      Phase win (xs ++ [x]) x.tMs s0 s1 s2 := by
  -- on the samples from the end: the phase of the run before decides
  induction xs using List.reverseRecOn generalizing x with
  | nil =>
    refine ⟨x, x, x, fold_of_none rfl x, ?_, Or.inl (settled_restart clock)⟩
    intro before y later cut recent steady
    obtain ⟨-, same⟩ | ⟨-, none⟩ := List.append_eq_singleton_iff.mp cut.symm
    · obtain ⟨rfl, -⟩ := List.cons.inj same
      exact le_rfl
    · cases none
  | append_singleton xs y ih =>
    obtain ⟨clock', older⟩ := chronological_concat.mp clock
    obtain ⟨s0, s1, s2, held, phase⟩ := ih clock'
    have now_le : y.tMs ≤ x.tMs := older y (by simp)
    rcases le_or_gt x.v s0.v with low | above
    · -- a new low covers what the minimum before it covered
      refine ⟨x, x, x, ?_, ?_, Or.inl (settled_restart clock)⟩
      · rw [after_concat]
        exact fold_restart held (Or.inl low)
      · exact phase.1.concat now_le le_rfl fun _ => Or.inl low
    · by_cases within : x.tMs - s0.tMs ≤ win
      · exact phase_keep clock held now_le phase above within
      · exact phase_expire clock held now_le phase above (not_le.mp within)

instance (xs : List (Sample α)) : Decidable (Chronological xs) :=
  inferInstanceAs (Decidable (xs.Pairwise fun x y => x.tMs ≤ y.tMs))

instance (w : WindowedMin α) (x : Sample α) : Decidable (Lowers w x) :=
  inferInstanceAs (Decidable (∀ m ∈ w.get, x.v ≤ m))

instance (w : WindowedMin α) (x : Sample α) : Decidable (Raises w x) :=
  inferInstanceAs (Decidable (∃ m ∈ w.get, ∃ m' ∈ (w.fold x).get, m < m'))

instance (win : Nat) (xs : List (Sample α)) : Decidable (Risen win xs) :=
  inferInstanceAs (Decidable (Since _ _ _))

instance (win : Nat) (before : List (Sample α)) (x : Sample α) : Decidable (RisesAgain win before x) :=
  inferInstanceAs (Decidable (_ ∧ _))

omit [LinearOrder α] in
/-- Cuts of a list at one of its entries are positions in it. -/
theorem forall_cut_iff {xs : List (Sample α)} {P : List (Sample α) → Sample α → Prop} :
    (∀ before x later, xs = before ++ x :: later → P before x) ↔
      ∀ i : Fin xs.length, P (xs.take i) (xs.get i) := by
  constructor
  · intro all i
    refine all (xs.take i) (xs.get i) (xs.drop (i + 1)) ?_
    rw [List.get_eq_getElem, List.getElem_cons_drop, List.take_append_drop]
  · rintro each before x later rfl
    simpa using each ⟨before.length, by simp⟩

instance (win : Nat) (before later : List (Sample α)) : Decidable (SteadyAfter win before later) :=
  decidable_of_iff _ forall_cut_iff.symm

/-! ### The two windows of a tracker -/

end WindowedMin

/-- What is fed to one tracker. -/
inductive TrackerEvent where
  | roundTrip (rttMs nowMs : Nat)
  | reset

namespace TrackerEvent

/-- The round trips since the last reset, one event further. -/
def note (xs : List (Sample ℚ)) : TrackerEvent → List (Sample ℚ)
  | roundTrip rttMs nowMs => xs ++ [⟨nowMs, rttMs⟩]
  | reset => []

/-- The round trips since the last reset. -/
def sinceReset (es : List TrackerEvent) : List (Sample ℚ) := run note [] es

end TrackerEvent

namespace RttTracker

open WindowedMin TrackerEvent

def feed (t : RttTracker) : TrackerEvent → RttTracker
  | .roundTrip rttMs nowMs => t.updateEstimate rttMs nowMs
  | .reset => t.reset

/-- The tracker's windows hold the round trips `xs`, and its minima are what they report. -/
structure Tracks (t : RttTracker) (xs : List (Sample ℚ)) : Prop where
  fastWindow : t.rttMinFastWindow = after fastWindowMs xs
  slowWindow : t.rttMinSlowWindow = after slowWindowMs xs
  started : t.kalmanRtt.initialized = true ↔ xs ≠ []
  fast : t.rttMinFastMs = (after fastWindowMs xs).get.getD 200
  slow : t.rttMinSlowMs = (after slowWindowMs xs).get.getD 200
  least : t.rttMinMs = min t.rttMinFastMs t.rttMinSlowMs

theorem tracks_default : Tracks default [] where
  fastWindow := rfl
  slowWindow := rfl
  started := by simp [default, KalmanFilter.new]
  fast := rfl
  slow := rfl
  least := (min_self _).symm

theorem Tracks.reset {t : RttTracker} {xs : List (Sample ℚ)} (tracks : Tracks t xs) :
    Tracks t.reset [] where
  fastWindow := by
    simp only [RttTracker.reset, tracks.fastWindow, WindowedMin.reset, after_windowMs]
    rfl
  slowWindow := by
    simp only [RttTracker.reset, tracks.slowWindow, WindowedMin.reset, after_windowMs]
    rfl
  started := by simp [RttTracker.reset, KalmanFilter.reset]
  fast := rfl
  slow := rfl
  least := (min_self _).symm

theorem initialized_update (f : KalmanFilter) (measurement : ℚ) :
    (f.update measurement).initialized = true := by
  simp only [KalmanFilter.update]
  split_ifs with fresh small
  · rfl
  · simpa using fresh
  · simpa using fresh

theorem Tracks.updateEstimate {t : RttTracker} {xs : List (Sample ℚ)} (tracks : Tracks t xs)
    (rttMs nowMs : Nat) :
    Tracks (t.updateEstimate rttMs nowMs) (xs ++ [⟨nowMs, rttMs⟩]) := by
  have fastWindow : (t.rttMinFastWindow.update nowMs rttMs).1 =
      after fastWindowMs (xs ++ [⟨nowMs, rttMs⟩]) := by
    rw [after_concat, tracks.fastWindow]
    rfl
  have slowWindow : (t.rttMinSlowWindow.update nowMs rttMs).1 =
      after slowWindowMs (xs ++ [⟨nowMs, rttMs⟩]) := by
    rw [after_concat, tracks.slowWindow]
    rfl
  have fast : (after fastWindowMs (xs ++ [⟨nowMs, rttMs⟩])).get =
      some (t.rttMinFastWindow.update nowMs rttMs).2 := by
    rw [after_concat, get_fold, tracks.fastWindow]
  have slow : (after slowWindowMs (xs ++ [⟨nowMs, rttMs⟩])).get =
      some (t.rttMinSlowWindow.update nowMs rttMs).2 := by
    rw [after_concat, get_fold, tracks.slowWindow]
  simp only [RttTracker.updateEstimate]
  by_cases fresh : (!t.kalmanRtt.initialized) = true
  · -- the first measurement goes into two empty windows
    have none : xs = [] := by
      by_contra some
      simp [tracks.started.mpr some] at fresh
    subst none
    rw [if_pos fresh]
    refine ⟨fastWindow, slowWindow, by simp [initialized_update], ?_, ?_, (min_self _).symm⟩
    · rw [fast, tracks.fastWindow]
      rfl
    · rw [slow, tracks.slowWindow]
      rfl
  · -- any later measurement goes into both windows
    rw [if_neg fresh]
    refine ⟨fastWindow, slowWindow, by simp [initialized_update], ?_, ?_, rfl⟩
    · rw [fast]
      rfl
    · rw [slow]
      rfl

/-- The windows of a tracker hold what was fed to it since the last reset. -/
theorem tracks_run (es : List TrackerEvent) : Tracks (run feed default es) (sinceReset es) := by
  induction es using List.reverseRecOn with
  | nil => exact tracks_default
  | append_singleton es e ih =>
    simp only [sinceReset, run_append, run_cons, run_nil]
    cases e with
    | roundTrip rttMs nowMs => exact ih.updateEstimate rttMs nowMs
    | reset => exact ih.reset

/-- The slow minimum has not risen again within the last fast window. -/
def SlowSteady (xs : List (Sample ℚ)) : Prop :=
  ∀ before x later, xs = before ++ x :: later → RisesAgain slowWindowMs before x →
    ∀ last ∈ xs.getLast?, x.tMs + fastWindowMs < last.tMs

instance (xs : List (Sample ℚ)) : Decidable (SlowSteady xs) :=
  decidable_of_iff _ (forall_cut_iff (P := fun before x => RisesAgain slowWindowMs before x →
    ∀ last ∈ xs.getLast?, x.tMs + fastWindowMs < last.tMs)).symm

/-- A slow minimum that has not risen again lately is not above the fast one. -/
theorem Tracks.slow_le_fast {t : RttTracker} {xs : List (Sample ℚ)} (tracks : Tracks t xs)
    (clock : Chronological xs) (steady : SlowSteady xs) : t.rttMinSlowMs ≤ t.rttMinFastMs := by
  rw [tracks.fast, tracks.slow]
  rcases List.eq_nil_or_concat xs with rfl | ⟨init, last, rfl⟩
  · rfl
  · rw [List.concat_eq_append] at clock steady ⊢
    obtain ⟨f0, f1, f2, fastHeld, holding⟩ := holding_after fastWindowMs init last clock
    obtain ⟨s0, s1, s2, slowHeld, phase⟩ := phase_after slowWindowMs clock
    rw [get_of_held fastHeld, get_of_held slowHeld]
    have recent : last.tMs ≤ f0.tMs + fastWindowMs := holding.recent last (by simp)
    obtain ⟨before, later, cut, -⟩ := holding.first
    refine phase.1 before f0 later cut ?_ fun mid x tail split again => ?_
    · -- the fast sample is at most three seconds old, well within the slow quarter
      simp only [slowWindowMs, fastWindowMs] at recent ⊢
      omega
    · -- and what came after it is younger still
      subst split
      have whole : init ++ [last] = (before ++ [f0] ++ mid) ++ x :: tail := by
        rw [cut]
        simp
      have early := steady _ x tail whole again last (by simp)
      have ordered : f0.tMs ≤ x.tMs := by
        rw [cut] at clock
        exact List.rel_of_pairwise_cons (List.pairwise_append.mp clock).2.1 (by simp)
      omega

end RttTracker

open WindowedMin TrackerEvent

/-- The constant-space windowed minimum. What it reports was folded in within the window
and is exceeded by everything folded in since; it is at most every sample of the last
quarter of the window after which it has not risen again; and a new low is reported until
a lower sample arrives or its window has passed. The slow minimum of a tracker is at most
its fast one unless it has risen again in the last three seconds. -/
theorem windowed_min_sound :
    (∀ (α : Type) [LinearOrder α] (win : Nat) (xs : List (Sample α)) (x : Sample α),
      Chronological (xs ++ [x]) →
      ∃ m, ((after win xs).update x.tMs x.v).2 = m ∧ (after win (xs ++ [x])).get = some m ∧
        (∃ (before : List (Sample α)) (s : Sample α) (later : List (Sample α)),
          xs ++ [x] = before ++ s :: later ∧ s.v = m ∧ x.tMs - win ≤ s.tMs ∧
            ∀ y ∈ later, m ≤ y.v) ∧
        (∀ (before : List (Sample α)) (y : Sample α) (later : List (Sample α)),
          xs ++ [x] = before ++ y :: later → x.tMs - win / 4 ≤ y.tMs →
            SteadyAfter win (before ++ [y]) later → m ≤ y.v) ∧
        (∀ before s later, xs ++ [x] = before ++ s :: later → Lowers (after win before) s →
          (∀ y ∈ later, s.v < y.v ∧ y.tMs - s.tMs ≤ win) → m = s.v)) ∧
    (∀ es : List TrackerEvent, Chronological (sinceReset es) →
      (run RttTracker.feed RttTracker.default es).rttMinMs =
          min (run RttTracker.feed RttTracker.default es).rttMinFastMs
            (run RttTracker.feed RttTracker.default es).rttMinSlowMs ∧
        (RttTracker.SlowSteady (sinceReset es) →
          (run RttTracker.feed RttTracker.default es).rttMinSlowMs ≤
              (run RttTracker.feed RttTracker.default es).rttMinFastMs ∧
            (run RttTracker.feed RttTracker.default es).rttMinMs =
              (run RttTracker.feed RttTracker.default es).rttMinSlowMs)) := by
  refine ⟨fun α _ win xs x clock => ?_, fun es clock => ?_⟩
  · obtain ⟨s0, s1, s2, held, holding⟩ := holding_after win xs x clock
    have report := get_of_held held
    -- the report, its age, the covered quarter, and the new low it holds on to
    refine ⟨s0.v, ?_, report, ?_, fun before y later cut recent steady => ?_, ?_⟩
    · rw [after_concat, get_fold] at report
      exact Option.some.inj report
    · obtain ⟨before, later, cut, least⟩ := holding.first
      have recent := holding.recent x (by simp)
      exact ⟨before, s0, later, cut, rfl, by omega, fun y member => (least y member).le⟩
    · obtain ⟨t0, t1, t2, held', phase⟩ := phase_after win clock
      have same : s0 = t0 := congrArg Prod.fst (Option.some.inj (held.symm.trans held'))
      rw [same]
      exact phase.1 before y later cut (by omega) steady
    · intro before s later cut lowers above
      rw [cut] at clock held
      obtain ⟨t1, t2, held'⟩ := get_after_lowers win before s later clock lowers above
      have same : s0 = s := congrArg Prod.fst (Option.some.inj (held.symm.trans held'))
      rw [same]
  · have tracks := RttTracker.tracks_run es
    refine ⟨tracks.least, fun steady => ?_⟩
    have le := tracks.slow_le_fast clock steady
    exact ⟨le, tracks.least.trans (min_eq_right le)⟩

/-- A low of 10 gives way to 40 and that to 70, a second rise without a new low; what came in
with it and after it is covered. A tracker whose slow minimum rose again 3.5 seconds ago. -/
theorem windowed_min_sound_runner_up :
    (∃ m, (after 1000 [⟨0, 10⟩, ⟨300, 40⟩, ⟨600, 70⟩, ⟨1100, 90⟩, ⟨1400, 95⟩, ⟨1500, 80⟩,
        (⟨1600, 99⟩ : Sample Nat)]).get = some m ∧ m ≤ 95 ∧ m ≤ 80) ∧
      RisesAgain 1000 [⟨0, 10⟩, ⟨300, 40⟩, ⟨600, 70⟩, ⟨1100, 90⟩] (⟨1400, 95⟩ : Sample Nat) ∧
      (run RttTracker.feed RttTracker.default [.roundTrip 10 1000, .roundTrip 30 11000,
          .roundTrip 40 20000, .roundTrip 90 31500, .roundTrip 95 41500,
          .roundTrip 99 45000]).rttMinSlowMs ≤
        (run RttTracker.feed RttTracker.default [.roundTrip 10 1000, .roundTrip 30 11000,
          .roundTrip 40 20000, .roundTrip 90 31500, .roundTrip 95 41500,
          .roundTrip 99 45000]).rttMinFastMs := by
  refine ⟨?_, by decide, ?_⟩
  · obtain ⟨m, -, report, -, covers, -⟩ := windowed_min_sound.1 Nat 1000
      [⟨0, 10⟩, ⟨300, 40⟩, ⟨600, 70⟩, ⟨1100, 90⟩, ⟨1400, 95⟩, ⟨1500, 80⟩] ⟨1600, 99⟩ (by decide)
    refine ⟨m, report, ?_, ?_⟩
    · exact covers [⟨0, 10⟩, ⟨300, 40⟩, ⟨600, 70⟩, ⟨1100, 90⟩] ⟨1400, 95⟩ _ rfl (by decide)
        (by decide)
    · exact covers [⟨0, 10⟩, ⟨300, 40⟩, ⟨600, 70⟩, ⟨1100, 90⟩, ⟨1400, 95⟩] ⟨1500, 80⟩ _ rfl
        (by decide) (by decide)
  · exact ((windowed_min_sound.2 [.roundTrip 10 1000, .roundTrip 30 11000, .roundTrip 40 20000,
      .roundTrip 90 31500, .roundTrip 95 41500, .roundTrip 99 45000] (by decide)).2
        (by decide +kernel)).1

/-- A sample of one second ago that the quarter-window refresh dropped: the slow minimum of
a tracker, after its second rise in a row, is above the fast one. -/
theorem windowed_min_loses_recent_sample :
    (¬ ∀ (xs : List (Sample Nat)) (x : Sample Nat), Chronological (xs ++ [x]) →
      ∀ y ∈ xs ++ [x], x.tMs - 30000 / 4 ≤ y.tMs →
        ((after 30000 xs).update x.tMs x.v).2 ≤ y.v) ∧
    ¬ ∀ es : List TrackerEvent, Chronological (sinceReset es) →
      (run RttTracker.feed RttTracker.default es).rttMinSlowMs ≤
        (run RttTracker.feed RttTracker.default es).rttMinFastMs := by
  constructor
  · intro covers
    exact absurd (covers [⟨1000, 10⟩, ⟨11000, 30⟩, ⟨40000, 40⟩, ⟨40001, 60⟩] ⟨41001, 80⟩
      (by decide) ⟨40000, 40⟩ (by simp) (by decide)) (by decide)
  · intro slow
    exact absurd (slow [.roundTrip 10 1000, .roundTrip 30 11000, .roundTrip 40 40000,
      .roundTrip 60 40001, .roundTrip 80 41001] (by decide)) (by decide +kernel)

end SrtlaSend
