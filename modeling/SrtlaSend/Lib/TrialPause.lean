import Mathlib.Data.List.Basic
import Mathlib.Data.List.Count
import Mathlib.Tactic.Common

/-!
# Trials with a pause

A remedy that is tried a few times in a row and then given a rest, when it has not helped.
A gate decides at each step whether it may be applied at all. A trial that the gate
interrupts starts again from nothing; one that runs to its end is followed by the pause,
so that in any stretch as long as a trial and a pause together the remedy is applied no
more often than in one trial.
-/

namespace TrialPause

/-- Nothing going on, a trial with some applications done, or some steps of the pause. -/
inductive Phase where
  | free
  | trying (done : Nat)
  | paused (steps : Nat)
deriving DecidableEq, Repr

variable (tries pause : Nat)

/-- One step: the next phase, and whether the remedy was applied. -/
def next : Phase → Bool → Phase × Bool
  | .free, gate => if gate then (.trying 1, true) else (.free, false)
  | .trying done, gate =>
    if done < tries then
      if gate then (.trying (done + 1), true) else (.free, false)
    else (.paused 1, false)
  | .paused steps, gate =>
    if steps < pause then (.paused (steps + 1), false)
    else if gate then (.trying 1, true) else (.free, false)

/-- The phase after a sequence of gates. -/
def phaseAfter (p : Phase) (gates : List Bool) : Phase :=
  gates.foldl (fun p gate => (next tries pause p gate).1) p

/-- Where the remedy was applied, step by step. -/
def applied : Phase → List Bool → List Bool
  | _, [] => []
  | p, gate :: gates => (next tries pause p gate).2 :: applied (next tries pause p gate).1 gates

/-- A trial has at least one and at most `tries` applications, a pause at most its length. -/
def Valid : Phase → Prop
  | .free => True
  | .trying done => 1 ≤ done ∧ done ≤ tries
  | .paused steps => 1 ≤ steps ∧ steps ≤ pause

/-- The gate is open at every step that follows an application. -/
def Unbroken : Phase → List Bool → Prop
  | _, [] => True
  | p, gate :: gates =>
    ((∃ done, p = .trying done) → gate = true) ∧ Unbroken (next tries pause p gate).1 gates

variable {tries pause}

theorem applied_append (p : Phase) (first second : List Bool) :
    applied tries pause p (first ++ second) =
      applied tries pause p first ++
        applied tries pause (phaseAfter tries pause p first) second := by
  induction first generalizing p with
  | nil => rfl
  | cons gate first ih =>
    rw [List.cons_append, applied, applied, ih, List.cons_append]
    rfl

/-- A trial is under way after an application alone. -/
theorem applied_of_trying {p : Phase} {gate : Bool} {done : Nat}
    (trying : (next tries pause p gate).1 = .trying done) : (next tries pause p gate).2 = true := by
  cases p with
  | free =>
    cases gate
    · cases trying
    · rfl
  | trying done' =>
    simp only [next] at trying ⊢
    split_ifs at trying ⊢
    rfl
  | paused steps =>
    simp only [next] at trying ⊢
    split_ifs at trying ⊢
    rfl

/-- Where the gate is open after each application, it breaks no trial from the second step on. -/
theorem unbroken_tail {p : Phase} {gate : Bool} {gates : List Bool}
    (open_ : ((applied tries pause p (gate :: gates)).zip (gate :: gates)).IsChain
      fun x y => x.1 = true → y.2 = true) :
    Unbroken tries pause (next tries pause p gate).1 gates := by
  induction gates generalizing p gate with
  | nil => trivial
  | cons gate' gates ih =>
    simp only [applied, List.zip_cons_cons, List.isChain_cons_cons] at open_
    refine ⟨fun trying => ?_, ih (by simpa only [applied, List.zip_cons_cons] using open_.2)⟩
    obtain ⟨done, trying⟩ := trying
    exact open_.1 (applied_of_trying trying)

theorem length_applied (p : Phase) (gates : List Bool) :
    (applied tries pause p gates).length = gates.length := by
  induction gates generalizing p with
  | nil => rfl
  | cons gate gates ih => rw [applied, List.length_cons, ih, List.length_cons]

theorem valid_next {p : Phase} (some_tries : 1 ≤ tries) (some_pause : 1 ≤ pause)
    (valid : Valid tries pause p) (gate : Bool) :
    Valid tries pause (next tries pause p gate).1 := by
  cases p with
  | free => cases gate <;> simp [next, Valid, some_tries]
  | trying done =>
    simp only [Valid] at valid
    by_cases more : done < tries
    · -- the trial goes on, or the gate ends it
      cases gate <;> simp [next, Valid, more, Nat.succ_le_of_lt more]
    · -- a full trial is followed by the pause
      simp [next, Valid, more, some_pause]
  | paused steps =>
    simp only [Valid] at valid
    by_cases more : steps < pause
    · simp [next, Valid, more, Nat.succ_le_of_lt more]
    · cases gate <;> simp [next, Valid, more, some_tries]

theorem valid_phaseAfter {p : Phase} (some_tries : 1 ≤ tries) (some_pause : 1 ≤ pause)
    (valid : Valid tries pause p) (gates : List Bool) :
    Valid tries pause (phaseAfter tries pause p gates) := by
  induction gates generalizing p with
  | nil => exact valid
  | cons gate gates ih => exact ih (valid_next some_tries some_pause valid gate)

/-! ### How often -/

/-- The most applications in the next `n` steps, for `n` up to a trial and a pause. -/
def most (tries pause n : Nat) : Phase → Nat
  | .free => min n tries
  | .trying done => min n (tries - done) + (n - (tries - done + pause))
  | .paused steps => min (n - (pause - steps)) tries

/-- A step that applies the remedy, or does not, keeps the account. -/
theorem most_next {p : Phase} {gate : Bool} {n : Nat} (some_tries : 1 ≤ tries)
    (some_pause : 1 ≤ pause) (valid : Valid tries pause p)
    (unbroken : (∃ done, p = .trying done) → gate = true) (short : n + 1 ≤ tries + pause) :
    most tries pause n (next tries pause p gate).1 +
        (if (next tries pause p gate).2 = true then 1 else 0) ≤
      most tries pause (n + 1) p := by
  cases p with
  -- one case per phase: what a step applies is taken from the most of one step less
  | free =>
    cases gate
    · simp only [next, Bool.false_eq_true, if_false, most]
      omega
    · simp only [next, if_true, most]
      omega
  | trying done =>
    simp only [Valid] at valid
    by_cases more : done < tries
    · -- an unbroken trial finds its gate open
      obtain rfl := unbroken ⟨done, rfl⟩
      simp only [next, more, if_true, most]
      omega
    · simp only [next, more, if_false, Bool.false_eq_true, most]
      omega
  | paused steps =>
    simp only [Valid] at valid
    by_cases more : steps < pause
    · simp only [next, more, if_true, Bool.false_eq_true, if_false, most]
      omega
    · cases gate
      · simp only [next, more, Bool.false_eq_true, if_false, most]
        omega
      · simp only [next, more, if_true, if_false, most]
        omega

theorem count_applied_le {p : Phase} {gates : List Bool} (some_tries : 1 ≤ tries)
    (some_pause : 1 ≤ pause) (valid : Valid tries pause p)
    (unbroken : Unbroken tries pause p gates) (short : gates.length ≤ tries + pause) :
    (applied tries pause p gates).count true ≤ most tries pause gates.length p := by
  induction gates generalizing p with
  | nil => exact Nat.zero_le _
  | cons gate gates ih =>
    rw [List.length_cons] at short ⊢
    have rest := ih (valid_next some_tries some_pause valid gate) unbroken.2 (by omega)
    have step := most_next some_tries some_pause valid unbroken.1 short
    rw [applied, List.count_cons]
    simp only [beq_iff_eq]
    omega

/-- As many steps as a trial and a pause together hold no more applications than a trial, if
the gate breaks no trial but at the first of them. -/
theorem count_window_le {p : Phase} {before : List Bool} {gate : Bool} {gates : List Bool}
    (some_tries : 1 ≤ tries) (some_pause : 1 ≤ pause) (valid : Valid tries pause p)
    (unbroken : Unbroken tries pause
      (next tries pause (phaseAfter tries pause p before) gate).1 gates)
    (size : (gate :: gates).length = tries + pause) :
    (applied tries pause (phaseAfter tries pause p before) (gate :: gates)).count true ≤ tries := by
  have valid' := valid_phaseAfter some_tries some_pause valid before
  by_cases broken : ∃ done, phaseAfter tries pause p before = .trying done ∧ gate = false
  · -- what is left of the broken trial comes to nothing
    obtain ⟨done, trying, rfl⟩ := broken
    rw [trying] at unbroken valid'
    have le := count_applied_le some_tries some_pause
      (valid_next some_tries some_pause valid' false) unbroken (by rw [← size]; simp)
    rw [trying, applied, List.count_cons]
    by_cases more : done < tries
    · simp only [next, more, if_true, Bool.false_eq_true, if_false] at le ⊢
      exact Nat.le_trans le (Nat.min_le_right _ _)
    · simp only [next, more, if_false, Bool.false_eq_true] at le ⊢
      exact Nat.le_trans le (Nat.min_le_right _ _)
  · have whole : Unbroken tries pause (phaseAfter tries pause p before) (gate :: gates) := by
      refine ⟨fun trying => ?_, unbroken⟩
      obtain ⟨done, trying⟩ := trying
      by_contra closed
      exact broken ⟨done, trying, by simpa using closed⟩
    have le := count_applied_le some_tries some_pause valid' whole (Nat.le_of_eq size)
    refine Nat.le_trans le ?_
    rw [size]
    cases phase : phaseAfter tries pause p before with
    | free => exact Nat.min_le_right _ _
    -- a window as long as both: the rest of the trial and what follows the pause
    | trying done =>
      rw [phase] at valid'
      simp only [Valid] at valid'
      simp only [most]
      omega
    | paused steps => exact Nat.min_le_right _ _

/-! ### The pause -/

/-- What is left of a pause passes without an application. -/
theorem applied_paused (steps : Nat) (gates : List Bool) :
    ∀ o ∈ (applied tries pause (.paused steps) gates).take (pause - steps), o = false := by
  induction gates generalizing steps with
  | nil => simp [applied]
  | cons gate gates ih =>
    by_cases more : steps < pause
    · obtain ⟨left, eq⟩ : ∃ left, pause - steps = left + 1 := ⟨pause - steps - 1, by omega⟩
      have less : pause - (steps + 1) = left := by omega
      have rest := ih (steps + 1)
      rw [less] at rest
      rw [eq, applied, List.take_succ_cons]
      simp only [next, more, if_true, List.forall_mem_cons, true_and]
      exact rest
    · -- nothing is left of the pause
      have none : pause - steps = 0 := by omega
      simp [none]

/-- A completed trial is followed by a whole pause. -/
theorem applied_completed (gates : List Bool) :
    ∀ o ∈ (applied tries pause (.trying tries) gates).take pause, o = false := by
  cases gates with
  | nil => simp [applied]
  | cons gate gates =>
    rcases pause with _ | left
    · simp
    · have rest : ∀ o ∈ (applied tries (left + 1) (.paused 1) gates).take (left + 1 - 1),
          o = false := applied_paused 1 gates
      rw [Nat.add_sub_cancel] at rest
      rw [applied, List.take_succ_cons]
      simp only [next, Nat.lt_irrefl, if_false, List.forall_mem_cons, true_and]
      exact rest

/-- The applications done so far in the current trial. -/
def Phase.done : Phase → Nat
  | .trying done => done
  | .free => 0
  | .paused _ => 0

/-- An application is the next one of its trial. -/
theorem next_of_applied {p : Phase} {gate : Bool}
    (applies : (next tries pause p gate).2 = true) :
    (next tries pause p gate).1 = .trying (p.done + 1) := by
  cases p with
  | free =>
    cases gate
    · simp [next] at applies
    · rfl
  | trying done =>
    -- the step applies only while the trial has tries left
    simp only [next] at applies ⊢
    split_ifs at applies ⊢
    rfl
  | paused steps =>
    simp only [next] at applies ⊢
    split_ifs at applies ⊢
    rfl

/-- Applications in a row are part of one trial. -/
theorem phaseAfter_of_applied {p : Phase} {gates : List Bool} (some_gates : gates ≠ [])
    (all : ∀ o ∈ applied tries pause p gates, o = true) :
    phaseAfter tries pause p gates = .trying (p.done + gates.length) := by
  induction gates generalizing p with
  | nil => exact absurd rfl some_gates
  | cons gate gates ih =>
    rw [applied, List.forall_mem_cons] at all
    have first := next_of_applied all.1
    rcases gates with _ | ⟨gate', gates⟩
    · exact first
    · have rest := ih (List.cons_ne_nil _ _) all.2
      rw [first, Phase.done] at rest
      change phaseAfter tries pause (next tries pause p gate).1 (gate' :: gates) = _
      rw [first, rest]
      simp only [List.length_cons]
      congr 1
      omega

/-- After `tries` applications in a row the whole pause passes without one. -/
theorem pause_after_trial {p : Phase} {before trial after : List Bool} (some_tries : 1 ≤ tries)
    (some_pause : 1 ≤ pause) (valid : Valid tries pause p) (size : trial.length = tries)
    (all : ∀ o ∈ applied tries pause (phaseAfter tries pause p before) trial, o = true) :
    ∀ o ∈ (applied tries pause (phaseAfter tries pause p (before ++ trial)) after).take pause,
      o = false := by
  have some_gates : trial ≠ [] := by
    rintro rfl
    simp only [List.length_nil] at size
    omega
  have reached := phaseAfter_of_applied some_gates all
  have joined : phaseAfter tries pause p (before ++ trial) =
      phaseAfter tries pause (phaseAfter tries pause p before) trial := List.foldl_append
  have valid' := valid_phaseAfter some_tries some_pause valid (before ++ trial)
  rw [joined, reached, size] at valid'
  -- the trial is no longer than `tries`, so nothing was applied before it
  have zero : (phaseAfter tries pause p before).done = 0 := by
    simp only [Valid] at valid'
    omega
  rw [joined, reached, size, zero, Nat.zero_add]
  exact applied_completed after

end TrialPause
