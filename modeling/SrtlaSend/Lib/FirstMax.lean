import Mathlib.Data.List.Induction
import Mathlib.Order.Lattice
import Mathlib.Tactic.Common

/-!
# First strict maximum of a list

A selection loop walks a list of candidates, some of which are skipped, and
keeps the first one whose score beats the bar; the bar rises with every choice.
The comparison is strict, so the winner is the lowest index at which the maximum
is attained. The bar may start at a floor, or be absent.
-/

namespace FirstMax

variable {α : Type} [LinearOrder α]

/-- The candidate chosen so far and the score to beat. -/
structure Best (α : Type) where
  idx : Option Nat
  bar : Option α

/-- Look at the candidate at `i`; a skipped one has no score. -/
def consider (best : Best α) (i : Nat) (score : Option α) : Best α :=
  match score with
  | none => best
  | some x => if best.bar.all (fun b => decide (b < x)) then ⟨some i, some x⟩ else best

def scan (bar : Option α) (scores : List (Option α)) : Best α :=
  scores.zipIdx.foldl (fun best entry => consider best entry.2 entry.1) ⟨none, bar⟩

/-- `i` is the lowest index at which the maximal score `x` is attained. -/
structure IsFirstMax (scores : List (Option α)) (i : Nat) (x : α) : Prop where
  attained : scores[i]? = some (some x)
  maximal : ∀ (j : Nat) (y : α), scores[j]? = some (some y) → y ≤ x
  first : ∀ (j : Nat) (y : α), j < i → scores[j]? = some (some y) → y < x

theorem scan_concat (bar : Option α) (scores : List (Option α)) (s : Option α) :
    scan bar (scores ++ [s]) = consider (scan bar scores) scores.length s := by
  simp [scan, List.zipIdx_append]

/-- What is known of a prefix of the walk. -/
private def Explored (bar : Option α) (scores : List (Option α)) (best : Best α) : Prop :=
  (best = ⟨none, bar⟩ ∧ ∀ y, some y ∉ scores) ∨
    ∃ i x, best = ⟨some i, some x⟩ ∧ IsFirstMax scores i x

omit [LinearOrder α] in
private theorem getElem?_concat_cases {scores : List (Option α)} {s : Option α} {j : Nat} {y : α}
    (h : (scores ++ [s])[j]? = some (some y)) :
    scores[j]? = some (some y) ∨ (j = scores.length ∧ s = some y) := by
  rcases Nat.lt_trichotomy j scores.length with below | rfl | above
  · exact Or.inl (by rwa [List.getElem?_append_left below] at h)
  · exact Or.inr ⟨rfl, by simpa using h⟩
  · rw [List.getElem?_eq_none (by simp; omega)] at h
    cases h

private theorem IsFirstMax.concat {scores : List (Option α)} {i : Nat} {x : α}
    (h : IsFirstMax scores i x) {s : Option α} (low : ∀ y, s = some y → y ≤ x) :
    IsFirstMax (scores ++ [s]) i x := by
  have within : i < scores.length := by
    by_contra outside
    have absent : scores[i]? = none := List.getElem?_eq_none (by omega)
    rw [h.attained] at absent
    cases absent
  refine ⟨by rw [List.getElem?_append_left within]; exact h.attained, ?_, ?_⟩
  · intro j y at_j
    rcases getElem?_concat_cases at_j with old | ⟨-, new⟩
    · exact h.maximal j y old
    · exact low y new
  · intro j y below at_j
    rcases getElem?_concat_cases at_j with old | ⟨rfl, -⟩
    · exact h.first j y below old
    · omega

private theorem isFirstMax_last {scores : List (Option α)} {x : α}
    (below : ∀ (j : Nat) (y : α), scores[j]? = some (some y) → y < x) :
    IsFirstMax (scores ++ [some x]) scores.length x := by
  refine ⟨by simp, ?_, ?_⟩
  · intro j y at_j
    rcases getElem?_concat_cases at_j with old | ⟨-, new⟩
    · exact (below j y old).le
    · exact (Option.some.inj new).ge
  · intro j y before at_j
    rcases getElem?_concat_cases at_j with old | ⟨rfl, -⟩
    · exact below j y old
    · exact absurd before (Nat.lt_irrefl _)

private theorem explored_scan (bar : Option α) (scores : List (Option α))
    (above : ∀ y, some y ∈ scores → ∀ b ∈ bar, b < y) : Explored bar scores (scan bar scores) := by
  -- Induction on the prefix already walked.
  induction scores using List.reverseRecOn with
  | nil => exact Or.inl ⟨rfl, by simp⟩
  | append_singleton scores s ih =>
    have above' : ∀ y, some y ∈ scores → ∀ b ∈ bar, b < y := fun y member =>
      above y (List.mem_append_left _ member)
    rw [scan_concat]
    cases s with
    | none =>
      rcases ih above' with ⟨same, empty⟩ | ⟨i, x, same, winner⟩
      · refine Or.inl ⟨same, fun y member => ?_⟩
        simp only [List.mem_append, List.mem_singleton, reduceCtorEq, or_false] at member
        exact empty y member
      · exact Or.inr ⟨i, x, same, winner.concat (by simp)⟩
    | some v =>
      rcases ih above' with ⟨same, empty⟩ | ⟨i, x, same, winner⟩
      · have beats : bar.all (fun b => decide (b < v)) = true := by
          simp only [Option.all_eq_true, decide_eq_true_eq]
          exact fun b hb => above v (by simp) b hb
        refine Or.inr ⟨scores.length, v, by simp [consider, same, beats], isFirstMax_last ?_⟩
        intro j y at_j
        exact absurd (List.mem_of_getElem? at_j) (empty y)
      · by_cases better : x < v
        · refine Or.inr ⟨scores.length, v, by simp [consider, same, better], isFirstMax_last ?_⟩
          intro j y at_j
          exact lt_of_le_of_lt (winner.maximal j y at_j) better
        · refine Or.inr ⟨i, x, by simp [consider, same, better], winner.concat ?_⟩
          intro y same'
          exact (Option.some.inj same') ▸ not_lt.mp better

/-- Nothing is chosen when every candidate is skipped. -/
theorem scan_of_none (bar : Option α) {scores : List (Option α)} (empty : ∀ y, some y ∉ scores) :
    scan bar scores = ⟨none, bar⟩ := by
  rcases explored_scan bar scores (fun y member => absurd member (empty y)) with h | ⟨i, x, -, h⟩
  · exact h.1
  · exact absurd (List.mem_of_getElem? h.attained) (empty x)

/-- Otherwise the lowest index with the maximal score is chosen, provided every
score clears the floor. -/
theorem scan_of_some (bar : Option α) {scores : List (Option α)}
    (above : ∀ y, some y ∈ scores → ∀ b ∈ bar, b < y) (some_candidate : ∃ y, some y ∈ scores) :
    ∃ i x, scan bar scores = ⟨some i, some x⟩ ∧ IsFirstMax scores i x := by
  rcases explored_scan bar scores above with ⟨-, empty⟩ | h
  · obtain ⟨y, member⟩ := some_candidate
    exact absurd member (empty y)
  · exact h

/-- Whatever the floor, a chosen index is that of a candidate. -/
theorem scan_idx_attained (bar : Option α) (scores : List (Option α)) {i : Nat}
    (h : (scan bar scores).idx = some i) : ∃ x, scores[i]? = some (some x) := by
  induction scores using List.reverseRecOn with
  | nil => cases h
  | append_singleton scores s ih =>
    rw [scan_concat] at h
    have old : (scan bar scores).idx = some i → ∃ x, (scores ++ [s])[i]? = some (some x) := by
      intro chosen
      obtain ⟨x, at_i⟩ := ih chosen
      have within : i < scores.length := (List.getElem?_eq_some_iff.mp at_i).1
      exact ⟨x, by rw [List.getElem?_append_left within]; exact at_i⟩
    cases s with
    | none => exact old h
    | some v =>
      simp only [consider] at h
      split at h
      · obtain rfl := Option.some.inj h
        exact ⟨v, by simp⟩
      · exact old h

end FirstMax
