import SrtlaSend.Core.Seq
import SrtlaSend.Lib.SerialNumber

/-!
# The order of sequence numbers

The masked and wrapped `u32` arithmetic of the sequence functions is that of serial numbers
modulo `2 ^ 31`. What serial numbers satisfy in general then holds of the code: distances are
signed and short, and within half the space `seqAfter` orders sequence numbers as they are
counted, across the wrap.
-/

namespace SrtlaSend

open MachineInt SerialNumber

/-! ### The functions as serial arithmetic -/

theorem seqNext_eq_next (seq : Int) : seqNext seq = next (2 ^ 31) seq := seqNext_eq seq

theorem seqPrev_eq_prev (seq : Int) : seqPrev seq = prev (2 ^ 31) seq := seqPrev_eq seq

theorem seqDiff_eq_distance (a b : Int) : seqDiff a b = distance (2 ^ 31) a b := by
  rw [seqDiff_eq, distance, Int.bmod_eq_emod]
  split <;> omega

theorem seqAfter_iff_ahead (a b : Int) : seqAfter a b = true ↔ Ahead (2 ^ 31) a b := by
  rw [seqAfter, seqDiff_eq_distance, decide_eq_true_eq]
  rfl

theorem iterate_seqNext (n : Nat) (seq : Int) : seqNext^[n] seq = (next (2 ^ 31))^[n] seq := by
  rw [funext seqNext_eq_next]

/-! ### Results stay in the sequence space -/

theorem isSeq_emod (x : Int) : IsSeq (x % 2 ^ 31) := ⟨by omega, by omega⟩

theorem isSeq_seqNext (seq : Int) : IsSeq (seqNext seq) := by
  rw [seqNext_eq]
  exact isSeq_emod _

theorem isSeq_seqPrev (seq : Int) : IsSeq (seqPrev seq) := by
  rw [seqPrev_eq]
  exact isSeq_emod _

theorem isSeq_iterate_seqNext (n : Nat) {seq : Int} (isSeq : IsSeq seq) :
    IsSeq (seqNext^[n] seq) := by
  cases n with
  | zero => exact isSeq
  | succ n =>
    rw [Function.iterate_succ_apply']
    exact isSeq_seqNext _

theorem iterate_seqNext_eq (n : Nat) {seq : Int} (isSeq : IsSeq seq) :
    seqNext^[n] seq = (seq + n) % 2 ^ 31 := by
  have inSpace := isSeq_iterate_seqNext n isSeq
  have counted := iterate_next_emod (2 ^ 31) seq n
  rw [← iterate_seqNext] at counted
  rw [← Int.emod_eq_of_lt inSpace.1 inSpace.2]
  exact counted

/-! ### Distances and order -/

theorem seqDiff_range (a b : Int) : -2 ^ 30 ≤ seqDiff a b ∧ seqDiff a b < 2 ^ 30 := by
  rw [seqDiff_eq]
  omega

theorem seqDiff_comm_iff (a b : Int) : seqDiff b a = -seqDiff a b ↔ (a - b) % 2 ^ 31 ≠ 2 ^ 30 := by
  rw [seqDiff_eq_distance, seqDiff_eq_distance, distance_comm_iff (by decide)]
  omega

theorem seqDiff_modEq (a b : Int) : seqDiff a b ≡ a - b [ZMOD 2 ^ 31] := by
  rw [seqDiff_eq_distance]
  exact distance_modEq (2 ^ 31) a b

theorem seqAfter_self (a : Int) : seqAfter a a = false := by
  rw [← Bool.not_eq_true, seqAfter_iff_ahead]
  exact not_ahead_self a

theorem seqDiff_iterate_seqNext {n : Nat} (short : n < 2 ^ 30) (seq : Int) :
    seqDiff (seqNext^[n] seq) seq = n := by
  have steps := distance_iterate_next (m := 2 ^ 31) seq (i := 0) (j := n) (by omega) (by omega)
  rw [seqDiff_eq_distance, iterate_seqNext]
  simpa using steps

section Consecutive

variable {base : Int} {n : Nat} (short : n < 2 ^ 30)

include short

theorem seqAfter_iterate_seqNext_iff {i j : Nat} (hi : i < n) (hj : j < n) :
    seqAfter (seqNext^[j] base) (seqNext^[i] base) = true ↔ i < j := by
  rw [seqAfter_iff_ahead, iterate_seqNext, iterate_seqNext]
  exact ahead_iterate_next_iff base (by omega) hi hj

theorem isStrictTotalOrder_seqAfter {S : Set Int}
    (consecutive : ∀ x ∈ S, ∃ i < n, seqNext^[i] base = x) :
    IsStrictTotalOrder S fun x y => seqAfter y x = true := by
  simp only [iterate_seqNext] at consecutive
  simp only [seqAfter_iff_ahead]
  exact isStrictTotalOrder_ahead (by omega) consecutive

end Consecutive

theorem seqPrev_seqNext {seq : Int} (isSeq : IsSeq seq) : seqPrev (seqNext seq) = seq := by
  rw [seqPrev_eq_prev, seqNext_eq_next]
  exact prev_next isSeq.1 isSeq.2

theorem seqNext_seqPrev {seq : Int} (isSeq : IsSeq seq) : seqNext (seqPrev seq) = seq := by
  rw [seqPrev_eq_prev, seqNext_eq_next]
  exact next_prev isSeq.1 isSeq.2

theorem srtAckLastAcked_eq (ackField : Nat) :
    srtAckLastAcked ackField = ((ackField : Int) - 1) % 2 ^ 31 := by
  rw [srtAckLastAcked, seqPrev_eq, seqNormalize_eq, asI32]
  omega

theorem serial_arithmetic_sound :
    (∀ a b : Int,
      (-2 ^ 30 ≤ seqDiff a b ∧ seqDiff a b < 2 ^ 30) ∧
      seqDiff a b ≡ a - b [ZMOD 2 ^ 31] ∧
      (seqDiff b a = -seqDiff a b ↔ (a - b) % 2 ^ 31 ≠ 2 ^ 30) ∧
      seqAfter a a = false) ∧
    (∀ (base : Int) (n : Nat) (S : Set Int), n < 2 ^ 30 →
      (∀ x ∈ S, ∃ i < n, seqNext^[i] base = x) →
      IsStrictTotalOrder S (fun x y => seqAfter y x = true) ∧
      ∀ i < n, ∀ j < n, seqAfter (seqNext^[j] base) (seqNext^[i] base) = true ↔ i < j) ∧
    (∀ (n : Nat) (s : Int), n < 2 ^ 30 → IsSeq s →
      IsSeq (seqNext^[n] s) ∧ seqNext^[n] s = (s + n) % 2 ^ 31 ∧ seqDiff (seqNext^[n] s) s = n) ∧
    (∀ s : Int, IsSeq s → seqPrev (seqNext s) = s ∧ seqNext (seqPrev s) = s) ∧
    (∀ s : Int, IsSeq (seqNext s) ∧ IsSeq (seqPrev s)) ∧
    ∀ f : Nat, srtAckLastAcked f = ((f : Int) - 1) % 2 ^ 31 := by
  refine ⟨fun a b => ?distance, fun base n S short consecutive => ?order,
    fun n s short isSeq => ?counting, fun s isSeq => ⟨seqPrev_seqNext isSeq, seqNext_seqPrev isSeq⟩,
    fun s => ⟨isSeq_seqNext s, isSeq_seqPrev s⟩, srtAckLastAcked_eq⟩
  case distance =>
    exact ⟨seqDiff_range a b, seqDiff_modEq a b, seqDiff_comm_iff a b, seqAfter_self a⟩
  case order =>
    exact ⟨isStrictTotalOrder_seqAfter short consecutive,
      fun i hi j hj => seqAfter_iterate_seqNext_iff short hi hj⟩
  case counting =>
    exact ⟨isSeq_iterate_seqNext n isSeq, iterate_seqNext_eq n isSeq,
      seqDiff_iterate_seqNext short s⟩

/-- Four sequence numbers across the wrap. -/
theorem serial_arithmetic_sound_at_wrap :
    (seqDiff 2 (2 ^ 31 - 2) ≡ 2 - (2 ^ 31 - 2) [ZMOD 2 ^ 31]) ∧
    IsStrictTotalOrder ({2 ^ 31 - 2, 2 ^ 31 - 1, 0, 1} : Set Int) (fun x y => seqAfter y x = true) ∧
    seqDiff (seqNext^[4] (2 ^ 31 - 2)) (2 ^ 31 - 2) = 4 ∧ seqPrev (seqNext (2 ^ 31 - 1)) = 2 ^ 31 - 1 := by
  obtain ⟨distance, order, counting, inverse, -, -⟩ := serial_arithmetic_sound
  have near : ∀ x ∈ ({2 ^ 31 - 2, 2 ^ 31 - 1, 0, 1} : Set Int),
      ∃ i < 4, seqNext^[i] (2 ^ 31 - 2) = x := by
    rintro x (rfl | rfl | rfl | rfl)
    · exact ⟨0, by decide, rfl⟩
    · exact ⟨1, by decide, rfl⟩
    · exact ⟨2, by decide, rfl⟩
    · exact ⟨3, by decide, rfl⟩
  exact ⟨(distance _ _).2.1, (order (2 ^ 31 - 2) 4 _ (by decide) near).1,
    (counting 4 (2 ^ 31 - 2) (by decide) (by decide)).2.2, (inverse (2 ^ 31 - 1) (by decide)).1⟩

end SrtlaSend
