import SrtlaSend.Lib.MachineInt
import Mathlib.Tactic.Linarith

/-!
# Serial-number arithmetic for SRT sequence numbers

SRT sequence numbers are 31 bits wide and wrap, so they are compared by their
signed distance inside the 31-bit space. The definitions follow the wrapping
`u32` arithmetic of the source; `seqDiff_eq` and `seqNext_eq` restate them as
integer arithmetic modulo `2 ^ 31`, and later proofs use only those forms.
-/

namespace SrtlaSend

open MachineInt

def seqSpace : Nat := 0x80000000

def seqHalf : Nat := seqSpace / 2

def seqMask : Nat := 0x7fffffff

/-- `i32::MIN`: outside the sequence space, so no real sequence collides with it. -/
def noAckYet : Int := -2 ^ 31

/-- Reduce a wire word to the 31-bit sequence space. -/
def seqNormalize (seq : Int) : Int := asU32 seq &&& seqMask

/-- Signed distance `a - b` within the 31-bit space. -/
def seqDiff (a b : Int) : Int :=
  let d := wrappingSubU32 (asU32 a) (asU32 b) &&& seqMask
  if d ≥ seqHalf then asI32 (wrappingSubU32 d seqSpace) else d

/-- `a` is strictly ahead of `b` in serial order. -/
def seqAfter (a b : Int) : Bool := seqDiff a b > 0

def seqNext (seq : Int) : Int := wrappingAddU32 (asU32 seq) 1 &&& seqMask

def seqPrev (seq : Int) : Int := wrappingSubU32 (asU32 seq) 1 &&& seqMask

/-- The last sequence an SRT cumulative ACK acknowledges: its field names the
first sequence the receiver is still missing. -/
def srtAckLastAcked (ackField : Nat) : Int := seqPrev (seqNormalize (asI32 ackField))

/-- The sequence space proper, as the packet log is keyed. -/
def IsSeq (x : Int) : Prop := 0 ≤ x ∧ x < 2 ^ 31

instance (x : Int) : Decidable (IsSeq x) := inferInstanceAs (Decidable (_ ∧ _))

/-! ### Arithmetic forms -/

private theorem land_seqMask (n : Nat) : n &&& seqMask = n % 2 ^ 31 :=
  Nat.and_two_pow_sub_one_eq_mod n 31

theorem seqNormalize_eq (seq : Int) : seqNormalize seq = seq % 2 ^ 31 := by
  simp only [seqNormalize, land_seqMask, asU32]
  omega

theorem seqDiff_eq (a b : Int) : seqDiff a b = (a - b + 2 ^ 30) % 2 ^ 31 - 2 ^ 30 := by
  simp only [seqDiff, land_seqMask, asU32, wrappingSubU32, asI32, seqHalf, seqSpace]
  split <;> omega

theorem seqNext_eq (seq : Int) : seqNext seq = (seq + 1) % 2 ^ 31 := by
  simp only [seqNext, land_seqMask, asU32, wrappingAddU32]
  omega

theorem seqPrev_eq (seq : Int) : seqPrev seq = (seq - 1) % 2 ^ 31 := by
  simp only [seqPrev, land_seqMask, asU32, wrappingSubU32]
  omega

theorem seqAfter_iff (a b : Int) : seqAfter a b = true ↔ 0 < (a - b + 2 ^ 30) % 2 ^ 31 - 2 ^ 30 := by
  simp only [seqAfter, seqDiff_eq, decide_eq_true_eq, gt_iff_lt]

theorem isSeq_seqNormalize (seq : Int) : IsSeq (seqNormalize seq) := by
  rw [seqNormalize_eq]
  exact ⟨by omega, by omega⟩

theorem seqNormalize_of_isSeq {seq : Int} (h : IsSeq seq) : seqNormalize seq = seq := by
  obtain ⟨low, high⟩ := h
  rw [seqNormalize_eq]
  omega

/-! ### Walking forward -/

/-- The `n` sequences after `seq`, in order. -/
def seqsAfter (seq : Int) : Nat → List Int
  | 0 => []
  | n + 1 => seqNext seq :: seqsAfter (seqNext seq) n

/-- The walk visits exactly the sequences at distance `1, ..., n` ahead. -/
theorem mem_seqsAfter (seq x : Int) (n : Nat) (short : n < 2 ^ 31) (hx : IsSeq x) :
    x ∈ seqsAfter seq n ↔ 1 ≤ (x - seq) % 2 ^ 31 ∧ (x - seq) % 2 ^ 31 ≤ n := by
  obtain ⟨low, high⟩ := hx
  induction n generalizing seq with
  | zero =>
    simp only [seqsAfter, List.not_mem_nil, false_iff]
    omega
  | succ n ih =>
    rw [seqsAfter, List.mem_cons, ih (seqNext seq) (by omega), seqNext_eq]
    omega

end SrtlaSend
