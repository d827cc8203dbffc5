import SrtlaSend.Control.PriorityListener
import SrtlaSend.Lib.Run
import Mathlib.Algebra.Group.Nat.Defs
import Mathlib.Algebra.Ring.Nat
import Mathlib.Data.List.Perm.Basic
import Mathlib.Tactic.NormNum

/-!
# Critical windows

What any number of datagrams to the priority sidecar amount to: the windows they open, whatever
their order, and a count of those that were malformed.
-/

namespace SrtlaSend

open Runs ByteLayout

namespace PriorityState

/-- A datagram is accepted exactly in the one form that its window is written in. -/
theorem windowMs_eq_some_iff (datagram : Bytes) (w : Nat) :
    windowMs datagram = some w ↔ w < 2 ^ 32 ∧ datagram = protoMagic :: toBe32 w := by
  constructor
  · intro accepted
    unfold windowMs at accepted
    split at accepted
    case h_1 magic a b c d =>
      split at accepted
      case isTrue known =>
        obtain rfl := Option.some.inj accepted
        rw [be32Word_eq, toBe32_eq, known]
        have fits := value_lt [a, b, c, d]
        exact ⟨fits.trans_eq (by norm_num), congrArg _ (encode_value [a, b, c, d]).symm⟩
      case isFalse => cases accepted
    case h_2 => cases accepted
  · rintro ⟨fits, rfl⟩
    have word : be32Word (UInt8.ofNat (w / 65536 / 256)) (UInt8.ofNat (w / 65536))
        (UInt8.ofNat (w / 256)) (UInt8.ofNat w) = w := by
      rw [be32Word_eq]
      have encoded : value (encode 4 w) = w := value_encode_of_lt (by simpa using fits)
      rwa [← toBe32_eq] at encoded
    simp only [windowMs, toBe32, toBe16, List.cons_append, List.nil_append, if_true, word]

/-- A datagram with the time it arrives at. -/
def handle (s : PriorityState) (arrival : Bytes × Nat) : PriorityState :=
  (s.receive arrival.1 arrival.2).1

theorem handle_of_some {s : PriorityState} {arrival : Bytes × Nat} {w : Nat}
    (accepted : windowMs arrival.1 = some w) :
    s.handle arrival =
      { deadlineMs := max s.deadlineMs (arrival.2 + w)
        windowsReceived := s.windowsReceived + 1
        malformedDatagrams := s.malformedDatagrams } := by
  simp only [handle, receive, accepted]
  rfl

theorem handle_of_none {s : PriorityState} {arrival : Bytes × Nat}
    (malformed : windowMs arrival.1 = none) :
    s.handle arrival = { s with malformedDatagrams := s.malformedDatagrams + 1 } := by
  simp only [handle, receive, malformed]
  rfl

theorem handle_comm (s : PriorityState) (a b : Bytes × Nat) :
    (s.handle a).handle b = (s.handle b).handle a := by
  cases first : windowMs a.1 with
  | none =>
    cases second : windowMs b.1 with
    | none => rw [handle_of_none first, handle_of_none second, handle_of_none second, handle_of_none first]
    | some w => rw [handle_of_none first, handle_of_some second, handle_of_some second, handle_of_none first]
  | some v =>
    cases second : windowMs b.1 with
    | none => rw [handle_of_some first, handle_of_none second, handle_of_none second, handle_of_some first]
    | some w =>
      rw [handle_of_some first, handle_of_some second, handle_of_some second, handle_of_some first]
      simp only [max_right_comm]

/-- Whatever the order in which datagrams arrive, a time is critical exactly if one of them
opened a window that has not ended by then, and each is counted once, as a window or as
malformed. -/
theorem critical_windows (s : PriorityState) (arrivals : List (Bytes × Nat)) :
    let s' := run handle s arrivals
    (∀ now, s'.isCriticalNow now = true ↔ s.isCriticalNow now = true ∨
      ∃ arrival ∈ arrivals, ∃ w < 2 ^ 32, arrival.1 = protoMagic :: toBe32 w ∧ now < arrival.2 + w) ∧
    s'.windowsReceived = s.windowsReceived + arrivals.countP (fun a => (windowMs a.1).isSome) ∧
    s'.malformedDatagrams = s.malformedDatagrams + arrivals.countP (fun a => (windowMs a.1).isNone) ∧
    ∀ arrivals', arrivals.Perm arrivals' → run handle s arrivals' = s' := by
  refine ⟨fun now => ?_, ?_, ?_, fun arrivals' perm => ?_⟩
  · induction arrivals generalizing s with
    | nil => simp
    | cons arrival rest ih =>
      rw [run_cons, ih]
      simp only [List.mem_cons, exists_eq_or_imp]
      rw [← or_assoc]
      refine or_congr_left ?_
      -- a malformed datagram leaves the end of the window, a window can only move it on
      cases accepted : windowMs arrival.1 with
      | none =>
        rw [handle_of_none accepted]
        refine (or_iff_left ?_).symm
        rintro ⟨w, fits, form, -⟩
        rw [(windowMs_eq_some_iff _ _).mpr ⟨fits, form⟩] at accepted
        cases accepted
      | some w =>
        rw [handle_of_some accepted]
        simp only [CriticalWindow.isCriticalNow, decide_eq_true_eq, gt_iff_lt, lt_max_iff]
        refine or_congr_right ⟨fun before => ?_, ?_⟩
        · obtain ⟨fits, form⟩ := (windowMs_eq_some_iff _ _).mp accepted
          exact ⟨w, fits, form, before⟩
        · rintro ⟨v, fits, form, before⟩
          rw [(windowMs_eq_some_iff _ _).mpr ⟨fits, form⟩] at accepted
          rwa [← Option.some.inj accepted]
  · induction arrivals generalizing s with
    | nil => rfl
    | cons arrival rest ih =>
      rw [run_cons, ih, List.countP_cons]
      cases accepted : windowMs arrival.1 with
      | none => rw [handle_of_none accepted]; simp
      | some w => rw [handle_of_some accepted]; simp; omega
  · induction arrivals generalizing s with
    | nil => rfl
    | cons arrival rest ih =>
      rw [run_cons, ih, List.countP_cons]
      cases accepted : windowMs arrival.1 with
      | none => rw [handle_of_none accepted]; simp; omega
      | some w => rw [handle_of_some accepted]; simp
  · have : RightCommutative handle := ⟨handle_comm⟩
    exact (perm.foldl_eq s).symm

end PriorityState

end SrtlaSend
