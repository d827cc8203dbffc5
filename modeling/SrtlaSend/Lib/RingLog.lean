import Mathlib.Data.List.Basic
import Mathlib.Data.List.Induction

/-!
# Overwriting ring

A fixed number of slots written in turn, each write replacing the oldest entry. The
slots hold the last entries pushed, no matter where the writing position stands.
-/

namespace RingLog

variable {α : Type}

structure Log (α : Type) where
  slots : List (Option α)
  next : Nat

def empty (size : Nat) : Log α := ⟨List.replicate size none, 0⟩

def push (log : Log α) (x : α) : Log α :=
  ⟨log.slots.set log.next (some x), (log.next + 1) % log.slots.length⟩

/-- The ring after pushing the entries `xs` in order. -/
def pushes (size : Nat) (xs : List α) : Log α := xs.foldl push (empty size)

@[simp] theorem pushes_nil (size : Nat) : pushes size ([] : List α) = empty size := rfl

theorem pushes_concat (size : Nat) (xs : List α) (x : α) :
    pushes size (xs ++ [x]) = push (pushes size xs) x := by
  simp only [pushes, List.foldl_append, List.foldl_cons, List.foldl_nil]

@[simp] theorem length_slots (size : Nat) (xs : List α) :
    (pushes size xs).slots.length = size := by
  induction xs using List.reverseRecOn with
  | nil => simp [empty]
  | append_singleton xs x ih => rw [pushes_concat, push, List.length_set, ih]

theorem next_pushes (size : Nat) (xs : List α) : (pushes size xs).next = xs.length % size := by
  induction xs using List.reverseRecOn with
  | nil => simp [empty]
  | append_singleton xs x ih =>
    rw [pushes_concat, push, ih, length_slots, Nat.mod_add_mod, List.length_append,
      List.length_singleton]

/-- Two pushes less than a whole turn apart go to different slots. -/
theorem eq_of_mod_eq {size k n : Nat} (same : k % size = n % size) (le : k ≤ n)
    (near : n < k + size) : k = n := by
  have zero : (n - k) % size = 0 := Nat.sub_mod_eq_zero_of_mod_eq same.symm
  rw [Nat.mod_eq_of_lt (by omega)] at zero
  omega

/-- Slot `i` holds the push whose turn it was last. -/
theorem getElem_slots {size : Nat} (xs : List α) {i : Nat} (bound : i < size) (e : α) :
    (pushes size xs).slots[i]? = some (some e) ↔
      ∃ k, xs[k]? = some e ∧ k % size = i ∧ xs.length ≤ k + size := by
  induction xs using List.reverseRecOn with
  | nil => simp [empty, bound]
  | append_singleton xs x ih =>
    simp only [pushes_concat, push, next_pushes, List.length_append, List.length_singleton]
    by_cases turn : xs.length % size = i
    · subst turn
      rw [List.getElem?_set_self (by simpa using bound)]
      constructor
      · intro last
        obtain rfl : x = e := by simpa using last
        exact ⟨xs.length, by simp, rfl, by omega⟩
      · rintro ⟨k, found, same, near⟩
        -- an older push to this slot is a whole turn away
        have lt : k < xs.length + 1 := by
          simpa using (List.getElem?_eq_some_iff.mp found).1
        obtain rfl := eq_of_mod_eq same (by omega) (by omega)
        simpa using found
    · rw [List.getElem?_set_ne turn, ih]
      constructor
      · rintro ⟨k, found, slot, near⟩
        have lt : k < xs.length := (List.getElem?_eq_some_iff.mp found).1
        refine ⟨k, by rw [List.getElem?_append_left lt, found], slot, ?_⟩
        by_contra far
        have turn' : xs.length = k + size := by omega
        rw [turn', Nat.add_mod_right] at turn
        exact turn slot
      · rintro ⟨k, found, slot, near⟩
        have lt : k < xs.length := by
          have le : k < xs.length + 1 := by
            simpa using (List.getElem?_eq_some_iff.mp found).1
          have ne : k ≠ xs.length := by
            rintro rfl
            exact turn slot
          omega
        rw [List.getElem?_append_left lt] at found
        exact ⟨k, found, slot, by omega⟩

/-- The ring holds an entry exactly when fewer than its size have been pushed since. -/
theorem mem_slots_iff {size : Nat} (positive : 0 < size) (xs : List α) (e : α) :
    some e ∈ (pushes size xs).slots ↔
      ∃ earlier later, xs = earlier ++ e :: later ∧ later.length < size := by
  rw [List.mem_iff_getElem?]
  constructor
  · rintro ⟨i, found⟩
    have bound : i < size := by simpa using (List.getElem?_eq_some_iff.mp found).1
    obtain ⟨k, at_k, -, near⟩ := (getElem_slots xs bound e).mp found
    obtain ⟨lt, rfl⟩ := List.getElem?_eq_some_iff.mp at_k
    refine ⟨xs.take k, xs.drop (k + 1), ?_, ?_⟩
    · rw [List.getElem_cons_drop, List.take_append_drop]
    · rw [List.length_drop]
      omega
  · rintro ⟨earlier, later, rfl, near⟩
    refine ⟨earlier.length % size, (getElem_slots _ (Nat.mod_lt _ positive) e).mpr ?_⟩
    exact ⟨earlier.length, by simp, rfl, by simp; omega⟩

end RingLog
