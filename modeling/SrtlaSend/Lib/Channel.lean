import Mathlib.Data.List.Basic

/-!
# Bounded channels

A queue of bounded length between senders and one receiver. A send does not wait: it is
refused when the queue is full, or when the receiver is gone.
-/

/-- The messages that wait, never more than `capacity`. -/
structure Channel (α : Type) (capacity : Nat) where
  queue : List α
  closed : Bool
  bounded : queue.length ≤ capacity

inductive SendResult
  | sent
  | full
  | closed
deriving DecidableEq, Repr

namespace Channel

variable {α : Type} {capacity : Nat}

def new : Channel α capacity := ⟨[], false, Nat.zero_le _⟩

def trySend (c : Channel α capacity) (a : α) : Channel α capacity × SendResult :=
  if c.closed then (c, .closed)
  else if room : c.queue.length < capacity then
    (⟨c.queue ++ [a], false, by rw [List.length_append]; exact room⟩, .sent)
  else (c, .full)

/-- The first message that waits, and the channel without it. -/
def recv (c : Channel α capacity) : Option (α × Channel α capacity) :=
  match found : c.queue with
  | [] => none
  | a :: rest => some (a, ⟨rest, c.closed, by
      have bounded := c.bounded
      rw [found, List.length_cons] at bounded
      exact Nat.le_of_succ_le bounded⟩)

/-- The receiver goes, and with it what waits. -/
def close (_c : Channel α capacity) : Channel α capacity := ⟨[], true, Nat.zero_le _⟩

/-- A send appends to the queue, or it is refused and changes nothing. -/
theorem trySend_cases (c : Channel α capacity) (a : α) :
    (c.closed = true ∧ c.trySend a = (c, .closed)) ∨
    (c.closed = false ∧ c.queue.length = capacity ∧ c.trySend a = (c, .full)) ∨
    (c.closed = false ∧ c.queue.length < capacity ∧ (c.trySend a).2 = .sent ∧
      (c.trySend a).1.queue = c.queue ++ [a] ∧ (c.trySend a).1.closed = false) := by
  unfold trySend
  cases closed : c.closed with
  | true => exact Or.inl ⟨rfl, rfl⟩
  | false =>
    by_cases room : c.queue.length < capacity
    · simp [room]
    · exact Or.inr (Or.inl ⟨rfl, Nat.le_antisymm c.bounded (Nat.not_lt.mp room), by simp [room]⟩)

theorem recv_eq_some {c c' : Channel α capacity} {a : α} (taken : c.recv = some (a, c')) :
    c.queue = a :: c'.queue ∧ c'.closed = c.closed := by
  unfold recv at taken
  split at taken
  · cases taken
  · rename_i found
    simp only [Option.some.injEq, Prod.mk.injEq] at taken
    obtain ⟨rfl, rfl⟩ := taken
    exact ⟨found, rfl⟩

end Channel
