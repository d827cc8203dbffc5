import SrtlaSend.Lib.Run

/-!
# Queues that are reset

A queue takes entries in and gives entries out in order, and now and then what waits in it is
dropped. `Moves` is what one step may do to it. Over a run the entries given out are a
subsequence of those taken in, none twice and none out of order, and between resets nothing is
lost.
-/

namespace ResetQueue

open Runs

variable {α σ ε : Type}

/-- What a step takes in and gives out, and whether it may drop the rest. -/
structure Turn (α : Type) where
  accepted : List α
  given : List α
  reset : Bool

/-- The step `turn` leads from the entries `before` to the entries `after`. -/
structure Moves (before : List α) (turn : Turn α) (after : List α) : Prop where
  ordered : (turn.given ++ after).Sublist (before ++ turn.accepted)
  complete : turn.reset = false → turn.given ++ after = before ++ turn.accepted

theorem Moves.of_eq {before after : List α} {turn : Turn α}
    (same : turn.given ++ after = before ++ turn.accepted) : Moves before turn after :=
  ⟨by rw [same], fun _ => same⟩

/-- A step that does not touch the queue. -/
theorem Moves.idle {before after : List α} {turn : Turn α} (accepted : turn.accepted = [])
    (given : turn.given = []) (same : after = before) : Moves before turn after :=
  .of_eq (by rw [accepted, given, same, List.nil_append, List.append_nil])

/-- A step that gives out a part of what there is, and drops the rest. -/
theorem Moves.dropped {before : List α} {turn : Turn α} (reset : turn.reset = true)
    (part : turn.given.Sublist (before ++ turn.accepted)) : Moves before turn [] :=
  ⟨by rwa [List.append_nil], fun kept => absurd (reset.symm.trans kept) Bool.noConfusion⟩

section Runs

variable (step : σ → ε → σ) (turn : σ → ε → Turn α)

/-- What a run takes in, in order. -/
def acceptedIn (s : σ) (es : List ε) : List α :=
  (history step s es).flatMap fun x => (turn x.1 x.2).accepted

/-- What a run gives out, in order. -/
def givenIn (s : σ) (es : List ε) : List α :=
  (history step s es).flatMap fun x => (turn x.1 x.2).given

variable {step turn} (queue : σ → List α)

theorem ordered_run {s : σ} {es : List ε}
    (each : EachStep step (fun s e => Moves (queue s) (turn s e) (queue (step s e))) s es) :
    (givenIn step turn s es ++ queue (run step s es)).Sublist
      (queue s ++ acceptedIn step turn s es) := by
  induction es generalizing s with
  | nil => simp [givenIn, acceptedIn, history]
  | cons e es ih =>
    have later := ih each.2
    have now := each.1.ordered
    have joined := (List.Sublist.refl (turn s e).given).append later
    have moved := now.append (List.Sublist.refl (acceptedIn step turn (step s e) es))
    rw [List.append_assoc] at moved
    have all := joined.trans moved
    rwa [List.append_assoc, ← List.append_assoc (turn s e).given] at all

theorem complete_run {s : σ} {es : List ε}
    (each : EachStep step (fun s e => Moves (queue s) (turn s e) (queue (step s e))) s es)
    (quiet : ∀ x ∈ history step s es, (turn x.1 x.2).reset = false) :
    givenIn step turn s es ++ queue (run step s es) = queue s ++ acceptedIn step turn s es := by
  induction es generalizing s with
  | nil => simp [givenIn, acceptedIn, history]
  | cons e es ih =>
    have later := ih each.2 fun x member => quiet x (List.mem_cons_of_mem _ member)
    have now := each.1.complete (quiet (s, e) List.mem_cons_self)
    have first : givenIn step turn s (e :: es) =
        (turn s e).given ++ givenIn step turn (step s e) es := rfl
    have taken : acceptedIn step turn s (e :: es) =
        (turn s e).accepted ++ acceptedIn step turn (step s e) es := rfl
    rw [first, taken, List.append_assoc, run_cons, later, ← List.append_assoc, now,
      List.append_assoc]

end Runs

end ResetQueue
