import SrtlaSend.Lib.ResetQueue
import Mathlib.Data.List.Flatten
import Mathlib.Data.List.Perm.Subperm

/-!
# A lane beside a stream

One worker decides on entries and sends them at once; an entry that it cannot send at once it
hands to a lane, and a second worker sends from there in its own time. `Moves` is what one step
may do. Over a run each worker sends in the order of the decisions, an entry of the lane may be
overtaken by later ones that went at once, nothing is sent twice, and unless an entry is given up
the two have sent all that was decided but what waits in the lane.
-/

namespace SideLane

open Runs

variable {α σ ε : Type}

/-- What a step decides on, what of it goes at once and what into the lane, and what is sent from
the lane; `lossy` if an entry is given up. -/
structure Turn (α : Type) where
  decided : List α
  direct : List α
  handed : List α
  served : List α
  lossy : Bool

/-- The part of the lane alone, where giving up an entry is a reset. -/
def Turn.onLane (turn : Turn α) : ResetQueue.Turn α := ⟨turn.handed, turn.served, turn.lossy⟩

/-- The step `turn` leads from the lane `before` to the lane `after`. -/
structure Moves (before : List α) (turn : Turn α) (after : List α) : Prop where
  direct : turn.direct.Sublist turn.decided
  handed : turn.handed.Sublist turn.decided
  once : (turn.direct ++ turn.handed).Subperm turn.decided
  whole : turn.lossy = false → (turn.direct ++ turn.handed).Perm turn.decided
  lane : ResetQueue.Moves before turn.onLane after

section Runs

variable (step : σ → ε → σ) (turn : σ → ε → Turn α)

/-- One part of the turns of a run, in order. -/
def gathered (part : Turn α → List α) (s : σ) (es : List ε) : List α :=
  (history step s es).flatMap fun x => part (turn x.1 x.2)

variable {step turn} {lane : σ → List α} {s : σ} {es : List ε}

theorem gathered_sublist {part whole : Turn α → List α}
    (each : EachStep step (fun s e => (part (turn s e)).Sublist (whole (turn s e))) s es) :
    (gathered step turn part s es).Sublist (gathered step turn whole s es) :=
  List.Sublist.flatMap_right _ fun _ past => each.of_mem_history past

theorem each_onLane
    (each : EachStep step (fun s e => Moves (lane s) (turn s e) (lane (step s e))) s es) :
    EachStep step
      (fun s e => ResetQueue.Moves (lane s) (turn s e).onLane (lane (step s e))) s es :=
  eachStep_of_history fun _ past => (each.of_mem_history past).lane

/-- Entries of the lane keep their order. -/
theorem served_sublist
    (each : EachStep step (fun s e => Moves (lane s) (turn s e) (lane (step s e))) s es) :
    (gathered step turn Turn.served s es ++ lane (run step s es)).Sublist
      (lane s ++ gathered step turn Turn.handed s es) :=
  ResetQueue.ordered_run lane (each_onLane each)

/-- No entry goes both ways. -/
theorem parted_subperm
    (each : EachStep step (fun s e => Moves (lane s) (turn s e) (lane (step s e))) s es) :
    (gathered step turn Turn.direct s es ++ gathered step turn Turn.handed s es).Subperm
      (gathered step turn Turn.decided s es) := by
  have merged : (gathered step turn Turn.direct s es ++ gathered step turn Turn.handed s es).Perm
      (gathered step turn (fun t => t.direct ++ t.handed) s es) :=
    List.flatMap_append_perm _ _ _
  rw [merged.subperm_right]
  induction es generalizing s with
  | nil => exact List.Subperm.refl _
  | cons e es ih =>
    have now := each.1.once
    exact now.append (ih each.2 (List.flatMap_append_perm _ _ _))

/-- Nothing is sent twice. -/
theorem sent_subperm (empty : lane s = [])
    (each : EachStep step (fun s e => Moves (lane s) (turn s e) (lane (step s e))) s es) :
    (gathered step turn Turn.direct s es ++
        (gathered step turn Turn.served s es ++ lane (run step s es))).Subperm
      (gathered step turn Turn.decided s es) := by
  have served := served_sublist each
  rw [empty, List.nil_append] at served
  exact ((List.Sublist.refl _).append served).subperm.trans (parted_subperm each)

/-- Unless an entry is given up, what is not sent waits. -/
theorem sent_perm (empty : lane s = [])
    (each : EachStep step (fun s e => Moves (lane s) (turn s e) (lane (step s e))) s es)
    (lossless : ∀ x ∈ history step s es, (turn x.1 x.2).lossy = false) :
    (gathered step turn Turn.direct s es ++
        (gathered step turn Turn.served s es ++ lane (run step s es))).Perm
      (gathered step turn Turn.decided s es) := by
  have served : gathered step turn Turn.served s es ++ lane (run step s es) =
      lane s ++ gathered step turn Turn.handed s es :=
    ResetQueue.complete_run lane (each_onLane each) lossless
  rw [served, empty, List.nil_append]
  refine (List.flatMap_append_perm _ _ _).trans (List.Perm.flatMap_left _ fun x past => ?_)
  exact (each.of_mem_history past).whole (lossless x past)

/-- As long as nothing is given up and nothing enters the lane, all is sent as it was decided. -/
theorem direct_eq (each : EachStep step (fun s e => Moves (lane s) (turn s e) (lane (step s e))) s es)
    (prompt : ∀ x ∈ history step s es,
      (turn x.1 x.2).lossy = false ∧ (turn x.1 x.2).handed = []) :
    gathered step turn Turn.direct s es = gathered step turn Turn.decided s es := by
  refine List.flatMap_congr fun x past => ?_
  have moves := each.of_mem_history past
  obtain ⟨lossless, none⟩ := prompt x past
  have whole := moves.whole lossless
  rw [none, List.append_nil] at whole
  exact moves.direct.eq_of_length whole.length_eq

end Runs

end SideLane
