import SrtlaSend.Properties.SoleCarrier
import SrtlaSend.Properties.StallLatch

/-!
# Passes over links in use

The laws of the sole carrier and of the stall latch are about runs of passes that find their
fields as the last pass left them. Whatever else the sender writes to the links between two
passes meets this condition, as long as no link is reset.
-/

namespace SrtlaSend

open Pointwise Runs DwellLatch SrtlaConnection

namespace ElectionPass

/-- The pass finds the links of the last one after any writes but passes and resets. -/
def Meets (s : List SrtlaConnection) (p : ElectionPass) : Prop := List.Forall₂ QuietSteps s p.links

variable {s : List SrtlaConnection} {p : ElectionPass}

theorem Meets.follows (meets : p.Meets s) (mode : p.config.mode = .enhanced)
    (active : p.gated.any (Enhanced.qualityOk p.now) = false) : p.Follows s :=
  ⟨mode, map_eq_of_forall₂ (fun _ _ quiet => (sameMemory_of_quiet quiet).role) meets, active⟩

end ElectionPass

/-- The role is sticky on links that are in use between the passes. -/
theorem carrier_keeps_role_in_use (calculate : SrtlaConnection → Nat → ℚ)
    (start : List SrtlaConnection) (passes : List ElectionPass)
    (idle : ∀ c ∈ start, c.role = (false, 0))
    (steps : EachStep (electionStep calculate)
      (fun s p => p.Meets s ∧ p.config.mode = .enhanced ∧
        p.gated.any (Enhanced.qualityOk p.now) = false ∧ p.vacancyIsFresh = true) start passes) :
    ∀ before p after, passes = before ++ p :: after → ∀ (i : Nat) (c : SrtlaConnection),
      IsCarrier (run (electionStep calculate) start before) i →
      p.gated[i]? = some c → c.isCandidate p.now = true →
      IsCarrier (run (electionStep calculate) start (before ++ [p])) i ∨
        ∃ (j : Nat) (d : SrtlaConnection) (since : Nat), j ≠ i ∧
          IsCarrier (run (electionStep calculate) start (before ++ [p])) j ∧
          p.gated[j]? = some d ∧ Enhanced.Outclasses d c ∧
          HeldSince calculate start before i since ∧ since + Enhanced.soleCarrierMinHoldMs ≤ p.now := by
  have follows : EachStep (electionStep calculate)
      (fun s p => p.Follows s ∧ p.vacancyIsFresh = true) start passes :=
    steps.mono_of_invariant (fun _ => True) (fun _ _ _ _ => trivial)
      (fun s p _ passed => ⟨passed.1.follows passed.2.1 passed.2.2.1, passed.2.2.2⟩) trivial
  rintro before p after rfl i c carrier at_i candidate
  obtain ⟨steps, rest⟩ := (eachStep_append _ _ _ _ _).mp follows
  have truth := clockIsTrue_run (fun c member => (Prod.mk.inj (idle c member)).1) steps
  exact truth.kept_or_outclassed rest.1.1 carrier at_i candidate

/-! ### The latches of a bond -/

theorem latch_scoreLink (calculate : SrtlaConnection → Nat → ℚ) (nowMs : Nat)
    (anyUnconstrained enableQuality : Bool) (c : SrtlaConnection) :
    (Enhanced.scoreLink calculate nowMs anyUnconstrained enableQuality c).1.latch = c.latch := by
  rw [scoreLink_frame calculate nowMs anyUnconstrained enableQuality c]
  rfl

theorem SrtlaConnection.SameUpToElection.latch {c c' : SrtlaConnection} (same : SameUpToElection c c') :
    c'.latch = c.latch := by
  rw [same]
  rfl

/-- A guarded pass moves the latches as the guard does, in either mode. -/
theorem map_latch_selectConnectionIdx (calculate : SrtlaConnection → Nat → ℚ)
    (conns : List SrtlaConnection) (lastIdx : Option Nat) (now : Nat) {config : ConfigSnapshot}
    (guarded : config.stallDeselect = true) :
    (selectConnectionIdx calculate conns lastIdx now config).1.map SrtlaConnection.latch =
      conns.map fun c => ((c.refreshTimeouts config).updateStallState now config).latch := by
  have gate : (applyStallGate conns now config).map SrtlaConnection.latch =
      conns.map fun c => ((c.refreshTimeouts config).updateStallState now config).latch := by
    simp only [applyStallGate, guarded, Bool.not_true, Bool.false_eq_true, if_false, List.map_map]
    rfl
  rw [← gate]
  simp only [selectConnectionIdx]
  cases config.mode with
  | classic =>
    rw [List.map_map]
    rfl
  | enhanced =>
    simp only [Enhanced.selectConnection, Enhanced.rankLinks, List.map_map]
    rw [← map_eq_of_forall₂ (fun _ _ same => same.latch) (prepare_frame _ now)]
    exact List.map_congr_left fun c _ => latch_scoreLink calculate now _ _ c

namespace ElectionPass

/-- The pass of the guard over link `i`. -/
def guardPass (p : ElectionPass) (i : Nat) : Option LatchPass :=
  p.links[i]?.map fun c => ⟨c.refreshTimeouts p.config, p.now, p.config⟩

/-- A pass finds every link that the last one left. -/
theorem Meets.guardPass {p : ElectionPass} {s : List SrtlaConnection} (meets : p.Meets s) {i : Nat}
    {c : SrtlaConnection} (at_i : s[i]? = some c) :
    ∃ found, p.links[i]? = some found ∧ QuietSteps c found ∧
      p.guardPass i = some ⟨found.refreshTimeouts p.config, p.now, p.config⟩ := by
  obtain ⟨found, at_found, quiet⟩ := getElem?_of_forall₂ meets at_i
  refine ⟨found, at_found, quiet, ?_⟩
  rw [ElectionPass.guardPass, at_found, Option.map_some]

/-- The passes of the guard over link `i`, in a run of passes. -/
def guardPasses (i : Nat) (passes : List ElectionPass) : List LatchPass :=
  passes.filterMap fun p => p.guardPass i

theorem guardPasses_concat {p : ElectionPass} {passes : List ElectionPass} {i : Nat} {q : LatchPass}
    (taken : p.guardPass i = some q) : guardPasses i (passes ++ [p]) = guardPasses i passes ++ [q] := by
  simp only [guardPasses, List.filterMap_append, List.filterMap_cons, taken, List.filterMap_nil]

/-- The guard is on, and the clock is a positive `u64`. -/
structure Guarded (p : ElectionPass) : Prop where
  guard : p.config.stallDeselect = true
  positive : 0 < p.now
  bounded : p.now < 2 ^ 64

end ElectionPass

section Latches

variable {calculate : SrtlaConnection → Nat → ℚ} {start : List SrtlaConnection}
  {passes : List ElectionPass} {i : Nat} {c₀ : SrtlaConnection}

/-- On links in use the latch of link `i` runs through its passes of the guard. -/
theorem latch_run_in_use (at_i : start[i]? = some c₀)
    (steps : EachStep (electionStep calculate) (fun s p => p.Meets s ∧ p.Guarded) start passes) :
    EachStep latchStep (fun c p => p.Follows c) c₀ (ElectionPass.guardPasses i passes) ∧
      ∃ c, (run (electionStep calculate) start passes)[i]? = some c ∧
        c.latch = (run latchStep c₀ (ElectionPass.guardPasses i passes)).latch := by
  induction passes using List.reverseRecOn with
  | nil => exact ⟨trivial, c₀, at_i, rfl⟩
  | append_singleton passes p ih =>
    obtain ⟨before, ⟨meets, guarded⟩, -⟩ := (eachStep_append _ _ _ _ _).mp steps
    obtain ⟨follows, c, now_at, latch⟩ := ih before
    obtain ⟨found, at_found, quiet, taken⟩ := meets.guardPass now_at
    -- it has the latch that the last pass left
    have held : (found.refreshTimeouts p.config).latch = c.latch := (sameMemory_of_quiet quiet).latch
    rw [ElectionPass.guardPasses_concat taken, run_append, run_append, run_cons, run_nil, run_cons,
      run_nil]
    refine ⟨(eachStep_append _ _ _ _ _).mpr
      ⟨follows, ⟨held.trans latch, guarded.positive, guarded.bounded⟩, trivial⟩, ?_⟩
    have moved := congrArg (·[i]?)
      (map_latch_selectConnectionIdx calculate p.links p.lastIdx p.now guarded.guard)
    simp only [List.getElem?_map, at_found, Option.map_some, Option.map_eq_some_iff] at moved
    exact moved

/-- The law of the latch holds for every link of a bond that is in use between the passes. -/
theorem latch_law_in_use (at_i : start[i]? = some c₀) (idle : c₀.latch.Idle)
    (steps : EachStep (electionStep calculate) (fun s p => p.Meets s ∧ p.Guarded) start passes) :
    ∀ before p after, passes = before ++ p :: after → ∃ q, p.guardPass i = some q ∧
      LatchLaw c₀ (ElectionPass.guardPasses i before) q := by
  rintro before p after rfl
  rw [List.append_cons] at steps
  obtain ⟨upTo, -⟩ := (eachStep_append _ _ _ _ _).mp steps
  obtain ⟨earlier, ⟨meets, -⟩, -⟩ := (eachStep_append _ _ _ _ _).mp upTo
  obtain ⟨-, c, now_at, -⟩ := latch_run_in_use at_i earlier
  obtain ⟨found, -, -, taken⟩ := meets.guardPass now_at
  refine ⟨_, taken, latchLaw_last idle ?_⟩
  have follows := (latch_run_in_use at_i upTo).1
  rwa [ElectionPass.guardPasses_concat taken] at follows

end Latches

end SrtlaSend
