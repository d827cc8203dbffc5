import SrtlaSend.Properties.LinkSteps
import SrtlaSend.Properties.Selection

/-!
# The sole carrier

While every candidate is quality gated, one link carries alone. This module follows
the role through a run of passes: who holds it after a pass, since when, and what it
takes to move it. The minimum hold is measured from a clock that a link keeps when it
loses the role to nobody, so the hold is only as good as the clock of a link that takes
a vacant role.
-/

namespace SrtlaSend

open MachineInt Runs Pointwise SrtlaConnection

/-- What the election remembers of a link. -/
def SrtlaConnection.role (c : SrtlaConnection) : Bool × Nat := (c.soleCarrier, c.soleCarrierSinceMs)

theorem SameMemory.role {c c' : SrtlaConnection} (same : SameMemory c c') : c'.role = c.role := by
  simp only [SrtlaConnection.role, same.soleCarrier, same.soleCarrierSinceMs]

/-! ### What a pass does to the roles -/

theorem SrtlaConnection.SameUpToRamp.role {c c' : SrtlaConnection} (same : SameUpToRamp c c') :
    c'.role = c.role := by
  rw [same]
  rfl

theorem SrtlaConnection.SameUpToStallGate.role {c c' : SrtlaConnection}
    (same : SameUpToStallGate c c') : c'.role = c.role := by
  rw [same]
  rfl

/-- The stall gate leaves the roles alone. -/
theorem map_role_applyStallGate (conns : List SrtlaConnection) (nowMs : Nat)
    (config : ConfigSnapshot) : (applyStallGate conns nowMs config).map role = conns.map role := by
  simp only [applyStallGate]
  split
  · rw [List.map_map, List.map_map]
    exact List.map_congr_left fun c _ => (dropStallGuard_frame (c.refreshTimeouts config)).role
  · rw [List.map_map, List.map_map, List.map_map]
    exact List.map_congr_left fun c _ =>
      (updateStallState_frame (c.refreshTimeouts config) nowMs config).role

namespace Enhanced

theorem role_setExcluded (c : SrtlaConnection) (excluded : Bool) (nowMs : Nat) :
    (setExcluded c excluded nowMs).role = c.role := by
  simp only [setExcluded]
  split
  · exact (armRejoinRamp_frame c nowMs heldOutRejoinRampMs false).role
  · rfl

theorem role_scoreLink (calculate : SrtlaConnection → Nat → ℚ) (nowMs : Nat)
    (anyUnconstrained enableQuality : Bool) (c : SrtlaConnection) :
    (scoreLink calculate nowMs anyUnconstrained enableQuality c).1.role = c.role := by
  rw [scoreLink_frame calculate nowMs anyUnconstrained enableQuality c]
  rfl

/-- After the election the pass leaves the roles alone. -/
theorem map_role_selectConnection (calculate : SrtlaConnection → Nat → ℚ)
    (conns : List SrtlaConnection) (lastIdx : Option Nat) (nowMs : Nat) (enableQuality : Bool) :
    (selectConnection calculate conns lastIdx nowMs enableQuality).1.map role =
      (electSoleCarrier conns nowMs (conns.any (qualityOk nowMs))).1.map role := by
  simp only [selectConnection, rankLinks, prepare, List.map_map]
  apply List.ext_getElem?
  intro i
  simp only [List.getElem?_map, List.getElem?_mapIdx, Option.map_map]
  congr 1
  funext c
  exact (role_scoreLink calculate nowMs _ enableQuality _).trans (role_setExcluded c _ nowMs)

/-- The link that is elected when nobody holds the role: the lowest smoothed round
trip, or the best score while none is measured. -/
def bestPlaced (conns : List SrtlaConnection) (nowMs : Nat) : Option Nat :=
  (bestMeasured conns nowMs).idx.or (bestUnmeasured conns nowMs).idx

theorem electedCarrier_of_vacant {conns : List SrtlaConnection} {nowMs : Nat}
    (vacant : incumbent conns nowMs = none) : electedCarrier conns nowMs = bestPlaced conns nowMs := by
  simp only [electedCarrier, vacant, bestPlaced]

/-- A candidate that holds the role is found. -/
theorem incumbent_isSome {conns : List SrtlaConnection} {nowMs i : Nat} {c : SrtlaConnection}
    (at_i : conns[i]? = some c) (candidate : c.isCandidate nowMs = true)
    (holds : c.soleCarrier = true) : (incumbent conns nowMs).isSome = true := by
  induction conns using List.reverseRecOn with
  | nil => simp at at_i
  | append_singleton conns last ih =>
    simp only [incumbent, List.zipIdx_append, List.foldl_append, List.zipIdx_singleton,
      List.foldl_cons, List.foldl_nil, Nat.zero_add]
    split
    · rfl
    case isFalse other =>
      rcases Nat.lt_or_ge i conns.length with before | after
      · rw [List.getElem?_append_left before] at at_i
        exact ih at_i
      · rw [List.getElem?_append_right after, List.getElem?_singleton] at at_i
        split at at_i
        · obtain rfl := Option.some.inj at_i
          simp only [candidate, holds, Bool.and_self, not_true_eq_false] at other
        · cases at_i

/-- The challenger that is best measured carries its own round trip. -/
theorem bestMeasured_spec {conns : List SrtlaConnection} {nowMs j : Nat} {x : ℚᵒᵈ}
    (index : (bestMeasured conns nowMs).idx = some j)
    (bar : (bestMeasured conns nowMs).bar = some x) :
    ∃ d, conns[j]? = some d ∧ d.getSmoothRttMs = OrderDual.ofDual x := by
  by_cases rated : ∃ y, some y ∈ conns.map (measuredRtt nowMs)
  · obtain ⟨i, y, found, winner⟩ := FirstMax.scan_of_some none (by simp) rated
    rw [bestMeasured, found] at index bar
    obtain rfl := Option.some.inj index
    obtain rfl := Option.some.inj bar
    have attained := winner.attained
    rw [List.getElem?_map, Option.map_eq_some_iff] at attained
    obtain ⟨d, at_j, value⟩ := attained
    simp only [measuredRtt] at value
    split at value
    · exact ⟨d, at_j, congrArg OrderDual.ofDual (Option.some.inj value)⟩
    · cases value
  · have nothing := FirstMax.scan_of_none none (not_exists.mp rated)
    rw [bestMeasured, nothing] at index
    cases index

/-- The challenger measures at least twice better than the incumbent. -/
structure Outclasses (challenger incumbent : SrtlaConnection) : Prop where
  challenger_pos : 0 < challenger.getSmoothRttMs
  incumbent_pos : 0 < incumbent.getSmoothRttMs
  twice : 2 * challenger.getSmoothRttMs ≤ incumbent.getSmoothRttMs

/-- A measured candidate is among those the best measured is taken from. -/
theorem bestMeasured_isSome {conns : List SrtlaConnection} {nowMs i : Nat} {c : SrtlaConnection}
    (at_i : conns[i]? = some c) (candidate : c.isCandidate nowMs = true)
    (measured : 0 < c.getSmoothRttMs) :
    ∃ j x, (bestMeasured conns nowMs).idx = some j ∧ (bestMeasured conns nowMs).bar = some x := by
  have rated : some (OrderDual.toDual c.getSmoothRttMs) ∈ conns.map (measuredRtt nowMs) := by
    refine List.mem_map.mpr ⟨c, List.mem_of_getElem? at_i, ?_⟩
    simp only [measuredRtt, candidate, gt_iff_lt, measured, and_self, if_true]
  obtain ⟨j, x, found, -⟩ := FirstMax.scan_of_some none (by simp) ⟨_, rated⟩
  exact ⟨j, x, by rw [bestMeasured, found], by rw [bestMeasured, found]⟩

/-- The role stays with the incumbent, or a challenger outclasses it after its hold. -/
theorem electedCarrier_of_incumbent {conns : List SrtlaConnection} {nowMs i : Nat}
    {c : SrtlaConnection} (holder : incumbent conns nowMs = some i) (at_i : conns[i]? = some c) :
    electedCarrier conns nowMs = some i ∨
      ∃ j d, j ≠ i ∧ electedCarrier conns nowMs = some j ∧ conns[j]? = some d ∧ Outclasses d c ∧
        c.soleCarrierSinceMs + soleCarrierMinHoldMs ≤ nowMs := by
  obtain ⟨c', at_i', candidate, -⟩ := incumbent_isCandidate holder
  obtain rfl := Option.some.inj (at_i.symm.trans at_i')
  simp only [electedCarrier, holder]
  split
  case h_1 inc b same best =>
    obtain rfl := Option.some.inj same
    split
    case isTrue takes =>
      obtain ⟨other, takesOver⟩ := takes
      simp only [at_i, Option.any_some, soleCarrierHandover] at takesOver
      split at takesOver
      · cases takesOver
      case isFalse held =>
        split at takesOver
        · cases takesOver
        case isFalse measured =>
          rw [not_or, not_le, not_le] at measured
          -- the incumbent is measured, so the best one is, and the bar is its round trip
          obtain ⟨j, x, index, bar⟩ := bestMeasured_isSome at_i candidate measured.1
          obtain ⟨d, at_j, value⟩ := bestMeasured_spec index bar
          simp only [index, Option.some_or, Option.some.injEq] at best
          subst best
          simp only [bar, Option.map_some, Option.getD_some, ← value, soleCarrierMargin,
            decide_eq_true_eq] at takesOver measured
          refine Or.inr ⟨_, d, other, rfl, at_j, ⟨measured.2, measured.1, ?_⟩, ?_⟩
          · rw [mul_comm]
            exact takesOver
          · simp only [soleCarrierMinHoldMs] at held ⊢
            omega
    · exact Or.inl rfl
  case h_2 inc same absent =>
    obtain rfl := Option.some.inj same
    exact Or.inl rfl
  case h_3 absent => cases absent

/-- The elected link takes the role, with a new clock if it is handed over or has none. -/
theorem role_installCarrier (c : SrtlaConnection) (handover : Bool) (nowMs : Nat) :
    (installCarrier c handover nowMs).role =
      (true,
        if c.soleCarrier then c.soleCarrierSinceMs
        else if handover || c.soleCarrierSinceMs = 0 then nowMs else c.soleCarrierSinceMs) := by
  have kept : (leaveExclusion c nowMs).role = c.role := by
    simp only [leaveExclusion]
    split
    · exact (armRejoinRamp_frame c nowMs heldOutRejoinRampMs false).role
    · rfl
  obtain ⟨carrier, since⟩ := Prod.mk.inj kept
  simp only [role, installCarrier, takeRole, carrier, since]
  cases holds : c.soleCarrier with
  | true => simp only [Bool.not_true, Bool.false_eq_true, if_false, if_true, carrier, since, holds]
  | false => simp only [Bool.not_false, if_true, Bool.false_eq_true, if_false]

/-- An election installs the elected link and dismisses the others, with a handover if it
moves the role. -/
theorem exists_electSoleCarrier_eq (conns : List SrtlaConnection) (nowMs : Nat) :
    ∃ handover : Bool,
      (∀ inc k, incumbent conns nowMs = some inc → electedCarrier conns nowMs = some k → inc ≠ k →
        handover = true) ∧
      (electSoleCarrier conns nowMs false).1 = conns.mapIdx fun i c =>
        if some i = electedCarrier conns nowMs then installCarrier c handover nowMs
        else dismissCarrier c handover (electedCarrier conns nowMs).isSome nowMs := by
  refine ⟨_, ?_, rfl⟩
  intro inc k holder elected differ
  rw [holder, elected]
  exact bne_iff_ne.mpr differ

/-- Every role after an election: the elected link holds it, the others do not, and their
clocks stop only if the role was handed over. -/
theorem role_electSoleCarrier {conns : List SrtlaConnection} {i : Nat} {c : SrtlaConnection}
    (at_i : conns[i]? = some c) (nowMs : Nat) :
    ∃ handover : Bool,
      (∀ inc k, incumbent conns nowMs = some inc → electedCarrier conns nowMs = some k → inc ≠ k →
        handover = true) ∧
      ((electSoleCarrier conns nowMs false).1.map role)[i]? = some
        (if some i = electedCarrier conns nowMs then
          (true,
            if c.soleCarrier then c.soleCarrierSinceMs
            else if handover || c.soleCarrierSinceMs = 0 then nowMs else c.soleCarrierSinceMs)
        else (false, if handover then 0 else c.soleCarrierSinceMs)) := by
  obtain ⟨handover, moved, result⟩ := exists_electSoleCarrier_eq conns nowMs
  refine ⟨handover, moved, ?_⟩
  rw [result, List.getElem?_map, List.getElem?_mapIdx, at_i, Option.map_some, Option.map_some]
  split
  · exact congrArg some (role_installCarrier c _ nowMs)
  · rfl

end Enhanced

/-! ### Runs of passes -/

/-- One enhanced pass, with the links as it finds them. -/
structure ElectionPass where
  links : List SrtlaConnection
  lastIdx : Option Nat
  now : Nat
  config : ConfigSnapshot

namespace ElectionPass

/-- The links behind the stall gate, as the election sees them. -/
def gated (p : ElectionPass) : List SrtlaConnection := applyStallGate p.links p.now p.config

/-- The pass finds the roles as the last one left them, and nobody without a verdict. -/
structure Follows (s : List SrtlaConnection) (p : ElectionPass) : Prop where
  mode : p.config.mode = .enhanced
  roles : p.links.map role = s.map role
  active : p.gated.any (Enhanced.qualityOk p.now) = false

instance (s : List SrtlaConnection) (p : ElectionPass) : Decidable (p.Follows s) :=
  decidable_of_iff (p.config.mode = .enhanced ∧ p.links.map role = s.map role ∧
      p.gated.any (Enhanced.qualityOk p.now) = false)
    ⟨fun h => ⟨h.1, h.2.1, h.2.2⟩, fun h => ⟨h.mode, h.roles, h.active⟩⟩

/-- If the role is vacant, the link that is best placed for it has no clock running. -/
def vacancyIsFresh (p : ElectionPass) : Bool :=
  (Enhanced.incumbent p.gated p.now).isSome ||
    (((Enhanced.bestPlaced p.gated p.now).bind (p.gated[·]?)).all fun c => c.soleCarrierSinceMs == 0)

end ElectionPass

/-- The links after a pass. -/
def electionStep (calculate : SrtlaConnection → Nat → ℚ) (_ : List SrtlaConnection)
    (p : ElectionPass) : List SrtlaConnection :=
  (selectConnectionIdx calculate p.links p.lastIdx p.now p.config).1

/-- Link `i` holds the role, and nobody else does. -/
structure IsCarrier (conns : List SrtlaConnection) (i : Nat) : Prop where
  holds : ∃ c, conns[i]? = some c ∧ c.soleCarrier = true
  alone : ∀ (j : Nat) (c : SrtlaConnection), conns[j]? = some c → c.soleCarrier = true → j = i

instance (conns : List SrtlaConnection) (i : Nat) : Decidable (IsCarrier conns i) :=
  decidable_of_iff
    ((conns[i]?).any (·.soleCarrier) = true ∧
      ∀ entry ∈ conns.zipIdx, entry.1.soleCarrier = true → entry.2 = i)
    ⟨fun h => ⟨(Option.any_eq_true _ _).mp h.1,
        fun j c at_j => h.2 (c, j) (List.mem_zipIdx_iff_getElem?.mpr at_j)⟩,
      fun h => ⟨(Option.any_eq_true _ _).mpr h.holds,
        fun entry member => h.alone entry.2 entry.1 (List.mem_zipIdx_iff_getElem?.mp member)⟩⟩

section Runs

variable {calculate : SrtlaConnection → Nat → ℚ} {s start : List SrtlaConnection} {p : ElectionPass}

/-- The roles of the links the election sees. -/
theorem ElectionPass.Follows.role_gated (follows : p.Follows s) {i : Nat} {c : SrtlaConnection}
    (at_i : p.gated[i]? = some c) : ∃ c₀, s[i]? = some c₀ ∧ c.role = c₀.role := by
  have same : p.gated.map role = s.map role :=
    (map_role_applyStallGate p.links p.now p.config).trans follows.roles
  have read : (s.map role)[i]? = some c.role := by rw [← same, List.getElem?_map, at_i, Option.map_some]
  rw [List.getElem?_map, Option.map_eq_some_iff] at read
  obtain ⟨c₀, at_i₀, equal⟩ := read
  exact ⟨c₀, at_i₀, equal.symm⟩

/-- The role of a link after the pass, and the link the election saw. -/
theorem role_electionStep (follows : p.Follows s) {i : Nat} {c' : SrtlaConnection}
    (at_i : (electionStep calculate s p)[i]? = some c') :
    ∃ c, p.gated[i]? = some c ∧
      ((Enhanced.electSoleCarrier p.gated p.now false).1.map role)[i]? = some c'.role := by
  have roles : (electionStep calculate s p).map role =
      (Enhanced.electSoleCarrier p.gated p.now false).1.map role := by
    simp only [electionStep, selectConnectionIdx, follows.mode]
    rw [Enhanced.map_role_selectConnection]
    exact congrArg (fun active => (Enhanced.electSoleCarrier p.gated p.now active).1.map role)
      follows.active
  have read : ((Enhanced.electSoleCarrier p.gated p.now false).1.map role)[i]? = some c'.role := by
    rw [← roles, List.getElem?_map, at_i, Option.map_some]
  have inside : i < p.gated.length := by
    have bound := (List.getElem?_eq_some_iff.mp read).1
    simpa [Enhanced.electSoleCarrier] using bound
  exact ⟨p.gated[i], List.getElem?_eq_getElem inside, read⟩

/-- Only the elected link holds the role after a pass. -/
theorem electedCarrier_of_holds (follows : p.Follows s) {i : Nat} {c' : SrtlaConnection}
    (at_i : (electionStep calculate s p)[i]? = some c') (holds : c'.soleCarrier = true) :
    Enhanced.electedCarrier p.gated p.now = some i := by
  obtain ⟨c, found, read⟩ := role_electionStep follows at_i
  obtain ⟨handover, -, result⟩ := Enhanced.role_electSoleCarrier found p.now
  have roles := Option.some.inj (read.symm.trans result)
  split at roles
  case isTrue elected => exact elected.symm
  case isFalse =>
    have lost : c'.soleCarrier = false := (Prod.mk.inj roles).1
    rw [lost] at holds
    cases holds

theorem isCarrier_of_holds (follows : p.Follows s) {i : Nat} {c' : SrtlaConnection}
    (at_i : (electionStep calculate s p)[i]? = some c') (holds : c'.soleCarrier = true) :
    IsCarrier (electionStep calculate s p) i := by
  have elected := electedCarrier_of_holds follows at_i holds
  refine ⟨⟨c', at_i, holds⟩, fun j d at_j other => ?_⟩
  have elected' := electedCarrier_of_holds follows at_j other
  exact Option.some.inj (elected'.symm.trans elected)

/-- The elected link does hold the role after the pass. -/
theorem isCarrier_electionStep (follows : p.Follows s) {i : Nat} {c : SrtlaConnection}
    (elected : Enhanced.electedCarrier p.gated p.now = some i) (at_i : p.gated[i]? = some c) :
    IsCarrier (electionStep calculate s p) i := by
  have length : (electionStep calculate s p).length = p.gated.length := by
    have roles : (electionStep calculate s p).map role =
        (Enhanced.electSoleCarrier p.gated p.now (p.gated.any (Enhanced.qualityOk p.now))).1.map role := by
      simp only [electionStep, selectConnectionIdx, follows.mode]
      exact Enhanced.map_role_selectConnection calculate p.gated p.lastIdx p.now _
    have count := congrArg List.length roles
    rw [follows.active] at count
    simpa [Enhanced.electSoleCarrier] using count
  have inside : i < (electionStep calculate s p).length := by
    rw [length]
    exact (List.getElem?_eq_some_iff.mp at_i).1
  have at_i' := List.getElem?_eq_getElem inside
  obtain ⟨c₁, found, read⟩ := role_electionStep follows at_i'
  obtain ⟨handover, -, result⟩ := Enhanced.role_electSoleCarrier found p.now
  have roles := Option.some.inj (read.symm.trans result)
  rw [if_pos elected.symm] at roles
  exact isCarrier_of_holds follows at_i' (Prod.mk.inj roles).1

/-- Link `i` took the role at the time `since` and was the carrier after every pass from
then on. -/
def HeldSince (calculate : SrtlaConnection → Nat → ℚ) (start : List SrtlaConnection)
    (passes : List ElectionPass) (i since : Nat) : Prop :=
  ∃ first p rest, passes = first ++ p :: rest ∧ p.now = since ∧
    ∀ mid tail, rest = mid ++ tail →
      IsCarrier (run (electionStep calculate) start (first ++ p :: mid)) i

theorem HeldSince.new {passes : List ElectionPass} {i : Nat}
    (carrier : IsCarrier (run (electionStep calculate) start (passes ++ [p])) i) :
    HeldSince calculate start (passes ++ [p]) i p.now := by
  refine ⟨passes, p, [], rfl, rfl, fun mid tail cut => ?_⟩
  obtain ⟨rfl, -⟩ := List.append_eq_nil_iff.mp cut.symm
  exact carrier

theorem HeldSince.extend {passes : List ElectionPass} {i since : Nat}
    (held : HeldSince calculate start passes i since)
    (carrier : IsCarrier (run (electionStep calculate) start (passes ++ [p])) i) :
    HeldSince calculate start (passes ++ [p]) i since := by
  obtain ⟨first, q, rest, rfl, at_since, all⟩ := held
  refine ⟨first, q, rest ++ [p], by simp, at_since, forall_prefix_concat all ?_⟩
  simpa using carrier

/-- The clock of the carrier says since when it has carried. -/
def ClockIsTrue (calculate : SrtlaConnection → Nat → ℚ) (start : List SrtlaConnection)
    (passes : List ElectionPass) : Prop :=
  ∀ (i : Nat) (c : SrtlaConnection), (run (electionStep calculate) start passes)[i]? = some c →
    c.soleCarrier = true → HeldSince calculate start passes i c.soleCarrierSinceMs

theorem ClockIsTrue.step {passes : List ElectionPass} (truth : ClockIsTrue calculate start passes)
    (follows : p.Follows (run (electionStep calculate) start passes))
    (fresh : p.vacancyIsFresh = true) : ClockIsTrue calculate start (passes ++ [p]) := by
  intro i c' at_i holds
  have carrier : IsCarrier (run (electionStep calculate) start (passes ++ [p])) i := by
    rw [run_append, run_cons, run_nil] at at_i ⊢
    exact isCarrier_of_holds follows at_i holds
  rw [run_append, run_cons, run_nil] at at_i
  have elected := electedCarrier_of_holds follows at_i holds
  obtain ⟨c, found, read⟩ := role_electionStep follows at_i
  obtain ⟨handover, moved, result⟩ := Enhanced.role_electSoleCarrier found p.now
  obtain ⟨c₀, found₀, kept⟩ := follows.role_gated found
  have roles := Option.some.inj (read.symm.trans result)
  rw [if_pos elected.symm] at roles
  have since : c'.soleCarrierSinceMs = _ := (Prod.mk.inj roles).2
  cases before : c.soleCarrier with
  | true =>
    -- the incumbent stays, and so does its clock
    rw [before, if_pos rfl] at since
    have held := truth i c₀ found₀ ((Prod.mk.inj kept).1.symm.trans before)
    rw [since, (Prod.mk.inj kept).2]
    exact held.extend carrier
  | false =>
    -- the role moves, and the clock starts at this pass
    have starts : (handover || decide (c.soleCarrierSinceMs = 0)) = true := by
      cases holder : Enhanced.incumbent p.gated p.now with
      | some inc =>
        obtain ⟨d, at_inc, -, role⟩ := Enhanced.incumbent_isCandidate holder
        have differ : inc ≠ i := by
          rintro rfl
          obtain rfl := Option.some.inj (found.symm.trans at_inc)
          rw [before] at role
          cases role
        rw [moved inc i holder elected differ, Bool.true_or]
      | none =>
        rw [Enhanced.electedCarrier_of_vacant holder] at elected
        simp only [ElectionPass.vacancyIsFresh, holder, elected, Option.isSome_none, Bool.false_or,
          Option.bind_some, found, Option.all_some, beq_iff_eq] at fresh
        simp only [fresh, decide_true, Bool.or_true]
    rw [before, if_neg (by simp), if_pos starts] at since
    rw [since]
    exact HeldSince.new carrier

/-- In a run in which every vacant role falls to a link without a clock, every clock of a
carrier is true. -/
theorem clockIsTrue_run {passes : List ElectionPass}
    (idle : ∀ c ∈ start, c.soleCarrier = false)
    (steps : EachStep (electionStep calculate)
      (fun s p => p.Follows s ∧ p.vacancyIsFresh = true) start passes) :
    ClockIsTrue calculate start passes := by
  induction passes using List.reverseRecOn with
  | nil =>
    intro i c at_i holds
    rw [idle c (List.mem_of_getElem? at_i)] at holds
    cases holds
  | append_singleton passes p ih =>
    obtain ⟨before, last⟩ := (eachStep_append _ _ _ _ _).mp steps
    exact (ih before).step last.1.1 last.1.2

/-- A carrier that is still a candidate keeps the role, or it has had it for the whole hold and
loses it to a link that outclasses it. -/
theorem ClockIsTrue.kept_or_outclassed {passes : List ElectionPass}
    (truth : ClockIsTrue calculate start passes)
    (follows : p.Follows (run (electionStep calculate) start passes)) {i : Nat} {c : SrtlaConnection}
    (carrier : IsCarrier (run (electionStep calculate) start passes) i) (at_i : p.gated[i]? = some c)
    (candidate : c.isCandidate p.now = true) :
    IsCarrier (run (electionStep calculate) start (passes ++ [p])) i ∨
      ∃ (j : Nat) (d : SrtlaConnection) (since : Nat), j ≠ i ∧
        IsCarrier (run (electionStep calculate) start (passes ++ [p])) j ∧
        p.gated[j]? = some d ∧ Enhanced.Outclasses d c ∧
        HeldSince calculate start passes i since ∧ since + Enhanced.soleCarrierMinHoldMs ≤ p.now := by
  -- the carrier of the last pass is the incumbent of this one
  obtain ⟨c₀, found₀, holds₀⟩ := carrier.holds
  obtain ⟨c₁, found₁, kept⟩ := follows.role_gated at_i
  obtain rfl := Option.some.inj (found₀.symm.trans found₁)
  have holds : c.soleCarrier = true := (Prod.mk.inj kept).1.trans holds₀
  have since : c.soleCarrierSinceMs = c₀.soleCarrierSinceMs := (Prod.mk.inj kept).2
  obtain ⟨inc, holder⟩ := Option.isSome_iff_exists.mp (Enhanced.incumbent_isSome at_i candidate holds)
  have same : inc = i := by
    obtain ⟨d, at_inc, -, role⟩ := Enhanced.incumbent_isCandidate holder
    obtain ⟨d₀, found, keptD⟩ := follows.role_gated at_inc
    exact carrier.alone inc d₀ found ((Prod.mk.inj keptD).1.symm.trans role)
  subst same
  rw [run_append, run_cons, run_nil]
  rcases Enhanced.electedCarrier_of_incumbent holder at_i with stays | ⟨j, d, other, elected, at_j, better, served⟩
  · exact Or.inl (isCarrier_electionStep follows stays at_i)
  · refine Or.inr ⟨j, d, c₀.soleCarrierSinceMs, other, isCarrier_electionStep follows elected at_j,
      at_j, better, truth inc c₀ found₀ holds₀, ?_⟩
    rw [← since]
    exact served

end Runs

/-- The role is sticky: a carrier that is still a candidate keeps it, unless another link
measures at least twice better and the carrier was the carrier after every pass of the
last two seconds and more. -/
theorem sole_carrier_sticky (calculate : SrtlaConnection → Nat → ℚ) (start : List SrtlaConnection)
    (passes : List ElectionPass) (idle : ∀ c ∈ start, c.role = (false, 0))
    (steps : EachStep (electionStep calculate)
      (fun s p => p.Follows s ∧ p.vacancyIsFresh = true) start passes) :
    ∀ before p after, passes = before ++ p :: after → ∀ (i : Nat) (c : SrtlaConnection),
      IsCarrier (run (electionStep calculate) start before) i →
      p.gated[i]? = some c → c.isCandidate p.now = true →
      IsCarrier (run (electionStep calculate) start (before ++ [p])) i ∨
        ∃ (j : Nat) (d : SrtlaConnection) (since : Nat), j ≠ i ∧
          IsCarrier (run (electionStep calculate) start (before ++ [p])) j ∧
          p.gated[j]? = some d ∧ Enhanced.Outclasses d c ∧
          HeldSince calculate start before i since ∧ since + Enhanced.soleCarrierMinHoldMs ≤ p.now := by
  rintro before p after rfl i c carrier at_i candidate
  obtain ⟨steps, rest⟩ := (eachStep_append _ _ _ _ _).mp steps
  have follows := rest.1.1
  have truth := clockIsTrue_run (fun c member => (Prod.mk.inj (idle c member)).1) steps
  exact truth.kept_or_outclassed follows carrier at_i candidate

namespace Sample

/-- A link that is late, with the given smoothed round trip; one that is `away` has not been
heard for a minute. -/
def lateLink (connId rttMs now : Nat) (away : Bool) (role : Bool × Nat) : SrtlaConnection :=
  { liveLink connId (if away then now - 60000 else now) with
    weak := true
    rtt :=
      { RttTracker.default with
        kalmanRtt := { KalmanFilter.new KalmanConfig.forRtt with x := rttMs, initialized := true } }
    soleCarrier := role.1
    soleCarrierSinceMs := role.2 }

/-- A pass that finds two late links. -/
def latePass (now : Nat) (first second : SrtlaConnection) : ElectionPass :=
  { links := [first, second], lastIdx := none, now, config := {} }

/-- Two late links that have never carried alone. -/
def lateBond : List SrtlaConnection :=
  [lateLink 1 400 100000 false (false, 0), lateLink 2 600 100000 false (false, 0)]

def lastChallenge : ElectionPass :=
  latePass 102000 (lateLink 1 400 102000 false (true, 100000)) (lateLink 2 80 102000 false (false, 0))

/-- The second link becomes five times faster than the first, which carries. -/
def challenged : List ElectionPass :=
  [latePass 100000 (lateLink 1 400 100000 false (false, 0)) (lateLink 2 600 100000 false (false, 0)),
    latePass 101999 (lateLink 1 400 101999 false (true, 100000)) (lateLink 2 80 101999 false (false, 0)),
    lastChallenge]

/-- The first link carries from 100000 on, is away at 102000, and takes the role back at
103000, when the second is away. -/
def alternating : List ElectionPass :=
  [latePass 100000 (lateLink 1 400 100000 false (false, 0)) (lateLink 2 600 100000 false (false, 0)),
    latePass 102000 (lateLink 1 400 102000 true (true, 100000)) (lateLink 2 600 102000 false (false, 0)),
    latePass 103000 (lateLink 1 400 103000 false (false, 100000))
      (lateLink 2 600 103000 true (true, 102000)),
    latePass 103001 (lateLink 1 400 103001 false (true, 100000))
      (lateLink 2 80 103001 false (false, 102000))]

/-- The time of each pass, and who holds the role after it. -/
def carriers (passes : List ElectionPass) : List (Nat × List Bool) :=
  passes.map fun p => (p.now, (electionStep (fun _ _ => 1) [] p).map (·.soleCarrier))

end Sample

/-- The faster link takes the role when the hold is over. -/
theorem sole_carrier_sticky_challenged :
    Sample.carriers Sample.challenged =
        [(100000, [true, false]), (101999, [true, false]), (102000, [false, true])] ∧
      ∃ since, HeldSince (fun _ _ => 1) Sample.lateBond (Sample.challenged.take 2) 0 since ∧
        since + 2000 ≤ 102000 := by
  have idle : ∀ c ∈ Sample.lateBond, c.role = (false, 0) := by decide +kernel
  have steps : EachStep (electionStep fun _ _ => 1)
      (fun s p => p.Follows s ∧ p.vacancyIsFresh = true) Sample.lateBond Sample.challenged := by
    decide +kernel
  have carrier : IsCarrier (run (electionStep fun _ _ => 1) Sample.lateBond
      (Sample.challenged.take 2)) 0 := by
    decide +kernel
  have moved : ¬ IsCarrier (run (electionStep fun _ _ => 1) Sample.lateBond Sample.challenged) 0 := by
    decide +kernel
  refine ⟨by decide +kernel, ?_⟩
  rcases sole_carrier_sticky (fun _ _ => 1) Sample.lateBond Sample.challenged idle steps
      (Sample.challenged.take 2) Sample.lastChallenge [] rfl 0 _ carrier
      (List.getElem?_eq_getElem (by decide +kernel)) (by decide +kernel) with stays | ⟨j, d, since, moves⟩
  · exact absurd stays moved
  · exact ⟨since, moves.2.2.2.2⟩

/-- The first link has carried for a millisecond, and the second was the carrier a second ago,
when it takes the role. -/
theorem sole_carrier_yields_early :
    (∀ c ∈ Sample.lateBond, c.role = (false, 0)) ∧
      EachStep (electionStep fun _ _ => 1) (fun s p => p.Follows s) Sample.lateBond
        Sample.alternating ∧
      Sample.alternating.getLast?.map (fun p => p.gated.map (·.isCandidate p.now)) =
        some [true, true] ∧
      Sample.carriers Sample.alternating =
        [(100000, [true, false]), (102000, [false, true]), (103000, [true, false]),
          (103001, [false, true])] := by
  decide +kernel

end SrtlaSend
