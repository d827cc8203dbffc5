import SrtlaSend.Lib.TrialPause
import SrtlaSend.Properties.SoftCap
import Mathlib.Data.List.Chain
import Mathlib.Tactic.Positivity

/-!
# Cuts that do not help

While the loss of a link stays high and does not fall, the efficacy test of the backoff is
a trial of three cuts followed by a pause of thirty ticks, with the load gate deciding at
each tick whether a cut may be made. A tick that the gate holds out of the backoff opens a
new trial.
-/

namespace SrtlaSend

open MachineInt Runs TrialPause

namespace LinkCongestionState

/-- A tick of a run, with the state it was taken in. -/
structure TickRecord where
  before : LinkCongestionState
  observedBps : Nat
  nowMs : Nat

namespace TickRecord

variable (exp : ℚ → ℚ) (t : TickRecord)

def after : LinkCongestionState := t.before.tick exp t.observedBps t.nowMs

/-- The tick ends in `BackingOff`. -/
def backsOff : Bool := decide ((t.after exp).state = .backingOff)

def lossPm : Nat := t.before.lossAt t.nowMs

def loaded : Bool := t.before.loadedAt t.observedBps

end TickRecord

/-- The ticks of a run, in order. -/
def ticks (exp : ℚ → ℚ) (s : LinkCongestionState) (ops : List CcOp) : List TickRecord :=
  (history (apply exp) s ops).filterMap fun x =>
    match x.2 with
    | .tick observedBps nowMs => some ⟨x.1, observedBps, nowMs⟩
    | _ => none

/-- Consecutive ticks of links with round trips whose loss stays above the threshold and
never falls below 80% of what it was. -/
structure FlatLoss (exp : ℚ → ℚ) (ts : List TickRecord) : Prop where
  measured : ∀ t ∈ ts, (t.after exp).state ≠ .bootstrap
  high : ∀ t ∈ ts, lossBackoffPermille < t.lossPm
  flat : ts.Pairwise fun a b => a.lossPm * 800 ≤ b.lossPm * 1000

/-! ### Between ticks -/

theorem efficacy_recordRtt (s : LinkCongestionState) (rttMs : ℚ) (nowMs : Nat) :
    (s.recordRtt rttMs nowMs).efficacy = s.efficacy := by
  simp only [recordRtt, updateRttMin]
  split_ifs <;> rfl

theorem efficacy_observeTraffic (s : LinkCongestionState) (bytesSentTotal : Nat) (nakTotal : Int)
    (nowMs : Nat) : (s.observeTraffic bytesSentTotal nakTotal nowMs).efficacy = s.efficacy := by
  simp only [observeTraffic]
  split
  · rfl
  · split <;> rfl

/-- Each tick finds the efficacy test as the one before it left it. -/
theorem ticks_follow (exp : ℚ → ℚ) (s : LinkCongestionState) (ops : List CcOp) :
    EachStep (fun _ t => (t.after exp).efficacy) (fun e t => t.before.efficacy = e) s.efficacy
      (ticks exp s ops) := by
  -- only a tick judges; the other calls leave the test alone
  induction ops generalizing s with
  | nil => trivial
  | cons op ops ih =>
    cases op with
    | tick observedBps nowMs => exact ⟨rfl, ih _⟩
    | recordRtt rttMs nowMs =>
      have rest := ih (s.recordRtt rttMs nowMs)
      rw [efficacy_recordRtt] at rest
      exact rest
    | observeTraffic bytesSentTotal nakTotal nowMs =>
      have rest := ih (s.observeTraffic bytesSentTotal nakTotal nowMs)
      rw [efficacy_observeTraffic] at rest
      exact rest
    | recordLoss sent lost nowMs => exact ih (s.recordLoss sent lost nowMs)

/-! ### The efficacy test as a trial -/

/-- The phase of the trial the efficacy test is in. -/
def Efficacy.In (e : Efficacy) : Phase → Prop
  | .free => e.uncongestive = false ∧ e.state ≠ .backingOff
  | .trying done => e.uncongestive = false ∧ e.state = .backingOff ∧ done = e.ticks + 1
  | .paused steps => e.uncongestive = true ∧ e.state ≠ .backingOff ∧ steps = e.heldTicks + 1

theorem efficacy_moveTo (s : LinkCongestionState) (next : CcState) (sane : Nat) :
    (s.moveTo next sane).efficacy = { s.efficacy with state := next } := by
  have armed : (s.armFastRecovery next).efficacy = s.efficacy := by
    simp only [armFastRecovery]
    split <;> rfl
  rw [← armed]
  rfl

/-- What a tick at a high loss leaves of the efficacy test. -/
theorem efficacy_after {exp : ℚ → ℚ} {t : TickRecord}
    (measured : (t.after exp).state ≠ .bootstrap) (high : lossBackoffPermille < t.lossPm) :
    (t.after exp).efficacy =
        { t.before.efficacy.judge true t.lossPm with state := (t.after exp).state } ∧
      ((t.after exp).state = .backingOff ↔
        t.loaded = true ∧ (t.before.efficacy.judge true t.lossPm).uncongestive = false) := by
  -- a link without round trips stays in bootstrap
  have ewma : t.before.rttEwmaMs ≠ 0 := by
    intro unmeasured
    rw [TickRecord.after, tick_of_unmeasured exp _ _ unmeasured] at measured
    exact measured rfl
  obtain ⟨judged, efficacy, -, eq⟩ := tick_of_measured exp t.before t.observedBps t.nowMs ewma
  have lossHigh : decide (t.before.lossAt t.nowMs > lossBackoffPermille) = true :=
    decide_eq_true high
  rw [lossHigh] at efficacy eq
  have after : t.after exp = judged.moveTo (judged.nextState true t.loaded)
      (t.before.saneObserved t.observedBps) := eq
  have state : (t.after exp).state = judged.nextState true t.loaded := by rw [after]; rfl
  have verdict : judged.lossUncongestive =
      (t.before.efficacy.judge true t.lossPm).uncongestive :=
    congrArg Efficacy.uncongestive efficacy
  refine ⟨?_, ?_⟩
  · rw [state, after, efficacy_moveTo, efficacy]
    rfl
  · rw [state, nextState, verdict]
    simp only [Bool.true_and]
    -- at a high loss only the verdict and the load gate decide
    by_cases cut : (t.loaded && !(t.before.efficacy.judge true t.lossPm).uncongestive) = true
    · rw [if_pos cut]
      simpa using cut
    · rw [if_neg cut]
      have no : ¬ (t.loaded = true ∧
          (t.before.efficacy.judge true t.lossPm).uncongestive = false) := by
        simpa using cut
      refine ⟨fun reached => ?_, fun yes => absurd yes no⟩
      split_ifs at reached

namespace Efficacy

variable {e : Efficacy} (lossPm : Nat)

theorem judge_free (free : e.In .free) :
    e.judge true lossPm = { e with ticks := 0, entryPm := lossPm } := by
  simp [judge, free.1, free.2]

theorem judge_trying_more {done : Nat} (trying : e.In (.trying done)) (more : done < 3) :
    e.judge true lossPm = { e with ticks := e.ticks + 1 } := by
  have count : e.ticks + 1 < backoffEfficacyTicks := by
    have := trying.2.2
    simp only [backoffEfficacyTicks]
    omega
  simp [judge, trying.1, trying.2.1, count]

/-- Three cuts against a loss that did not fall: the loss is not ours. -/
theorem judge_trying_done {done : Nat} (trying : e.In (.trying done)) (all : ¬ done < 3)
    (flat : e.entryPm * 800 ≤ lossPm * 1000) :
    e.judge true lossPm =
      { e with ticks := e.ticks + 1, uncongestive := true, heldTicks := 0 } := by
  have count : ¬ e.ticks + 1 < backoffEfficacyTicks := by
    have := trying.2.2
    simp only [backoffEfficacyTicks]
    omega
  have improved : ¬ lossPm * 1000 < e.entryPm * backoffEfficacyImprovementPermille :=
    not_lt.mpr flat
  simp [judge, trying.1, trying.2.1, count, improved]

theorem judge_paused_more {steps : Nat} (paused : e.In (.paused steps)) (more : steps < 30) :
    e.judge true lossPm = { e with heldTicks := e.heldTicks + 1 } := by
  have count : ¬ lossUncongestiveRetestTicks ≤ e.heldTicks + 1 := by
    have := paused.2.2
    simp only [lossUncongestiveRetestTicks]
    omega
  simp [judge, paused.1, count]

/-- The pause is over: a new trial against the loss of this tick. -/
theorem judge_paused_done {steps : Nat} (paused : e.In (.paused steps)) (all : ¬ steps < 30) :
    e.judge true lossPm =
      { e with uncongestive := false, heldTicks := 0, ticks := 0, entryPm := lossPm } := by
  have count : lossUncongestiveRetestTicks ≤ e.heldTicks + 1 := by
    have := paused.2.2
    simp only [lossUncongestiveRetestTicks]
    omega
  simp [judge, paused.1, count]

end Efficacy

/-- The efficacy test is in a phase of the trial, and a trial under way is judged against a
loss that none of the ticks to come falls short of. -/
structure Tracks (e : Efficacy) (p : Phase) (ts : List TickRecord) : Prop where
  inPhase : e.In p
  valid : Valid 3 30 p
  entry : (∃ done, p = .trying done) → ∀ t ∈ ts, e.entryPm * 800 ≤ t.lossPm * 1000

/-- One tick is one step of the trial, with the load gate as its gate. -/
theorem tracks_tick {exp : ℚ → ℚ} {t : TickRecord} {ts : List TickRecord} {p : Phase}
    (flat : FlatLoss exp (t :: ts)) (tracks : Tracks t.before.efficacy p (t :: ts)) :
    Tracks (t.after exp).efficacy (next 3 30 p t.loaded).1 ts ∧
      t.backsOff exp = (next 3 30 p t.loaded).2 := by
  obtain ⟨inPhase, valid, entry⟩ := tracks
  have validNext := valid_next (by decide) (by decide) valid t.loaded
  obtain ⟨efficacy, cut⟩ := efficacy_after (flat.measured t List.mem_cons_self)
    (flat.high t List.mem_cons_self)
  have own : ∀ t' ∈ ts, t.lossPm * 800 ≤ t'.lossPm * 1000 := (List.pairwise_cons.mp flat.flat).1
  rw [efficacy, TickRecord.backsOff]
  -- a tick that opens or reopens the trial cuts exactly when the link is loaded
  have opens : ∀ ticks held : Nat,
      t.before.efficacy.judge true t.lossPm =
        { t.before.efficacy with
          uncongestive := false, heldTicks := held, ticks := ticks, entryPm := t.lossPm } →
      ticks = 0 →
      next 3 30 p t.loaded = (if t.loaded then (.trying 1, true) else (.free, false)) →
      Tracks { t.before.efficacy.judge true t.lossPm with state := (t.after exp).state }
          (next 3 30 p t.loaded).1 ts ∧
        decide ((t.after exp).state = .backingOff) = (next 3 30 p t.loaded).2 := by
    intro ticks held judged zero step
    rw [judged] at cut ⊢
    simp only [and_true] at cut
    rw [step] at validNext ⊢
    by_cases loaded : t.loaded = true
    · have backs := cut.mpr loaded
      rw [if_pos loaded] at validNext ⊢
      exact ⟨⟨⟨rfl, backs, by rw [zero]⟩, validNext, fun _ => own⟩, decide_eq_true backs⟩
    · have holds : (t.after exp).state ≠ .backingOff := fun backs => loaded (cut.mp backs)
      rw [if_neg loaded] at validNext ⊢
      exact ⟨⟨⟨rfl, holds⟩, validNext, by rintro ⟨_, ⟨⟩⟩⟩, decide_eq_false holds⟩
  -- one case per phase of the trial
  cases p with
  | free =>
    have judged := Efficacy.judge_free t.lossPm inPhase
    have same : t.before.efficacy.uncongestive = false := inPhase.1
    refine opens 0 t.before.efficacy.heldTicks ?_ rfl rfl
    rw [judged, same]
  | trying done =>
    -- the trial goes on until three cuts are made
    by_cases more : done < 3
    · have judged := Efficacy.judge_trying_more t.lossPm inPhase more
      rw [judged] at cut ⊢
      have unlatched : t.before.efficacy.uncongestive = false := inPhase.1
      simp only [unlatched, and_true] at cut
      simp only [next, more, if_true] at validNext ⊢
      by_cases loaded : t.loaded = true
      · have backs := cut.mpr loaded
        rw [if_pos loaded] at validNext ⊢
        refine ⟨⟨⟨unlatched, backs, ?_⟩, validNext, fun _ t' member => ?_⟩, decide_eq_true backs⟩
        · rw [inPhase.2.2]
        · exact entry ⟨done, rfl⟩ t' (List.mem_cons_of_mem t member)
      · -- the load gate ends the trial
        have holds : (t.after exp).state ≠ .backingOff := fun backs => loaded (cut.mp backs)
        rw [if_neg loaded] at validNext ⊢
        exact ⟨⟨⟨unlatched, holds⟩, validNext, by rintro ⟨_, ⟨⟩⟩⟩, decide_eq_false holds⟩
    · -- three cuts did not help: the pause begins
      have judged := Efficacy.judge_trying_done t.lossPm inPhase more
        (entry ⟨done, rfl⟩ t List.mem_cons_self)
      rw [judged] at cut ⊢
      have holds : (t.after exp).state ≠ .backingOff := by
        intro backs
        cases (cut.mp backs).2
      simp only [next, more, if_false] at validNext ⊢
      exact ⟨⟨⟨rfl, holds, rfl⟩, validNext, by rintro ⟨_, ⟨⟩⟩⟩, decide_eq_false holds⟩
  | paused steps =>
    -- the pause lasts thirty ticks, whatever the load
    by_cases more : steps < 30
    · have judged := Efficacy.judge_paused_more t.lossPm inPhase more
      rw [judged] at cut ⊢
      have latched : t.before.efficacy.uncongestive = true := inPhase.1
      have holds : (t.after exp).state ≠ .backingOff := by
        intro backs
        have := (cut.mp backs).2
        rw [latched] at this
        cases this
      simp only [next, more, if_true] at validNext ⊢
      refine ⟨⟨⟨latched, holds, ?_⟩, validNext, by rintro ⟨_, ⟨⟩⟩⟩, decide_eq_false holds⟩
      rw [inPhase.2.2]
    · -- the pause is over, and the loss of this tick opens a new trial
      have judged := Efficacy.judge_paused_done t.lossPm inPhase more
      refine opens 0 0 judged rfl ?_
      simp only [next, more, if_false]

theorem FlatLoss.tail {exp : ℚ → ℚ} {t : TickRecord} {ts : List TickRecord}
    (flat : FlatLoss exp (t :: ts)) : FlatLoss exp ts where
  measured t' member := flat.measured t' (List.mem_cons_of_mem t member)
  high t' member := flat.high t' (List.mem_cons_of_mem t member)
  flat := (List.pairwise_cons.mp flat.flat).2

/-- The cuts of a stretch are the applications of the trial. -/
theorem backsOff_eq_applied {exp : ℚ → ℚ} {e : Efficacy} {p : Phase} {ts : List TickRecord}
    (follow : EachStep (fun _ t => (t.after exp).efficacy) (fun e t => t.before.efficacy = e) e ts)
    (flat : FlatLoss exp ts) (tracks : Tracks e p ts) :
    ts.map (TickRecord.backsOff exp) = applied 3 30 p (ts.map TickRecord.loaded) := by
  induction ts generalizing e p with
  | nil => rfl
  | cons t ts ih =>
    obtain ⟨rfl, rest⟩ := follow
    obtain ⟨tracks', cut⟩ := tracks_tick flat tracks
    rw [List.map_cons, List.map_cons, applied, cut, ih rest flat.tail tracks']

/-! ### Runs -/

/-- Before the first round trip no verdict about the loss is held. -/
structure Fresh (s : LinkCongestionState) : Prop where
  nonneg : 0 ≤ s.rttEwmaMs
  verdict : s.rttEwmaMs = 0 → s.lossUncongestive = false

theorem rttEwmaMs_recordRtt {s : LinkCongestionState} (nonneg : 0 ≤ s.rttEwmaMs) {rttMs : ℚ}
    (positive : 0 < rttMs) (nowMs : Nat) : 0 < (s.recordRtt rttMs nowMs).rttEwmaMs := by
  have kept : ∀ s' : LinkCongestionState, (s'.updateRttMin rttMs nowMs).rttEwmaMs = s'.rttEwmaMs := by
    intro s'
    simp only [updateRttMin]
    split_ifs <;> rfl
  have weight : 0 < oldWeight (nowMs - s.lastRttUpdateMs) := by
    simp only [oldWeight]
    split_ifs <;> norm_num
  simp only [recordRtt, if_neg (not_le.mpr positive)]
  split_ifs
  · rw [kept]
    exact positive
  · simp only [kept]
    positivity

/-- A tick leaves the average round trip alone. -/
theorem rttEwmaMs_tick (exp : ℚ → ℚ) (s : LinkCongestionState) (observedBps nowMs : Nat) :
    (s.tick exp observedBps nowMs).rttEwmaMs = s.rttEwmaMs := by
  -- the round-trip average moves with samples only, so every part of a tick leaves it
  have average : ∀ (s : LinkCongestionState) lossPm,
      (s.updateLossEwma exp lossPm nowMs).rttEwmaMs = s.rttEwmaMs := by
    intro s lossPm
    obtain ⟨average, last, since, degraded, eq⟩ := updateLossEwma_eq exp s lossPm nowMs
    rw [eq]
  have seeds : ∀ (s : LinkCongestionState) sane,
      (s.seedTarget sane).rttEwmaMs = s.rttEwmaMs := by
    intro s sane
    simp only [seedTarget]
    split <;> rfl
  have judges : ∀ (s : LinkCongestionState) lossHigh lossPm,
      (s.updateBackoffEfficacy lossHigh lossPm).rttEwmaMs = s.rttEwmaMs := by
    intro s lossHigh lossPm
    simp only [updateBackoffEfficacy]
    split_ifs <;> rfl
  have moves : ∀ (s : LinkCongestionState) next sane,
      (s.moveTo next sane).rttEwmaMs = s.rttEwmaMs := by
    intro s next sane
    change (s.armFastRecovery next).rttEwmaMs = s.rttEwmaMs
    simp only [armFastRecovery]
    split <;> rfl
  rw [tick]
  split
  · rfl
  · rw [tickMeasured, moves, judges, seeds, average]
    rfl

theorem fresh_apply {exp : ℚ → ℚ} {s : LinkCongestionState} (fresh : Fresh s) (op : CcOp) :
    Fresh (s.apply exp op) := by
  -- neither the verdict nor the average moved
  have unlatched : ∀ {s' : LinkCongestionState}, s'.efficacy = s.efficacy →
      s'.rttEwmaMs = s.rttEwmaMs → Fresh s' := by
    intro s' efficacy ewma
    refine ⟨by rw [ewma]; exact fresh.nonneg, fun zero => ?_⟩
    rw [ewma] at zero
    exact (congrArg Efficacy.uncongestive efficacy).trans (fresh.verdict zero)
  cases op with
  | recordRtt rttMs nowMs =>
    rcases le_or_gt rttMs 0 with none | positive
    · have same : s.recordRtt rttMs nowMs = s := by rw [recordRtt, if_pos none]
      rw [apply, same]
      exact fresh
    · -- a first round trip makes the average positive for good
      have ewma := rttEwmaMs_recordRtt fresh.nonneg positive nowMs
      exact ⟨ewma.le, fun zero => absurd zero ewma.ne'⟩
  | observeTraffic bytesSentTotal nakTotal nowMs =>
    refine unlatched (efficacy_observeTraffic s bytesSentTotal nakTotal nowMs) ?_
    simp only [apply, observeTraffic]
    split
    · rfl
    · split <;> rfl
  | recordLoss sent lost nowMs => exact unlatched rfl rfl
  | tick observedBps nowMs =>
    refine ⟨by rw [apply, rttEwmaMs_tick]; exact fresh.nonneg, fun zero => ?_⟩
    rw [apply, rttEwmaMs_tick] at zero
    rw [apply, tick_of_unmeasured exp observedBps nowMs zero]
    exact fresh.verdict zero

theorem fresh_run (exp : ℚ → ℚ) (ops : List CcOp) : Fresh (run (apply exp) default ops) :=
  run_invariant Fresh (fun _ op fresh => fresh_apply fresh op) ⟨le_rfl, fun _ => rfl⟩ ops

/-- A tick with little loss ends every trial and every pause. -/
theorem free_of_quiet {exp : ℚ → ℚ} {s : LinkCongestionState} {observedBps nowMs : Nat}
    (fresh : Fresh s) (quiet : s.lossAt nowMs ≤ lossBackoffPermille) :
    (s.tick exp observedBps nowMs).efficacy.In .free := by
  by_cases measured : s.rttEwmaMs = 0
  · -- bootstrap: the test is not looked at, and nothing is latched
    rw [tick_of_unmeasured exp observedBps nowMs measured]
    exact ⟨fresh.verdict measured, by simp [efficacy]⟩
  · -- a low loss clears the verdict and never backs off
    obtain ⟨judged, efficacy, -, eq⟩ := tick_of_measured exp s observedBps nowMs measured
    have low : decide (s.lossAt nowMs > lossBackoffPermille) = false :=
      decide_eq_false (not_lt.mpr quiet)
    rw [low] at efficacy eq
    rw [eq, efficacy_moveTo, efficacy]
    refine ⟨rfl, ?_⟩
    simp only [nextState, Bool.false_and, Bool.false_eq_true, if_false]
    split_ifs <;> simp

/-- The cuts of a part of a stretch, from the phase the part before it ends in. -/
theorem backsOff_window {exp : ℚ → ℚ} {p : Phase} (first window rest : List TickRecord)
    (cuts : (first ++ (window ++ rest)).map (TickRecord.backsOff exp) =
      applied 3 30 p ((first ++ (window ++ rest)).map TickRecord.loaded)) :
    window.map (TickRecord.backsOff exp) =
        applied 3 30 (phaseAfter 3 30 p (first.map TickRecord.loaded))
          (window.map TickRecord.loaded) ∧
      rest.map (TickRecord.backsOff exp) =
        applied 3 30 (phaseAfter 3 30 p ((first ++ window).map TickRecord.loaded))
          (rest.map TickRecord.loaded) := by
  simp only [List.map_append, applied_append] at cuts
  -- the parts have the lengths of their gates
  obtain ⟨-, cuts⟩ := List.append_inj cuts (by simp [length_applied])
  obtain ⟨inWindow, after⟩ := List.append_inj cuts (by simp [length_applied])
  refine ⟨inWindow, ?_⟩
  rw [List.map_append, phaseAfter, List.foldl_append]
  exact after

/-- A stretch of ticks with a high loss that does not fall, after a tick with little loss.
Three cuts in a row are followed by thirty ticks without one; and 33 consecutive ticks hold at
most three cuts, if the load gate holds none of them that follows a cut among them out of the
backoff. -/
theorem futile_cuts_bounded (exp : ℚ → ℚ) (before : List CcOp) (observedBps nowMs : Nat)
    (stretch : List CcOp) (ts : List TickRecord)
    (quiet : (run (apply exp) default before).lossAt nowMs ≤ lossBackoffPermille)
    (ticks_eq : ts =
      ticks exp ((run (apply exp) default before).tick exp observedBps nowMs) stretch)
    (flat : FlatLoss exp ts) :
    (∀ first a b c rest, ts = first ++ a :: b :: c :: rest →
      a.backsOff exp = true → b.backsOff exp = true → c.backsOff exp = true →
      ∀ t ∈ rest.take 30, t.backsOff exp = false) ∧
    (∀ first window rest, ts = first ++ (window ++ rest) → window.length = 33 →
      (window.IsChain fun a b => a.backsOff exp = true → b.loaded = true) →
        (window.filter (TickRecord.backsOff exp)).length ≤ 3) := by
  have follow := ticks_follow exp ((run (apply exp) default before).tick exp observedBps nowMs)
    stretch
  rw [← ticks_eq] at follow
  have tracks : Tracks ((run (apply exp) default before).tick exp observedBps nowMs).efficacy
      .free ts := ⟨free_of_quiet (fresh_run exp before) quiet, trivial, nofun⟩
  -- under flat loss the ticks that cut are those that the trial and the pause let through
  have cuts := backsOff_eq_applied follow flat tracks
  constructor
  · rintro first a b c rest rfl cutA cutB cutC t member
    obtain ⟨trial, after⟩ := backsOff_window first [a, b, c] rest cuts
    have all : ∀ o ∈ applied 3 30 (phaseAfter 3 30 .free (first.map TickRecord.loaded))
        ([a, b, c].map TickRecord.loaded), o = true := by
      rw [← trial]
      simp [cutA, cutB, cutC]
    have quietAfter : ∀ o ∈ (applied 3 30 (phaseAfter 3 30 .free
        (first.map TickRecord.loaded ++ [a, b, c].map TickRecord.loaded))
          (rest.map TickRecord.loaded)).take 30, o = false :=
      pause_after_trial (by decide) (by decide) trivial rfl all
    rw [← List.map_append, ← after, ← List.map_take] at quietAfter
    exact quietAfter (t.backsOff exp) (List.mem_map_of_mem member)
  · rintro first window rest rfl size loaded
    have trial := (backsOff_window first window rest cuts).1
    rcases window with _ | ⟨t, window⟩
    · cases size
    -- a cut is followed by load, so no trial of the window is cut short
    have unbroken : Unbroken 3 30
        (next 3 30 (phaseAfter 3 30 .free (first.map TickRecord.loaded)) t.loaded).1
          (window.map TickRecord.loaded) := by
      refine unbroken_tail ?_
      rw [← List.map_cons, ← trial, List.zip_map']
      exact (List.isChain_map _).mpr loaded
    have count := count_window_le (by decide) (by decide) (p := .free) trivial unbroken
      (by rw [← List.map_cons, List.length_map, size])
    rw [← List.map_cons, ← trial, List.count_eq_countP, List.countP_map] at count
    rw [← List.countP_eq_length_filter]
    simpa [Function.comp_def] using count

/-- A tenth of the traffic lost at every tick, while the rate swings about the load gate. -/
def swinging (n : Nat) : List CcOp :=
  (List.range n).flatMap fun i =>
    [.recordLoss 1000 100 (3000 + 2000 * i),
     .tick (if i % 2 = 0 then 700000 else 0) (3000 + 2000 * i)]

/-- The same loss on a link that stays loaded. -/
def steady (n : Nat) : List CcOp :=
  (List.range n).flatMap fun i =>
    [.recordLoss 1000 100 (3000 + 2000 * i), .tick 2000000 (3000 + 2000 * i)]

/-- A loaded link: three cuts, and thirty ticks that hold. -/
theorem futile_cuts_bounded_steady :
    let ts := ticks expApprox
      ((run (apply expApprox) default [.recordRtt 50 1000]).tick expApprox 2000000 1000) (steady 33)
    (∀ t ∈ (ts.drop 3).take 30, t.backsOff expApprox = false) ∧
      (ts.filter (TickRecord.backsOff expApprox)).length ≤ 3 := by
  intro ts
  have bounded := futile_cuts_bounded expApprox [.recordRtt 50 1000] 2000000 1000 (steady 33) ts
    (by decide +kernel) rfl ⟨by decide +kernel, by decide +kernel, by decide +kernel⟩
  have parts : ∃ a b c, ts = [] ++ a :: b :: c :: ts.drop 3 ∧ a.backsOff expApprox = true ∧
      b.backsOff expApprox = true ∧ c.backsOff expApprox = true :=
    ⟨_, _, _, rfl, by decide +kernel, by decide +kernel, by decide +kernel⟩
  obtain ⟨a, b, c, cut, cutA, cutB, cutC⟩ := parts
  refine ⟨bounded.1 [] a b c _ cut cutA cutB cutC, ?_⟩
  exact bounded.2 [] ts [] (List.append_nil ts).symm (by decide +kernel) (by decide +kernel)

/-- A tick that the load gate holds out of the backoff starts the trial again: where every
other tick is loaded, 17 of 33 ticks cut. -/
theorem gate_reopens_trial :
    ¬ ∀ (exp : ℚ → ℚ) (before : List CcOp) (observedBps nowMs : Nat) (stretch : List CcOp)
      (ts : List TickRecord),
      (run (apply exp) default before).lossAt nowMs ≤ lossBackoffPermille →
      ts = ticks exp ((run (apply exp) default before).tick exp observedBps nowMs) stretch →
      FlatLoss exp ts →
      ∀ first window rest, ts = first ++ (window ++ rest) → window.length = 33 →
        (window.filter (TickRecord.backsOff exp)).length ≤ 3 := by
  intro bounded
  let ts := ticks expApprox
    ((run (apply expApprox) default [.recordRtt 50 1000]).tick expApprox 2000000 1000) (swinging 33)
  have few := bounded expApprox [.recordRtt 50 1000] 2000000 1000 (swinging 33) ts
    (by decide +kernel) rfl ⟨by decide +kernel, by decide +kernel, by decide +kernel⟩
    [] ts [] (List.append_nil ts).symm (by decide +kernel)
  exact absurd few (by decide +kernel)

end LinkCongestionState

end SrtlaSend
