import SrtlaSend.Lib.Run
import SrtlaSend.Core.LinkCc
import Mathlib.Data.List.TakeWhile

/-!
# The loss window over runs

The sums the controller of a link keeps by adding on a push and subtracting on an
eviction are the sums over the samples of the last second, for every interleaving of the
calls that touch the window.
-/

namespace SrtlaSend

open MachineInt Runs

/-- A call on the controller of one link. -/
inductive CcOp where
  | recordRtt (rttMs : ℚ) (nowMs : Nat)
  | observeTraffic (bytesSentTotal : Nat) (nakTotal : Int) (nowMs : Nat)
  | recordLoss (sent lost nowMs : Nat)
  | tick (observedBps nowMs : Nat)

namespace LinkCongestionState

def apply (exp : ℚ → ℚ) (s : LinkCongestionState) : CcOp → LinkCongestionState
  | .recordRtt rttMs nowMs => s.recordRtt rttMs nowMs
  | .observeTraffic bytesSentTotal nakTotal nowMs => s.observeTraffic bytesSentTotal nakTotal nowMs
  | .recordLoss sent lost nowMs => s.recordLoss sent lost nowMs
  | .tick observedBps nowMs => s.tick exp observedBps nowMs

/-- The samples a call records. -/
def records (s : LinkCongestionState) : CcOp → List LossSample
  | .recordLoss sent lost nowMs => [⟨nowMs, lost, sent⟩]
  | .observeTraffic bytesSentTotal nakTotal nowMs =>
    if s.trafficBaselineSet then
      match s.trafficSample bytesSentTotal nakTotal with
      | some (sent, lost) => [⟨nowMs, lost, sent⟩]
      | none => []
    else []
  | .recordRtt _ _ => []
  | .tick _ _ => []

/-- The time at which a call looks at the window: that of a tick or of a recorded sample. -/
def windowTime (s : LinkCongestionState) : CcOp → Option Nat
  | .recordRtt _ _ => none
  | .observeTraffic bytesSentTotal nakTotal nowMs =>
    if s.records (.observeTraffic bytesSentTotal nakTotal nowMs) = [] then none else some nowMs
  | .recordLoss _ _ nowMs => some nowMs
  | .tick _ nowMs => some nowMs

/-- All samples recorded in a run. -/
def recorded (exp : ℚ → ℚ) (s : LinkCongestionState) (ops : List CcOp) : List LossSample :=
  (history (apply exp) s ops).flatMap fun x => x.1.records x.2

end LinkCongestionState

/-- The clock of a call that touches the window. -/
def CcOp.clock : CcOp → Option Nat
  | .recordRtt _ _ => none
  | .observeTraffic _ _ nowMs => some nowMs
  | .recordLoss _ _ nowMs => some nowMs
  | .tick _ nowMs => some nowMs

/-- The clock of the calls does not go back. -/
def ClockForward (ops : List CcOp) : Prop := (ops.filterMap CcOp.clock).Pairwise (· ≤ ·)

instance (ops : List CcOp) : Decidable (ClockForward ops) :=
  inferInstanceAs (Decidable ((ops.filterMap CcOp.clock).Pairwise (· ≤ ·)))

/-- Packets sent, over a list of samples. -/
def sumSent (samples : List LossSample) : Nat := (samples.map (·.sent)).sum

/-- Packets lost, over a list of samples. -/
def sumLost (samples : List LossSample) : Nat := (samples.map (·.lost)).sum

@[simp] theorem sumSent_append (xs ys : List LossSample) :
    sumSent (xs ++ ys) = sumSent xs + sumSent ys := by simp [sumSent]

@[simp] theorem sumLost_append (xs ys : List LossSample) :
    sumLost (xs ++ ys) = sumLost xs + sumLost ys := by simp [sumLost]

/-- The samples of the last second. -/
def recentSamples (nowMs : Nat) (samples : List LossSample) : List LossSample :=
  samples.filter fun x => decide (nowMs - lossWindowMs ≤ x.tsMs)

namespace LinkCongestionState

/-! ### Eviction -/

/-- The eviction loop keeps the sums exact, and stops at the first sample of the window. -/
theorem evictLoop_eq (cutoff : Nat) (samples : List LossSample) :
    evictLoop cutoff samples (sumSent samples) (sumLost samples) =
      (samples.dropWhile fun x => decide (x.tsMs < cutoff),
        sumSent (samples.dropWhile fun x => decide (x.tsMs < cutoff)),
        sumLost (samples.dropWhile fun x => decide (x.tsMs < cutoff))) := by
  induction samples with
  | nil => rfl
  -- the saturating subtractions of the loop are exact: the front is part of the sums
  | cons front rest ih =>
    have sent : sumSent (front :: rest) - front.sent = sumSent rest := by
      simp [sumSent]
    have lost : sumLost (front :: rest) - front.lost = sumLost rest := by
      simp [sumLost]
    by_cases old : front.tsMs < cutoff
    · rw [evictLoop, if_pos old, sent, lost, ih, List.dropWhile_cons_of_pos (by simpa using old)]
    · rw [evictLoop, if_neg old, List.dropWhile_cons_of_neg (by simpa using old)]

/-- With the oldest sample first, dropping from the front is filtering. -/
theorem dropWhile_eq_recent {nowMs : Nat} {samples : List LossSample}
    (sorted : samples.Pairwise fun x y => x.tsMs ≤ y.tsMs) :
    samples.dropWhile (fun x => decide (x.tsMs < nowMs - lossWindowMs)) =
      recentSamples nowMs samples := by
  induction samples with
  | nil => rfl
  | cons front rest ih =>
    obtain ⟨first, sorted⟩ := List.pairwise_cons.mp sorted
    by_cases old : front.tsMs < nowMs - lossWindowMs
    · rw [List.dropWhile_cons_of_pos (by simpa using old), ih sorted, recentSamples, recentSamples,
        List.filter_cons_of_neg (by rw [decide_eq_true_eq]; omega)]
    · -- the first sample of the window: all later ones are in it
      rw [List.dropWhile_cons_of_neg (by simpa using old), recentSamples,
        List.filter_eq_self.mpr]
      intro x member
      have later : front.tsMs ≤ x.tsMs := by
        rcases List.mem_cons.mp member with rfl | member
        · exact le_rfl
        · exact first x member
      simp only [decide_eq_true_eq]
      omega

/-- What the window holds after the samples `all`, looked at last at `lastMs`. -/
structure Windowed (all : List LossSample) (lastMs : Nat) (s : LinkCongestionState) : Prop where
  sent : s.windowSent = sumSent s.lossSamples
  lost : s.windowLost = sumLost s.lossSamples
  sorted : all.Pairwise fun x y => x.tsMs ≤ y.tsMs
  past : ∀ x ∈ all, x.tsMs ≤ lastMs
  held : ∃ old, all = old ++ s.lossSamples ∧ ∀ x ∈ old, x.tsMs < lastMs - lossWindowMs

theorem windowed_default : Windowed [] 0 default where
  sent := rfl
  lost := rfl
  sorted := List.Pairwise.nil
  past := by simp
  held := ⟨[], rfl, by simp⟩

/-- Only the window matters, and time may pass. -/
theorem Windowed.congr {all : List LossSample} {lastMs nowMs : Nat} {s s' : LinkCongestionState}
    (windowed : Windowed all lastMs s) (samples : s'.lossSamples = s.lossSamples)
    (sent : s'.windowSent = s.windowSent) (lost : s'.windowLost = s.windowLost)
    (le : lastMs ≤ nowMs) : Windowed all nowMs s' where
  sent := by rw [sent, samples, windowed.sent]
  lost := by rw [lost, samples, windowed.lost]
  sorted := windowed.sorted
  past x member := (windowed.past x member).trans le
  held := by
    obtain ⟨old, cut, expired⟩ := windowed.held
    refine ⟨old, by rw [samples, cut], fun x member => ?_⟩
    have := expired x member
    omega

/-- An eviction leaves exactly the samples of the last second. -/
theorem Windowed.evictExpired {all : List LossSample} {lastMs nowMs : Nat}
    {s : LinkCongestionState} (windowed : Windowed all lastMs s) (le : lastMs ≤ nowMs) :
    Windowed all nowMs (s.evictExpired nowMs) ∧
      (s.evictExpired nowMs).lossSamples = recentSamples nowMs all := by
  obtain ⟨sent, lost, sorted, past, old, cut, expired⟩ := windowed
  have sortedTail : s.lossSamples.Pairwise fun x y => x.tsMs ≤ y.tsMs := by
    rw [cut] at sorted
    exact (List.pairwise_append.mp sorted).2.1
  -- the loop, run on the sums it started with
  have loop := evictLoop_eq (nowMs - lossWindowMs) s.lossSamples
  rw [dropWhile_eq_recent sortedTail, ← sent, ← lost] at loop
  have recentOld : recentSamples nowMs old = [] := by
    rw [recentSamples, List.filter_eq_nil_iff]
    intro x member
    have := expired x member
    simp only [decide_eq_true_eq]
    omega
  have kept : recentSamples nowMs s.lossSamples = recentSamples nowMs all := by
    rw [cut, recentSamples, recentSamples, List.filter_append]
    exact (congrArg (· ++ recentSamples nowMs s.lossSamples) recentOld).symm
  have samples : (s.evictExpired nowMs).lossSamples = recentSamples nowMs all := by
    simp only [LinkCongestionState.evictExpired, loop, kept]
  -- what is dropped is the front, so the rest is still the end of the history
  have suffix : ∃ dropped, s.lossSamples = dropped ++ recentSamples nowMs all ∧
      ∀ x ∈ dropped, x.tsMs < nowMs - lossWindowMs := by
    rw [← kept, ← dropWhile_eq_recent sortedTail]
    refine ⟨_, (List.takeWhile_append_dropWhile ..).symm, fun x member => ?_⟩
    simpa using List.mem_takeWhile_imp member
  -- the sums, and the samples as the end of what was recorded
  refine ⟨⟨?_, ?_, sorted, fun x member => (past x member).trans le, ?_⟩, samples⟩
  · rw [samples]
    simp only [LinkCongestionState.evictExpired, loop, kept]
  · rw [samples]
    simp only [LinkCongestionState.evictExpired, loop, kept]
  · obtain ⟨dropped, cut', late⟩ := suffix
    refine ⟨old ++ dropped, ?_, fun x member => ?_⟩
    · rw [samples, List.append_assoc, ← cut', ← cut]
    · rcases List.mem_append.mp member with member | member
      · have := expired x member
        omega
      · exact late x member

/-! ### What the calls do to the window -/

/-- The two states hold the same window. -/
structure SameWindow (s s' : LinkCongestionState) : Prop where
  samples : s'.lossSamples = s.lossSamples
  sent : s'.windowSent = s.windowSent
  lost : s'.windowLost = s.windowLost

theorem SameWindow.trans {s s' s'' : LinkCongestionState} (first : SameWindow s s')
    (second : SameWindow s' s'') : SameWindow s s'' where
  samples := second.samples.trans first.samples
  sent := second.sent.trans first.sent
  lost := second.lost.trans first.lost

theorem sameWindow_updateRttMin (s : LinkCongestionState) (rttMs : ℚ) (nowMs : Nat) :
    SameWindow s (s.updateRttMin rttMs nowMs) := by
  simp only [updateRttMin]
  split_ifs <;> exact ⟨rfl, rfl, rfl⟩

theorem sameWindow_recordRtt (s : LinkCongestionState) (rttMs : ℚ) (nowMs : Nat) :
    SameWindow s (s.recordRtt rttMs nowMs) := by
  simp only [recordRtt]
  split_ifs
  · -- a sample that is not positive is ignored
    exact ⟨rfl, rfl, rfl⟩
  · -- the first sample sets the average
    obtain ⟨samples, sent, lost⟩ := sameWindow_updateRttMin
      { s with rttEwmaMs := rttMs, rttVarMs := 0, lastRttUpdateMs := nowMs } rttMs nowMs
    exact ⟨samples, sent, lost⟩
  · -- later samples are weighted by their age
    obtain ⟨samples, sent, lost⟩ := sameWindow_updateRttMin
      { s with
        rttEwmaMs := (rttMs * 1 + s.rttEwmaMs * oldWeight (nowMs - s.lastRttUpdateMs)) /
          (1 + oldWeight (nowMs - s.lastRttUpdateMs))
        rttVarMs := (|rttMs - s.rttEwmaMs| * 1 + s.rttVarMs * 3) / 4 } rttMs nowMs
    exact ⟨samples, sent, lost⟩

theorem sameWindow_updateLossEwma (exp : ℚ → ℚ) (s : LinkCongestionState) (lossPm nowMs : Nat) :
    SameWindow s (s.updateLossEwma exp lossPm nowMs) := by
  obtain ⟨average, last, since, degraded, eq⟩ := updateLossEwma_eq exp s lossPm nowMs
  rw [eq]
  exact ⟨rfl, rfl, rfl⟩

theorem sameWindow_seedTarget (s : LinkCongestionState) (sane : Nat) :
    SameWindow s (s.seedTarget sane) := by
  simp only [seedTarget]
  split <;> exact ⟨rfl, rfl, rfl⟩

theorem sameWindow_updateBackoffEfficacy (s : LinkCongestionState) (lossHigh : Bool)
    (lossPm : Nat) : SameWindow s (s.updateBackoffEfficacy lossHigh lossPm) := by
  simp only [updateBackoffEfficacy]
  split_ifs <;> exact ⟨rfl, rfl, rfl⟩

theorem sameWindow_moveTo (s : LinkCongestionState) (next : CcState) (sane : Nat) :
    SameWindow s (s.moveTo next sane) := by
  have armed : SameWindow s (s.armFastRecovery next) := by
    simp only [armFastRecovery]
    split <;> exact ⟨rfl, rfl, rfl⟩
  exact ⟨armed.samples, armed.sent, armed.lost⟩

theorem sameWindow_tickMeasured (exp : ℚ → ℚ) (s : LinkCongestionState)
    (observedBps nowMs : Nat) : SameWindow s (s.tickMeasured exp observedBps nowMs) := by
  rw [tickMeasured]
  refine SameWindow.trans ?_ (sameWindow_moveTo _ _ _)
  refine SameWindow.trans ?_ (sameWindow_updateBackoffEfficacy _ _ _)
  refine SameWindow.trans ?_ (sameWindow_seedTarget _ _)
  exact sameWindow_updateLossEwma exp s s.lossPermille nowMs

/-- Apart from the eviction a tick leaves the window alone. -/
theorem sameWindow_tick (exp : ℚ → ℚ) (s : LinkCongestionState) (observedBps nowMs : Nat) :
    SameWindow (s.evictExpired nowMs) (s.tick exp observedBps nowMs) := by
  simp only [tick]
  split
  · -- bootstrap: no RTT sample yet
    exact ⟨rfl, rfl, rfl⟩
  · exact sameWindow_tickMeasured exp _ observedBps nowMs

/-- A new sample below the range of the counters. -/
theorem Windowed.recordLoss {all : List LossSample} {lastMs nowMs sent lost : Nat}
    {s : LinkCongestionState} (windowed : Windowed all lastMs s) (le : lastMs ≤ nowMs)
    (sentFits : sumSent all + sent < 2 ^ 32) (lostFits : sumLost all + lost < 2 ^ 32) :
    Windowed (all ++ [⟨nowMs, lost, sent⟩]) nowMs (s.recordLoss sent lost nowMs) ∧
      (s.recordLoss sent lost nowMs).lossSamples =
        recentSamples nowMs (all ++ [⟨nowMs, lost, sent⟩]) := by
  obtain ⟨sentSum, lostSum, sorted, past, old, cut, expired⟩ := windowed
  have sentHeld : s.windowSent ≤ sumSent all := by
    rw [cut, sumSent_append, sentSum]
    exact Nat.le_add_left _ _
  have lostHeld : s.windowLost ≤ sumLost all := by
    rw [cut, sumLost_append, lostSum]
    exact Nat.le_add_left _ _
  have noSatSent : satU32 (s.windowSent + sent) = s.windowSent + sent := by
    rw [satU32]
    omega
  have noSatLost : satU32 (s.windowLost + lost) = s.windowLost + lost := by
    rw [satU32]
    omega
  -- the push before the eviction
  suffices pushed : Windowed (all ++ [⟨nowMs, lost, sent⟩]) nowMs
      { s with
        lossSamples := s.lossSamples ++ [⟨nowMs, lost, sent⟩]
        windowSent := satU32 (s.windowSent + sent)
        windowLost := satU32 (s.windowLost + lost) } from pushed.evictExpired le_rfl
  -- only the sums need the bound on the counters
  refine ⟨?_, ?_, ?_, ?_, old, ?_, ?_⟩
  · rw [sumSent_append, ← sentSum]
    exact noSatSent
  · rw [sumLost_append, ← lostSum]
    exact noSatLost
  · rw [List.pairwise_append]
    refine ⟨sorted, List.pairwise_singleton _ _, fun x member y last => ?_⟩
    rw [List.mem_singleton.mp last]
    exact (past x member).trans le
  · intro x member
    rcases List.mem_append.mp member with member | last
    · exact (past x member).trans le
    · rw [List.mem_singleton.mp last]
  · rw [cut, List.append_assoc]
  · intro x member
    have := expired x member
    omega

/-! ### Runs -/

/-- The clock of the last call that touched the window. -/
def lastClock (ops : List CcOp) : Nat := (ops.filterMap CcOp.clock).getLast?.getD 0

theorem lastClock_le {ops : List CcOp} {op : CcOp} {nowMs : Nat}
    (forward : ClockForward (ops ++ [op])) (clock : op.clock = some nowMs) :
    lastClock ops ≤ nowMs := by
  rw [ClockForward, List.filterMap_append, List.pairwise_append] at forward
  rw [lastClock]
  rcases last : (ops.filterMap CcOp.clock).getLast? with _ | lastMs
  · exact Nat.zero_le _
  · exact forward.2.2 lastMs (List.mem_of_getLast? last) nowMs (by simp [clock])

theorem lastClock_concat {op : CcOp} {nowMs : Nat} (ops : List CcOp)
    (clock : op.clock = some nowMs) : lastClock (ops ++ [op]) = nowMs := by
  simp [lastClock, List.filterMap_append, clock]

theorem recorded_concat (exp : ℚ → ℚ) (s : LinkCongestionState) (ops : List CcOp) (op : CcOp) :
    recorded exp s (ops ++ [op]) =
      recorded exp s ops ++ (run (apply exp) s ops).records op := by
  simp [recorded, history_concat]

/-- One call keeps the window, and a call that looks at it leaves the last second. -/
theorem Windowed.apply (exp : ℚ → ℚ) {all : List LossSample} {lastMs : Nat}
    {s : LinkCongestionState} (windowed : Windowed all lastMs s) (op : CcOp)
    (forward : ∀ nowMs, op.clock = some nowMs → lastMs ≤ nowMs)
    (sentFits : sumSent (all ++ s.records op) < 2 ^ 32)
    (lostFits : sumLost (all ++ s.records op) < 2 ^ 32) :
    Windowed (all ++ s.records op) (op.clock.getD lastMs) (s.apply exp op) ∧
      ∀ nowMs, s.windowTime op = some nowMs →
        (s.apply exp op).lossSamples = recentSamples nowMs (all ++ s.records op) := by
  cases op with
  | recordRtt rttMs nowMs =>
    obtain ⟨samples, sent, lost⟩ := sameWindow_recordRtt s rttMs nowMs
    refine ⟨?_, nofun⟩
    rw [records, List.append_nil]
    exact windowed.congr samples sent lost le_rfl
  | recordLoss sent lost nowMs =>
    have le := forward nowMs rfl
    simp only [records, sumSent_append, sumLost_append] at sentFits lostFits
    have sentFits' : sumSent all + sent < 2 ^ 32 := by simpa [sumSent] using sentFits
    have lostFits' : sumLost all + lost < 2 ^ 32 := by simpa [sumLost] using lostFits
    obtain ⟨kept, recent⟩ := windowed.recordLoss le sentFits' lostFits'
    refine ⟨kept, fun now time => ?_⟩
    obtain rfl := Option.some.inj time
    exact recent
  | tick observedBps nowMs =>
    have le := forward nowMs rfl
    obtain ⟨samples, sent, lost⟩ := sameWindow_tick exp s observedBps nowMs
    obtain ⟨kept, recent⟩ := windowed.evictExpired le
    rw [records, List.append_nil]
    refine ⟨kept.congr samples sent lost le_rfl, fun now time => ?_⟩
    obtain rfl := Option.some.inj time
    exact samples.trans recent
  | observeTraffic bytesSentTotal nakTotal nowMs =>
    have le := forward nowMs rfl
    by_cases baseline : s.trafficBaselineSet = true
    · rcases sample : s.trafficSample bytesSentTotal nakTotal with _ | ⟨sent, lost⟩
      · -- nothing moved: the window is not even looked at
        have none : s.records (.observeTraffic bytesSentTotal nakTotal nowMs) = [] := by
          simp [records, sample]
        refine ⟨?_, fun now time => ?_⟩
        · rw [none, List.append_nil, LinkCongestionState.apply, observeTraffic, sample]
          simp only [baseline, Bool.not_true, Bool.false_eq_true, if_false]
          exact windowed.congr rfl rfl rfl le
        · simp [windowTime, none] at time
      · -- the counters moved: the call is a recorded sample
        have one : s.records (.observeTraffic bytesSentTotal nakTotal nowMs) =
            [⟨nowMs, lost, sent⟩] := by
          simp [records, baseline, sample]
        have noted : Windowed all lastMs
            { s with prevBytesSentTotal := bytesSentTotal, prevNakTotal := nakTotal } :=
          windowed.congr rfl rfl rfl le_rfl
        have same : s.apply exp (.observeTraffic bytesSentTotal nakTotal nowMs) =
            LinkCongestionState.recordLoss
              { s with prevBytesSentTotal := bytesSentTotal, prevNakTotal := nakTotal }
              sent lost nowMs := by
          rw [LinkCongestionState.apply, observeTraffic, sample]
          simp only [baseline, Bool.not_true, Bool.false_eq_true, if_false]
        rw [one, sumSent_append] at sentFits
        rw [one, sumLost_append] at lostFits
        have sentFits' : sumSent all + sent < 2 ^ 32 := by simpa [sumSent] using sentFits
        have lostFits' : sumLost all + lost < 2 ^ 32 := by simpa [sumLost] using lostFits
        obtain ⟨kept, recent⟩ := noted.recordLoss le sentFits' lostFits'
        rw [same, one]
        refine ⟨kept, fun now time => ?_⟩
        obtain rfl : nowMs = now := by simpa [windowTime, one] using time
        exact recent
    · -- the first call sets the baseline
      have none : s.records (.observeTraffic bytesSentTotal nakTotal nowMs) = [] := by
        simp [records, baseline]
      refine ⟨?_, fun now time => ?_⟩
      · rw [none, List.append_nil, LinkCongestionState.apply, observeTraffic]
        simp only [baseline, Bool.not_false, if_true]
        exact windowed.congr rfl rfl rfl le
      · simp [windowTime, none] at time

theorem ClockForward.of_append {ops rest : List CcOp} (forward : ClockForward (ops ++ rest)) :
    ClockForward ops := by
  rw [ClockForward, List.filterMap_append, List.pairwise_append] at forward
  exact forward.1

/-- A run holds in its window what it has recorded. -/
theorem windowed_run (exp : ℚ → ℚ) {ops : List CcOp} (forward : ClockForward ops)
    (sentFits : sumSent (recorded exp default ops) < 2 ^ 32)
    (lostFits : sumLost (recorded exp default ops) < 2 ^ 32) :
    Windowed (recorded exp default ops) (lastClock ops) (run (apply exp) default ops) := by
  -- on the calls from the end; the totals bound every part of them
  induction ops using List.reverseRecOn with
  | nil => exact windowed_default
  | append_singleton ops op ih =>
    rw [recorded_concat] at sentFits lostFits ⊢
    have windowed := ih (ClockForward.of_append forward)
      ((Nat.le_add_right _ _).trans_lt (by rwa [sumSent_append] at sentFits))
      ((Nat.le_add_right _ _).trans_lt (by rwa [sumLost_append] at lostFits))
    have next := (windowed.apply exp op (fun now clock => lastClock_le forward clock)
      sentFits lostFits).1
    have last : op.clock.getD (lastClock ops) = lastClock (ops ++ [op]) := by
      rcases clock : op.clock with _ | nowMs
      · simp [lastClock, List.filterMap_append, clock]
      · rw [lastClock_concat ops clock]
        rfl
    rw [last] at next
    rw [run_append]
    exact next

theorem recorded_append (exp : ℚ → ℚ) (s : LinkCongestionState) (ops rest : List CcOp) :
    ∃ more, recorded exp s (ops ++ rest) = recorded exp s ops ++ more := by
  induction rest using List.reverseRecOn with
  | nil => exact ⟨[], by simp⟩
  | append_singleton rest op ih =>
    obtain ⟨more, same⟩ := ih
    rw [← List.append_assoc, recorded_concat, same, List.append_assoc]
    exact ⟨_, rfl⟩

/-- A NAK is never recorded against nothing sent. -/
theorem sent_pos_of_lost_pos {s : LinkCongestionState} {bytesSentTotal : Nat} {nakTotal : Int}
    {nowMs : Nat} {x : LossSample}
    (member : x ∈ s.records (.observeTraffic bytesSentTotal nakTotal nowMs))
    (lost : 1 ≤ x.lost) : 1 ≤ x.sent := by
  simp only [records, trafficSample] at member
  split_ifs at member with baseline nothing some
  · cases member
  · -- a loss makes the sender count at least one packet
    obtain rfl := List.mem_singleton.mp member
    exact le_max_right _ _
  · obtain rfl := List.mem_singleton.mp member
    exact absurd lost some
  · cases member

/-- After every call that records a sample or ticks, the counters are the sums over the
recorded samples of the last second and the permille is their ratio, and no sample of the
counters has a loss without a packet. -/
theorem loss_window_exact (exp : ℚ → ℚ) (ops : List CcOp) (forward : ClockForward ops)
    (sentFits : sumSent (recorded exp default ops) < 2 ^ 32)
    (lostFits : sumLost (recorded exp default ops) < 2 ^ 32) :
    (∀ before op after nowMs, ops = before ++ op :: after →
      (run (apply exp) default before).windowTime op = some nowMs →
      (run (apply exp) default (before ++ [op])).windowSent =
          sumSent (recentSamples nowMs (recorded exp default (before ++ [op]))) ∧
        (run (apply exp) default (before ++ [op])).windowLost =
          sumLost (recentSamples nowMs (recorded exp default (before ++ [op]))) ∧
        (run (apply exp) default (before ++ [op])).lossPermille =
          if sumSent (recentSamples nowMs (recorded exp default (before ++ [op]))) = 0 then 0
          else
            min (1000 * sumLost (recentSamples nowMs (recorded exp default (before ++ [op]))) /
              sumSent (recentSamples nowMs (recorded exp default (before ++ [op])))) 1000000) ∧
    (∀ before bytesSentTotal nakTotal nowMs after,
      ops = before ++ .observeTraffic bytesSentTotal nakTotal nowMs :: after →
      ∀ x ∈ (run (apply exp) default before).records
        (.observeTraffic bytesSentTotal nakTotal nowMs), 1 ≤ x.lost → 1 ≤ x.sent) := by
  refine ⟨?_, fun _ _ _ _ _ _ x member lost => sent_pos_of_lost_pos member lost⟩
  rintro before op after nowMs rfl time
  -- only what was recorded up to this call counts
  have split : before ++ op :: after = (before ++ [op]) ++ after := by simp
  rw [split] at forward sentFits lostFits
  obtain ⟨more, all⟩ := recorded_append exp default (before ++ [op]) after
  rw [all, sumSent_append] at sentFits
  rw [all, sumLost_append] at lostFits
  have sentTotal := (Nat.le_add_right _ _).trans_lt sentFits
  have lostTotal := (Nat.le_add_right _ _).trans_lt lostFits
  have forward' := ClockForward.of_append forward
  have windowed := windowed_run exp forward' sentTotal lostTotal
  have samples : (run (apply exp) default (before ++ [op])).lossSamples =
      recentSamples nowMs (recorded exp default (before ++ [op])) := by
    rw [recorded_concat] at sentTotal lostTotal
    have sentBefore := (Nat.le_add_right _ _).trans_lt (by rwa [sumSent_append] at sentTotal)
    have lostBefore := (Nat.le_add_right _ _).trans_lt (by rwa [sumLost_append] at lostTotal)
    have windowedBefore := windowed_run exp (ClockForward.of_append forward') sentBefore lostBefore
    rw [run_append, recorded_concat]
    exact (windowedBefore.apply exp op (fun now clock => lastClock_le forward' clock) sentTotal
      lostTotal).2 nowMs time
  -- sums over what is held, and what is held is the last second
  have sent := windowed.sent
  have lost := windowed.lost
  rw [samples] at sent lost
  refine ⟨sent, lost, ?_⟩
  -- the product cannot saturate: the window lost fewer than `2 ^ 32` packets
  have few : sumLost (recentSamples nowMs (recorded exp default (before ++ [op]))) < 2 ^ 32 := by
    obtain ⟨old, cut, -⟩ := windowed.held
    rw [samples] at cut
    rw [cut, sumLost_append] at lostTotal
    omega
  have noSat : satU64 (sumLost (recentSamples nowMs (recorded exp default (before ++ [op]))) * 1000) =
      1000 * sumLost (recentSamples nowMs (recorded exp default (before ++ [op]))) := by
    rw [satU64, Nat.mul_comm]
    omega
  rw [lossPermille, sent, lost, noSat]

/-- Ten packets with one NAK leave the window 1100 ms later, five packets stay. There is no
RTT sample, so the exponential is not called. -/
theorem loss_window_exact_evicts :
    (run (apply fun _ => 1) default
      [.observeTraffic 0 0 1000, .observeTraffic 13160 1 2000, .recordLoss 5 0 2500,
        .tick 0 3100]).windowSent = 5 ∧
    (run (apply fun _ => 1) default
      [.observeTraffic 0 0 1000, .observeTraffic 13160 1 2000, .recordLoss 5 0 2500,
        .tick 0 3100]).windowSent =
      sumSent (recentSamples 3100 (recorded (fun _ => 1) default
        [.observeTraffic 0 0 1000, .observeTraffic 13160 1 2000, .recordLoss 5 0 2500,
          .tick 0 3100])) := by
  refine ⟨by decide +kernel, ?_⟩
  exact ((loss_window_exact (fun _ => 1)
    [.observeTraffic 0 0 1000, .observeTraffic 13160 1 2000, .recordLoss 5 0 2500, .tick 0 3100]
    (by decide) (by decide +kernel) (by decide +kernel)).1
    [.observeTraffic 0 0 1000, .observeTraffic 13160 1 2000, .recordLoss 5 0 2500] (.tick 0 3100) []
    3100 rfl rfl).1

end LinkCongestionState

end SrtlaSend
