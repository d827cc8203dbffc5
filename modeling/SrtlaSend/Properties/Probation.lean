import SrtlaSend.Core.Classifier
import SrtlaSend.Lib.Pointwise
import SrtlaSend.Lib.Retest

/-!
# Delay verdicts and probation

The filter keeps its memory of all links in five maps. For one link that stays connected a
run of the filter is a run of its own memory, and the re-test in it is a `Retest` timer: a
verdict about delay is an alarm, one about the share a failure.
-/

namespace SrtlaSend

open MachineInt Runs Pointwise Retest

/-! ### One link in one tick -/

namespace Verdict

/-- What the verdict means to the re-test. -/
def signal (v : Verdict) : Signal :=
  if v.2.isDelay then .alarm else if v.shareWeak then .fail else .pass

end Verdict

namespace LinkMemory

variable (m : LinkMemory) (s : TrafficSignals) (c : SrtlaConnection)

def timer : Timer := ⟨m.probationTicks, m.weakStreak, m.probationBackoff⟩

theorem isDelay_of_delaySignal {s : TrafficSignals} {c : SrtlaConnection} {reason : WeakReason}
    (present : s.delaySignal c = some reason) : reason.isDelay = true := by
  simp only [TrafficSignals.delaySignal] at present
  split at present
  · obtain rfl := Option.some.inj present
    rfl
  · split at present
    · obtain rfl := Option.some.inj present
      rfl
    · cases present

theorem one_le_delayStreak_iff : 1 ≤ m.delayStreak s c ↔ (s.delaySignal c).isSome = true := by
  rw [delayStreak]
  split
  case isTrue present =>
    simp only [present, iff_true, satU32]
    omega
  case isFalse absent => simp [absent]

/-- A verdict about delay takes the signal of this tick and of the one before. -/
theorem delayWeak_iff :
    m.delayWeak s c = true ↔ (s.delaySignal c).isSome = true ∧ 1 ≤ m.delayWeakStreak := by
  rw [delayWeak, decide_eq_true_iff, delayStreak, weakSustainTicks]
  split
  case isTrue present =>
    simp only [present, true_and, satU32]
    omega
  case isFalse absent => simp [absent]

/-- The verdicts the signals can give. -/
theorem computed_cases :
    (m.delayWeak s c = true ∧ (m.computed s c).1 = true ∧ (m.computed s c).2.isDelay = true) ∨
    (m.delayWeak s c = false ∧
      (m.computed s c = (true, .noTraffic) ∨ m.computed s c = (true, .lowShare) ∨
        m.computed s c = (false, .healthy))) := by
  rw [computed]
  by_cases late : m.delayWeak s c = true
  · -- the delay streak goes first
    obtain ⟨reason, present⟩ := Option.isSome_iff_exists.mp ((m.delayWeak_iff s c).mp late).1
    refine Or.inl ⟨late, ?_⟩
    rw [if_pos late, present]
    exact ⟨rfl, isDelay_of_delaySignal present⟩
  · -- otherwise the share decides
    refine Or.inr ⟨by simpa using late, ?_⟩
    rw [if_neg late]
    split_ifs <;> simp

theorem delayWeak_eq_isDelay : m.delayWeak s c = (m.computed s c).2.isDelay := by
  rcases m.computed_cases s c with ⟨late, -, delay⟩ | ⟨late, eq | eq | eq⟩
  · rw [late, delay]
  all_goals
    rw [late, eq]
    rfl

/-- The report of a tick: a verdict about delay as it is, any other verdict as it is outside
a window and healthy inside. -/
theorem judge_report :
    (m.judge s c).2 =
      if 0 < m.probationTicks ∧ (m.computed s c).2.isDelay = false then (false, .healthy)
      else m.computed s c := by
  have late := m.delayWeak_eq_isDelay s c
  simp only [judge, retest, late]
  cases (m.computed s c).2.isDelay with
  -- a late link is reported as it is, in a window or not
  | true =>
    simp only [and_true, Bool.true_eq_false, and_false, if_false]
    split_ifs <;> rfl
  -- in a window every other verdict is overlooked
  | false =>
    simp only [Bool.false_eq_true, and_false, and_true, if_false]
    split_ifs <;> rfl

theorem judge_delayWeakStreak : (m.judge s c).1.delayWeakStreak = m.delayStreak s c := rfl

theorem retest_inside (inside : 0 < m.probationTicks) (late : Bool) (v : Verdict) :
    (m.retest late v).1.timer =
      ⟨if late then 0 else m.probationTicks - 1, 0, m.probationBackoff⟩ := by
  cases late with
  | true =>
    rw [retest, if_pos ⟨inside, rfl⟩]
    rfl
  | false =>
    rw [retest, if_neg (fun both => nomatch both.2), if_pos inside]
    rfl

/-- Within the bounds of the timer, nothing saturates. -/
theorem retest_fail (bounded : Bounded 15 3 16 m.timer) (outside : ¬ 0 < m.probationTicks)
    (late : Bool) {v : Verdict} (fail : v.shareWeak = true) :
    (m.retest late v).1.timer = next 15 3 16 m.timer .fail := by
  obtain ⟨-, streak, backoff⟩ := bounded
  simp only [timer] at streak backoff
  have step : satU32 (m.weakStreak + 1) = m.weakStreak + 1 := by
    rw [satU32]
    omega
  have wait : satU32 (probationIntervalTicks * max m.probationBackoff 1) =
      15 * max m.probationBackoff 1 := by
    rw [satU32, probationIntervalTicks]
    omega
  have doubled : probationBackoffNext m.probationBackoff = min (2 * max m.probationBackoff 1) 16 := by
    simp only [probationBackoffNext, satU32, probationBackoffMax]
    split <;> omega
  have outside' : ¬ 0 < m.timer.left := outside
  rw [retest, if_neg (fun both => outside both.1), if_neg outside, if_pos fail, step, wait, doubled,
    next, if_neg outside']
  by_cases due : 15 * max m.probationBackoff 1 ≤ m.weakStreak + 1
  · have due' : 15 * max m.timer.backoff 1 ≤ m.timer.streak + 1 := due
    simp only [ge_iff_le, if_pos due, if_pos due']
    rfl
  · have due' : ¬ 15 * max m.timer.backoff 1 ≤ m.timer.streak + 1 := due
    simp only [ge_iff_le, if_neg due, if_neg due']
    rfl

theorem retest_other (outside : ¬ 0 < m.probationTicks) (late : Bool) {v : Verdict}
    (other : v.shareWeak = false) :
    (m.retest late v).1.timer =
      ⟨m.probationTicks, 0, if v.1 then m.probationBackoff else 1⟩ := by
  have other' : ¬ v.shareWeak = true := by simp [other]
  rw [retest, if_neg (fun both => outside both.1), if_neg outside, if_neg other']
  rfl

theorem judge_timer (bounded : Bounded 15 3 16 m.timer) :
    (m.judge s c).1.timer = next 15 3 16 m.timer (m.computed s c).signal := by
  have kept : (m.judge s c).1.timer = (m.retest (m.delayWeak s c) (m.computed s c)).1.timer := rfl
  rw [kept]
  by_cases inside : 0 < m.probationTicks
  · -- in a window only a delay matters
    have inside' : 0 < m.timer.left := inside
    rw [m.retest_inside inside, next_inside inside', m.delayWeak_eq_isDelay s c, Verdict.signal]
    cases (m.computed s c).2.isDelay with
    | true => rfl
    | false =>
      cases (m.computed s c).shareWeak with
      | true => rfl
      | false => rfl
  · have inside' : ¬ 0 < m.timer.left := inside
    rcases m.computed_cases s c with ⟨-, weak, delay⟩ | ⟨-, eq | eq | eq⟩
    · -- outside, a delay leaves the wait as it is
      have share : (m.computed s c).shareWeak = false := by
        rcases computed : m.computed s c with ⟨flag, reason⟩
        rw [computed] at delay
        cases reason with
        | highRtt => simp [Verdict.shareWeak]
        | queueBuilding => simp [Verdict.shareWeak]
        | _ => cases delay
      rw [m.retest_other inside _ share, weak, Verdict.signal, if_pos delay, next, if_neg inside']
      rfl
    · -- no traffic, or too small a share
      rw [eq]
      exact m.retest_fail bounded inside _ rfl
    · rw [eq]
      exact m.retest_fail bounded inside _ rfl
    · -- a healthy tick sets the wait back
      rw [eq, m.retest_other inside _ rfl]
      simp only [next, if_neg inside']
      rfl

end LinkMemory

/-! ### One link in the filter -/

/-- A tick of the filter: the links as they are, and the latency the peer declared. -/
structure ClassifierTick where
  conns : List SrtlaConnection
  negotiatedLatencyMs : Nat

namespace ClassifierTick

variable (t : ClassifierTick) (connId : Nat)

def signals : TrafficSignals := gatherSignals t.conns t.negotiatedLatencyMs

def link? : Option SrtlaConnection := t.conns.find? fun c => decide (c.connId = connId)

/-- The delay signal of the link is present. -/
def late : Bool := (t.link? connId).any fun c => (t.signals.delaySignal c).isSome

/-- The tick judges the links, among them the connected one. -/
structure Judges : Prop where
  distinct : (t.conns.map (·.connId)).Nodup
  connected : ∃ c ∈ t.conns, c.connId = connId ∧ c.connected = true
  judged : t.signals.bypassed = false

end ClassifierTick

namespace WeakLinkFilter

variable (f : WeakLinkFilter) (t : ClassifierTick) (connId : Nat)

def tick : WeakLinkFilter := (f.classify t.conns t.negotiatedLatencyMs).1

/-- What the classification says of the link. -/
def reported : Option Verdict :=
  ((f.classify t.conns t.negotiatedLatencyMs).2.perLink.find? fun l => decide (l.connId = connId)).map
    fun l => (l.weak, l.reason)

/-- What the signals say of the link, before any re-test. -/
def computed : Verdict :=
  match t.link? connId with
  | some c => (f.memory connId).computed t.signals c
  | none => (false, .healthy)

/-- The link is inside a probation window. -/
def inWindow : Prop := 0 < (f.memory connId).probationTicks

instance : Decidable (f.inWindow connId) := inferInstanceAs (Decidable (0 < _))

/-- The tick arms a window. -/
def arms : Prop := ¬ f.inWindow connId ∧ (f.tick t).inWindow connId

instance : Decidable (f.arms t connId) := inferInstanceAs (Decidable (_ ∧ _))

theorem memory_remember (m : LinkMemory) (connId' : Nat) :
    (f.remember connId m).memory connId' = if connId' = connId then m else f.memory connId' := by
  by_cases same : connId' = connId
  · subst same
    simp [memory, remember]
  · simp [memory, remember, same, AList.lookup_insert_ne]

theorem memory_rememberLink_ne (s : TrafficSignals) (next : WeakLinkFilter) {c : SrtlaConnection}
    {connId : Nat} (other : c.connId ≠ connId) :
    (f.rememberLink s next c).memory connId = next.memory connId := by
  rw [rememberLink]
  split
  · rw [memory_remember, if_neg other.symm]
  · rfl

/-- The maps for the next tick hold what the link's own tick left. -/
theorem memory_foldl (s : TrafficSignals) (next : WeakLinkFilter) {conns : List SrtlaConnection}
    (distinct : (conns.map (·.connId)).Nodup) {c : SrtlaConnection} (member : c ∈ conns)
    (connected : c.connected = true) :
    (conns.foldl (f.rememberLink s) next).memory c.connId = ((f.memory c.connId).judge s c).1 := by
  -- links that come later do not touch the entry
  have untouched : ∀ (rest : List SrtlaConnection) (next : WeakLinkFilter),
      c.connId ∉ rest.map (·.connId) →
      (rest.foldl (f.rememberLink s) next).memory c.connId = next.memory c.connId := by
    intro rest
    induction rest with
    | nil => exact fun next _ => rfl
    | cons d rest ih =>
      intro next absent
      rw [List.map_cons, List.mem_cons, not_or] at absent
      rw [List.foldl_cons, ih _ absent.2, f.memory_rememberLink_ne s next (Ne.symm absent.1)]
  induction conns generalizing next with
  | nil => cases member
  | cons d rest ih =>
    rw [List.map_cons, List.nodup_cons] at distinct
    rw [List.foldl_cons]
    -- the link is written once, and no later link has its id
    rcases List.mem_cons.mp member with rfl | later
    · rw [untouched rest _ distinct.1, rememberLink, if_pos connected, memory_remember, if_pos rfl]
    · exact ih _ distinct.2 later

theorem classifyLink_connId (s : TrafficSignals) (c : SrtlaConnection) :
    (f.classifyLink s c).connId = c.connId := by
  rw [classifyLink]
  split <;> rfl

/-- A tick that judges the link is one tick of the link's own memory. -/
theorem tick_of_judges {t : ClassifierTick} {connId : Nat} (judges : t.Judges connId) :
    ∃ c, t.link? connId = some c ∧
      (f.tick t).memory connId = ((f.memory connId).judge t.signals c).1 ∧
      f.reported t connId = some ((f.memory connId).judge t.signals c).2 ∧
      f.computed t connId = (f.memory connId).computed t.signals c := by
  obtain ⟨distinct, ⟨c, member, rfl, connected⟩, judged⟩ := judges
  have found : t.link? c.connId = some c := find?_key distinct member
  have judged' : (gatherSignals t.conns t.negotiatedLatencyMs).bypassed = false := judged
  refine ⟨c, found, ?_, ?_, ?_⟩
  · -- the maps are built by one pass over the links
    rw [tick, classify, judged']
    exact f.memory_foldl t.signals {} distinct member connected
  · -- the classification has an entry for each link, in order
    rw [reported, classify, judged']
    have located : ((t.conns.map (f.classifyLink t.signals)).find? fun l =>
        decide (l.connId = c.connId)) = some (f.classifyLink t.signals c) := by
      rw [List.find?_map]
      simp only [Function.comp_def, classifyLink_connId]
      rw [show t.conns.find? (fun d => decide (d.connId = c.connId)) = some c from found]
      rfl
    change (((t.conns.map (f.classifyLink t.signals)).find? _).map _) = _
    rw [located, Option.map_some, classifyLink, if_pos connected]
  · rw [computed, found]

/-! ### Runs -/

/-- The factor of the wait for the next window: 1 at first and after a computed healthy tick
outside any window, doubled by each window up to 16. -/
def factor (connId : Nat) (h : List (WeakLinkFilter × ClassifierTick)) : Nat :=
  h.foldl
    (fun b x =>
      if x.1.arms x.2 connId then min (2 * b) 16
      else if ¬ x.1.inWindow connId ∧ (x.1.computed x.2 connId).1 = false then 1
      else b)
    1

/-- What holds at every tick of a run that judges the link. -/
structure Tracked (connId : Nat) (f : WeakLinkFilter) (t : ClassifierTick) : Prop where
  bounded : Bounded 15 3 16 (f.memory connId).timer
  judges : t.Judges connId

theorem Tracked.timer {f : WeakLinkFilter} {t : ClassifierTick} {connId : Nat}
    (tracked : Tracked connId f t) :
    ((f.tick t).memory connId).timer =
      next 15 3 16 (f.memory connId).timer (f.computed t connId).signal := by
  obtain ⟨c, -, memory, -, computed⟩ := f.tick_of_judges tracked.judges
  rw [memory, computed]
  exact (f.memory connId).judge_timer t.signals c tracked.bounded

theorem Tracked.bounded_tick {f : WeakLinkFilter} {t : ClassifierTick} {connId : Nat}
    (tracked : Tracked connId f t) : Bounded 15 3 16 ((f.tick t).memory connId).timer := by
  rw [tracked.timer]
  exact bounded_next (by decide) tracked.bounded _

/-- The report of a tick of a run. -/
theorem Tracked.report {f : WeakLinkFilter} {t : ClassifierTick} {connId : Nat}
    (tracked : Tracked connId f t) :
    f.reported t connId = some
      (if f.inWindow connId ∧ (f.computed t connId).2.isDelay = false then (false, .healthy)
      else f.computed t connId) := by
  obtain ⟨c, -, -, reported, computed⟩ := f.tick_of_judges tracked.judges
  rw [reported, computed, LinkMemory.judge_report]
  rfl

theorem Tracked.computed_weak {f : WeakLinkFilter} {t : ClassifierTick} {connId : Nat}
    (tracked : Tracked connId f t) :
    ((f.computed t connId).2.isDelay = true → (f.computed t connId).1 = true) ∧
      ((f.computed t connId).signal = .pass ↔ (f.computed t connId).1 = false) := by
  obtain ⟨c, -, -, -, computed⟩ := f.tick_of_judges tracked.judges
  rw [computed]
  rcases (f.memory connId).computed_cases t.signals c with ⟨-, weak, delay⟩ | ⟨-, eq | eq | eq⟩
  · refine ⟨fun _ => weak, ?_⟩
    rw [Verdict.signal, if_pos delay, weak]
    simp
  all_goals
    rw [eq]
    decide

/-- A link is reported late exactly when its computed verdict says so. -/
theorem Tracked.report_isDelay_iff {f : WeakLinkFilter} {t : ClassifierTick} {connId : Nat}
    (tracked : Tracked connId f t) {v : Verdict} (reported : f.reported t connId = some v) :
    (v.1 = true ∧ v.2.isDelay = true) ↔ (f.computed t connId).2.isDelay = true := by
  rw [tracked.report] at reported
  obtain rfl := Option.some.inj reported
  cases delay : (f.computed t connId).2.isDelay with
  | true =>
    rw [if_neg fun both => nomatch both.2]
    exact ⟨fun _ => rfl, fun _ => ⟨tracked.computed_weak.1 delay, delay⟩⟩
  | false =>
    refine ⟨fun both => ?_, nofun⟩
    split at both
    · exact both.2
    · exact delay.symm.trans both.2

/-- A verdict about delay ends the window. -/
theorem Tracked.closed_by_delay {f : WeakLinkFilter} {t : ClassifierTick} {connId : Nat}
    (tracked : Tracked connId f t) (inside : f.inWindow connId)
    (delay : (f.computed t connId).2.isDelay = true) : ¬ (f.tick t).inWindow connId := by
  have alarm : (f.computed t connId).signal = .alarm := by rw [Verdict.signal, if_pos delay]
  have inside' : 0 < (f.memory connId).timer.left := inside
  have left : ((f.tick t).memory connId).timer.left = 0 := by
    rw [tracked.timer, next_inside inside', alarm]
    rfl
  rw [inWindow, not_lt, Nat.le_zero]
  exact left

theorem tracked_run {f : WeakLinkFilter} {connId : Nat}
    (bounded : Bounded 15 3 16 (f.memory connId).timer) {ticks : List ClassifierTick}
    (judges : ∀ t ∈ ticks, t.Judges connId) : EachStep tick (Tracked connId) f ticks := by
  induction ticks generalizing f with
  | nil => trivial
  | cons t ticks ih =>
    have tracked : Tracked connId f t := ⟨bounded, judges t List.mem_cons_self⟩
    exact ⟨tracked, ih tracked.bounded_tick fun t' member => judges t' (List.mem_cons_of_mem t member)⟩

theorem bounded_run {f : WeakLinkFilter} {connId : Nat}
    (bounded : Bounded 15 3 16 (f.memory connId).timer) {ticks : List ClassifierTick}
    (judges : ∀ t ∈ ticks, t.Judges connId) :
    Bounded 15 3 16 ((run tick f ticks).memory connId).timer :=
  (tracked_run bounded judges).invariant (fun f => Bounded 15 3 16 (f.memory connId).timer)
    (fun _ _ _ tracked => tracked.bounded_tick) bounded

theorem bounded_new (connId : Nat) : Bounded 15 3 16 (new.memory connId).timer :=
  ⟨Nat.zero_le _, Nat.zero_le _, Nat.zero_le _⟩

/-- The re-test of the link, over a run, is a run of the timer. -/
theorem history_timer {f : WeakLinkFilter} {connId : Nat}
    (bounded : Bounded 15 3 16 (f.memory connId).timer) {ticks : List ClassifierTick}
    (judges : ∀ t ∈ ticks, t.Judges connId) :
    let signals := (history tick f ticks).map fun x => (x.1.computed x.2 connId).signal
    history (next 15 3 16) (f.memory connId).timer signals =
        ((history tick f ticks).map fun x =>
          ((x.1.memory connId).timer, (x.1.computed x.2 connId).signal)) ∧
      run (next 15 3 16) (f.memory connId).timer signals =
        ((run tick f ticks).memory connId).timer :=
  (tracked_run bounded judges).history_follows
    (fun f => (f.memory connId).timer) (fun f t => (f.computed t connId).signal)
    fun _ _ tracked => tracked.timer

theorem history_timer_new {connId : Nat} {ticks : List ClassifierTick}
    (judges : ∀ t ∈ ticks, t.Judges connId) :
    let signals := (history tick new ticks).map fun x => (x.1.computed x.2 connId).signal
    history (next 15 3 16) {} signals =
        ((history tick new ticks).map fun x =>
          ((x.1.memory connId).timer, (x.1.computed x.2 connId).signal)) ∧
      run (next 15 3 16) {} signals = ((run tick new ticks).memory connId).timer :=
  history_timer (bounded_new connId) judges

/-- The ticks that find a window open are no more than it had left. -/
theorem window_length_le_left {f : WeakLinkFilter} {connId : Nat}
    (bounded : Bounded 15 3 16 (f.memory connId).timer) {inside : List ClassifierTick}
    (judges : ∀ t ∈ inside, t.Judges connId)
    (stays : EachStep tick (fun f _ => f.inWindow connId) f inside) :
    inside.length ≤ (f.memory connId).timer.left := by
  obtain ⟨past, -⟩ := history_timer bounded judges
  have stays_timer : EachStep (next 15 3 16) (fun t _ => 0 < t.left) (f.memory connId).timer
      ((history tick f inside).map fun x => (x.1.computed x.2 connId).signal) := by
    refine eachStep_of_history ?_
    rw [past]
    intro y member
    obtain ⟨x, at_x, rfl⟩ := List.mem_map.mp member
    exact stays.of_mem_history at_x
  have shorter := window_length_le stays_timer
  rwa [List.length_map, length_history] at shorter

theorem opens_iff_arms {f : WeakLinkFilter} {t : ClassifierTick} {connId : Nat}
    (tracked : Tracked connId f t) :
    opens 15 3 16 (f.memory connId).timer (f.computed t connId).signal ↔ f.arms t connId := by
  rw [opens, ← tracked.timer, arms, inWindow, inWindow, not_lt, Nat.le_zero]
  rfl

/-- The factor of the filter is that of its timer. -/
theorem factor_eq {connId : Nat} {ticks : List ClassifierTick}
    (judges : ∀ t ∈ ticks, t.Judges connId) :
    Retest.factor 15 3 16 ((history tick new ticks).map fun x =>
        ((x.1.memory connId).timer, (x.1.computed x.2 connId).signal)) =
      factor connId (history tick new ticks) := by
  rw [Retest.factor, factor, List.foldl_map]
  refine List.foldl_ext _ _ _ fun b x member => ?_
  have tracked := (tracked_run (bounded_new connId) judges).of_mem_history member
  have pass := tracked.computed_weak.2
  have outside : (x.1.memory connId).timer.left = 0 ↔ ¬ x.1.inWindow connId := by
    rw [inWindow, not_lt, Nat.le_zero]
    rfl
  simp only [opens_iff_arms tracked, outside, pass]

/-- The streak of the delay signal remembers the tick before. -/
theorem one_le_delayWeakStreak_iff {connId : Nat} {ticks : List ClassifierTick}
    (judges : ∀ t ∈ ticks, t.Judges connId) :
    1 ≤ ((run tick new ticks).memory connId).delayWeakStreak ↔
      ∃ front last, ticks = front ++ [last] ∧ last.late connId = true := by
  rcases List.eq_nil_or_concat ticks with rfl | ⟨front, last, rfl⟩
  · -- the first tick has none before it
    constructor
    · intro positive
      cases positive
    · rintro ⟨front, last, cut, -⟩
      simp at cut
  · rw [List.concat_eq_append] at judges ⊢
    obtain ⟨c, found, memory, -, -⟩ := (run tick new front).tick_of_judges
      (judges last (List.mem_append_right front (List.mem_singleton_self last)))
    rw [run_append, run_cons, run_nil, memory, LinkMemory.judge_delayWeakStreak,
      LinkMemory.one_le_delayStreak_iff]
    have present : last.late connId = (last.signals.delaySignal c).isSome := by
      rw [ClassifierTick.late, found, Option.any_some]
    rw [← present]
    constructor
    · intro late
      exact ⟨front, last, rfl, late⟩
    · rintro ⟨front', last', cut, late⟩
      obtain ⟨-, same⟩ := List.append_inj' cut rfl
      rw [List.singleton_inj.mp same]
      exact late

/-- A link is called late exactly at the second tick in a row with a delay signal. -/
theorem delay_computed_iff {connId : Nat} {before : List ClassifierTick} {t : ClassifierTick}
    (judges : ∀ t' ∈ before ++ [t], t'.Judges connId) :
    ((run tick new before).computed t connId).2.isDelay = true ↔
      t.late connId = true ∧ ∃ front last, before = front ++ [last] ∧ last.late connId = true := by
  obtain ⟨c, found, -, -, computed⟩ := (run tick new before).tick_of_judges
    (judges t (List.mem_append_right before (List.mem_singleton_self t)))
  have present : t.late connId = (t.signals.delaySignal c).isSome := by
    rw [ClassifierTick.late, found, Option.any_some]
  rw [computed, ← LinkMemory.delayWeak_eq_isDelay, LinkMemory.delayWeak_iff, present,
    one_le_delayWeakStreak_iff fun t' member => judges t' (List.mem_append_left _ member)]

/-- A window is armed at the end of the full wait, reported as weak for the share all
along. -/
theorem armed_after_wait {connId : Nat} {before : List ClassifierTick} {t : ClassifierTick}
    (judges : ∀ t' ∈ before ++ [t], t'.Judges connId) (arms : (run tick new before).arms t connId) :
    ∃ front stretch, history tick new (before ++ [t]) = front ++ stretch ∧
      stretch.length = 15 * factor connId (history tick new before) ∧
      ∀ x ∈ stretch, ∃ v, x.1.reported x.2 connId = some v ∧ v.shareWeak = true := by
  have earlier : ∀ t' ∈ before, t'.Judges connId :=
    fun t' member => judges t' (List.mem_append_left _ member)
  have each := tracked_run (bounded_new connId) judges
  have tracked := ((eachStep_append _ _ _ _ _).mp each).2.1
  obtain ⟨past, reached⟩ := history_timer_new earlier
  obtain ⟨past', -⟩ := history_timer_new judges
  have opened := (opens_iff_arms tracked).mpr arms
  rw [← reached] at opened
  obtain ⟨front, stretch, cut, length, failed⟩ := opened_after_wait (by decide) (by decide) opened
  rw [past, factor_eq earlier] at length
  -- the history of the timer is that of the filter, read through the link
  have joined : ((history tick new before).map fun x => (x.1.computed x.2 connId).signal) ++
      [((run tick new before).computed t connId).signal] =
      (history tick new (before ++ [t])).map fun x => (x.1.computed x.2 connId).signal := by
    rw [history_concat, List.map_append]
    rfl
  rw [joined, past'] at cut
  obtain ⟨front', stretch', cut', -, rfl⟩ := List.map_eq_append_iff.mp cut
  refine ⟨front', stretch', cut', by rw [← length, List.length_map], fun x member => ?_⟩
  obtain ⟨outside, fail⟩ := failed _ (List.mem_map_of_mem member)
  have tracked_x := each.of_mem_history (cut' ▸ List.mem_append_right front' member)
  have outside' : ¬ x.1.inWindow connId := by
    rw [inWindow, not_lt, Nat.le_zero]
    exact outside
  refine ⟨x.1.computed x.2 connId, ?_, ?_⟩
  · rw [tracked_x.report, if_neg fun both => outside' both.1]
  · rw [Verdict.signal] at fail
    split_ifs at fail with delay share
    exact share

end WeakLinkFilter

open WeakLinkFilter in
/-- The laws of the filter for a link that is connected and judged at every tick of a run.
It is reported late exactly at a tick with a delay signal that follows another one, whatever
window it is in; a computed verdict about its share is overlooked only inside a window; a
window ends with such a delay, or after three ticks; and it is armed only after 15 times the
factor of ticks in a row reported weak for the share. -/
theorem probation_and_delay_law (connId : Nat) (ticks : List ClassifierTick)
    (judges : ∀ t ∈ ticks, t.Judges connId) :
    (∀ before t after, ticks = before ++ t :: after →
      let f := run tick new before
      ∃ v, f.reported t connId = some v ∧
        ((v.1 = true ∧ v.2.isDelay = true) ↔
          t.late connId = true ∧ ∃ front last, before = front ++ [last] ∧ last.late connId = true) ∧
        ((f.computed t connId).2.isDelay = true → v = f.computed t connId) ∧
        ((f.computed t connId).shareWeak = true → v.1 = false → f.inWindow connId) ∧
        (f.inWindow connId → (f.computed t connId).2.isDelay = true →
          ¬ (f.tick t).inWindow connId) ∧
        (f.arms t connId →
          ∃ front stretch, history tick new (before ++ [t]) = front ++ stretch ∧
            stretch.length = 15 * factor connId (history tick new before) ∧
            ∀ x ∈ stretch, ∃ v, x.1.reported x.2 connId = some v ∧ v.shareWeak = true)) ∧
    (∀ before inside after, ticks = before ++ (inside ++ after) →
      EachStep tick (fun f _ => f.inWindow connId) (run tick new before) inside →
      inside.length ≤ 3) := by
  have each := tracked_run (bounded_new connId) judges
  constructor
  · rintro before t after rfl f
    have upTo : ∀ t' ∈ before ++ [t], t'.Judges connId := by
      intro t' member
      refine judges t' ?_
      rw [List.append_cons]
      exact List.mem_append_left after member
    have tracked : Tracked connId f t := ((eachStep_append _ _ _ _ _).mp each).2.1
    have late := delay_computed_iff upTo
    refine ⟨_, tracked.report, ?_, ?_, ?_, ?_, armed_after_wait upTo⟩
    · -- late now and late before
      rw [← late]
      exact tracked.report_isDelay_iff tracked.report
    · -- a verdict about delay is never overlooked
      intro delay
      rw [if_neg fun both => Bool.false_ne_true (both.2.symm.trans delay)]
    · -- only a window overlooks a verdict about the share
      intro share healthy
      by_contra outside
      rw [if_neg fun both => outside both.1] at healthy
      rw [Verdict.shareWeak, healthy] at share
      cases share
    · exact tracked.closed_by_delay
  · -- a window lasts no longer than it is armed for
    rintro before inside after rfl stays
    have bounded : Bounded 15 3 16 ((run tick new before).memory connId).timer :=
      bounded_run (bounded_new connId) fun t member => judges t (List.mem_append_left _ member)
    exact (window_length_le_left bounded
      (fun t member => judges t (List.mem_append_right _ (List.mem_append_left _ member)))
      stays).trans bounded.left

/-- Two connected links, of which the second carries nothing. -/
def ClassifierTick.starved : ClassifierTick :=
  let link (connId : Nat) (bps : ℚ) : SrtlaConnection :=
    let c := SrtlaConnection.newRegistering connId "uplink" (.v4 connId) 0
    { c with connected := true, bitrate := { c.bitrate with currentBitrateBps := bps } }
  ⟨[link 1 200000, link 2 0], 0⟩

theorem ClassifierTick.judges_starved : ClassifierTick.starved.Judges 2 :=
  { distinct := by decide +kernel
    connected := by decide +kernel
    judged := by decide +kernel }

open WeakLinkFilter in
/-- The starved link is re-tested after 15 ticks, for 3. -/
theorem probation_and_delay_law_starved :
    (run tick new (List.replicate 14 .starved)).arms .starved 2 ∧
    (∃ front stretch,
      history tick new (List.replicate 14 ClassifierTick.starved ++ [.starved]) = front ++ stretch ∧
      stretch.length = 15 ∧
      ∀ x ∈ stretch, ∃ v, x.1.reported x.2 2 = some v ∧ v.shareWeak = true) ∧
    EachStep tick (fun f _ => f.inWindow 2) (run tick new (List.replicate 15 .starved))
      (List.replicate 3 .starved) ∧
    (List.replicate 3 ClassifierTick.starved).length ≤ 3 := by
  have judges : ∀ t ∈ List.replicate 18 ClassifierTick.starved, t.Judges 2 := by
    intro t member
    rw [List.eq_of_mem_replicate member]
    exact ClassifierTick.judges_starved
  obtain ⟨each, window⟩ := probation_and_delay_law 2 (List.replicate 18 .starved) judges
  have armed : (run tick new (List.replicate 14 .starved)).arms .starved 2 := by decide +kernel
  have inside : EachStep tick (fun f _ => f.inWindow 2) (run tick new (List.replicate 15 .starved))
      (List.replicate 3 .starved) := by decide +kernel
  obtain ⟨_, -, -, -, -, -, wait⟩ :=
    each (List.replicate 14 .starved) .starved (List.replicate 3 .starved) rfl
  obtain ⟨front, stretch, cut, length, weak⟩ := wait armed
  have first : factor 2 (history tick new (List.replicate 14 .starved)) = 1 := by decide +kernel
  rw [first] at length
  exact ⟨armed, ⟨front, stretch, cut, length, weak⟩, inside,
    window (List.replicate 15 .starved) (List.replicate 3 .starved) [] rfl inside⟩

end SrtlaSend
