import SrtlaSend.Lib.RingLog
import SrtlaSend.Lib.Run
import SrtlaSend.Sender.ClientDedup
import Mathlib.Data.List.ReduceOption

/-!
# Relay deduplication over runs

A run of calls that ask whether an ACK or a NAK goes to the local client. The two rings
behave like a timed history: a copy is held back exactly when its packet was forwarded
within the window and the ring has not turned over since.
-/

namespace SrtlaSend

open Runs RingLog

inductive ReplyKind where
  | ack
  | nak
deriving DecidableEq, Repr

namespace ReplyKind

def windowMs : ReplyKind → Nat
  | ack => ackDedupWindowMs
  | nak => nakDedupWindowMs

def ringSize : ReplyKind → Nat
  | ack => ackRingSize
  | nak => nakRingSize

theorem ringSize_pos (kind : ReplyKind) : 0 < kind.ringSize := by
  cases kind <;> decide

end ReplyKind

/-- One call of `should_forward_ack` or `should_forward_nak`. -/
structure RelayCall where
  kind : ReplyKind
  packet : Bytes
  nowMs : Nat
deriving DecidableEq, Repr

namespace Ring

/-- The slots and the writing position, without the window. -/
def log (ring : Ring) : Log Forwarded := ⟨ring.entries, ring.next⟩

theorem seenRecently_iff (ring : Ring) (hash nowMs : Nat) :
    ring.seenRecently hash nowMs = true ↔
      ∃ e, some e ∈ ring.log.slots ∧ e.hash = hash ∧ nowMs - e.atMs < ring.windowMs := by
  simp only [seenRecently, List.any_eq_true, List.reduceOption_mem_iff, Bool.and_eq_true,
    beq_iff_eq, decide_eq_true_eq, log]

theorem shouldForward_of_seen {hashOf : Bytes → Nat} {ring : Ring} {packet : Bytes} {nowMs : Nat}
    (seen : ring.seenRecently (hashOf packet) nowMs = true) :
    ring.shouldForward hashOf packet nowMs = (ring, false) := by
  simp only [shouldForward, if_pos seen]

theorem shouldForward_of_new {hashOf : Bytes → Nat} {ring : Ring} {packet : Bytes} {nowMs : Nat}
    (new : ¬ ring.seenRecently (hashOf packet) nowMs = true) :
    (ring.shouldForward hashOf packet nowMs).2 = true ∧
      (ring.shouldForward hashOf packet nowMs).1.log = push ring.log ⟨hashOf packet, nowMs⟩ ∧
      (ring.shouldForward hashOf packet nowMs).1.windowMs = ring.windowMs := by
  simp only [shouldForward, if_neg new]
  exact ⟨trivial, rfl, trivial⟩

end Ring

namespace ClientDedup

variable (hashOf : Bytes → Nat)

def ring (d : ClientDedup) : ReplyKind → Ring
  | .ack => d.acks
  | .nak => d.naks

/-- The two entry points as one. -/
def shouldForward (d : ClientDedup) (c : RelayCall) : ClientDedup × Bool :=
  match c.kind with
  | .ack => d.shouldForwardAck hashOf c.packet c.nowMs
  | .nak => d.shouldForwardNak hashOf c.packet c.nowMs

def step (d : ClientDedup) (c : RelayCall) : ClientDedup := (d.shouldForward hashOf c).1

/-- The answer to `c` after the calls `before`. -/
def answer (before : List RelayCall) (c : RelayCall) : Bool :=
  ((run (step hashOf) new before).shouldForward hashOf c).2

/-- The calls of one kind that were answered `true`, oldest first. -/
def forwarded (kind : ReplyKind) (calls : List RelayCall) : List RelayCall :=
  ((history (step hashOf) new calls).filter fun x =>
    decide (x.2.kind = kind) && (x.1.shouldForward hashOf x.2).2).map (·.2)

/-- What the ring remembers of a forwarded call. -/
def entry (c : RelayCall) : Forwarded := ⟨hashOf c.packet, c.nowMs⟩

variable {hashOf}

theorem answer_eq (d : ClientDedup) (c : RelayCall) :
    (d.shouldForward hashOf c).2 = ((d.ring c.kind).shouldForward hashOf c.packet c.nowMs).2 := by
  rcases c with ⟨kind, packet, nowMs⟩
  cases kind <;> rfl

/-- A call writes the ring of its kind and leaves the other one. -/
theorem ring_step (d : ClientDedup) (c : RelayCall) (kind : ReplyKind) :
    (step hashOf d c).ring kind =
      if c.kind = kind then ((d.ring kind).shouldForward hashOf c.packet c.nowMs).1
      else d.ring kind := by
  rcases c with ⟨call, packet, nowMs⟩
  cases call <;> cases kind <;> rfl

theorem forwarded_concat (kind : ReplyKind) (before : List RelayCall) (c : RelayCall) :
    forwarded hashOf kind (before ++ [c]) =
      forwarded hashOf kind before ++
        if c.kind = kind ∧ answer hashOf before c = true then [c] else [] := by
  have counted : (decide (c.kind = kind) &&
      ((run (step hashOf) new before).shouldForward hashOf c).2) = true ↔
        c.kind = kind ∧ answer hashOf before c = true := by
    rw [Bool.and_eq_true, decide_eq_true_eq, answer]
  simp only [forwarded, history_concat, List.filter_append, List.map_append, List.filter_cons,
    List.filter_nil]
  by_cases counts : c.kind = kind ∧ answer hashOf before c = true
  · rw [if_pos counts, if_pos (counted.mpr counts), List.map_singleton]
  · rw [if_neg counts, if_neg (counted.not.mpr counts), List.map_nil]

theorem mem_of_forwarded {kind : ReplyKind} {calls : List RelayCall} {c : RelayCall}
    (member : c ∈ forwarded hashOf kind calls) : c ∈ calls ∧ c.kind = kind := by
  induction calls using List.reverseRecOn with
  | nil => cases member
  | append_singleton calls last ih =>
    rw [forwarded_concat, List.mem_append] at member
    rcases member with old | new
    · exact ⟨List.mem_append_left _ (ih old).1, (ih old).2⟩
    · split_ifs at new with counts
      · obtain rfl := List.mem_singleton.mp new
        exact ⟨List.mem_append_right _ new, counts.1⟩
      · cases new

/-- The ring of a kind is the overwriting log of what was forwarded of that kind. -/
theorem ring_run (hashOf : Bytes → Nat) (kind : ReplyKind) (calls : List RelayCall) :
    ((run (step hashOf) new calls).ring kind).log =
        pushes kind.ringSize ((forwarded hashOf kind calls).map (entry hashOf)) ∧
      ((run (step hashOf) new calls).ring kind).windowMs = kind.windowMs := by
  induction calls using List.reverseRecOn with
  | nil => cases kind <;> exact ⟨rfl, rfl⟩
  | append_singleton calls c ih =>
    obtain ⟨log, window⟩ := ih
    rw [run_append, run_cons, run_nil, ring_step, forwarded_concat]
    by_cases same : c.kind = kind
    · subst same
      simp only [answer, answer_eq, true_and, if_true]
      by_cases seen : ((run (step hashOf) new calls).ring c.kind).seenRecently
          (hashOf c.packet) c.nowMs = true
      · -- a copy is held back and leaves the ring alone
        rw [Ring.shouldForward_of_seen seen]
        simpa using ⟨log, window⟩
      · -- a new packet takes the next slot
        obtain ⟨forwards, pushed, window'⟩ := Ring.shouldForward_of_new seen
        rw [if_pos forwards, pushed, window', List.map_append, List.map_singleton,
          pushes_concat, log]
        exact ⟨rfl, window⟩
    · -- the call of the other kind writes the other ring
      simpa [same] using ⟨log, window⟩

/-- Two packets of a run with one hash are one packet. -/
def Distinguishes (hashOf : Bytes → Nat) (calls : List RelayCall) : Prop :=
  ∀ a ∈ calls, ∀ b ∈ calls, hashOf a.packet = hashOf b.packet → a.packet = b.packet

instance (hashOf : Bytes → Nat) (calls : List RelayCall) :
    Decidable (Distinguishes hashOf calls) :=
  inferInstanceAs (Decidable (∀ a ∈ calls, ∀ b ∈ calls, hashOf a.packet = hashOf b.packet →
    a.packet = b.packet))

/-- A call is held back exactly when its packet was forwarded within the window and the
ring has not turned over since. -/
theorem answer_false_iff {before : List RelayCall} {c : RelayCall}
    (distinguishes : Distinguishes hashOf (before ++ [c])) :
    answer hashOf before c = false ↔
      ∃ earlier d later, forwarded hashOf c.kind before = earlier ++ d :: later ∧
        d.packet = c.packet ∧ c.nowMs - d.nowMs < c.kind.windowMs ∧
        later.length < c.kind.ringSize := by
  obtain ⟨log, window⟩ := ring_run hashOf c.kind before
  have held : answer hashOf before c = false ↔
      ((run (step hashOf) new before).ring c.kind).seenRecently (hashOf c.packet) c.nowMs =
        true := by
    rw [answer, answer_eq]
    constructor
    · intro no
      by_contra new
      rw [(Ring.shouldForward_of_new new).1] at no
      cases no
    · intro seen
      rw [Ring.shouldForward_of_seen seen]
  rw [held, Ring.seenRecently_iff, log, window]
  simp only [mem_slots_iff c.kind.ringSize_pos]
  constructor
  · -- a slot that is still there is one of the last forwards
    rintro ⟨e, ⟨earlier, later, cut, near⟩, same, recent⟩
    obtain ⟨earlier', rest, forwards, rfl, tail⟩ := List.map_eq_append_iff.mp cut
    obtain ⟨d, later', rfl, rfl, rfl⟩ := List.map_eq_cons_iff.mp tail
    refine ⟨earlier', d, later', forwards, ?_, recent, by simpa using near⟩
    have member : d ∈ forwarded hashOf c.kind before := by simp [forwards]
    exact distinguishes d (List.mem_append_left _ (mem_of_forwarded member).1) c (by simp) same
  · rintro ⟨earlier, d, later, forwards, same, recent, near⟩
    refine ⟨entry hashOf d, ⟨earlier.map (entry hashOf), later.map (entry hashOf), ?_, ?_⟩, ?_,
      recent⟩
    · rw [forwards, List.map_append, List.map_cons]
    · simpa using near
    · simp only [entry, same]

/-- Every forward of a run stands after the forwards before it. -/
theorem forwarded_cut {kind : ReplyKind} {calls earlier later : List RelayCall} {b : RelayCall}
    (cut : forwarded hashOf kind calls = earlier ++ b :: later) :
    ∃ before after, calls = before ++ b :: after ∧ b.kind = kind ∧
      forwarded hashOf kind before = earlier ∧ answer hashOf before b = true := by
  induction calls using List.reverseRecOn generalizing later with
  | nil => simp [forwarded, history] at cut
  | append_singleton calls c ih =>
    rw [forwarded_concat] at cut
    split_ifs at cut with counts
    · -- the last call is forwarded: it is the cut, or the cut lies before it
      rcases List.eq_nil_or_concat later with rfl | ⟨later, last, rfl⟩
      · obtain ⟨same, last⟩ := List.append_inj' cut rfl
        obtain rfl : c = b := by simpa using last
        exact ⟨calls, [], rfl, counts.1, same, counts.2⟩
      · rw [List.concat_eq_append, ← List.cons_append, ← List.append_assoc] at cut
        obtain ⟨before, after, rfl, rest⟩ := ih (List.append_inj' cut rfl).1
        exact ⟨before, after ++ [c], by simp, rest⟩
    · -- the last call is held back
      rw [List.append_nil] at cut
      obtain ⟨before, after, rfl, rest⟩ := ih cut
      exact ⟨before, after ++ [c], by simp, rest⟩

/-- The ring of a kind is what the calls of that kind alone make of it. -/
theorem ring_filter (kind : ReplyKind) (calls : List RelayCall) :
    (run (step hashOf) new calls).ring kind =
      (run (step hashOf) new (calls.filter fun c => decide (c.kind = kind))).ring kind := by
  induction calls using List.reverseRecOn with
  | nil => rfl
  | append_singleton calls c ih =>
    rw [run_append, run_cons, run_nil, ring_step, List.filter_append]
    by_cases same : c.kind = kind
    · -- calls of the kind are kept by the filter, and the others do not touch its ring
      rw [if_pos same, ih, List.filter_cons_of_pos (by simpa using same), List.filter_nil,
        run_append, run_cons, run_nil, ring_step, if_pos same]
    · rw [if_neg same, ih, List.filter_cons_of_neg (by simpa using same), List.filter_nil,
        List.append_nil]

/-- In every run whose packets the hash tells apart: a call is answered `false` exactly
when its packet was forwarded less than a window ago and fewer than a ring of packets of
its kind have been forwarded since; two forwards of one packet are a window apart or a
ring apart; and the calls of the other kind have no say. -/
theorem relay_is_timed_history (hashOf : Bytes → Nat) (calls : List RelayCall)
    (distinguishes : Distinguishes hashOf calls) :
    (∀ before c after, calls = before ++ c :: after →
      (answer hashOf before c = false ↔
        ∃ earlier d later, forwarded hashOf c.kind before = earlier ++ d :: later ∧
          d.packet = c.packet ∧ c.nowMs - d.nowMs < c.kind.windowMs ∧
          later.length < c.kind.ringSize)) ∧
    (∀ kind earlier a between b later,
      forwarded hashOf kind calls = earlier ++ a :: (between ++ b :: later) →
      a.packet = b.packet →
      kind.windowMs ≤ b.nowMs - a.nowMs ∨ kind.ringSize ≤ between.length) ∧
    (∀ before c after, calls = before ++ c :: after →
      answer hashOf before c =
        answer hashOf (before.filter fun d => decide (d.kind = c.kind)) c) := by
  have apart : ∀ {before c after}, calls = before ++ c :: after →
      Distinguishes hashOf (before ++ [c]) := by
    rintro before c after rfl a memberA b memberB
    refine distinguishes a ?_ b ?_
    · rcases List.mem_append.mp memberA with old | new <;> simp_all
    · rcases List.mem_append.mp memberB with old | new <;> simp_all
  refine ⟨fun before c after cut => answer_false_iff (apart cut), ?_, ?_⟩
  · intro kind earlier a between b later cut same
    rw [← List.cons_append, ← List.append_assoc] at cut
    obtain ⟨before, after, cut', rfl, forwards, yes⟩ := forwarded_cut cut
    -- otherwise the second one would have been held back
    by_contra near
    obtain ⟨soon, few⟩ := not_or.mp near
    have no := (answer_false_iff (apart cut')).mpr
      ⟨earlier, a, between, forwards, same, Nat.lt_of_not_le soon, Nat.lt_of_not_le few⟩
    rw [no] at yes
    cases yes
  · intro before c after cut
    rw [answer, answer, answer_eq, answer_eq, ring_filter]

/-- Calls told apart by the lengths of their packets: the NAK copy after 30 ms is held back, the repeat
after 100 ms goes through, and an ACK of the same bytes is not a copy. -/
theorem relay_is_timed_history_repeat :
    answer List.length [⟨.nak, [1], 1000⟩, ⟨.ack, [1], 1010⟩] ⟨.nak, [1], 1030⟩ = false ∧
    (answer List.length [⟨.nak, [1], 1000⟩, ⟨.ack, [1], 1010⟩] ⟨.nak, [1], 1030⟩ = false ↔
      ∃ earlier d later,
        forwarded List.length .nak [⟨.nak, [1], 1000⟩, ⟨.ack, [1], 1010⟩] =
          earlier ++ d :: later ∧
        d.packet = [1] ∧ 1030 - d.nowMs < 50 ∧ later.length < 64) ∧
    answer List.length [⟨.nak, [1], 1000⟩, ⟨.ack, [1], 1010⟩, ⟨.nak, [1], 1030⟩]
      ⟨.nak, [1], 1100⟩ = true := by
  refine ⟨by decide +kernel, ?_, by decide +kernel⟩
  exact (relay_is_timed_history List.length
    [⟨.nak, [1], 1000⟩, ⟨.ack, [1], 1010⟩, ⟨.nak, [1], 1030⟩] (by decide)).1
    [⟨.nak, [1], 1000⟩, ⟨.ack, [1], 1010⟩] ⟨.nak, [1], 1030⟩ [] rfl

end ClientDedup

end SrtlaSend
