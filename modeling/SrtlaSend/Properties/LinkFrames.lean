import SrtlaSend.Core.AckNak

/-!
# What is written to a link between passes

Acknowledgements, loss reports and the registration of a batch write to the logs of a link, its
window and its round trips. An echo and a transition write to its phase and its round trips. As
for a selection pass each fact is an equation, from which every unchanged field can be read off.
-/

namespace SrtlaSend

namespace SrtlaConnection

/-! ### Feedback -/

/-- `c` with the fields that feedback writes, from `g`. -/
def withFeedback (c g : SrtlaConnection) : SrtlaConnection :=
  { c with
    packetLog := g.packetLog
    probeLog := g.probeLog
    inFlightPackets := g.inFlightPackets
    highestAckedSeq := g.highestAckedSeq
    window := g.window
    congestion := g.congestion
    rtt := g.rtt
    lastAckOrRttSampleMs := g.lastAckOrRttSampleMs }

/-- The two links agree outside what feedback writes. -/
def SameUpToFeedback (c c' : SrtlaConnection) : Prop := c' = c.withFeedback c'

/-- Whatever is written to these fields, the others stay. -/
theorem SameUpToFeedback.of_writes {c : SrtlaConnection} {packetLog probeLog : FiniteMap Int Nat}
    {inFlightPackets highestAckedSeq window : Int} {congestion : CongestionControl} {rtt : RttTracker}
    {lastAckOrRttSampleMs : Nat} :
    SameUpToFeedback c
      { c with
        packetLog, probeLog, inFlightPackets, highestAckedSeq, window, congestion, rtt
        lastAckOrRttSampleMs } := rfl

namespace SameUpToFeedback

variable {c c' c'' : SrtlaConnection}

theorem trans (h : SameUpToFeedback c c') (h' : SameUpToFeedback c' c'') :
    SameUpToFeedback c c'' := by
  unfold SameUpToFeedback at h
  rw [SameUpToFeedback, h', h]
  rfl

theorem connId (h : SameUpToFeedback c c') : c'.connId = c.connId := by
  rw [h]
  rfl

theorem batchSender (h : SameUpToFeedback c c') : c'.batchSender = c.batchSender := by
  rw [h]
  rfl

end SameUpToFeedback

theorem handleSrtAck_frame (c : SrtlaConnection) (ack : Int) (nowMs : Nat) (owns : Bool) :
    SameUpToFeedback c (c.handleSrtAck ack nowMs owns) := by
  unfold handleSrtAck
  simp only
  split
  · rfl
  · split
    · split
      · exact .of_writes
      · exact .of_writes
    · exact .of_writes

theorem handleNak_frame (c : SrtlaConnection) (seq : Int) (nowMs : Nat) :
    SameUpToFeedback c (c.handleNak seq nowMs).1 := by
  unfold handleNak
  split
  · exact .of_writes
  · rfl

theorem handleSrtlaAckSpecific_frame (c : SrtlaConnection) (seq : Int) (classic : Bool)
    (nowMs : Nat) : SameUpToFeedback c (c.handleSrtlaAckSpecific seq classic nowMs).1 := by
  unfold handleSrtlaAckSpecific
  split
  · exact .of_writes
  · split
    · exact .of_writes
    · rfl

theorem handleSrtlaAckGlobal_frame (c : SrtlaConnection) :
    SameUpToFeedback c c.handleSrtlaAckGlobal := by
  unfold handleSrtlaAckGlobal
  split
  · exact .of_writes
  · rfl

/-- A batch is written to the log of the link. -/
theorem registerBatch_frame (c : SrtlaConnection) (batch : List DrainedPacket) :
    SameUpToFeedback c (c.registerBatch batch) := by
  simp only [registerBatch]
  induction batch generalizing c with
  | nil => rfl
  | cons packet batch ih =>
    rw [List.foldl_cons]
    cases packet.2.1 with
    | none => exact ih c
    | some s =>
      have one : SameUpToFeedback c (c.registerPacket (MachineInt.asI32 s) packet.2.2) := by
        unfold registerPacket
        exact .of_writes
      exact one.trans (ih _)

/-- The flush of a batch drains the queue and writes to the log. -/
theorem takeBatch_frame (c : SrtlaConnection) (now : Nat) :
    SameUpToFeedback { c with batchSender := (c.batchSender.drain now).1 } (c.takeBatch now).1 :=
  registerBatch_frame _ _

/-! ### Phases -/

/-- `c` with the fields that an echo or a transition writes, from `g`. -/
def withPhase (c g : SrtlaConnection) : SrtlaConnection :=
  { c with phase := g.phase, rtt := g.rtt, lastAckOrRttSampleMs := g.lastAckOrRttSampleMs }

/-- The two links agree outside what an echo writes, and both register or neither does. -/
structure SameUpToPhase (c c' : SrtlaConnection) : Prop where
  frame : c' = c.withPhase c'
  registering : c'.phase = .registering ↔ c.phase = .registering

namespace SameUpToPhase

variable {c c' c'' : SrtlaConnection}

theorem refl (c : SrtlaConnection) : SameUpToPhase c c := ⟨rfl, Iff.rfl⟩

theorem trans (h : SameUpToPhase c c') (h' : SameUpToPhase c' c'') : SameUpToPhase c c'' := by
  refine ⟨?_, h'.registering.trans h.registering⟩
  have first := h.frame
  rw [h'.frame, first]
  rfl

end SameUpToPhase

theorem recordRttProbe_frame (c : SrtlaConnection) : SameUpToPhase c c.recordRttProbe := by
  simp only [recordRttProbe]
  cases phase : c.phase with
  | warming rttProbes enteredMs =>
    simp only
    split
    · exact ⟨rfl, by simp [phase]⟩
    · exact ⟨rfl, by simp [phase]⟩
  | registering => exact SameUpToPhase.refl c
  | live => exact SameUpToPhase.refl c
  | degraded => exact SameUpToPhase.refl c

theorem handleKeepaliveEcho_frame (c : SrtlaConnection) (data : Bytes) (nowMs : Nat) :
    SameUpToPhase c (c.handleKeepaliveEcho data nowMs) := by
  simp only [handleKeepaliveEcho]
  set sampled : SrtlaConnection := { c with rtt := (c.rtt.handleKeepaliveResponse data nowMs).1 }
  have first : SameUpToPhase c sampled := ⟨rfl, Iff.rfl⟩
  have counted : SameUpToPhase c
      (if (c.rtt.handleKeepaliveResponse data nowMs).2.isSome then sampled.recordRttProbe
        else sampled) := by
    split
    · exact first.trans (recordRttProbe_frame sampled)
    · exact first
  split
  · exact counted.trans ⟨rfl, Iff.rfl⟩
  · exact counted

/-- Warming, live and degraded links change places; none of them registers. -/
theorem updatePhase_frame (c : SrtlaConnection) (nowMs : Nat) :
    SameUpToPhase c (c.updatePhase nowMs) := by
  simp only [updatePhase]
  cases phase : c.phase with
  | registering => exact SameUpToPhase.refl c
  | warming rttProbes enteredMs =>
    simp only
    split
    · exact ⟨rfl, by simp [phase]⟩
    · exact SameUpToPhase.refl c
  | live =>
    simp only
    split
    · exact ⟨rfl, by simp [phase]⟩
    · exact SameUpToPhase.refl c
  | degraded =>
    simp only
    split
    · exact ⟨rfl, by simp [phase]⟩
    · exact SameUpToPhase.refl c

end SrtlaConnection

end SrtlaSend
