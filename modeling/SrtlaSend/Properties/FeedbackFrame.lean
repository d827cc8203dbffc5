import SrtlaSend.Lib.Pointwise
import SrtlaSend.Properties.LinkFrames
import SrtlaSend.Sender.PacketHandler

/-!
# The frame of the feedback

The ACKs and NAKs of one datagram write to many links, each of them in one of four ways. A
relation between links that is reflexive and transitive and holds across these writes holds
across all of them, for every link of the bond.
-/

namespace SrtlaSend

open Pointwise SrtlaConnection

/-- `R` holds across every write that the feedback of a datagram makes to a link. -/
structure FeedbackRelation (R : SrtlaConnection → SrtlaConnection → Prop) : Prop where
  refl : ∀ c, R c c
  trans : ∀ a b c, R a b → R b c → R a c
  srtAck : ∀ (c : SrtlaConnection) (ack : Int) (now : Nat) (owns : Bool),
    R c (c.handleSrtAck ack now owns)
  srtlaAck : ∀ (c : SrtlaConnection) (seq : Int) (classic : Bool) (now : Nat),
    R c (c.handleSrtlaAckSpecific seq classic now).1
  srtlaAckGlobal : ∀ c : SrtlaConnection, R c c.handleSrtlaAckGlobal
  nak : ∀ (c : SrtlaConnection) (seq : Int) (now : Nat), R c (c.handleNak seq now).1

namespace FeedbackRelation

variable {R : SrtlaConnection → SrtlaConnection → Prop}

/-- It is enough that `R` leaves the fields free that feedback writes. -/
theorem of_frame (refl : ∀ c, R c c) (trans : ∀ a b c, R a b → R b c → R a c)
    (free : ∀ c c', SameUpToFeedback c c' → R c c') : FeedbackRelation R where
  refl := refl
  trans := trans
  srtAck c ack now owns := free c _ (handleSrtAck_frame c ack now owns)
  srtlaAck c seq classic now := free c _ (handleSrtlaAckSpecific_frame c seq classic now)
  srtlaAckGlobal c := free c _ (handleSrtlaAckGlobal_frame c)
  nak c seq now := free c _ (handleNak_frame c seq now)

variable (frame : FeedbackRelation R)

include frame

theorem same (conns : List SrtlaConnection) : List.Forall₂ R conns conns :=
  List.forall₂_same.mpr fun c _ => frame.refl c

theorem applySrtAck (tracker : SequenceTracker) (nowMs : Nat) (conns : List SrtlaConnection)
    (ack : Nat) : List.Forall₂ R conns (applySrtAck tracker nowMs conns ack) :=
  forall₂_map (fun c => frame.srtAck c _ nowMs _) conns

theorem fallbackSrtlaAck (idx : Nat) (seq : Int) (classic : Bool) (nowMs i : Nat)
    (conns : List SrtlaConnection) :
    List.Forall₂ R conns (fallbackSrtlaAck idx seq classic nowMs i conns) := by
  induction conns generalizing i with
  | nil => exact List.Forall₂.nil
  | cons c rest ih =>
    have head := frame.srtlaAck c seq classic nowMs
    simp only [SrtlaSend.fallbackSrtlaAck]
    split
    · exact List.Forall₂.cons (frame.refl c) (ih (i + 1))
    · split
      · exact List.Forall₂.cons head (frame.same rest)
      · exact List.Forall₂.cons head (ih (i + 1))

theorem applySrtlaAck (idx : Nat) (classic : Bool) (nowMs : Nat) (conns : List SrtlaConnection)
    (srtlaAck : Nat) : List.Forall₂ R conns (applySrtlaAck idx classic nowMs conns srtlaAck) := by
  refine forall₂_trans frame.trans ?_ (forall₂_map frame.srtlaAckGlobal _)
  simp only [creditSrtlaAck]
  cases at_idx : conns[idx]? with
  | none => exact frame.same conns
  | some arrival =>
    have own := forall₂_set frame.refl at_idx
      (frame.srtlaAck arrival (MachineInt.asI32 srtlaAck) classic nowMs)
    simp only
    split
    · exact own
    · exact forall₂_trans frame.trans own (frame.fallbackSrtlaAck idx _ classic nowMs 0 _)

theorem scanNak (seq : Int) (nowMs i : Nat) (conns : List SrtlaConnection) :
    List.Forall₂ R conns (scanNak seq nowMs i conns).1 := by
  induction conns generalizing i with
  | nil => exact List.Forall₂.nil
  | cons c rest ih =>
    have head := frame.nak c seq nowMs
    simp only [SrtlaSend.scanNak]
    rcases outcome : c.handleNak seq nowMs with ⟨c', counted⟩
    rw [outcome] at head
    cases counted with
    | true => exact List.Forall₂.cons head (frame.same rest)
    | false => exact List.Forall₂.cons head (ih (i + 1))

theorem attributeNak (tracker : SequenceTracker) (nowMs : Nat) (conns : List SrtlaConnection)
    (nak : Nat) : List.Forall₂ R conns (attributeNak tracker nowMs conns nak).1 := by
  simp only [SrtlaSend.attributeNak]
  cases nakOwner conns tracker nak nowMs with
  | none => exact frame.scanNak _ nowMs 0 conns
  | some pos =>
    simp only
    cases at_pos : conns[pos]? with
    | none => exact frame.same conns
    | some c => exact forall₂_set frame.refl at_pos (frame.nak c _ nowMs)

theorem processConnectionEvents (idx : Nat) (conns : List SrtlaConnection)
    (lastClientAddr : Option SocketAddr) (tracker : SequenceTracker) (classic : Bool)
    (incoming : SrtlaIncoming) (nowMs : Nat) :
    List.Forall₂ R conns
      (processConnectionEvents idx conns lastClientAddr tracker classic incoming nowMs).1 := by
  simp only [SrtlaSend.processConnectionEvents]
  split
  · exact frame.same conns
  · have acks := forall₂_foldl frame.refl frame.trans
      (frame.applySrtAck tracker nowMs) incoming.ackNumbers conns
    have credits := forall₂_foldl frame.refl frame.trans
      (frame.applySrtlaAck idx classic nowMs) incoming.srtlaAckNumbers
      (incoming.ackNumbers.foldl (SrtlaSend.applySrtAck tracker nowMs) conns)
    have naks := forall₂_foldl frame.refl frame.trans
      (frame.attributeNak tracker nowMs) incoming.nakNumbers
      (incoming.srtlaAckNumbers.foldl (SrtlaSend.applySrtlaAck idx classic nowMs)
        (incoming.ackNumbers.foldl (SrtlaSend.applySrtAck tracker nowMs) conns))
    exact forall₂_trans frame.trans (forall₂_trans frame.trans acks credits) naks

end FeedbackRelation

end SrtlaSend
